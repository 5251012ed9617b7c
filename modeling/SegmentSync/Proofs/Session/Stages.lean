import SegmentSync.Proofs.Program.Ensures
import SegmentSync.Session.Run

/-!
# `SegmentSync.Proofs.Session.Stages` — the stages of a run

A round looks at the stop signal, attempts something, recovers if a connection has failed, and reports. Each of these
leads from one stage to another, and what holds at each stage is up to whoever reasons about the run. Here is which
stage follows which, as one rule for each piece of a run.

## Contents
- **Failures.** `Session.Failing`: a failure is for good, or one of a connection.
- **Stages.** `Session.Stages` says what holds between two rounds, in a round that has begun, and where a run ends; and
  what has to be shown of the signal and of `recover`.
- **Rounds.** One rule for each kind of round.
- **Runs.** Rules for the rounds together, for either strategy, and for a run from its start.
-/

namespace SegmentSync.Session

open SegmentSync.Action (Round)

variable {ι α ω : Type} {env : Environment ι ω} {safe : ω → Prop} {s : Session ι} {w : ω}

/-- Both sides are logged in. -/
def LoggedIn (s : Session ι) : Prop := s.master.authenticated = true ∧ s.slave.authenticated = true

/-- The client is one of the two of a session. -/
def IsEnd (s : Session ι) (client : Client ι) : Prop := client = s.master ∨ client = s.slave

theorem LoggedIn.of_isEnd {client : Client ι} (h : s.LoggedIn) (hend : s.IsEnd client) :
    client.authenticated = true := by
  rcases hend with rfl | rfl
  · exact h.1
  · exact h.2

/-! ## Failures -/

/-- How a step fails: for good, or because its connection has failed. -/
def Failing {σ : Type} (failed : ProtocolError → σ → ω → Prop) (ended : SyncError → σ → ω → Prop)
    (failure : SyncError) (s : σ) (w : ω) : Prop :=
  match failure.transient? with
  | some last => failed last s w
  | none => ended failure s w

theorem Failing.imp {σ σ' : Type} {failed : ProtocolError → σ → ω → Prop} {ended : SyncError → σ → ω → Prop}
    {failed' : ProtocolError → σ' → ω → Prop} {ended' : SyncError → σ' → ω → Prop} {failure : SyncError} {s : σ}
    {s' : σ'} {w w' : ω} (h : Failing failed ended failure s w)
    (hfailed : ∀ last, failure.transient? = some last → failed last s w → failed' last s' w')
    (hended : failure.transient? = none → ended failure s w → ended' failure s' w') :
    Failing failed' ended' failure s' w' := by
  unfold Failing at h ⊢
  cases htransient : failure.transient? with
  | none =>
    rw [htransient] at h
    exact hended htransient h
  | some last =>
    rw [htransient] at h
    exact hfailed last htransient h

/-! ## Stages -/

/-- What an action ensures at a stage of a run. -/
abbrev Follows (env : Environment ι ω) (safe : ω → Prop) (inv : Session ι → ω → Prop)
    (ended : SyncError → Session ι → ω → Prop) (x : Action (Session ι) ι α) (post : α → Session ι → ω → Prop) : Prop :=
  ∀ s w, inv s w → Action.Ensures env safe x post ended s w

/-- What a report on progress ensures, and that past failures are forgotten before. -/
abbrev Progresses (env : Environment ι ω) (safe : ω → Prop) (inv : Session ι → ω → Prop)
    (ended : SyncError → Session ι → ω → Prop) (phase : Phase) (post : Session ι → ω → Prop) : Prop :=
  Follows env safe inv ended succeeded fun _ => Action.Ensures env safe (emit phase) (fun _ => post) ended

/-- What holds when the stop signal has been looked at. -/
def Seen (halted onward : Session ι → ω → Prop) : (isStopped : Bool) → Session ι → ω → Prop
  | true => halted
  | false => onward

/-- What a line of the log does not change. -/
def OutlastsLog (env : Environment ι ω) (safe : ω → Prop) (inv : Session ι → ω → Prop) : Prop :=
  ∀ s w level line w', inv s w → env w (.log level line) () w' → safe w' ∧ inv s w'

/-- The stages of a run: `between` holds between two rounds and `begun` in one that has not seen the stop signal,
    `failed` when a connection has failed, `ended` when a failure ends the run, and `halted` when the signal has been
    seen. -/
structure Stages (env : Environment ι ω) (safe : ω → Prop) (between begun : Session ι → ω → Prop)
    (failed : ProtocolError → Session ι → ω → Prop) (ended : SyncError → Session ι → ω → Prop)
    (halted : Session ι → ω → Prop) : Prop where
  look : ∀ s w isStopped w', between s w → env w .stopRequested isStopped w' →
    safe w' ∧ Seen halted begun isStopped s w'
  haltedLog : OutlastsLog env safe halted
  endedLog : ∀ failure, OutlastsLog env safe (ended failure)
  recover : ∀ last, Follows env safe (failed last) ended (recover last) (Seen halted between)

/-- **A run begins only if both sides are logged in**, and nothing is asked for to find that out. -/
theorem ensures_ensureAuthenticated (s : Session ι) (w : ω) :
    Action.Ensures env safe ensureAuthenticated (fun _ s' w' => s' = s ∧ w' = w ∧ s.LoggedIn)
      (fun failure s' w' => s' = s ∧ w' = w ∧
        ∃ client, s.IsEnd client ∧ client.authenticated = false ∧ failure = .auth (.notLoggedIn client.target))
      s w := by
  unfold ensureAuthenticated onMaster onSlave checkLogin
  rw [Action.ensures_bind, Action.ensures_focus, Action.ensures_bind, Action.ensures_get]
  cases hmaster : s.master.authenticated with
  | false => exact ⟨rfl, rfl, s.master, .inl rfl, hmaster, rfl⟩
  | true =>
    refine (Action.ensures_focus _ _ _ _).mpr ((Action.ensures_bind _ _).mpr ?_)
    rw [Action.ensures_get]
    cases hslave : s.slave.authenticated with
    | false => exact ⟨rfl, rfl, s.slave, .inr rfl, hslave, rfl⟩
    | true => exact ⟨rfl, rfl, hmaster, hslave⟩

namespace Stages

variable {between begun idle gone waiting halted done : Session ι → ω → Prop}
  {failed : ProtocolError → Session ι → ω → Prop} {ended : SyncError → Session ι → ω → Prop}

/-- What holds after a step: there was nothing to do, or the slave has come closer. -/
def Stepped (idle gone : Session ι → ω → Prop) : Step → Session ι → ω → Prop
  | .idle => idle
  | .applied _ _ | .jumped _ => gone

/-- What holds after a step of a copy: the copy is done, or has gone on. -/
def Copied (done gone : Session ι → ω → Prop) : CopyStep → Session ι → ω → Prop
  | .done => done
  | .imported _ | .jumped => gone

/-- What holds after preparing: there is a baseline to copy up to, or the signal has been seen. -/
def Prepared (halted : Session ι → ω → Prop) (copying : Snapshot → Session ι → ω → Prop) :
    Option Snapshot → Session ι → ω → Prop
  | some baseline => copying baseline
  | none => halted

/-- What holds after copying: the copy is done, or the signal has been seen. -/
def Finished (halted done : Session ι → ω → Prop) : Outcome → Session ι → ω → Prop
  | .completed => done
  | .stopped => halted

/-- What holds after a round: another one follows, or it was the last one. -/
def Rounded {β : Type} (between : Session ι → ω → Prop) (last : α → Session ι → ω → Prop) :
    Round β α → Session ι → ω → Prop
  | .again _ => between
  | .last a => last a

/-- What holds after some rounds: they have been broken off, or the last one is over. -/
def Over (between : Session ι → ω → Prop) (last : α → Session ι → ω → Prop) : Option α → Session ι → ω → Prop
  | none => between
  | some a => last a

/-! ## Rounds -/

/-- **A guarded action** ends with its value, or has been recovered from. -/
theorem guarded (h : Stages env safe between begun failed ended halted)
    {atEnd : SyncError → Action (Session ι) ι Unit} {x : Action (Session ι) ι α} {post : α → Session ι → ω → Prop}
    (hend : ∀ failure, Follows env safe (ended failure) ended (atEnd failure) fun _ => ended failure)
    (hx : Action.Ensures env safe x post (Failing failed ended) s w) :
    Action.Ensures env safe (guarded atEnd x) (fun
      | .value value => post value
      | .recovered => between
      | .stopped => halted) ended s w := by
  unfold Session.guarded
  rw [Action.ensures_bind, Action.ensures_attempt]
  refine hx.mono (fun _ _ _ hpost => hpost) fun failure s₁ w₁ hfailing => ?_
  unfold Failing at hfailing
  dsimp only
  cases htransient : failure.transient? with
  | none =>
    rw [htransient] at hfailing
    exact (hend failure s₁ w₁ hfailing).andThen fun _ _ _ hended => hended
  | some last =>
    rw [htransient] at hfailing
    refine (h.recover last s₁ w₁ hfailing).andThen fun isStopped s₂ w₂ hrecovered => ?_
    cases isStopped <;> exact hrecovered

/-- A round of an incremental run: a step, a report on it, and a pause where there was nothing to do. -/
theorem incrementalRound (h : Stages env safe between begun failed ended halted)
    (hstep : Follows env safe begun (Failing failed ended) step (Stepped idle gone))
    (hidle : Progresses env safe idle ended .waiting waiting)
    (hpause : ∀ time, Follows env safe waiting ended (Action.sleep time) (Seen halted between))
    (hgone : Progresses env safe gone ended .syncing between) (poll : Backoff) :
    Follows env safe between ended (incrementalRound poll) (Rounded between fun _ => halted) := by
  intro s w hs
  unfold Session.incrementalRound
  refine (Action.ensures_bind _ _).mpr fun isStopped w₁ hlook => ?_
  obtain ⟨hsafe₁, h₁⟩ := h.look s w isStopped w₁ hs hlook
  refine ⟨hsafe₁, ?_⟩
  cases isStopped with
  | true => exact h₁
  | false =>
    have hnote : ∀ failure, Follows env safe (ended failure) ended (noteEnd failure) fun _ => ended failure :=
      fun failure s w hended _ w' henv => h.endedLog failure s w _ _ w' hended henv
    refine Action.Ensures.andThen (h.guarded hnote (hstep s w₁ h₁)) fun result s₂ w₂ hresult => ?_
    split
    · refine (hidle s₂ w₂ hresult).andThen fun _ s₃ w₃ hemit => ?_
      refine hemit.andThen fun _ s₄ w₄ hwaiting => ?_
      refine (hpause _ s₄ w₄ hwaiting).andThen fun isStopped _ _ h₅ => ?_
      cases isStopped <;> exact h₅
    · rename_i value hvalue
      have hforward : gone s₂ w₂ := by
        cases value with
        | idle => exact absurd rfl hvalue
        | applied _ _ | jumped _ => exact hresult
      refine (hgone s₂ w₂ hforward).andThen fun _ s₃ w₃ hemit => ?_
      exact hemit.andThen fun _ _ _ h₄ => h₄
    · exact hresult
    · exact hresult

/-- A round of preparing, which leads to a copy. -/
theorem prepareRound (h : Stages env safe between begun failed ended halted)
    {copying : Snapshot → Session ι → ω → Prop}
    (hprepare : Follows env safe begun (Failing failed ended) prepare copying) :
    Follows env safe between ended prepareRound (Rounded between (Prepared halted copying)) := by
  intro s w hs
  unfold Session.prepareRound
  refine (Action.ensures_bind _ _).mpr fun isStopped w₁ hlook => ?_
  obtain ⟨hsafe₁, h₁⟩ := h.look s w isStopped w₁ hs hlook
  refine ⟨hsafe₁, ?_⟩
  cases isStopped with
  | true => exact h₁
  | false =>
    refine Action.Ensures.andThen (h.guarded (fun _ _ _ hended => hended) (hprepare s w₁ h₁)) ?_
    intro result s₂ w₂ hresult
    cases result <;> exact hresult

/-- A round of copying, after which the copy is done or goes on. -/
theorem copyRound (h : Stages env safe between begun failed ended halted) {baseline : Snapshot}
    (hcopy : Follows env safe begun (Failing failed ended) (copyStep baseline) (Copied done gone))
    (hlog : OutlastsLog env safe gone) (hgone : Progresses env safe gone ended .syncing between) :
    Follows env safe between ended (copyRound baseline) (Rounded between (Finished halted done)) := by
  intro s w hs
  unfold Session.copyRound
  refine (Action.ensures_bind _ _).mpr fun isStopped w₁ hlook => ?_
  obtain ⟨hsafe₁, h₁⟩ := h.look s w isStopped w₁ hs hlook
  refine ⟨hsafe₁, ?_⟩
  cases isStopped with
  | true => exact (Action.ensures_bind _ _).mpr fun _ w₂ henv => h.haltedLog s w₁ _ _ w₂ h₁ henv
  | false =>
    refine Action.Ensures.andThen (h.guarded (fun _ _ _ hended => hended) (hcopy s w₁ h₁)) ?_
    intro result s₂ w₂ hresult
    split
    · exact hresult
    · rename_i step hstep
      have hforward : gone s₂ w₂ := by
        cases step with
        | done => exact absurd rfl hstep
        | imported _ | jumped => exact hresult
      refine (Action.ensures_bind _ _).mpr fun _ w₃ henv => ?_
      obtain ⟨hsafe₃, h₃⟩ := hlog s₂ w₂ _ _ w₃ hforward henv
      refine ⟨hsafe₃, (hgone s₂ w₃ h₃).andThen fun _ s₄ w₄ hemit => ?_⟩
      exact hemit.andThen fun _ _ _ h₅ => h₅
    · exact hresult
    · exact hresult

/-! ## Runs -/

variable {post : Option Outcome → Session ι → ω → Prop}

/-- Rounds are broken off between two of them, or end as the last one does. -/
theorem rounds {β : Type} {body : β → Action (Session ι) ι (Round β α)} {last : α → Session ι → ω → Prop}
    (hround : ∀ b, Follows env safe between ended (body b) (Rounded between last)) (limit : Nat) (b : β) :
    Follows env safe between ended (Action.rounds body limit b) (Over between last) := by
  intro s w hs
  refine Action.ensures_rounds (fun b s w hs => ?_) (fun _ _ _ hs => hs) limit hs
  refine (hround b s w hs).mono (fun round s' w' h' => ?_) fun _ _ _ hended => hended
  cases round <;> exact h'

/-- An incremental run ends where the signal has been seen, or is broken off. -/
theorem runIncremental
    (hround : ∀ poll, Follows env safe between ended (Session.incrementalRound poll) (Rounded between fun _ => halted))
    (hstopped : Follows env safe halted ended stopped fun outcome => post (some outcome))
    (hbroken : ∀ s w, between s w → post none s w) (limit : Nat) :
    Follows env safe between ended (runIncremental limit) post := by
  intro s w hs
  unfold Session.runIncremental
  rw [Action.ensures_bind, Action.ensures_get]
  refine (rounds hround limit _ s w hs).andThen fun result s₁ w₁ h₁ => ?_
  cases result with
  | none => exact hbroken s₁ w₁ h₁
  | some _ => exact (hstopped s₁ w₁ h₁).andThen fun _ _ _ h₂ => h₂

/-- A bulk run prepares, copies, and completes its copy; or it ends where the signal has been seen, or is broken
    off. -/
theorem runBulk {prepared copying done : Snapshot → Session ι → ω → Prop}
    (hprepare : Follows env safe between ended Session.prepareRound (Rounded between (Prepared halted prepared)))
    (hline : ∀ baseline s w level line w', prepared baseline s w → env w (.log level line) () w' →
      safe w' ∧ copying baseline s w')
    (hcopy : ∀ baseline, Follows env safe (copying baseline) ended (Session.copyRound baseline)
      (Rounded (copying baseline) (Finished halted (done baseline))))
    (hstopped : Follows env safe halted ended stopped fun outcome => post (some outcome))
    (hcomplete : ∀ baseline, Follows env safe (done baseline) ended (completeBulk baseline) fun outcome =>
      post (some outcome))
    (hbroken : ∀ s w, between s w → post none s w)
    (hbroken' : ∀ baseline s w, copying baseline s w → post none s w) (limit : Nat) :
    Follows env safe between ended (runBulk limit) post := by
  intro s w hs
  unfold Session.runBulk
  have hstop : ∀ s w, halted s w →
      Action.Ensures env safe (do return some (← stopped)) post ended s w :=
    fun s w hs => (hstopped s w hs).andThen fun _ _ _ h' => h'
  refine (rounds (fun _ => hprepare) limit () s w hs).andThen ?_
  rintro (_ | _ | baseline) s₁ w₁ h₁
  case none => exact hbroken s₁ w₁ h₁
  case some.none => exact hstop s₁ w₁ h₁
  case some.some =>
    refine (Action.ensures_bind _ _).mpr fun _ w₂ henv => ?_
    obtain ⟨hsafe₂, h₂⟩ := hline baseline s₁ w₁ _ _ w₂ h₁ henv
    refine ⟨hsafe₂, (rounds (fun _ => hcopy baseline) limit () s₁ w₂ h₂).andThen ?_⟩
    rintro (_ | _ | _) s₃ w₃ h₃
    case none => exact hbroken' baseline s₃ w₃ h₃
    case some.stopped => exact hstop s₃ w₃ h₃
    case some.completed => exact (hcomplete baseline s₃ w₃ h₃).andThen fun _ _ _ h₄ => h₄

/-- A run follows its strategy, if it begins at all, between two lines of the log. -/
theorem run {limit : Nat}
    (hrefused : ∀ client, s.IsEnd client → client.authenticated = false →
      ended (.auth (.notLoggedIn client.target)) s w)
    (hstart : s.LoggedIn → ∀ level line w', env w (.log level line) () w' → safe w' ∧
      (s.strategy = .bulk → Action.Ensures env safe (Session.runBulk limit) post ended s w') ∧
      (s.strategy = .incremental → Action.Ensures env safe (Session.runIncremental limit) post ended s w'))
    (hpostLog : ∀ outcome, OutlastsLog env safe (post (some outcome)))
    (hendedLog : ∀ failure, OutlastsLog env safe (ended failure)) :
    Action.Ensures env safe (run limit) post ended s w := by
  unfold Session.run
  refine (Action.ensures_bind _ _).mpr ((ensures_ensureAuthenticated s w).mono ?_ fun failure s' w' hrefusal => ?_)
  case refine_2 =>
    obtain ⟨rfl, rfl, client, hend, hlogin, rfl⟩ := hrefusal
    exact hrefused client hend hlogin
  rintro _ s' w' ⟨rfl, rfl, hlogged⟩
  rw [Action.ensures_bind, Action.ensures_get, Action.ensures_bind]
  intro _ w₁ henv
  obtain ⟨hsafe, hbulk, hincremental⟩ := hstart hlogged _ _ w₁ henv
  have hfollow : Action.Ensures env safe (follow limit) post ended s' w₁ := by
    unfold follow
    rw [Action.ensures_bind, Action.ensures_get]
    cases hstrategy : s'.strategy with
    | bulk => exact hbulk hstrategy
    | incremental => exact hincremental hstrategy
  refine ⟨hsafe, (Action.ensures_bind _ _).mpr ?_⟩
  rw [Action.ensures_attempt]
  refine hfollow.mono (fun outcome s₂ w₂ h₂ => ?_) fun failure s₂ w₂ hended => ?_
  · cases outcome with
    | none => exact h₂
    | some outcome => exact (Action.ensures_bind _ _).mpr fun _ w₃ henv => hpostLog outcome s₂ w₂ _ _ w₃ h₂ henv
  · exact (Action.ensures_bind _ _).mpr fun _ w₃ henv => hendedLog failure s₂ w₂ _ _ w₃ hended henv

end Stages

end SegmentSync.Session
