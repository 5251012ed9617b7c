import SegmentSync.Proofs.Client.Replies
import SegmentSync.Proofs.Program.Pause
import SegmentSync.Proofs.Session.Stages

/-!
# `SegmentSync.Proofs.Session.Course` — from the steps of a session to its runs

A run is made of steps, and of what a session does around them: it looks at the stop signal, recovers from failures,
reports and waits. Here is how that goes together where what is done around the steps changes nothing of what is to be
shown. What holds between two steps need not hold after a step that has met a failure of the connection; it has to hold
again after `recover`, unless the session was stopped meanwhile.

## Contents
- **Courses.** `Session.Course` says what holds when, and what has to be shown of `recover` and of progress.
- **Recovering.** One attempt of it, piece by piece.
- **The freeze.** How it is requested by a session that is logged in.
- **Around the steps.** What is ensured of the end of a run.
- **Runs.** `Course.stages` are the stages of such a run. What the steps ensure, a run ensures:
  `Course.runIncremental`, `Course.completes` and `Course.finishes` for a bulk copy, and `Course.runs`.
- **Readings.** How the sides are read in a run that is given event by event.
-/

namespace SegmentSync.Session

open SegmentSync.Action (Round)

variable {ι α ω : Type} {env : Environment ι ω} {safe : ω → Prop} {inv ready halted : Session ι → ω → Prop}
  {failed : ProtocolError → Session ι → ω → Prop} {ended : SyncError → Session ι → ω → Prop}
  {s : Session ι} {w : ω}

/-! ## Courses -/

/-- The effects that a session asks for around its steps where there is no progress to report. -/
inductive AsksAround (s : Session ι) : Effect ι → Prop where
  | log (level : Level) (line : String) : AsksAround s (.log level line)
  | pause {effect : Effect ι} (h : effect.InPause) : AsksAround s effect
  | clock : AsksAround s .clock
  | finished {previous current : PairSnapshot} {elapsed : Duration} (h : s.snapshots = some current) :
    AsksAround s (.report (Progress.report previous current elapsed .finished))

/-- What a session asks for around its steps breaks nothing, nor that it remembers its last report. -/
structure Around (env : Environment ι ω) (safe : ω → Prop) (inv : Session ι → ω → Prop) : Prop where
  around : ∀ s w effect answer w', inv s w → s.AsksAround effect → env w effect answer w' → safe w' ∧ inv s w'
  reported : ∀ (s : Session ι) w reported, inv s w → inv { s with reported } w

/-- The course of a run: `inv` holds between two steps, `ready` after a step that has done its work, `failed` after one
    whose connection has failed, `ended` when a failure ends the run, and `halted` when the run ends without one. -/
structure Course (env : Environment ι ω) (safe : ω → Prop) (inv ready : Session ι → ω → Prop)
    (failed : ProtocolError → Session ι → ω → Prop) (ended : SyncError → Session ι → ω → Prop)
    (halted : Session ι → ω → Prop) : Prop extends Around env safe inv where
  halts : ∀ s w, inv s w → halted s w
  haltedAround : Around env safe halted
  readyLog : ∀ s w level line w', ready s w → env w (.log level line) () w' → safe w' ∧ ready s w'
  endedLog : ∀ failure s w level line w', ended failure s w → env w (.log level line) () w' →
    safe w' ∧ ended failure s w'
  recover : ∀ last s w, failed last s w → Action.Ensures env safe (recover last)
    (fun isStopped => if isStopped then halted else inv) ended s w
  progress : ∀ phase, phase ≠ .finished → ∀ s w, ready s w → Action.Ensures env safe succeeded
    (fun _ => Action.Ensures env safe (emit phase) (fun _ => inv) ended) ended s w

/-! ## Recovering -/

/-- One failure more is counted, unless the count has come to its end. -/
theorem ensures_countFailure {σ : Type} {post : Nat → σ → ω → Prop} {fail : SyncError → σ → ω → Prop} {s : σ}
    {failures : Nat} (hcount : failures + 1 < UInt32.size → post (failures + 1) s w)
    (hover : UInt32.size ≤ failures + 1 → fail .overflow s w) :
    Action.Ensures env safe (Retry.countFailure failures : Action σ ι Nat) post fail s w := by
  unfold Retry.countFailure
  split
  · exact hcount ‹_›
  · exact hover (Nat.not_lt.mp ‹_›)

/-- Where no attempt is left, recovering is at its end: the failure is counted, and the budget is spent. -/
theorem ensures_recoverWithin_zero {last : ProtocolError} {post : Bool → Session ι → ω → Prop}
    (hspent : s.failures + 1 < UInt32.size →
      ended (.retriesExhausted s.failures last) { s with failures := s.failures + 1 } w)
    (hover : UInt32.size ≤ s.failures + 1 → ended .overflow s w) :
    Action.Ensures env safe (recoverWithin 0 last) post ended s w := by
  unfold recoverWithin
  rw [Action.ensures_bind, Action.ensures_get]
  exact (Action.ensures_bind _ _).mpr (ensures_countFailure hspent hover)

/-- **An attempt at recovering**: the failure is counted, there is a pause, at which the session may be stopped, and
    then both sides are opened again. -/
theorem ensures_recoverWithin_succ {budget : Nat} {last : ProtocolError} {post : Bool → Session ι → ω → Prop}
    (hover : UInt32.size ≤ s.failures + 1 → ended .overflow s w)
    (h : s.failures + 1 < UInt32.size → ∀ line w₁, env w (.log .warn line) () w₁ → safe w₁ ∧
      Action.Ensures env safe (Action.sleep s.backoff.next.1) (Seen (post true) fun paused w₂ =>
        Action.Ensures env safe reopen
          (fun _ s₃ w₃ => ∀ line w₄, env w₃ (.log .info line) () w₄ → safe w₄ ∧ post false s₃ w₄)
          (Failing (fun last s₃ w₃ => ∀ line w₄, env w₃ (.log .warn line) () w₄ → safe w₄ ∧
            Action.Ensures env safe (recoverWithin budget last) post ended s₃ w₄) ended) paused w₂)
        ended { s with failures := s.failures + 1, backoff := s.backoff.next.2 } w₁) :
    Action.Ensures env safe (recoverWithin (budget + 1) last) post ended s w := by
  unfold recoverWithin
  rw [Action.ensures_bind, Action.ensures_get]
  refine (Action.ensures_bind _ _).mpr (ensures_countFailure (fun hfits => ?_) hover)
  dsimp only
  rw [Action.ensures_bind, Action.ensures_set, Action.ensures_bind]
  intro _ w₁ hlog
  obtain ⟨hsafe₁, hpause⟩ := h hfits _ w₁ hlog
  refine ⟨hsafe₁, hpause.andThen fun isStopped s₂ w₂ hnext => ?_⟩
  cases isStopped with
  | true => exact hnext
  | false =>
    refine (Action.ensures_bind _ _).mpr ?_
    rw [Action.ensures_attempt]
    refine Action.Ensures.mono hnext (fun _ s₃ w₃ hopened => ?_) fun failure s₃ w₃ hfailing => ?_
    · exact (Action.ensures_bind _ _).mpr fun _ w₄ hlog => hopened _ w₄ hlog
    · unfold Failing at hfailing
      dsimp only
      cases htransient : failure.transient? with
      | none =>
        rw [htransient] at hfailing
        exact hfailing
      | some last =>
        rw [htransient] at hfailing
        exact (Action.ensures_bind _ _).mpr fun _ w₄ hlog => hfailing _ w₄ hlog

/-! ## The freeze -/

/-- A session that is logged in notes that it begins or ends the freeze, and requests that. -/
theorem ensures_setFreeze {name : String} {enabled : Bool} {post : Unit → Session ι → ω → Prop}
    {fail : SyncError → Session ι → ω → Prop} (hlogin : s.slave.authenticated = true)
    (h : ∀ line w₁, env w (.log .debug line) () w₁ → safe w₁ ∧
      ∀ r w₂, env w₁ (.execute s.slave.link (.nsFreeze name enabled)) r w₂ → safe w₂ ∧
        match Client.reading (.nsFreeze name enabled) Client.ack? r with
        | .ok _ => post () s w₂
        | .error failure => fail (.protocol failure) s w₂) :
    Action.Ensures env safe (onSlave (Client.setFreeze name enabled)) post fail s w := by
  refine (Action.ensures_focus _ _ _ _).mpr ((Action.ensures_bind _ _).mpr ?_)
  refine Client.ensures_note fun line w₁ hlog => ?_
  obtain ⟨hsafe, hrequest⟩ := h line w₁ hlog
  refine ⟨hsafe, Client.ensures_callFor (fun hholds => ?_) fun r w₂ hsent => ?_⟩
  · rw [Client.holdsBack, hlogin, Bool.not_true, Bool.and_false] at hholds
    cases hholds
  · obtain ⟨hsafe₂, hanswered⟩ := hrequest r w₂ hsent
    refine ⟨hsafe₂, ?_⟩
    cases hreading : Client.reading (.nsFreeze name enabled) Client.ack? r with
    | ok _ =>
      rw [hreading] at hanswered
      exact hanswered
    | error _ =>
      rw [hreading] at hanswered
      exact hanswered

/-! ## Around the steps -/

/-- Around its steps a session has no contact with the stores. -/
theorem not_contact_of_asksAround {effect : Effect ι} (h : s.AsksAround effect) (answer : effect.Answer) :
    (⟨effect, answer⟩ : Event ι).isContact = false := by
  cases h with
  | pause hpause => cases hpause <;> rfl
  | log | clock | finished => rfl

/-- What no contact is needed for outlasts the end of a run. -/
theorem around_of_cons {inv : Trace ι → Prop}
    (h : ∀ w event, inv w → Event.isContact event = false → inv (event :: w)) :
    Around recording (fun _ => True) fun (_ : Session ι) w => inv w where
  around := by
    rintro s w effect answer _ hinv hasks rfl
    exact ⟨trivial, h w _ hinv (not_contact_of_asksAround hasks answer)⟩
  reported := fun _ _ _ hinv => hinv

namespace Around

theorem perform (h : Around env safe inv) {effect : Effect ι} (hasks : ∀ s : Session ι, s.AsksAround effect) :
    Follows env safe inv ended (Action.perform effect) fun _ => inv :=
  fun s w hinv answer w' henv => h.around s w effect answer w' hinv (hasks s) henv

theorem outlastsLog (h : Around env safe inv) : OutlastsLog env safe inv :=
  fun s w level line w' hinv henv => h.around s w (.log level line) () w' hinv (.log level line) henv

theorem log (h : Around env safe inv) (level : Level) (line : String) :
    Follows env safe inv ended (Action.log level line) fun _ => inv :=
  h.perform fun _ => .log level line

theorem sleep (h : Around env safe inv) (time : Duration) :
    Follows env safe inv ended (Action.sleep time) fun _ => inv := by
  intro s w hinv
  refine Action.ensures_sleep_of_inPause (fun s w effect answer w' hinv hpause henv => ?_) hinv time
  exact h.around s w effect answer w' hinv (.pause hpause) henv

/-- The last report is one of no progress. -/
theorem emit_finished (h : Around env safe inv) : Follows env safe inv ended (emit .finished) fun _ => inv := by
  intro s w hinv
  unfold emit
  rw [Action.ensures_bind, Action.ensures_get]
  cases hsnapshots : s.snapshots with
  | none => exact hinv
  | some current =>
    rw [Action.ensures_bind]
    intro now w₁ hclock
    obtain ⟨hsafe₁, hinv₁⟩ := h.around s w .clock now w₁ hinv .clock hclock
    refine ⟨hsafe₁, (Action.ensures_bind _ _).mpr fun answer w₂ hreport => ?_⟩
    obtain ⟨hsafe₂, hinv₂⟩ := h.around s w₁ _ answer w₂ hinv₁ (.finished hsnapshots) hreport
    exact ⟨hsafe₂, h.reported s w₂ _ hinv₂⟩

theorem stopped (h : Around env safe inv) :
    Follows env safe inv ended stopped fun outcome s w => outcome = .stopped ∧ inv s w := by
  intro s w hinv
  unfold Session.stopped
  refine (h.log _ _ s w hinv).andThen fun _ s₁ w₁ hinv₁ => ?_
  exact (h.emit_finished s₁ w₁ hinv₁).andThen fun _ _ _ hinv₂ => ⟨rfl, hinv₂⟩

/-- The copy is done, and no end of the freeze is wanted. -/
def StaysFrozen (done : Session ι → ω → Prop) (s : Session ι) (w : ω) : Prop :=
  s.options.bulk.unfreezeOnCompletion = false ∧ done s w

/-- A copy that is done leads to what the end of the freeze leads to, or stays as it is where that is not wanted. -/
theorem completeBulk {lifted : Session ι → ω → Prop} (h : Around env safe inv) (hlifted : Around env safe lifted)
    (hunfreeze : ∀ s w, inv s w → s.options.bulk.unfreezeOnCompletion = true →
      Action.Ensures env safe (onSlave (Client.setFreeze s.space false)) (fun _ => lifted) ended s w)
    (baseline : Snapshot) :
    Follows env safe inv ended (completeBulk baseline) fun outcome s w =>
      outcome = .completed ∧ (lifted s w ∨ StaysFrozen inv s w) := by
  have hend : ∀ {inv : Session ι → ω → Prop}, Around env safe inv → ∀ s w, inv s w → Action.Ensures env safe (do
      Session.emit .finished
      Action.log .info ("Bulk sync reached baseline " ++ baseline.position.text)
      return Outcome.completed) (fun outcome s w => outcome = .completed ∧ inv s w) ended s w := by
    intro inv h s w hinv
    refine (h.emit_finished s w hinv).andThen fun _ s₁ w₁ hinv₁ => ?_
    exact (h.log _ _ s₁ w₁ hinv₁).andThen fun _ _ _ hinv₂ => ⟨rfl, hinv₂⟩
  have hfrozen : Around env safe (StaysFrozen inv) :=
    { around := fun s w effect answer w' hs hasks henv =>
        have hnext := h.around s w effect answer w' hs.2 hasks henv
        ⟨hnext.1, hs.1, hnext.2⟩
      reported := fun s w reported hs => ⟨hs.1, h.reported s w reported hs.2⟩ }
  intro s w hinv
  unfold Session.completeBulk
  rw [Action.ensures_bind, Action.ensures_get]
  dsimp only
  split
  · refine (hunfreeze s w hinv ‹_›).andThen fun _ s₁ w₁ hlifted₁ => ?_
    exact (hend hlifted s₁ w₁ hlifted₁).mono (fun _ _ _ h' => ⟨h'.1, .inl h'.2⟩) fun _ _ _ h' => h'
  · have hkept : s.options.bulk.unfreezeOnCompletion = false := Bool.eq_false_iff.mpr ‹_›
    exact (hend hfrozen s w ⟨hkept, hinv⟩).mono (fun _ _ _ h' => ⟨h'.1, .inr h'.2⟩) fun _ _ _ h' => h'

end Around

namespace Course

/-- The stages of a run whose rounds begin as they are left. -/
theorem stages (h : Course env safe inv ready failed ended halted) : Stages env safe inv inv failed ended halted where
  look := by
    intro s w isStopped w' hinv henv
    obtain ⟨hsafe, hinv'⟩ := h.around s w .stopRequested isStopped w' hinv (.pause .look) henv
    refine ⟨hsafe, ?_⟩
    cases isStopped with
    | true => exact h.halts s w' hinv'
    | false => exact hinv'
  haltedLog := h.haltedAround.outlastsLog
  endedLog := h.endedLog
  recover := by
    intro last s w hfailed
    refine (h.recover last s w hfailed).mono (fun isStopped s' w' h' => ?_) fun _ _ _ hended => hended
    cases isStopped <;> exact h'

/-! ## Runs -/

/-- A step in the course of a run. -/
abbrev Steps (env : Environment ι ω) (safe : ω → Prop) (inv ready : Session ι → ω → Prop)
    (failed : ProtocolError → Session ι → ω → Prop) (ended : SyncError → Session ι → ω → Prop)
    (x : Action (Session ι) ι α) : Prop :=
  Follows env safe inv (Failing failed ended) x fun _ => ready

theorem progresses (h : Course env safe inv ready failed ended halted) {phase : Phase} (hphase : phase ≠ .finished) :
    Progresses env safe ready ended phase inv :=
  h.progress phase hphase

theorem incrementalRound (h : Course env safe inv ready failed ended halted)
    (hstep : Steps env safe inv ready failed ended step) (poll : Backoff) :
    Follows env safe inv ended (incrementalRound poll) fun
      | .again _ => inv
      | .last _ => halted := by
  have hstepped : Follows env safe inv (Failing failed ended) step (Stages.Stepped ready ready) := by
    intro s w hinv
    refine (hstep s w hinv).mono (fun result s' w' hready => ?_) fun _ _ _ hfailing => hfailing
    cases result <;> exact hready
  have hpause : ∀ time, Follows env safe inv ended (Action.sleep time) (Seen halted inv) := by
    intro time s w hinv
    refine (h.sleep time s w hinv).mono (fun isStopped s' w' hinv' => ?_) fun _ _ _ h' => h'
    cases isStopped with
    | true => exact h.halts s' w' hinv'
    | false => exact hinv'
  intro s w hinv
  have hround := h.stages.incrementalRound hstepped (h.progresses nofun) hpause (h.progresses nofun) poll
  refine (hround s w hinv).mono (fun round _ _ h' => ?_) fun _ _ _ hended => hended
  cases round <;> exact h'

/-- **What steps ensure, an incremental run ensures.** -/
theorem runIncremental (h : Course env safe inv ready failed ended halted)
    (hstep : Steps env safe inv ready failed ended step) (limit : Nat) :
    Follows env safe inv ended (runIncremental limit) fun _ => halted := by
  have hround : ∀ poll, Follows env safe inv ended (Session.incrementalRound poll)
      (Stages.Rounded inv fun _ => halted) := by
    intro poll s w hinv
    refine (h.incrementalRound hstep poll s w hinv).mono (fun round _ _ h' => ?_) fun _ _ _ hended => hended
    cases round <;> exact h'
  have hstopped : Follows env safe halted ended stopped fun _ => halted := fun s w hhalted =>
    (h.haltedAround.stopped s w hhalted).mono (fun _ _ _ h' => h'.2) fun _ _ _ hended => hended
  exact Stages.runIncremental hround hstopped h.halts limit

/-- What holds after preparing: there is a baseline to copy up to, or the run has halted. -/
def Prepared (halted : Session ι → ω → Prop) (copying : Snapshot → Session ι → ω → Prop) :
    Option (Option Snapshot) → Session ι → ω → Prop
  | some (some baseline) => copying baseline
  | some none | none => halted

/-- What holds after copying: the copy is done, or the run has halted. -/
def Finished (halted done : Session ι → ω → Prop) : Option Outcome → Session ι → ω → Prop
  | some .completed => done
  | some .stopped | none => halted

/-- One attempt at preparing, which leads to a copy. -/
theorem prepareRound (h : Course env safe inv ready failed ended halted)
    {copying : Snapshot → Session ι → ω → Prop}
    (hprepare : Follows env safe inv (Failing failed ended) prepare copying) :
    Follows env safe inv ended prepareRound fun
      | .again _ => inv
      | .last baseline => Prepared halted copying (some baseline) := by
  intro s w hinv
  refine (h.stages.prepareRound hprepare s w hinv).mono (fun round _ _ h' => ?_) fun _ _ _ hended => hended
  rcases round with _ | _ | _ <;> exact h'

theorem prepares (h : Course env safe inv ready failed ended halted) {copying : Snapshot → Session ι → ω → Prop}
    (hprepare : Follows env safe inv (Failing failed ended) prepare copying) (limit : Nat) :
    Follows env safe inv ended (Action.rounds (fun _ => Session.prepareRound) limit ()) (Prepared halted copying) := by
  intro s w hinv
  have hrounds := Stages.rounds (fun _ => h.stages.prepareRound hprepare) limit () s w hinv
  refine hrounds.mono (fun result s' w' h' => ?_) fun _ _ _ hended => hended
  rcases result with _ | _ | _
  · exact h.halts s' w' h'
  · exact h'
  · exact h'

/-- One round of copying, after which the copy is done or goes on. -/
theorem copyRound (h : Course env safe inv ready failed ended halted) {done : Session ι → ω → Prop}
    {baseline : Snapshot}
    (hcopy : Follows env safe inv (Failing failed ended) (copyStep baseline) (Stages.Copied done ready)) :
    Follows env safe inv ended (copyRound baseline) fun
      | .again _ => inv
      | .last outcome => Finished halted done (some outcome) := by
  intro s w hinv
  have hround := h.stages.copyRound hcopy h.readyLog (h.progresses nofun) s w hinv
  refine hround.mono (fun round _ _ h' => ?_) fun _ _ _ hended => hended
  rcases round with _ | _ | _ <;> exact h'

/-- **What preparing leads to and copying ensures, a bulk run ensures.** A run that completes has ended the freeze, or
    leaves the copy done and frozen. -/
theorem completes (h : Course env safe inv ready failed ended halted)
    {copying copied done lifted : Snapshot → Session ι → ω → Prop}
    {broken : Snapshot → ProtocolError → Session ι → ω → Prop}
    (hcopying : ∀ baseline, Course env safe (copying baseline) (copied baseline) (broken baseline) ended halted)
    (hdone : ∀ baseline, Around env safe (done baseline)) (hlifted : ∀ baseline, Around env safe (lifted baseline))
    (hprepare : Follows env safe inv (Failing failed ended) prepare copying)
    (hcopy : ∀ baseline,
      Follows env safe (copying baseline) (Failing (broken baseline) ended) (copyStep baseline)
        (Stages.Copied (done baseline) (copied baseline)))
    (hunfreeze : ∀ baseline s w, done baseline s w → s.options.bulk.unfreezeOnCompletion = true →
      Action.Ensures env safe (onSlave (Client.setFreeze s.space false)) (fun _ => lifted baseline) ended s w)
    (limit : Nat) : Follows env safe inv ended (Session.runBulk limit)
      (Finished halted fun s w => ∃ baseline, lifted baseline s w ∨ Around.StaysFrozen (done baseline) s w) := by
  let post := Finished halted fun s w => ∃ baseline, lifted baseline s w ∨ Around.StaysFrozen (done baseline) s w
  have hstopped : Follows env safe halted ended stopped fun outcome => post (some outcome) := by
    intro s w hs
    refine (h.haltedAround.stopped s w hs).mono ?_ fun _ _ _ hended => hended
    rintro _ s₁ w₁ ⟨rfl, h₁⟩
    exact h₁
  have hcomplete : ∀ baseline, Follows env safe (done baseline) ended (completeBulk baseline) fun outcome =>
      post (some outcome) := by
    intro baseline s w hs
    have hcompletes := (hdone baseline).completeBulk (hlifted baseline) (hunfreeze baseline) baseline s w hs
    refine hcompletes.mono ?_ fun _ _ _ hended => hended
    rintro _ s₁ w₁ ⟨rfl, h₁⟩
    exact ⟨baseline, h₁⟩
  exact Stages.runBulk (h.stages.prepareRound hprepare) (fun baseline => (hcopying baseline).outlastsLog)
    (fun baseline => (hcopying baseline).stages.copyRound (hcopy baseline) (hcopying baseline).readyLog
      ((hcopying baseline).progresses nofun))
    hstopped hcomplete h.halts (fun baseline => (hcopying baseline).halts) limit

/-- The same, where the end of the freeze changes nothing in what is known of a copy that is done. -/
theorem finishes (h : Course env safe inv ready failed ended halted)
    {copying copied done : Snapshot → Session ι → ω → Prop}
    {broken : Snapshot → ProtocolError → Session ι → ω → Prop}
    (hcopying : ∀ baseline, Course env safe (copying baseline) (copied baseline) (broken baseline) ended halted)
    (hdone : ∀ baseline, Around env safe (done baseline))
    (hprepare : Follows env safe inv (Failing failed ended) prepare copying)
    (hcopy : ∀ baseline,
      Follows env safe (copying baseline) (Failing (broken baseline) ended) (copyStep baseline)
        (Stages.Copied (done baseline) (copied baseline)))
    (hunfreeze : ∀ baseline s w, done baseline s w → s.options.bulk.unfreezeOnCompletion = true →
      Action.Ensures env safe (onSlave (Client.setFreeze s.space false)) (fun _ => done baseline) ended s w)
    (limit : Nat) :
    Follows env safe inv ended (Session.runBulk limit) (Finished halted fun s w => ∃ baseline, done baseline s w) := by
  intro s w hs
  refine (h.completes hcopying hdone hdone hprepare hcopy hunfreeze limit s w hs).mono ?_ fun _ _ _ h' => h'
  rintro (_ | _ | _) s' w' h'
  · exact h'
  · obtain ⟨baseline, hlifted | hfrozen⟩ := h'
    · exact ⟨baseline, hlifted⟩
    · exact ⟨baseline, hfrozen.2⟩
  · exact h'

/-- The same, where nothing more is wanted of a copy that is done. -/
theorem runBulk (h : Course env safe inv ready failed ended halted)
    {copying copied : Snapshot → Session ι → ω → Prop} {broken : Snapshot → ProtocolError → Session ι → ω → Prop}
    (hcopying : ∀ baseline, Course env safe (copying baseline) (copied baseline) (broken baseline) ended halted)
    (hprepare : Follows env safe inv (Failing failed ended) prepare copying)
    (hcopy : ∀ baseline,
      Follows env safe (copying baseline) (Failing (broken baseline) ended) (copyStep baseline)
        (Stages.Copied (copying baseline) (copied baseline)))
    (hunfreeze : ∀ s w, halted s w → s.options.bulk.unfreezeOnCompletion = true →
      Action.Ensures env safe (onSlave (Client.setFreeze s.space false)) (fun _ => halted) ended s w) (limit : Nat) :
    Follows env safe inv ended (Session.runBulk limit) fun _ => halted := by
  have hdone : ∀ baseline, Follows env safe (copying baseline) (Failing (broken baseline) ended) (copyStep baseline)
      (Stages.Copied halted (copied baseline)) := by
    intro baseline s w hs
    refine (hcopy baseline s w hs).mono (fun result s' w' h' => ?_) fun _ _ _ h' => h'
    cases result with
    | done => exact (hcopying baseline).halts s' w' h'
    | imported _ | jumped => exact h'
  intro s w hs
  refine (h.finishes hcopying (fun _ => h.haltedAround) hprepare hdone (fun _ => hunfreeze) limit s w hs).mono ?_
    fun _ _ _ h' => h'
  rintro (_ | _ | _) s' w' h'
  · exact h'
  · exact h'.choose_spec
  · exact h'

/-- **What a run of its strategy ensures, a session ensures.** It starts only if both sides are logged in. -/
theorem runs {post : Option Outcome → Session ι → ω → Prop} (h : Course env safe inv ready failed ended halted)
    (hinv : s.LoggedIn → inv s w) (hlogin : ∀ target, ended (.auth (.notLoggedIn target)) s w)
    (hpost : ∀ outcome, Around env safe (post (some outcome))) {limit : Nat}
    (hbulk : s.strategy = .bulk → Follows env safe inv ended (Session.runBulk limit) post)
    (hincremental : s.strategy = .incremental → Follows env safe inv ended (Session.runIncremental limit) post) :
    Action.Ensures env safe (run limit) post ended s w := by
  refine Stages.run (fun _ _ _ => hlogin _) (fun hlogged level line w' henv => ?_)
    (fun outcome => (hpost outcome).outlastsLog) h.endedLog
  obtain ⟨hsafe, hinv'⟩ := h.outlastsLog s w level line w' (hinv hlogged) henv
  exact ⟨hsafe, fun hstrategy => hbulk hstrategy s w' hinv', fun hstrategy => hincremental hstrategy s w' hinv'⟩

/-- The same, where nothing more is wanted of a run that ends without a failure. -/
theorem run (h : Course env safe inv ready failed ended halted) (hinv : s.LoggedIn → inv s w)
    (hlogin : ∀ target, ended (.auth (.notLoggedIn target)) s w) {limit : Nat}
    (hbulk : s.strategy = .bulk → Follows env safe inv ended (Session.runBulk limit) fun _ => halted)
    (hincremental : s.strategy = .incremental →
      Follows env safe inv ended (Session.runIncremental limit) fun _ => halted) :
    Action.Ensures env safe (run limit) (fun _ => halted) ended s w :=
  h.runs hinv hlogin (fun _ => h.haltedAround) hbulk hincremental

end Course

/-! ## Readings -/

/-- The event of a namespace being read. -/
abbrev readBy (client : Client ι) (name : String) (ns : Namespace) : Event ι :=
  .sent client.link (.nsInfo name) (.ok (.bulk (Utf8.encode (ns.info name))))

/-- The master is read by one exchange. -/
theorem runs_masterInfo_of_reading {s : Session ι} (hlogin : s.master.authenticated = true)
    {r : Except ProtocolError Reply} {snapshot : Snapshot}
    (hread : Client.reading (.nsInfo s.space) Client.info? r = .ok snapshot) :
    masterInfo.Runs s [.sent s.master.link (.nsInfo s.space) r] (.ok snapshot)
      { s with lastMaster := some snapshot } := by
  have hasked : (onMaster (Client.namespaceInfo s.space)).Runs s [.sent s.master.link (.nsInfo s.space) r]
      (.ok snapshot) s := (Client.runs_namespaceInfo_of_reading hlogin hread).focus
  unfold masterInfo
  exact .bind_get (hasked.finish rfl)

/-- So is the slave, which must not have gone back. -/
theorem runs_slaveInfo_of_reading {s : Session ι} (hlogin : s.slave.authenticated = true)
    {r : Except ProtocolError Reply} {snapshot : Snapshot}
    (hread : Client.reading (.nsInfo s.space) Client.info? r = .ok snapshot)
    (hforward : movedBackwards s.lastSlave snapshot = false) :
    slaveInfo.Runs s [.sent s.slave.link (.nsInfo s.space) r] (.ok snapshot)
      { s with lastSlave := some snapshot } := by
  have hasked : (onSlave (Client.namespaceInfo s.space)).Runs s [.sent s.slave.link (.nsInfo s.space) r]
      (.ok snapshot) s := (Client.runs_namespaceInfo_of_reading hlogin hread).focus
  unfold slaveInfo
  refine .bind_get (hasked.finish ?_)
  show (if _ then _ else _ : Action (Session ι) ι Snapshot) _ = _
  rw [if_neg (by rw [hforward]; exact nofun)]
  rfl

theorem runs_masterInfo {s : Session ι} (hlogin : s.master.authenticated = true) (ns : Namespace) :
    masterInfo.Runs s [readBy s.master s.space ns] (.ok ns.snapshot) { s with lastMaster := some ns.snapshot } :=
  runs_masterInfo_of_reading hlogin (Client.reading_nsInfo s.space ns)

theorem runs_slaveInfo {s : Session ι} (hlogin : s.slave.authenticated = true) (ns : Namespace)
    (hforward : movedBackwards s.lastSlave ns.snapshot = false) :
    slaveInfo.Runs s [readBy s.slave s.space ns] (.ok ns.snapshot) { s with lastSlave := some ns.snapshot } :=
  runs_slaveInfo_of_reading hlogin (Client.reading_nsInfo s.space ns) hforward

end SegmentSync.Session
