import SegmentSync.Proofs.Client.Calls
import SegmentSync.Proofs.Program.Trace
import SegmentSync.Session.Run

/-!
# `SegmentSync.Proofs.Session.Attempts` — an attempt ends with the failure of its connection

A step of a session, its preparation and a login are attempts: a failure of the connection ends each of them at once
and is passed on as it is, so that it can be told from the latest event. All other failures leave the session as it
was.

## Contents
- **Events.** `Event.failure?` is the failure of a connection during an attempt, `Event.isProgress` a report on
  progress.
- **Attempts.** `Attempts` says how an action fails, piece by piece.
- **Logins.** A connect is an attempt.
- **Steps.** So are `prepare`, `copyStep` and `step`.
- **The end of the freeze.** The one request of a run that is no attempt.
-/

namespace SegmentSync

variable {σ τ ι α β : Type}

/-! ## Events -/

/-- The request ends the write-freeze of a namespace. -/
def Request.liftsFreeze : Request → Bool
  | ⟨.nsSet, [_, _, value]⟩ => value = Utf8.encode "0"
  | _ => false

namespace Event

/-- A connection that was opened again, and what came of it. -/
@[match_pattern] abbrev reopened (link : ι) (r : Except ProtocolError Unit) : Event ι := ⟨.reopen link, r⟩

/-- The failure of a connection. The end of the freeze is requested when all attempts are over. -/
def failure? : Event ι → Option ProtocolError
  | .sent _ request (.error failure) => if failure.isTransient && !request.liftsFreeze then some failure else none
  | .reopened _ (.error failure) => if failure.isTransient then some failure else none
  | _ => none

/-- A report while a session goes on. -/
def isProgress : Event ι → Bool
  | ⟨.report report, _⟩ => report.phase ≠ .finished
  | _ => false

/-- The end of the freeze does not count. -/
theorem failure?_of_liftsFreeze {link : ι} {request : Request} {r : Except ProtocolError Reply}
    (h : request.liftsFreeze = true) : (sent link request r).failure? = none := by
  cases r with
  | ok _ => rfl
  | error failure => simp only [failure?, h, Bool.not_true, Bool.and_false, Bool.false_eq_true, if_false]

end Event

/-! ## Attempts -/

theorem SyncError.transient?_eq_some {failure : SyncError} {last : ProtocolError} (h : failure.transient? = some last) :
    ∃ reason, failure = .protocol (.transport reason) ∧ last = .transport reason := by
  unfold transient? at h
  split at h
  · split at h
    · obtain rfl := Option.some.inj h
      rename_i failure htransient
      cases failure <;> first | exact ⟨_, rfl, rfl⟩ | cases htransient
    · cases h
  · cases h

namespace Action

variable {inv : σ → Trace ι → Prop}

/-- How an attempt fails: with the failure of a connection, which is the latest event, or for another reason, which
    is not that attempts are exhausted. -/
def Fell (inv : σ → Trace ι → Prop) (failure : SyncError) (s : σ) (w : Trace ι) : Prop :=
  match failure.transient? with
  | some last => ∃ event earlier, w = event :: earlier ∧ event.failure? = some last ∧ inv s earlier
  | none => inv s w ∧ ∀ attempts last, failure ≠ .retriesExhausted attempts last

theorem Fell.cases {failure : SyncError} {s : σ} {w : Trace ι} (h : Fell inv failure s w) :
    (failure.transient? = none ∧ inv s w ∧ ∀ attempts last, failure ≠ .retriesExhausted attempts last) ∨
      ∃ last event earlier, failure.transient? = some last ∧ w = event :: earlier ∧ event.failure? = some last ∧
        inv s earlier := by
  unfold Fell at h
  cases htransient : failure.transient? with
  | none =>
    rw [htransient] at h
    exact Or.inl ⟨rfl, h⟩
  | some last =>
    rw [htransient] at h
    obtain ⟨event, earlier, hw, hevent, hinv⟩ := h
    exact Or.inr ⟨last, event, earlier, rfl, hw, hevent, hinv⟩

theorem Fell.mono {inv' : σ → Trace ι → Prop} {failure : SyncError} {s : σ} {w : Trace ι}
    (h : Fell inv failure s w) (himp : ∀ w, inv s w → inv' s w) : Fell inv' failure s w := by
  unfold Fell
  rcases h.cases with ⟨htransient, hinv, hexhausted⟩ | ⟨last, event, earlier, htransient, rfl, hevent, hinv⟩
  · rw [htransient]
    exact ⟨himp w hinv, hexhausted⟩
  · rw [htransient]
    exact ⟨event, earlier, rfl, hevent, himp earlier hinv⟩

/-- An action that keeps an invariant until its connection fails. -/
def Attempts (inv : σ → Trace ι → Prop) (x : Action σ ι α) : Prop :=
  ∀ s w, inv s w → Ensures recording (fun _ => True) x (fun _ => inv) (Fell inv) s w

namespace Attempts

theorem pure (a : α) : Attempts inv (pure a) := fun _ _ h => h

theorem throw {failure : SyncError} (hfinal : failure.transient? = none)
    (hexhausted : ∀ attempts last, failure ≠ .retriesExhausted attempts last) :
    Attempts inv (throw failure : Action σ ι α) := by
  intro s w h
  rw [ensures_throw, Fell, hfinal]
  exact ⟨h, hexhausted⟩

theorem bind {x : Action σ ι β} {f : β → Action σ ι α} (hx : Attempts inv x)
    (hf : ∀ b, Attempts inv (f b)) : Attempts inv (x >>= f) :=
  fun s w h => (hx s w h).andThen fun b => hf b

theorem bind_get {f : σ → Action σ ι α} (hf : ∀ s, Attempts inv (f s)) : Attempts inv (get >>= f) := by
  intro s w h
  rw [ensures_bind, ensures_get]
  exact hf s s w h

/-- What goes on after a failure passes on the failure of a connection. -/
theorem bind_attempt {x : Action σ ι β} {f : Except SyncError β → Action σ ι α} (hx : Attempts inv x)
    (hok : ∀ b, Attempts inv (f (.ok b)))
    (herror : ∀ failure, failure.transient? = none →
      (∀ attempts last, failure ≠ .retriesExhausted attempts last) → Attempts inv (f (.error failure)))
    (hpass : ∀ reason, f (.error (.protocol (.transport reason))) =
      MonadExcept.throw (.protocol (.transport reason))) :
    Attempts inv (attempt x >>= f) := by
  intro s w h
  rw [ensures_bind, ensures_attempt]
  refine (hx s w h).mono (fun b s' w' h' => hok b s' w' h') fun failure s' w' hfell => ?_
  rcases hfell.cases with ⟨htransient, h', hexhausted⟩ | ⟨last, _, _, htransient, -⟩
  · exact herror failure htransient hexhausted s' w' h'
  · obtain ⟨reason, rfl, rfl⟩ := SyncError.transient?_eq_some htransient
    rw [hpass]
    exact hfell

end Attempts

end Action

open SegmentSync.Action (Attempts Fell)

/-! ## Logins -/

namespace Client

variable {inv : Client ι → Trace ι → Prop}

/-- An invariant of an attempt of a client: no event but the failure of a connection breaks it. -/
structure Enduring (inv : Client ι → Trace ι → Prop) : Prop where
  authenticated : ∀ c w authenticated, inv c w → inv { c with authenticated } w
  quiet : ∀ c w event, inv c w → event.failure? = none → event.isProgress = false → inv c (event :: w)

theorem attempts_call (h : Enduring inv) {request : Request} (hrequest : request.liftsFreeze = false) :
    Attempts inv (call request) := by
  intro c w hinv
  refine ensures_call (fun _ => ⟨hinv, nofun⟩) fun r w' hw' => ?_
  subst hw'
  cases r with
  | ok reply =>
    have hinv' : inv c (.sent c.link request (.ok reply) :: w) := h.quiet c w _ hinv rfl rfl
    refine ⟨trivial, ?_⟩
    dsimp only [Except.bind]
    cases hanswer : Answer.ofReply request.command reply with
    | ok answer => exact hinv'
    | error failure =>
      obtain ⟨_, rfl⟩ := ofReply_eq_error hanswer
      exact ⟨hinv', nofun⟩
  | error failure =>
    have hevent : (Event.sent c.link request (.error failure)).failure? =
        if failure.isTransient then some failure else none := by
      simp only [Event.failure?, hrequest, Bool.not_false, Bool.and_true]
    cases failure with
    | transport reason => exact ⟨trivial, _, w, rfl, hevent, hinv⟩
    | eof | server _ | unexpectedReply _ _ => exact ⟨trivial, h.quiet c w _ hinv hevent rfl, nofun⟩

theorem attempts_callFor (h : Enduring inv) {request : Request} (hrequest : request.liftsFreeze = false)
    (shape : Answer → Option α) : Attempts inv (callFor request shape) := by
  refine (attempts_call h hrequest).bind fun answer => ?_
  split
  · exact .pure _
  · exact .throw rfl nofun

theorem attempts_note (h : Enduring inv) (level : Level) (line : String) : Attempts inv (note level line) := by
  intro c w hinv
  refine ensures_note fun line w' hw' => ?_
  subst hw'
  exact ⟨trivial, h.quiet c w _ hinv rfl rfl⟩

theorem attempts_setAuthenticated (h : Enduring inv) (authenticated : Bool) :
    Attempts inv (setAuthenticated authenticated) := fun c w hinv => h.authenticated c w authenticated hinv

theorem attempts_granted (h : Enduring inv) {request : Request} (hrequest : request.liftsFreeze = false) :
    Attempts inv (granted request) := by
  have hrefused : ∀ reason : String, Attempts inv (do
      note .debug (request.command.name ++ " rejected: " ++ reason); return false) :=
    fun reason => (attempts_note h _ _).bind fun _ => .pure _
  refine (attempts_call h hrequest).bind_attempt (fun answer => ?_) (fun failure hfinal hexhausted => ?_) fun _ => rfl
  · split
    · exact .pure _
    · exact hrefused _
    · contradiction
    · contradiction
    · contradiction
  · split
    · contradiction
    · contradiction
    · exact hrefused _
    · exact hrefused _
    · cases ‹Except.error _ = Except.error _›
      exact .throw hfinal hexhausted

theorem attempts_authenticate (h : Enduring inv) (password : String) : Attempts inv (authenticate password) := by
  refine (attempts_setAuthenticated h false).bind fun _ => ?_
  refine (attempts_callFor h rfl text?).bind_attempt (fun challenge => ?_) (fun failure hfinal hexhausted => ?_)
    fun _ => rfl
  · refine (attempts_granted h rfl).bind fun accepted => ?_
    split
    · exact (attempts_note h _ _).bind fun _ => .pure _
    · refine .bind_get fun c => (attempts_granted h rfl).bind fun selected => ?_
      split
      · exact (attempts_note h _ _).bind fun _ => .pure _
      · exact (attempts_setAuthenticated h true).bind fun _ => (attempts_note h _ _).bind fun _ => .pure _
  · dsimp only
    split
    · exact (attempts_note h _ _).bind fun _ => .pure _
    · cases ‹Except.error _ = Except.error _›
      exact .throw hfinal hexhausted
    · contradiction

theorem attempts_establish (h : Enduring inv) : Attempts inv establish := by
  refine .bind_get fun c => ?_
  have hend : ∀ accepted : Bool, Attempts inv (if !accepted then throw (.auth (.refused c.target)) else pure ()) := by
    intro accepted
    split
    · exact .throw rfl nofun
    · exact .pure _
  dsimp only
  split
  · exact (attempts_authenticate h _).bind hend
  · refine (attempts_granted h rfl).bind fun selected => ?_
    exact (attempts_setAuthenticated h selected).bind fun _ => hend selected

theorem attempts_reconnect (h : Enduring inv) : Attempts inv reconnect := by
  refine (attempts_setAuthenticated h false).bind fun _ => .bind_get fun client => ?_
  intro c w hinv
  rw [Action.ensures_bind]
  intro r w' hw'
  subst hw'
  cases r with
  | ok _ => exact ⟨trivial, h.quiet c w _ hinv rfl rfl⟩
  | error failure =>
    have hevent : (Event.reopened client.link (.error failure)).failure? =
        if failure.isTransient then some failure else none := rfl
    cases failure with
    | transport reason => exact ⟨trivial, _, w, rfl, hevent, hinv⟩
    | eof | server _ | unexpectedReply _ _ => exact ⟨trivial, h.quiet c w _ hinv hevent rfl, nofun⟩

theorem attempts_connect (h : Enduring inv) : Attempts inv connect :=
  (attempts_reconnect h).bind fun _ => attempts_establish h

end Client

/-! ## Steps -/

namespace Session

variable {inv inv' inv₁ inv₂ : Session ι → Trace ι → Prop}

/-- An invariant of an attempt of a session: it depends on no login, and no event but the failure of a connection
    breaks it. -/
structure Undeterred (inv : Session ι → Trace ι → Prop) : Prop where
  master : ∀ (s : Session ι) w authenticated, inv s w → inv { s with master := { s.master with authenticated } } w
  slave : ∀ (s : Session ι) w authenticated, inv s w → inv { s with slave := { s.slave with authenticated } } w
  quiet : ∀ s w event, inv s w → event.failure? = none → event.isProgress = false → inv s (event :: w)

/-- What holds after the master has been read. -/
def MasterRead (inv inv' : Session ι → Trace ι → Prop) : Prop :=
  ∀ (s : Session ι) w snapshot, inv s w → inv' { s with lastMaster := some snapshot } w

/-- What holds after the slave has been read. -/
def SlaveRead (inv inv' : Session ι → Trace ι → Prop) : Prop :=
  ∀ (s : Session ι) w snapshot, inv s w → inv' { s with lastSlave := some snapshot } w

/-- An attempt after which more holds than before. -/
abbrev Leads (inv inv' : Session ι → Trace ι → Prop) (x : Action (Session ι) ι α) : Prop :=
  ∀ s w, inv s w → Action.Ensures recording (fun _ => True) x (fun _ => inv') (Fell inv) s w

theorem attempts_onMaster (h : Undeterred inv) {x : Action (Client ι) ι α}
    (hx : ∀ inv : Client ι → Trace ι → Prop, Client.Enduring inv → Attempts inv x) : Attempts inv (onMaster x) := by
  intro s w hinv
  have henduring : Client.Enduring fun c w => inv { s with master := c } w :=
    { authenticated := fun c w => h.master { s with master := c } w
      quiet := fun c => h.quiet { s with master := c } }
  exact (Action.ensures_focus _ _ _ _).mpr (hx _ henduring s.master w hinv)

theorem attempts_onSlave (h : Undeterred inv) {x : Action (Client ι) ι α}
    (hx : ∀ inv : Client ι → Trace ι → Prop, Client.Enduring inv → Attempts inv x) : Attempts inv (onSlave x) := by
  intro s w hinv
  have henduring : Client.Enduring fun c w => inv { s with slave := c } w :=
    { authenticated := fun c w => h.slave { s with slave := c } w
      quiet := fun c => h.quiet { s with slave := c } }
  exact (Action.ensures_focus _ _ _ _).mpr (hx _ henduring s.slave w hinv)

theorem attempts_log (h : Undeterred inv) (level : Level) (line : String) :
    Attempts inv (Action.log level line) := by
  intro s w hinv _ w' hw'
  subst hw'
  exact ⟨trivial, h.quiet s w _ hinv rfl rfl⟩

/-- **Opening both sides again is an attempt.** -/
theorem attempts_reopen (h : Undeterred inv) : Attempts inv reopen :=
  (attempts_onMaster h fun _ => Client.attempts_connect).bind fun _ =>
    attempts_onSlave h fun _ => Client.attempts_connect

theorem leads_masterInfo (h : Undeterred inv) (hread : MasterRead inv inv') : Leads inv inv' masterInfo := by
  intro s w hinv
  have hinfo : Attempts inv (onMaster (Client.namespaceInfo s.space)) :=
    attempts_onMaster h fun _ hinv => Client.attempts_callFor hinv rfl _
  unfold masterInfo
  rw [Action.ensures_bind, Action.ensures_get]
  exact (hinfo s w hinv).andThen fun snapshot s₁ w₁ hinv₁ => hread s₁ w₁ snapshot hinv₁

theorem leads_slaveInfo (h : Undeterred inv) (hread : SlaveRead inv inv') : Leads inv inv' slaveInfo := by
  intro s w hinv
  have hinfo : Attempts inv (onSlave (Client.namespaceInfo s.space)) :=
    attempts_onSlave h fun _ hinv => Client.attempts_callFor hinv rfl _
  unfold slaveInfo
  rw [Action.ensures_bind, Action.ensures_get]
  refine (hinfo s w hinv).andThen fun snapshot s₁ w₁ hinv₁ => ?_
  rw [Action.ensures_bind, Action.ensures_get]
  dsimp only
  split
  · exact ⟨hinv₁, nofun⟩
  · exact hread s₁ w₁ snapshot hinv₁

theorem attempts_acknowledged (h : Undeterred inv) (fault : String → IntegrityFault)
    {x : Action (Client ι) ι α} (hx : ∀ inv : Client ι → Trace ι → Prop, Client.Enduring inv → Attempts inv x) :
    Attempts inv (acknowledged fault x) := by
  refine (attempts_onSlave h hx).bind_attempt (fun value => .pure _) (fun failure hfinal hexhausted => ?_) fun _ => rfl
  split
  · contradiction
  · exact .throw rfl nofun
  · exact .throw rfl nofun
  · cases ‹Except.error _ = Except.error _›
    exact .throw hfinal hexhausted

theorem attempts_replay (h : Undeterred inv) (entry : Record) : Attempts inv (replay entry) := by
  unfold replay
  dsimp only
  split
  · refine (attempts_acknowledged h _ fun _ hinv => Client.attempts_callFor hinv rfl _).bind fun _ => .pure _
  · refine (attempts_acknowledged h _ fun _ hinv => Client.attempts_callFor hinv rfl _).bind fun echo => ?_
    split
    · exact .throw rfl nofun
    · exact .pure _

theorem attempts_jumpSegment (h : Undeterred inv) : Attempts inv (onSlave Client.jumpSegment) :=
  attempts_onSlave h fun _ hinv => (Client.attempts_note hinv _ _).bind fun _ => Client.attempts_callFor hinv rfl _

theorem attempts_advance (h : Undeterred inv) (at_ : Position) : Attempts inv (advance at_) := by
  refine (attempts_onMaster h fun _ hinv => Client.attempts_callFor hinv rfl _).bind_attempt (fun entry => ?_)
    (fun failure hfinal hexhausted => ?_) fun _ => rfl
  · dsimp only
    split
    · exact .throw rfl nofun
    · exact attempts_replay h entry
  · dsimp only
    split
    · exact (attempts_log h _ _).bind fun _ => (attempts_jumpSegment h).bind fun _ => .pure _
    · exact .throw hfinal hexhausted

/-- **A step is an attempt**, after which both sides have been read. -/
theorem leads_step (h : Undeterred inv) (h₁ : Undeterred inv₁) (h₂ : Undeterred inv₂)
    (hmaster : MasterRead inv inv₁) (hslave : SlaveRead inv₁ inv₂) (hinv₁ : ∀ s w, inv₁ s w → inv s w)
    (hinv₂ : ∀ s w, inv₂ s w → inv s w) : Leads inv inv₂ step := by
  intro s w hs
  unfold step
  refine (leads_masterInfo h hmaster s w hs).andThen fun master s₁ w₁ hs₁ => ?_
  have hread : Action.Ensures recording (fun _ => True) slaveInfo (fun _ => inv₂) (Fell inv) s₁ w₁ :=
    (leads_slaveInfo h₁ hslave s₁ w₁ hs₁).mono (fun _ _ _ hs₂ => hs₂)
      fun _ s₂ _ hfell => Fell.mono hfell (hinv₁ s₂)
  refine hread.andThen fun slave s₂ w₂ hs₂ => ?_
  split
  · exact ⟨hinv₂ s₂ w₂ hs₂, nofun⟩
  · exact hs₂
  · exact (attempts_advance h₂ _ s₂ w₂ hs₂).mono (fun _ _ _ hs₃ => hs₃)
      fun _ s₃ _ hfell => Fell.mono hfell (hinv₂ s₃)

/-- **So is the preparation of a copy**, after which the master has been read. -/
theorem leads_prepare (h : Undeterred inv) (h₁ : Undeterred inv₁) (hmaster : MasterRead inv inv₁)
    (hslave : SlaveRead inv₁ inv₁) (hinv₁ : ∀ s w, inv₁ s w → inv s w) : Leads inv inv₁ prepare := by
  intro s w hs
  have hfreeze : Attempts inv (onSlave (Client.setFreeze s.space true)) :=
    attempts_onSlave h fun _ hinv => (Client.attempts_note hinv _ _).bind fun _ =>
      Client.attempts_callFor hinv rfl _
  unfold prepare
  rw [Action.ensures_bind, Action.ensures_get]
  refine (hfreeze s w hs).andThen fun _ s₁ w₁ hs₁ => ?_
  refine (leads_masterInfo h hmaster s₁ w₁ hs₁).andThen fun master s₂ w₂ hs₂ => ?_
  have hread : Action.Ensures recording (fun _ => True) slaveInfo (fun _ => inv₁) (Fell inv) s₂ w₂ :=
    (leads_slaveInfo h₁ hslave s₂ w₂ hs₂).mono (fun _ _ _ hs₃ => hs₃)
      fun _ s₃ _ hfell => Fell.mono hfell (hinv₁ s₃)
  refine hread.andThen fun slave s₃ w₃ hs₃ => ?_
  split
  · exact ⟨hinv₁ s₃ w₃ hs₃, nofun⟩
  · exact hs₃
  · exact hs₃

theorem attempts_endOfSegment (h : Undeterred inv) (baseline at_ : Position) :
    Attempts inv (endOfSegment baseline at_) := by
  unfold endOfSegment
  dsimp only
  split
  · split
    · exact (attempts_log h _ _).bind fun _ => .pure _
    · exact .pure _
  · split
    · exact .throw rfl nofun
    · exact (attempts_log h _ _).bind fun _ => (attempts_jumpSegment h).bind fun _ => .pure _

/-- **And a step of a copy**, after which the slave has been read. -/
theorem leads_copyStep (h : Undeterred inv) (h₁ : Undeterred inv₁) (hslave : SlaveRead inv inv₁)
    (hinv₁ : ∀ s w, inv₁ s w → inv s w) (baseline : Snapshot) : Leads inv inv₁ (copyStep baseline) := by
  intro s w hs
  unfold copyStep
  refine (leads_slaveInfo h hslave s w hs).andThen fun snapshot s₁ w₁ hs₁ => ?_
  have hexport : Attempts inv₁ (onMaster (Client.exportSegment snapshot.position)) :=
    attempts_onMaster h₁ fun _ hinv => Client.attempts_callFor hinv rfl _
  refine Action.Ensures.mono (hexport.bind_attempt (fun blob => ?_) (fun failure hfinal hexhausted => ?_)
    (fun _ => rfl) s₁ w₁ hs₁) (fun _ _ _ hs₂ => hs₂) fun _ s₂ _ hfell => Fell.mono hfell (hinv₁ s₂)
  · exact (attempts_onSlave h₁ fun _ hinv => Client.attempts_callFor hinv rfl _).bind fun _ => .pure _
  · dsimp only
    split
    · exact attempts_endOfSegment h₁ _ _
    · exact .throw hfinal hexhausted

/-! ## The end of the freeze -/

/-- How the request to end the freeze fails. It is not an attempt: the failure of its connection breaks nothing. -/
structure Unlifted (inv : Session ι → Trace ι → Prop) (link : ι) (space : String) (failure : SyncError)
    (s : Session ι) (w : Trace ι) : Prop where
  kept : inv s w
  notExhausted : ∀ attempts last, failure ≠ .retriesExhausted attempts last
  transient : ∀ last, failure.transient? = some last →
    ∃ earlier, w = .sent link (.nsFreeze space false) (.error last) :: earlier ∧ inv s earlier

theorem ensures_liftFreeze {s : Session ι} {w : Trace ι} (hinv : inv s w)
    (hlog : ∀ level line w, inv s w → inv s (⟨.log level line, ()⟩ :: w))
    (hsent : ∀ r w, inv s w → inv s (.sent s.slave.link (.nsFreeze s.space false) r :: w)) :
    Action.Ensures recording (fun _ => True) (onSlave (Client.setFreeze s.space false)) (fun _ => inv)
      (Unlifted inv s.slave.link s.space) s w := by
  refine (Action.ensures_focus _ _ _ _).mpr ?_
  unfold Client.setFreeze
  rw [Action.ensures_bind]
  refine Client.ensures_note fun line w' hw' => ⟨trivial, ?_⟩
  have hinv' : inv s w' := hw' ▸ hlog _ _ w hinv
  refine Client.ensures_callFor (fun _ => ⟨hinv', nofun, nofun⟩) fun r w'' hw'' => ⟨trivial, ?_⟩
  have hinv'' : inv s w'' := hw'' ▸ hsent r w' hinv'
  cases hreading : Client.reading (.nsFreeze s.space false) Client.ack? r with
  | ok _ => exact hinv''
  | error failure =>
    refine ⟨hinv'', nofun, fun last hlast => ?_⟩
    obtain ⟨reason, hreason, rfl⟩ := SyncError.transient?_eq_some hlast
    cases hreason
    exact ⟨w', Client.reading_eq_transport hreading ▸ hw'', hinv'⟩

end Session

end SegmentSync
