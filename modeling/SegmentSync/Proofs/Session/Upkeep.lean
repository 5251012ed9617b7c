import SegmentSync.Proofs.Client.Login
import SegmentSync.Proofs.Session.Course

/-!
# `SegmentSync.Proofs.Session.Upkeep` — what a session does beside its steps

Between its steps a session recovers from failures, reports, and looks at the stop signal. An invariant that none of
this disturbs is kept by a whole run as soon as the steps keep it, so that whoever reasons about a session has its
steps to look at only.

## Contents
- **Recovering.** `Session.Recoverable` is an invariant that recovering does not disturb; it is kept by `recover`,
  which fails in certain ways only (`Session.RecoveryFailure`).
- **Reporting.** `Session.Reportable` is one that reports do not disturb.
- **Runs.** `Session.Unaffected` is one that neither does. What the steps keep of it, a run keeps
  (`Unaffected.leads`, `Unaffected.course`).
-/

namespace SegmentSync.Session

open SegmentSync.Action (Maintains)

variable {ι α ω : Type} {env : Environment ι ω} {safe : ω → Prop} {inv : Session ι → ω → Prop}
  {may : SyncError → Prop}

/-! ## Recovering -/

/-- The effects that a session asks for while it recovers. -/
inductive AsksToRecover (session : Session ι) : Effect ι → Prop where
  | master {effect : Effect ι} (h : session.master.AsksToConnect effect) : AsksToRecover session effect
  | slave {effect : Effect ι} (h : session.slave.AsksToConnect effect) : AsksToRecover session effect
  | pause {effect : Effect ι} (h : effect.InPause) : AsksToRecover session effect

theorem AsksToRecover.log {session : Session ι} (level : Level) (line : String) :
    session.AsksToRecover (.log level line) := .master (.log level line)

/-- The failures of recovering: a login failed for good, or the budget is spent, or failures can be counted no more. -/
inductive RecoveryFailure : SyncError → Prop where
  | login {failure : SyncError} (h : Client.LoginFailure failure) (hfinal : failure.transient? = none) :
    RecoveryFailure failure
  | exhausted (attempts : Nat) (last : ProtocolError) : RecoveryFailure (.retriesExhausted attempts last)
  | overflow : RecoveryFailure .overflow

/-- An invariant that depends neither on logins nor on what is known about failures, and that none of the
    effects of recovering breaks. -/
structure Recoverable (env : Environment ι ω) (safe : ω → Prop) (inv : Session ι → ω → Prop) : Prop where
  master : ∀ (s : Session ι) w authenticated, inv s w →
    inv { s with master := { s.master with authenticated } } w
  slave : ∀ (s : Session ι) w authenticated, inv s w → inv { s with slave := { s.slave with authenticated } } w
  failures : ∀ (s : Session ι) w failures backoff, inv s w → inv { s with failures, backoff } w
  effect : ∀ s w effect answer w', inv s w → s.AsksToRecover effect → env w effect answer w' → safe w' ∧ inv s w'

namespace Recoverable

theorem log (h : Recoverable env safe inv) {s : Session ι} {w w' : ω} {level : Level} {line : String} (hinv : inv s w)
    (hlog : env w (.log level line) () w') : safe w' ∧ inv s w' :=
  h.effect s w (.log level line) () w' hinv (.log level line) hlog

theorem sleep (h : Recoverable env safe inv) (time : Duration) :
    Maintains env safe inv (fun _ => False) (Action.sleep time) := by
  intro s w hinv
  refine Action.ensures_sleep_of_inPause (fun s w effect answer w' hinv hpause henv => ?_) hinv time
  exact h.effect s w effect answer w' hinv (.pause hpause) henv

theorem undisturbedMaster (h : Recoverable env safe inv) (s : Session ι) :
    Client.Undisturbed env safe fun c w => inv { s with master := c } w where
  authenticated := fun c w authenticated => h.master { s with master := c } w authenticated
  effect := fun _ w effect answer w' hinv hasks => h.effect _ w effect answer w' hinv (.master hasks)

theorem undisturbedSlave (h : Recoverable env safe inv) (s : Session ι) :
    Client.Undisturbed env safe fun c w => inv { s with slave := c } w where
  authenticated := fun c w authenticated => h.slave { s with slave := c } w authenticated
  effect := fun _ w effect answer w' hinv hasks => h.effect _ w effect answer w' hinv (.slave hasks)

theorem reopen (h : Recoverable env safe inv) : Maintains env safe inv Client.LoginFailure reopen := by
  refine Maintains.bind (.focus (fun _ => rfl) fun s => ?_) fun _ => .focus (fun _ => rfl) fun s => ?_
  · exact Client.maintains_connect (h.undisturbedMaster s)
  · exact Client.maintains_connect (h.undisturbedSlave s)

theorem recoverWithin (h : Recoverable env safe inv) (budget : Nat) (last : ProtocolError) :
    Maintains env safe inv RecoveryFailure (recoverWithin budget last) := by
  -- Induction on the attempts that are left; each one has the failure of the one before to report.
  induction budget generalizing last with
  | zero =>
    intro s w hinv
    refine ensures_recoverWithin_zero (fun _ => ?_) fun _ => ⟨hinv, .overflow⟩
    exact ⟨h.failures s w _ _ hinv, .exhausted _ _⟩
  | succ budget ih =>
    intro s w hinv
    refine ensures_recoverWithin_succ (fun _ => ⟨hinv, .overflow⟩) fun _ line w₁ hlog => ?_
    have hpaused := h.failures s w (s.failures + 1) s.backoff.next.2 hinv
    obtain ⟨hsafe₁, hinv₁⟩ := h.log hpaused hlog
    refine ⟨hsafe₁, (h.sleep _ _ w₁ hinv₁).mono (fun isStopped s₂ w₂ hinv₂ => ?_) fun _ _ _ hfail => hfail.2.elim⟩
    cases isStopped with
    | true => exact hinv₂
    | false =>
      refine (h.reopen s₂ w₂ hinv₂).mono (fun _ s₃ w₃ hinv₃ line w₄ hlog => ?_) fun failure s₃ w₃ hfailed => ?_
      · exact h.log hinv₃ hlog
      · unfold Failing
        cases hfinal : failure.transient? with
        | none => exact ⟨hfailed.1, .login hfailed.2 hfinal⟩
        | some last =>
          intro line w₄ hlog
          obtain ⟨hsafe₄, hinv₄⟩ := h.log hfailed.1 hlog
          exact ⟨hsafe₄, ih last s₃ w₄ hinv₄⟩

theorem recover (h : Recoverable env safe inv) (failure : ProtocolError) :
    Maintains env safe inv RecoveryFailure (recover failure) :=
  .bind_get fun _ _ _ => h.recoverWithin _ failure

end Recoverable

/-! ## Reporting -/

/-- A pair of readings is the latest one of each side. -/
theorem snapshots_eq_some {s : Session ι} {current : PairSnapshot} :
    s.snapshots = some current ↔ s.lastMaster = some current.master ∧ s.lastSlave = some current.slave := by
  obtain ⟨master, slave⟩ := current
  unfold snapshots
  cases s.lastMaster <;> cases s.lastSlave <;> simp

/-- The effects that a session asks for while it reports, or looks at the stop signal. -/
inductive AsksToReport (s : Session ι) : Effect ι → Prop where
  | log (level : Level) (line : String) : AsksToReport s (.log level line)
  | clock : AsksToReport s .clock
  | report {previous current : PairSnapshot} {elapsed : Duration} {phase : Phase} (h : s.snapshots = some current) :
    AsksToReport s (.report (Progress.report previous current elapsed phase))
  | stopRequested : AsksToReport s .stopRequested

/-- An invariant that reports do not disturb, nor that past failures are forgotten. -/
structure Reportable (env : Environment ι ω) (safe : ω → Prop) (inv : Session ι → ω → Prop) : Prop where
  failures : ∀ (s : Session ι) w failures backoff, inv s w → inv { s with failures, backoff } w
  reported : ∀ (s : Session ι) w reported, inv s w → inv { s with reported } w
  reporting : ∀ s w effect answer w', inv s w → s.AsksToReport effect → env w effect answer w' → safe w' ∧ inv s w'

namespace Reportable

theorem succeeded (h : Reportable env safe inv) : Maintains env safe inv may succeeded := by
  intro s w hinv
  unfold Session.succeeded
  rw [Action.ensures_bind, Action.ensures_get]
  dsimp only
  split
  · rw [Action.ensures_bind]
    intro answer w' henv
    obtain ⟨hsafe, hinv'⟩ := h.reporting s w _ answer w' hinv (.log _ _) henv
    exact ⟨hsafe, h.failures s w' _ _ hinv'⟩
  · exact h.failures s w _ _ hinv

theorem emit (h : Reportable env safe inv) (phase : Phase) : Maintains env safe inv may (emit phase) := by
  intro s w hinv
  unfold Session.emit
  rw [Action.ensures_bind, Action.ensures_get]
  cases hsnapshots : s.snapshots with
  | none => exact hinv
  | some current =>
    rw [Action.ensures_bind]
    intro now w₁ hclock
    obtain ⟨hsafe₁, hinv₁⟩ := h.reporting s w .clock now w₁ hinv .clock hclock
    refine ⟨hsafe₁, (Action.ensures_bind _ _).mpr fun answer w₂ hreport => ?_⟩
    obtain ⟨hsafe₂, hinv₂⟩ := h.reporting s w₁ _ answer w₂ hinv₁ (.report hsnapshots) hreport
    exact ⟨hsafe₂, h.reported s w₂ _ hinv₂⟩

/-- A report on progress keeps it, and so does forgetting past failures before. -/
theorem progresses {ended : SyncError → Session ι → ω → Prop} (h : Reportable env safe inv) (phase : Phase) :
    Progresses env safe inv ended phase inv := by
  have hnever : ∀ failure s w, inv s w ∧ False → ended failure s w := fun _ _ _ hs => hs.2.elim
  intro s w hs
  refine (h.succeeded s w hs).mono (fun _ s' w' hs' => ?_) hnever
  exact (h.emit phase s' w' hs').mono (fun _ _ _ hs'' => hs'') hnever

end Reportable

/-! ## Runs -/

/-- An invariant that nothing disturbs of what a session does beside its steps. -/
structure Unaffected (env : Environment ι ω) (safe : ω → Prop) (inv : Session ι → ω → Prop) : Prop
    extends Recoverable env safe inv, Reportable env safe inv

namespace Unaffected

/-- What a session does around its steps disturbs nothing. -/
theorem around (h : Unaffected env safe inv) : Around env safe inv where
  around := fun s w effect answer w' hs hasks henv => by
    cases hasks with
    | log level line => exact h.effect s w _ answer w' hs (.log level line) henv
    | pause hpause => exact h.effect s w _ answer w' hs (.pause hpause) henv
    | clock => exact h.reporting s w _ answer w' hs .clock henv
    | finished hsnapshots => exact h.reporting s w _ answer w' hs (.report hsnapshots) henv
  reported := h.reported

/-- Two of them hold together, whatever states each of them calls safe. -/
theorem and {safe' : ω → Prop} {inv' : Session ι → ω → Prop} (h : Unaffected env safe inv)
    (h' : Unaffected env safe' inv') : Unaffected env (fun _ => True) fun s w => inv s w ∧ inv' s w where
  master := fun s w authenticated hs => ⟨h.master s w authenticated hs.1, h'.master s w authenticated hs.2⟩
  slave := fun s w authenticated hs => ⟨h.slave s w authenticated hs.1, h'.slave s w authenticated hs.2⟩
  failures := fun s w failures backoff hs => ⟨h.failures s w _ _ hs.1, h'.failures s w _ _ hs.2⟩
  reported := fun s w reported hs => ⟨h.reported s w _ hs.1, h'.reported s w _ hs.2⟩
  effect := by
    intro s w effect answer w' hs hasks henv
    have hnext := (h.effect s w effect answer w' hs.1 hasks henv).2
    have hnext' := (h'.effect s w effect answer w' hs.2 hasks henv).2
    exact ⟨trivial, hnext, hnext'⟩
  reporting := by
    intro s w effect answer w' hs hasks henv
    have hnext := (h.reporting s w effect answer w' hs.1 hasks henv).2
    have hnext' := (h'.reporting s w effect answer w' hs.2 hasks henv).2
    exact ⟨trivial, hnext, hnext'⟩

/-- **What the steps keep, a run keeps.** Where it ends, it leaves what follows from that and outlasts the last lines of
    the log. -/
theorem leads {halted : Session ι → ω → Prop} {ended : SyncError → Session ι → ω → Prop}
    (h : Unaffected env safe inv) (hhalted : Around env safe halted) (hhalts : ∀ s w, inv s w → halted s w)
    (hended : ∀ failure, RecoveryFailure failure → ∀ s w, inv s w → ended failure s w)
    (hlog : ∀ failure s w level line w', ended failure s w → env w (.log level line) () w' →
      safe w' ∧ ended failure s w') : Course env safe inv inv (fun _ => inv) ended halted where
  toAround := h.around
  halts := hhalts
  haltedAround := hhalted
  readyLog := fun _ _ _ _ _ hs henv => h.log hs henv
  endedLog := hlog
  recover := fun last s w hs => by
    refine (h.recover last s w hs).mono (fun isStopped s' w' hs' => ?_) fun failure s' w' hfailed => ?_
    · cases isStopped with
      | true => exact hhalts s' w' hs'
      | false => exact hs'
    · exact hended failure hfailed.2 s' w' hfailed.1
  progress := fun phase _ => h.toReportable.progresses phase

/-- However such a run ends, it leaves at least `rest`. -/
theorem course {rest : Session ι → ω → Prop} (h : Unaffected env safe inv) (hrest : Unaffected env safe rest)
    (hinv : ∀ s w, inv s w → rest s w) (hmay : ∀ failure, RecoveryFailure failure → may failure) :
    Course env safe inv inv (fun _ => inv) (fun failure s w => rest s w ∧ may failure) rest :=
  h.leads hrest.around hinv (fun failure hfailure s w hs => ⟨hinv s w hs, hmay failure hfailure⟩)
    fun _ _ _ _ _ _ hended henv =>
      have hlogged := hrest.log hended.1 henv
      ⟨hlogged.1, hlogged.2, hended.2⟩

/-- What keeps the invariant where it fails may be a step of such a run. -/
theorem follows {rest : Session ι → ω → Prop} {x : Action (Session ι) ι α} {post : α → Session ι → ω → Prop}
    (hinv : ∀ s w, inv s w → rest s w)
    (hx : ∀ s w, inv s w → Action.Ensures env safe x post (fun failure s w => inv s w ∧ may failure) s w) :
    Follows env safe inv (Failing (fun _ => inv) fun failure s w => rest s w ∧ may failure) x post := by
  intro s w hs
  refine (hx s w hs).mono (fun _ _ _ hs' => hs') fun failure s' w' hfailed => ?_
  unfold Failing
  cases failure.transient? with
  | some last => exact hfailed.1
  | none => exact ⟨hinv s' w' hfailed.1, hfailed.2⟩

end Unaffected

end SegmentSync.Session
