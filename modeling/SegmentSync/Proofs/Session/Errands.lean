import SegmentSync.Proofs.Session.Upkeep
import SegmentSync.Proofs.Store.Isolation

/-!
# `SegmentSync.Proofs.Session.Errands` — what a session asks for in its steps

A step reads the master, and reads the slave or tells it something, all of it about the namespace of the session. An
invariant that none of these requests breaks is kept by the steps, whatever their answers are, and with what
`Session.Unaffected` says about everything beside the steps it is kept by a run.

## Contents
- **Requests.** `Request.Reads` is what a master is asked for, `Request.Tells` what a slave is; `Session.AsksInStep`
  are the effects, and `Session.StepFailure` how a step can fail of its own.
- **Preparations.** `Session.Preparable`, an invariant that is kept while a copy is prepared (`Preparable.prepare`).
- **Steady invariants.** `Session.Steady`, one that each part of a step keeps.
- **Steps.** `Steady.step` and `Steady.copyStep`.
- **Runs.** `Steady.run`, where the end of the freeze breaks nothing either.
-/

namespace SegmentSync

/-! ## Requests -/

/-- What a slave is asked for in a step: to show or freeze the namespace of that name, or to change the selected one. -/
inductive Request.Tells (space : String) : Request → Prop where
  | nsInfo : Tells space (.nsInfo space)
  | freeze : Tells space (.nsFreeze space true)
  | nsJump : Tells space .nsJump
  | dataImport (at_ : Position) (blob : Bytes) : Tells space (.dataImport at_ blob)
  | set (key value marker : Bytes) : Tells space (.set key value marker)
  | del (key marker : Bytes) : Tells space (.del key marker)

/-- Reading a namespace changes nothing. -/
theorem Request.Reads.quiet {space : String} {request : Request} (h : request.Reads space) :
    request.command ≠ .nsSet ∧ request.command.changesLog = false := by
  cases h <;> exact ⟨nofun, rfl⟩

/-- Nor does logging in to it. -/
theorem Client.IsLogin.quiet {space : String} {request : Request} (h : IsLogin space request) :
    request.command ≠ .nsSet ∧ request.command.changesLog = false := by
  cases h <;> exact ⟨nofun, rfl⟩

/-- Nothing but the freeze sets a flag in a step. -/
theorem Request.Tells.eq_nsFreeze {space : String} {request : Request} (h : request.Tells space)
    (hset : request.command = .nsSet) : request = .nsFreeze space true := by
  cases h with
  | freeze => rfl
  | nsInfo | nsJump | dataImport _ _ | set _ _ _ | del _ _ => cases hset

namespace Session

open SegmentSync.Action (Maintains)

variable {ι α ω : Type} {env : Environment ι ω} {safe : ω → Prop} {inv : Session ι → ω → Prop}
  {may : SyncError → Prop} {s : Session ι} {w : ω}

/-- The effects that a session asks for while it prepares a copy. -/
inductive AsksToPrepare (s : Session ι) : Effect ι → Prop where
  | master {request : Request} (h : request.Reads s.space) : AsksToPrepare s (.execute s.master.link request)
  | slaveInfo : AsksToPrepare s (.execute s.slave.link (.nsInfo s.space))
  | freeze : AsksToPrepare s (.execute s.slave.link (.nsFreeze s.space true))
  | log (level : Level) (line : String) : AsksToPrepare s (.log level line)

/-- The effects that a session asks for in its steps. -/
inductive AsksInStep (s : Session ι) : Effect ι → Prop where
  | master {request : Request} (h : request.Reads s.space) : AsksInStep s (.execute s.master.link request)
  | slave {request : Request} (h : request.Tells s.space) : AsksInStep s (.execute s.slave.link request)
  | log (level : Level) (line : String) : AsksInStep s (.log level line)

theorem AsksToPrepare.inStep {effect : Effect ι} (h : s.AsksToPrepare effect) : s.AsksInStep effect := by
  cases h with
  | master hreads => exact .master hreads
  | slaveInfo => exact .slave .nsInfo
  | freeze => exact .slave .freeze
  | log level line => exact .log level line

/-- How a step can fail, unless a request is held back: a request has failed, the slave has not done what it was told,
    the cursors cannot be, or there is no next segment. -/
inductive StepFailure : SyncError → Prop where
  | protocol (failure : ProtocolError) : StepFailure (.protocol failure)
  | integrity (fault : IntegrityFault) : StepFailure (.integrity fault)
  | invariantViolation (master slave : Position) (fault : CursorFault) :
    StepFailure (.invariantViolation master slave fault)
  | segmentOverflow : StepFailure .segmentOverflow

/-! ## Preparations -/

/-- What an action ensures that keeps an invariant. -/
abbrev Stays (env : Environment ι ω) (safe : ω → Prop) (inv : Session ι → ω → Prop) (may : SyncError → Prop)
    (x : Action (Session ι) ι α) (s : Session ι) (w : ω) : Prop :=
  Action.Ensures env safe x (fun _ => inv) (fun failure s w => inv s w ∧ may failure) s w

/-- An invariant that depends on no reading, and that none of the effects of a preparation breaks. A step may fail as it
    can, and for want of a login where the invariant does not promise one. -/
structure Preparable (env : Environment ι ω) (safe : ω → Prop) (inv : Session ι → ω → Prop)
    (may : SyncError → Prop) : Prop where
  lastMaster : ∀ (s : Session ι) w lastMaster, inv s w → inv { s with lastMaster } w
  lastSlave : ∀ (s : Session ι) w lastSlave, inv s w → inv { s with lastSlave } w
  preparing : ∀ s w effect answer w', inv s w → s.AsksToPrepare effect → env w effect answer w' → safe w' ∧ inv s w'
  fails : ∀ failure, StepFailure failure → may failure
  heldMaster : ∀ (s : Session ι) w request, inv s w → s.master.holdsBack request = true →
    may (s.master.heldBack request)
  heldSlave : ∀ (s : Session ι) w request, inv s w → s.slave.holdsBack request = true → may (s.slave.heldBack request)

namespace Preparable

theorem log (h : Preparable env safe inv may) (level : Level) (line : String) :
    Maintains env safe inv may (Action.log level line) :=
  .perform fun s w answer w' hinv henv => h.preparing s w _ answer w' hinv (.log level line) henv

theorem onMaster (h : Preparable env safe inv may) (hinv : inv s w) {request : Request}
    (hreads : request.Reads s.space) (shape : Answer → Option α) :
    Stays env safe inv may (onMaster (Client.callFor request shape)) s w := by
  refine (Action.ensures_focus _ _ _ _).mpr ?_
  refine Client.ensures_callFor (fun hheld => ⟨hinv, h.heldMaster s w request hinv hheld⟩) fun r w' henv => ?_
  obtain ⟨hsafe, hinv'⟩ := h.preparing s w _ r w' hinv (.master hreads) henv
  refine ⟨hsafe, ?_⟩
  cases Client.reading request shape r with
  | ok value => exact hinv'
  | error failure => exact ⟨hinv', h.fails _ (.protocol failure)⟩

/-- The slave may be told what breaks nothing. -/
theorem onSlave (h : Preparable env safe inv may) (hinv : inv s w) {request : Request}
    (hsend : ∀ r w', env w (.execute s.slave.link request) r w' → safe w' ∧ inv s w') (shape : Answer → Option α) :
    Stays env safe inv may (onSlave (Client.callFor request shape)) s w := by
  refine (Action.ensures_focus _ _ _ _).mpr ?_
  refine Client.ensures_callFor (fun hheld => ⟨hinv, h.heldSlave s w request hinv hheld⟩) fun r w' henv => ?_
  obtain ⟨hsafe, hinv'⟩ := hsend r w' henv
  refine ⟨hsafe, ?_⟩
  cases Client.reading request shape r with
  | ok value => exact hinv'
  | error failure => exact ⟨hinv', h.fails _ (.protocol failure)⟩

/-- A client may take note of something before it is asked. -/
theorem noteOnSlave (h : Preparable env safe inv may) (hinv : inv s w) {x : Action (Client ι) ι α} (level : Level)
    (line : String) (hx : ∀ w', inv s w' → Stays env safe inv may (Session.onSlave x) s w') :
    Stays env safe inv may (Session.onSlave (Client.note level line >>= fun _ => x)) s w := by
  refine (Action.ensures_focus _ _ _ _).mpr ((Action.ensures_bind _ _).mpr ?_)
  refine Client.ensures_note fun line w' henv => ?_
  obtain ⟨hsafe, hinv'⟩ := h.preparing s w (.log level line) () w' hinv (.log level line) henv
  exact ⟨hsafe, (Action.ensures_focus _ _ _ _).mp (hx w' hinv')⟩

theorem freeze (h : Preparable env safe inv may) (hinv : inv s w) :
    Stays env safe inv may (Session.onSlave (Client.setFreeze s.space true)) s w :=
  h.noteOnSlave hinv _ _ fun w' hinv' => h.onSlave hinv' (fun r w'' => h.preparing s w' _ r w'' hinv' .freeze) _

theorem masterInfo (h : Preparable env safe inv may) : Maintains env safe inv may masterInfo := by
  intro s w hinv
  unfold Session.masterInfo
  rw [Action.ensures_bind, Action.ensures_get]
  refine (h.onMaster hinv .nsInfo _).andThen fun snapshot s₁ w₁ hinv₁ => ?_
  exact h.lastMaster s₁ w₁ _ hinv₁

theorem slaveInfo (h : Preparable env safe inv may) : Maintains env safe inv may slaveInfo := by
  intro s w hinv
  have hread : Stays env safe inv may (Session.onSlave (Client.namespaceInfo s.space)) s w :=
    h.onSlave hinv (fun r w' => h.preparing s w _ r w' hinv .slaveInfo) _
  unfold Session.slaveInfo
  rw [Action.ensures_bind, Action.ensures_get]
  refine Action.Ensures.andThen hread fun snapshot s₁ w₁ hinv₁ => ?_
  refine (Action.ensures_bind _ _).mpr ?_
  rw [Action.ensures_get]
  dsimp only
  split
  · exact ⟨hinv₁, h.fails _ (.invariantViolation _ _ _)⟩
  · exact h.lastSlave s₁ w₁ _ hinv₁

/-- What is left to prepare once the slave is frozen. -/
theorem compare (h : Preparable env safe inv may) :
    Maintains env safe inv may (do
      let baseline ← Session.masterInfo
      let slave ← Session.slaveInfo
      match Snapshot.decide baseline slave with
      | .fatal => throw (.invariantViolation baseline.position slave.position .aheadOfBaseline)
      | .wait | .advance => return baseline) := by
  refine h.masterInfo.bind fun baseline => h.slaveInfo.bind fun slave => ?_
  split
  · exact .throw (h.fails _ (.invariantViolation _ _ _))
  · exact .pure _
  · exact .pure _

/-- **The preparation of a copy keeps what none of its requests breaks.** -/
theorem prepare (h : Preparable env safe inv may) : Maintains env safe inv may prepare := by
  intro s w hinv
  unfold Session.prepare
  rw [Action.ensures_bind, Action.ensures_get]
  exact (h.freeze hinv).andThen fun _ s₁ w₁ hinv₁ => h.compare s₁ w₁ hinv₁

end Preparable

/-! ## Steady invariants -/

/-- An invariant that none of the effects of a step breaks either. -/
structure Steady (env : Environment ι ω) (safe : ω → Prop) (inv : Session ι → ω → Prop) (may : SyncError → Prop) :
    Prop where
  lastMaster : ∀ (s : Session ι) w lastMaster, inv s w → inv { s with lastMaster } w
  lastSlave : ∀ (s : Session ι) w lastSlave, inv s w → inv { s with lastSlave } w
  effect : ∀ s w effect answer w', inv s w → s.AsksInStep effect → env w effect answer w' → safe w' ∧ inv s w'
  fails : ∀ failure, StepFailure failure → may failure
  heldMaster : ∀ (s : Session ι) w request, inv s w → s.master.holdsBack request = true →
    may (s.master.heldBack request)
  heldSlave : ∀ (s : Session ι) w request, inv s w → s.slave.holdsBack request = true → may (s.slave.heldBack request)

namespace Steady

theorem preparable (h : Steady env safe inv may) : Preparable env safe inv may where
  lastMaster := h.lastMaster
  lastSlave := h.lastSlave
  preparing := fun s w effect answer w' hinv hasks => h.effect s w effect answer w' hinv hasks.inStep
  fails := h.fails
  heldMaster := h.heldMaster
  heldSlave := h.heldSlave

theorem onSlave (h : Steady env safe inv may) (hinv : inv s w) {request : Request} (htells : request.Tells s.space)
    (shape : Answer → Option α) : Stays env safe inv may (onSlave (Client.callFor request shape)) s w :=
  h.preparable.onSlave hinv (fun r w' => h.effect s w _ r w' hinv (.slave htells)) shape

theorem jumpSegment (h : Steady env safe inv may) :
    Maintains env safe inv may (Session.onSlave Client.jumpSegment) :=
  fun _ _ hinv => h.preparable.noteOnSlave hinv _ _ fun _ hinv' => h.onSlave hinv' .nsJump _

/-! ## Steps -/

theorem acknowledged (h : Steady env safe inv may) {x : Action (Client ι) ι α} (fault : String → IntegrityFault)
    (hx : Maintains env safe inv may (Session.onSlave x)) : Maintains env safe inv may (acknowledged fault x) := by
  refine hx.bind_attempt fun r hr => ?_
  split
  · exact .pure _
  · exact .throw (h.fails _ (.integrity _))
  · exact .throw (h.fails _ (.integrity _))
  · exact .throw (hr _ rfl)

theorem replay (h : Steady env safe inv may) (entry : Record) : Maintains env safe inv may (replay entry) := by
  have hset : Maintains env safe inv may
      (Session.onSlave (Client.applySet entry.key (entry.value.getD []) entry.marker)) :=
    fun _ _ hinv => h.onSlave hinv (.set _ _ _) _
  have hdelete : Maintains env safe inv may (Session.onSlave (Client.applyDelete entry.key entry.marker)) :=
    fun _ _ hinv => h.onSlave hinv (.del _ _) _
  unfold Session.replay
  dsimp only
  split
  · exact (h.acknowledged _ hdelete).bind fun _ => .pure _
  · refine (h.acknowledged _ hset).bind fun echo => ?_
    split
    · exact .throw (h.fails _ (.integrity _))
    · exact .pure _

theorem advance (h : Steady env safe inv may) (at_ : Position) : Maintains env safe inv may (advance at_) := by
  have hfetch : Maintains env safe inv may (Session.onMaster (Client.fetchRecord at_)) :=
    fun _ _ hinv => h.preparable.onMaster hinv (.dataRaw at_) _
  refine hfetch.bind_attempt fun r hr => ?_
  split
  · split
    · exact .throw (h.fails _ (.integrity _))
    · exact h.replay _
  · split
    · exact (h.preparable.log _ _).bind fun _ => h.jumpSegment.bind fun _ => .pure _
    · exact .throw (hr _ rfl)

/-- **A step keeps what none of its requests breaks.** -/
theorem step (h : Steady env safe inv may) : Maintains env safe inv may step := by
  refine h.preparable.masterInfo.bind fun master => h.preparable.slaveInfo.bind fun slave => ?_
  split
  · exact .throw (h.fails _ (.invariantViolation _ _ _))
  · exact .pure _
  · exact h.advance _

theorem endOfSegment (h : Steady env safe inv may) (baseline at_ : Position) :
    Maintains env safe inv may (endOfSegment baseline at_) := by
  unfold Session.endOfSegment
  dsimp only
  split
  · split
    · exact (h.preparable.log _ _).bind fun _ => .pure _
    · exact .pure _
  · split
    · exact .throw (h.fails _ .segmentOverflow)
    · exact (h.preparable.log _ _).bind fun _ => h.jumpSegment.bind fun _ => .pure _

/-- **So does a step of a copy.** -/
theorem copyStep (h : Steady env safe inv may) (baseline : Snapshot) :
    Maintains env safe inv may (copyStep baseline) := by
  refine h.preparable.slaveInfo.bind fun slave => ?_
  have hexport : Maintains env safe inv may (Session.onMaster (Client.exportSegment slave.position)) :=
    fun _ _ hinv => h.preparable.onMaster hinv (.dataExport slave.position) _
  refine hexport.bind_attempt fun r hr => ?_
  split
  · rename_i blob
    have himport : Maintains env safe inv may (Session.onSlave (Client.importSegment slave.position blob)) :=
      fun _ _ hinv => h.onSlave hinv (.dataImport _ _) _
    exact himport.bind fun _ => .pure _
  · split
    · exact h.endOfSegment _ _
    · exact .throw (hr _ rfl)

/-! ## Runs -/

/-- **What nothing breaks that a session asks for, a run keeps.** -/
theorem run (h : Steady env safe inv fun _ => True) (hbeside : Unaffected env safe inv)
    (hlift : ∀ (s : Session ι) w r w', inv s w →
      env w (.execute s.slave.link (.nsFreeze s.space false)) r w' → safe w' ∧ inv s w') (limit : Nat) :
    Maintains env safe inv (fun _ => True) (run limit) := by
  have hcourse : Course env safe inv inv (fun _ => inv) (fun _ s w => inv s w ∧ True) inv :=
    hbeside.course hbeside (fun _ _ hinv => hinv) fun _ _ => trivial
  have hfollows : ∀ {β : Type} {x : Action (Session ι) ι β}, Maintains env safe inv (fun _ => True) x →
      Follows env safe inv (Failing (fun _ => inv) fun _ s w => inv s w ∧ True) x fun _ => inv :=
    fun hx => Unaffected.follows (fun _ _ hinv => hinv) hx
  have hunfreeze : ∀ s w, inv s w →
      Stays env safe inv (fun _ => True) (Session.onSlave (Client.setFreeze s.space false)) s w := by
    intro s w hinv
    refine h.preparable.noteOnSlave hinv _ _ fun w' hinv' => (Action.ensures_focus _ _ _ _).mpr ?_
    refine Client.ensures_callFor (fun _ => ⟨hinv', trivial⟩) fun r w'' henv => ?_
    obtain ⟨hsafe, hinv''⟩ := hlift s w' r w'' hinv' henv
    refine ⟨hsafe, ?_⟩
    cases Client.reading (.nsFreeze s.space false) Client.ack? r with
    | ok value => exact hinv''
    | error failure => exact ⟨hinv'', trivial⟩
  intro s w hinv
  refine hcourse.run (fun _ => hinv) (fun _ => ⟨hinv, trivial⟩) (fun _ => ?_) fun _ => ?_
  · refine hcourse.runBulk (fun _ => hcourse) (hfollows h.preparable.prepare) (fun baseline => ?_)
      (fun s w hinv _ => hunfreeze s w hinv) limit
    intro s w hinv
    refine (hfollows (h.copyStep baseline) s w hinv).mono (fun result _ _ hinv' => ?_) fun _ _ _ hfailed => hfailed
    cases result <;> exact hinv'
  · exact hcourse.runIncremental (hfollows h.step) limit

end Steady

end Session

end SegmentSync
