import SegmentSync.Proofs.Program.Recorded
import SegmentSync.Proofs.Session.Errands

/-!
# `SegmentSync.Proofs.Session.Reports` — when a session reports, and what

Nothing but `emit` hands a report to the observer. So the reports of a run follow from the stages of its rounds:
a pause is reported where the latest readings of both sides are at the same place, and the last report of a run that
ends without a failure, and no other one, says that it is finished.

## Contents
- **Silence.** Neither steps nor `recover` report anything.
- **Readings.** Which actions leave the latest readings as they are, and which take new ones (`Session.Remembers`).
- **Reporting.** `Session.Reporting` is an invariant of the reports alone; what `emit` does to it.
- **Rounds.** Which reports the rounds of either kind add.
- **Waiting.** Where a run reports a pause, the sides are level (`ensures_levelWhenWaiting`).
- **Finished.** A run that ends without a failure signs off with its last report (`ensures_signedOff`).
- **A short run.** One that is stopped in its first pause (`exists_runs_paused`).
-/

namespace SegmentSync.Session

open SegmentSync.Action (Maintains)

variable {ι α ω : Type} {s s' : Session ι} {w : Trace ι}

/-! ## Silence -/

theorem report?_of_asksToConnect {c : Client ι} {effect : Effect ι} (h : c.AsksToConnect effect) :
    effect.report? = none := by
  cases h <;> rfl

theorem AsksToRecover.report? {effect : Effect ι} (h : s.AsksToRecover effect) : effect.report? = none := by
  cases h with
  | master hconnect | slave hconnect => exact report?_of_asksToConnect hconnect
  | pause hpause => cases hpause <;> rfl

theorem AsksInStep.report? {effect : Effect ι} (h : s.AsksInStep effect) : effect.report? = none := by
  cases h <;> rfl

/-! ## Readings -/

section

variable {env : Environment ι ω} {w : ω}

/-- The latest readings are the same. -/
def SameReadings (s s' : Session ι) : Prop := s'.lastMaster = s.lastMaster ∧ s'.lastSlave = s.lastSlave

theorem SameReadings.trans {s₁ s₂ : Session ι} (h : SameReadings s s₁) (h' : SameReadings s₁ s₂) : SameReadings s s₂ :=
  ⟨h'.1.trans h.1, h'.2.trans h.2⟩

theorem SameReadings.snapshots_eq (h : SameReadings s s') : s'.snapshots = s.snapshots := by
  unfold snapshots
  rw [h.1, h.2]

/-- What an action leaves of the latest readings; where it fails, they are what they were. -/
abbrev Remembers (env : Environment ι ω) (x : Action (Session ι) ι α) (post : α → Session ι → Prop) (s : Session ι)
    (w : ω) : Prop :=
  Action.Ensures env (fun _ => True) x (fun a s' _ => post a s') (fun _ s' _ => SameReadings s s') s w

/-- Nothing is asked of an action here but that it is one. -/
theorem ensures_any {σ : Type} (x : Action σ ι α) (s : σ) (w : ω) :
    Action.Ensures env (fun _ => True) x (fun _ _ _ => True) (fun _ _ _ => True) s w := by
  have hprogram : ∀ (p : Program ι (Except SyncError α × σ)) w,
      p.Ensures env (fun _ => True) (fun _ _ => True) w := by
    intro p
    induction p with
    | done _ => exact fun _ => trivial
    | ask effect next ih => exact fun w answer w' _ => ⟨trivial, ih answer w'⟩
  refine (hprogram (x s) w).mono fun result _ _ => ?_
  rcases result with ⟨_ | _, _⟩ <;> trivial

/-- What a client does is nothing to the readings. -/
theorem remembers_onMaster (x : Action (Client ι) ι α) (s : Session ι) (w : ω) :
    Remembers env (onMaster x) (fun _ s' => SameReadings s s') s w :=
  (Action.ensures_focus _ _ _ _).mpr
    ((ensures_any x s.master w).mono (fun _ _ _ _ => ⟨rfl, rfl⟩) fun _ _ _ _ => ⟨rfl, rfl⟩)

theorem remembers_onSlave (x : Action (Client ι) ι α) (s : Session ι) (w : ω) :
    Remembers env (onSlave x) (fun _ s' => SameReadings s s') s w :=
  (Action.ensures_focus _ _ _ _).mpr
    ((ensures_any x s.slave w).mono (fun _ _ _ _ => ⟨rfl, rfl⟩) fun _ _ _ _ => ⟨rfl, rfl⟩)

/-- What goes on with the same readings leaves what it leaves of them. -/
theorem Remembers.andThen {β : Type} {x : Action (Session ι) ι β} {f : β → Action (Session ι) ι α}
    {post : α → Session ι → Prop} (hx : Remembers env x (fun _ s' => SameReadings s s') s w)
    (hf : ∀ b s' w', SameReadings s s' → Remembers env (f b) post s' w') : Remembers env (x >>= f) post s w := by
  refine Action.Ensures.andThen hx fun b s₁ w₁ hsame => (hf b s₁ w₁ hsame).mono (fun _ _ _ h' => h') ?_
  exact fun _ _ _ hsame' => hsame.trans hsame'

/-- So does what goes on with a failure. -/
theorem Remembers.attempt {β : Type} {x : Action (Session ι) ι β} {f : Except SyncError β → Action (Session ι) ι α}
    {post : α → Session ι → Prop} (hx : Remembers env x (fun _ s' => SameReadings s s') s w)
    (hf : ∀ r s' w', SameReadings s s' → Remembers env (f r) post s' w') :
    Remembers env (Action.attempt x >>= f) post s w := by
  have hattempt : Remembers env (Action.attempt x) (fun _ s' => SameReadings s s') s w :=
    (Action.ensures_attempt x).mpr (hx.mono (fun _ _ _ h' => h') fun _ _ _ h' => h')
  exact hattempt.andThen hf

theorem remembers_log (level : Level) (line : String) (s : Session ι) (w : ω) :
    Remembers env (Action.log level line) (fun _ s' => SameReadings s s') s w :=
  fun _ _ _ => ⟨trivial, rfl, rfl⟩

theorem remembers_masterInfo (s : Session ι) (w : ω) :
    Remembers env masterInfo (fun snapshot s' => s'.lastMaster = some snapshot ∧ s'.lastSlave = s.lastSlave) s w := by
  unfold masterInfo
  rw [Remembers, Action.ensures_bind, Action.ensures_get]
  exact Action.Ensures.andThen (remembers_onMaster _ s w) fun _ _ _ hsame => ⟨rfl, hsame.2⟩

theorem remembers_slaveInfo (s : Session ι) (w : ω) :
    Remembers env slaveInfo (fun snapshot s' => s'.lastSlave = some snapshot ∧ s'.lastMaster = s.lastMaster) s w := by
  unfold slaveInfo
  rw [Remembers, Action.ensures_bind, Action.ensures_get]
  refine Action.Ensures.andThen (remembers_onSlave _ s w) fun snapshot s₁ w₁ hsame => ?_
  rw [Action.ensures_bind, Action.ensures_get]
  dsimp only
  split
  · exact hsame
  · exact ⟨rfl, hsame.1⟩

theorem remembers_acknowledged (fault : String → IntegrityFault) (x : Action (Client ι) ι α) (s : Session ι) (w : ω) :
    Remembers env (acknowledged fault x) (fun _ s' => SameReadings s s') s w := by
  refine (remembers_onSlave x s w).attempt fun result s₁ w₁ hsame => ?_
  split
  · exact hsame
  · exact ⟨rfl, rfl⟩
  · exact ⟨rfl, rfl⟩
  · exact ⟨rfl, rfl⟩

theorem remembers_replay (entry : Record) (s : Session ι) (w : ω) :
    Remembers env (replay entry) (fun result s' => result ≠ .idle ∧ SameReadings s s') s w := by
  unfold replay
  dsimp only
  split
  · exact (remembers_acknowledged _ _ s w).andThen fun _ _ _ hsame => ⟨nofun, hsame⟩
  · refine (remembers_acknowledged _ _ s w).andThen fun echo s₁ w₁ hsame => ?_
    split
    · exact ⟨rfl, rfl⟩
    · exact ⟨nofun, hsame⟩

/-- A slave that is brought closer has not been read again. -/
theorem remembers_advance (at_ : Position) (s : Session ι) (w : ω) :
    Remembers env (advance at_) (fun result s' => result ≠ .idle ∧ SameReadings s s') s w := by
  unfold advance
  refine (remembers_onMaster _ s w).attempt fun result s₁ w₁ hsame => ?_
  split
  · split
    · exact ⟨rfl, rfl⟩
    · exact (remembers_replay _ s₁ w₁).mono (fun _ _ _ h' => ⟨h'.1, hsame.trans h'.2⟩) fun _ _ _ h' => h'
  · split
    · refine (remembers_log _ _ s₁ w₁).andThen fun _ s₂ w₂ hsame₂ => ?_
      refine (remembers_onSlave _ s₂ w₂).andThen fun _ s₃ w₃ hsame₃ => ?_
      exact ⟨nofun, hsame.trans (hsame₂.trans hsame₃)⟩
    · exact ⟨rfl, rfl⟩

/-- At the end of a segment nothing is read, and a copy is done there only if the slave has reached the baseline. -/
theorem remembers_endOfSegment (baseline at_ : Position) (s : Session ι) (w : ω) :
    Remembers env (endOfSegment baseline at_)
      (fun result s' => SameReadings s s' ∧ (result = .done → baseline ≤ at_)) s w := by
  unfold endOfSegment
  dsimp only
  split
  · split
    · exact (remembers_log _ _ s w).andThen fun _ _ _ hsame => ⟨hsame, fun _ => ‹_›⟩
    · exact ⟨⟨rfl, rfl⟩, fun _ => ‹_›⟩
  · split
    · exact ⟨rfl, rfl⟩
    · refine (remembers_log _ _ s w).andThen fun _ s₁ w₁ hsame₁ => ?_
      exact (remembers_onSlave _ s₁ w₁).andThen fun _ s₂ w₂ hsame₂ => ⟨hsame₁.trans hsame₂, nofun⟩

end

/-- Only what an action leaves of the readings is of interest here, not how it may fail. -/
theorem Remembers.forget {env : Environment ι ω} {w : ω} {x : Action (Session ι) ι α} {post : α → Session ι → Prop}
    (h : Remembers env x post s w) :
    Action.Ensures env (fun _ => True) x (fun a s' _ => post a s') (fun _ _ _ => True) s w :=
  h.mono (fun _ _ _ h' => h') fun _ _ _ _ => trivial

/-- **A copy is done where the slave has been read at the baseline or beyond it.** -/
theorem ensures_copyStep_reached {env : Environment ι ω} (baseline : Snapshot) (s : Session ι) (w : ω) :
    Action.Ensures env (fun _ => True) (copyStep baseline) (fun result s' _ => result = .done →
      ∃ reading, s'.lastSlave = some reading ∧ baseline.position ≤ reading.position) (fun _ _ _ => True) s w := by
  unfold copyStep
  refine (remembers_slaveInfo s w).forget.andThen fun slave s₁ w₁ hslave => (Action.ensures_bind _ _).mpr ?_
  rw [Action.ensures_attempt]
  refine (remembers_onMaster _ s₁ w₁).mono (fun blob s₂ w₂ _ => ?_) fun failure s₂ w₂ hsame => ?_
  · exact (remembers_onSlave _ s₂ w₂).forget.andThen fun _ _ _ _ => nofun
  · dsimp only
    split
    · refine (remembers_endOfSegment _ _ s₂ w₂).forget.mono ?_ fun _ _ _ h' => h'
      rintro result s₃ w₃ ⟨hsame₃, hreached⟩ hdone
      exact ⟨slave, ((hsame.trans hsame₃).2.trans hslave.1), hreached hdone⟩
    · trivial

/-! ## Reporting -/

/-- What holds of the reports that the observer has been handed. -/
def Reporting (P : List Report → Prop) (_ : Session ι) (w : Trace ι) : Prop := P w.reports

variable {P : List Report → Prop}

/-- Recovering adds no report. -/
theorem recoverable_reporting (P : List Report → Prop) :
    Recoverable recording (fun w => P w.reports) (Reporting P : Session ι → Trace ι → Prop) where
  master := fun _ _ _ h => h
  slave := fun _ _ _ h => h
  failures := fun _ _ _ _ h => h
  effect := by
    rintro s w effect answer _ h hasks rfl
    have hsame := Trace.reports_cons_other hasks.report? answer w
    exact ⟨hsame ▸ h, (congrArg P hsame).mpr h⟩

/-- Nor does a step. -/
theorem steady_reporting (P : List Report → Prop) :
    Steady recording (fun w => P w.reports) (Reporting P : Session ι → Trace ι → Prop) fun _ => True where
  lastMaster := fun _ _ _ h => h
  lastSlave := fun _ _ _ h => h
  effect := by
    rintro s w effect answer _ h hasks rfl
    have hsame := Trace.reports_cons_other hasks.report? answer w
    exact ⟨hsame ▸ h, (congrArg P hsame).mpr h⟩
  fails := fun _ _ => trivial
  heldMaster := fun _ _ _ _ _ => trivial
  heldSlave := fun _ _ _ _ _ => trivial

/-- **A report is made of the latest readings**, if there is one of each side. -/
theorem ensures_emit_latest {phase : Phase} {post : Unit → Session ι → Trace ι → Prop}
    {fail : SyncError → Session ι → Trace ι → Prop} (h : P w.reports)
    (hnone : s.snapshots = none → post () s w)
    (hsome : ∀ current previous elapsed now w', s.snapshots = some current →
      w'.reports = Progress.report previous current elapsed phase :: w.reports →
      P w'.reports ∧ post () { s with reported := some (current, now) } w') :
    Action.Ensures recording (fun w => P w.reports) (emit phase) post fail s w := by
  unfold emit
  rw [Action.ensures_bind, Action.ensures_get]
  cases hsnapshots : s.snapshots with
  | none => exact hnone hsnapshots
  | some current =>
    dsimp only
    rw [Action.ensures_bind]
    rintro now _ rfl
    refine ⟨h, (Action.ensures_bind _ _).mpr ?_⟩
    rintro _ _ rfl
    exact hsome current _ _ now _ hsnapshots rfl

/-- The invariant outlasts such reports, where the sides are as they have to be. -/
abbrev Outlasts (P : List Report → Prop) (sides : Session ι → Prop) (phase : Phase) : Prop :=
  ∀ s current previous elapsed reports, sides s → s.snapshots = some current → P reports →
    P (Progress.report previous current elapsed phase :: reports)

theorem progresses_reporting {sides : Session ι → Prop} {phase : Phase} (h : Outlasts P sides phase)
    (hfailures : ∀ s failures backoff, sides s → sides { s with failures, backoff }) :
    Progresses recording (fun w => P w.reports) (fun s w => sides s ∧ P w.reports) (fun _ => Reporting P) phase
      (Reporting P) := by
  rintro s w ⟨hsides, hw⟩
  have hemit : ∀ s w, sides s → P w.reports → Action.Ensures recording (fun w => P w.reports) (emit phase)
      (fun _ => Reporting P) (fun _ => Reporting P) s w := by
    intro s w hsides hw
    refine ensures_emit_latest hw (fun _ => hw) fun current previous elapsed now w' hsnapshots hreports => ?_
    have hnext : P w'.reports := hreports ▸ h s current previous elapsed w.reports hsides hsnapshots hw
    exact ⟨hnext, hnext⟩
  unfold succeeded
  rw [Action.ensures_bind, Action.ensures_get]
  dsimp only
  split
  · rw [Action.ensures_bind]
    rintro _ _ rfl
    exact ⟨hw, hemit _ _ (hfailures s _ _ hsides) hw⟩
  · exact hemit _ _ (hfailures s _ _ hsides) hw

section

variable {env : Environment ι ω} {safe : ω → Prop} {inv : Session ι → ω → Prop} {may : SyncError → Prop}

/-- An invariant of a session and its surroundings, together with one of the reports. -/
def WithReports (inv : Session ι → ω → Prop) (P : List Report → Prop) (s : Session ι) (v : ω × Trace ι) : Prop :=
  inv s v.1 ∧ P v.2.reports

/-- **What decides what is reported, holds of the reports.** -/
theorem Unaffected.withReports (h : Unaffected env safe inv)
    (hreport : ∀ s w current previous elapsed phase reports, inv s w → s.snapshots = some current → P reports →
      P (Progress.report previous current elapsed phase :: reports)) :
    Unaffected (recorded env) (fun v => P v.2.reports) (WithReports inv P) where
  master := fun s v authenticated hs => ⟨h.master s v.1 authenticated hs.1, hs.2⟩
  slave := fun s v authenticated hs => ⟨h.slave s v.1 authenticated hs.1, hs.2⟩
  failures := fun s v failures backoff hs => ⟨h.failures s v.1 failures backoff hs.1, hs.2⟩
  reported := fun s v reported hs => ⟨h.reported s v.1 reported hs.1, hs.2⟩
  effect := by
    rintro s ⟨w, trace⟩ effect answer ⟨w', _⟩ ⟨hinv, hreports⟩ hasks ⟨henv, rfl⟩
    obtain ⟨hsafe, hreports'⟩ := (recoverable_reporting P).effect s trace effect answer _ hreports hasks rfl
    exact ⟨hsafe, (h.effect s w effect answer w' hinv hasks henv).2, hreports'⟩
  reporting := by
    rintro s ⟨w, trace⟩ effect answer ⟨w', _⟩ ⟨hinv, hreports⟩ hasks ⟨henv, rfl⟩
    have hinv' := (h.reporting s w effect answer w' hinv hasks henv).2
    have hreports' : P (Trace.reports (⟨effect, answer⟩ :: trace)) := by
      cases hasks with
      | report hcurrent => exact hreport s w _ _ _ _ _ hinv hcurrent hreports
      | log _ _ | clock | stopRequested => exact hreports
    exact ⟨hreports', hinv', hreports'⟩

/-- A step that keeps one of them keeps both, as it does not report. -/
theorem maintains_withReports {x : Action (Session ι) ι α} (hx : Maintains env safe inv may x)
    (hsilent : Maintains recording (fun w => P w.reports) (Reporting P) (fun _ => True) x) :
    Maintains (recorded env) (fun v => P v.2.reports) (WithReports inv P) may x := by
  rintro s v ⟨hinv, hreports⟩
  have hkept := ((hx s v.1 hinv).relax fun _ _ => trivial).recorded
  refine ((hsilent s v.2 hreports).traced.and hkept).mono (fun _ _ _ h' => ⟨h'.2, h'.1⟩) ?_
  exact fun _ _ _ h' => ⟨⟨h'.2.1, h'.1.1⟩, h'.2.2⟩

end

/-! ## Rounds -/

/-- The reports are the same at every stage of a round but where it reports. -/
theorem stages_reporting (P : List Report → Prop) :
    Stages recording (fun w => P w.reports) (Reporting P : Session ι → Trace ι → Prop) (Reporting P)
      (fun _ => Reporting P) (fun _ => Reporting P) (Reporting P) where
  look := by
    rintro s w isStopped _ h rfl
    cases isStopped <;> exact ⟨h, h⟩
  haltedLog := by
    rintro s w level line _ h rfl
    exact ⟨h, h⟩
  endedLog := by
    rintro failure s w level line _ h rfl
    exact ⟨h, h⟩
  recover := by
    intro last s w h
    refine ((recoverable_reporting P).recover last s w h).mono (fun isStopped s' w' h' => ?_) fun _ _ _ h' => h'.1
    cases isStopped <;> exact h'

/-- What a step keeps, whether it fails or not. -/
theorem follows_reporting {x : Action (Session ι) ι α}
    (hx : Maintains recording (fun w => P w.reports) (Reporting P) (fun _ => True) x) :
    Follows recording (fun w => P w.reports) (Reporting P)
      (Failing (fun _ => Reporting P) fun _ => Reporting P) x fun _ => Reporting P := by
  intro s w h
  refine (hx s w h).mono (fun _ _ _ h' => h') fun failure s' w' h' => ?_
  unfold Failing
  cases failure.transient? <;> exact h'.1

theorem incrementalRound_reporting {sides : Session ι → Prop} (hidle : Outlasts P sides .waiting)
    (hgone : Outlasts P (fun _ : Session ι => True) .syncing)
    (hfailures : ∀ s failures backoff, sides s → sides { s with failures, backoff })
    (hsides : ∀ s w, Action.Ensures recording (fun _ => True) step (fun result s' _ => result = .idle → sides s')
      (fun _ _ _ => True) s w) (poll : Backoff) :
    Follows recording (fun w => P w.reports) (Reporting P : Session ι → Trace ι → Prop) (fun _ => Reporting P)
      (incrementalRound poll) (Stages.Rounded (Reporting P) fun _ => Reporting P) := by
  have hstep : Follows recording (fun w => P w.reports) (Reporting P)
      (Failing (fun _ => Reporting P) fun _ => Reporting P) step
      (Stages.Stepped (fun s w => sides s ∧ P w.reports) fun (_ : Session ι) w => True ∧ P w.reports) := by
    intro s w h
    refine ((follows_reporting (steady_reporting P).step s w h).and (hsides s w)).mono ?_ fun _ _ _ h' => h'.1
    rintro result s' w' ⟨hreports, hlevel⟩
    cases result with
    | idle => exact ⟨hlevel rfl, hreports⟩
    | applied _ _ | jumped _ => exact ⟨trivial, hreports⟩
  refine (stages_reporting P).incrementalRound hstep (progresses_reporting hidle hfailures) ?_
    (progresses_reporting hgone fun _ _ _ _ => trivial) poll
  intro time s w h
  refine ((recoverable_reporting P).sleep time s w h).mono (fun isStopped _ _ h' => ?_) fun _ _ _ h' => h'.1
  cases isStopped <;> exact h'

theorem prepareRound_reporting (P : List Report → Prop) :
    Follows recording (fun w => P w.reports) (Reporting P : Session ι → Trace ι → Prop) (fun _ => Reporting P)
      prepareRound (Stages.Rounded (Reporting P) (Stages.Prepared (Reporting P) fun _ => Reporting P)) :=
  (stages_reporting P).prepareRound (follows_reporting (steady_reporting P).preparable.prepare)

theorem copyRound_reporting (hgone : Outlasts P (fun _ : Session ι => True) .syncing) (baseline : Snapshot) :
    Follows recording (fun w => P w.reports) (Reporting P : Session ι → Trace ι → Prop) (fun _ => Reporting P)
      (copyRound baseline) (Stages.Rounded (Reporting P) (Stages.Finished (Reporting P) (Reporting P))) := by
  have hcopy : Follows recording (fun w => P w.reports) (Reporting P)
      (Failing (fun _ => Reporting P) fun _ => Reporting P) (copyStep baseline)
      (Stages.Copied (Reporting P) fun (_ : Session ι) w => True ∧ P w.reports) := by
    intro s w h
    refine (follows_reporting ((steady_reporting P).copyStep baseline) s w h).mono ?_ fun _ _ _ h' => h'
    intro result s' w' h'
    cases result with
    | done => exact h'
    | imported _ | jumped => exact ⟨trivial, h'⟩
  refine (stages_reporting P).copyRound hcopy ?_ (progresses_reporting hgone fun _ _ _ _ => trivial)
  rintro s w level line _ h rfl
  exact ⟨h.2, h⟩

/-! ## Waiting -/

/-- The latest readings of both sides are at the same place. -/
def SidesLevel (s : Session ι) : Prop :=
  ∀ current, s.snapshots = some current → current.slave.position = current.master.position

/-- A pause is reported only where the slave is where the master is. -/
def LevelWhenWaiting (reports : List Report) : Prop :=
  ∀ report ∈ reports, report.phase = .waiting → report.slave = report.master

/-- **A step that finds nothing to do has read both sides at the same place.** -/
theorem ensures_step_level {env : Environment ι ω} (s : Session ι) (w : ω) :
    Action.Ensures env (fun _ => True) step (fun result s' _ => result = .idle → SidesLevel s') (fun _ _ _ => True)
      s w := by
  unfold step
  refine (remembers_masterInfo s w).forget.andThen fun master s₁ w₁ hmaster => ?_
  refine (remembers_slaveInfo s₁ w₁).forget.andThen fun slave s₂ w₂ hslave => ?_
  cases hdecide : Snapshot.decide master slave with
  | fatal => trivial
  | wait =>
    intro _ current hcurrent
    have hsnapshots : s₂.snapshots = some ⟨master, slave⟩ := by
      simp [snapshots, hslave.1, hslave.2, hmaster]
    obtain rfl := Option.some.inj (hsnapshots.symm.trans hcurrent)
    exact Snapshot.eq_of_decide hdecide
  | advance =>
    exact (remembers_advance _ s₂ w₂).forget.mono (fun _ _ _ h' heq => absurd heq h'.1) fun _ _ _ h' => h'

/-- **Where an incremental run reports a pause, the sides are level.** -/
theorem ensures_levelWhenWaiting {session : Session ι} (hstrategy : session.strategy = .incremental) (limit : Nat) :
    Action.Ensures recording (fun w => LevelWhenWaiting w.reports) (run limit) (fun _ => Reporting LevelWhenWaiting)
      (fun _ => Reporting LevelWhenWaiting) session [] := by
  have hcons : ∀ report reports, (report.phase = .waiting → report.slave = report.master) →
      LevelWhenWaiting reports → LevelWhenWaiting (report :: reports) :=
    fun report reports hreport hreports => List.forall_mem_cons.mpr ⟨hreport, hreports⟩
  have hidle : Outlasts LevelWhenWaiting (SidesLevel : Session ι → Prop) .waiting :=
    fun s current _ _ reports hlevel hsnapshots => hcons _ _ fun _ => hlevel current hsnapshots
  have hother : ∀ phase, phase ≠ .waiting → Outlasts LevelWhenWaiting (fun _ : Session ι => True) phase :=
    fun phase hphase _ _ _ _ _ _ _ => hcons _ _ fun hwaiting => absurd hwaiting hphase
  have hround := incrementalRound_reporting hidle (hother .syncing nofun) (fun _ _ _ hlevel => hlevel)
    ensures_step_level
  have hlog : OutlastsLog recording (fun w => LevelWhenWaiting w.reports)
      (Reporting LevelWhenWaiting : Session ι → Trace ι → Prop) := by
    rintro s w level line _ h rfl
    exact ⟨h, h⟩
  have hstopped : Follows recording (fun w => LevelWhenWaiting w.reports)
      (Reporting LevelWhenWaiting : Session ι → Trace ι → Prop) (fun _ => Reporting LevelWhenWaiting) stopped
      fun _ => Reporting LevelWhenWaiting := by
    intro s w h
    unfold stopped
    rw [Action.ensures_bind]
    rintro _ _ rfl
    refine ⟨h, (Action.ensures_bind _ _).mpr (ensures_emit_latest h (fun _ => h) ?_)⟩
    intro current previous elapsed now w' hsnapshots hreports
    have hnext : LevelWhenWaiting w'.reports :=
      hreports ▸ hother .finished nofun s current previous elapsed _ trivial hsnapshots h
    exact ⟨hnext, hnext⟩
  have hnone : LevelWhenWaiting (Trace.reports ([] : Trace ι)) := nofun
  refine Stages.run (fun _ _ _ => hnone) (fun _ level line w' henv => ?_) (fun _ => hlog) fun _ => hlog
  obtain ⟨hsafe, hstart⟩ := hlog session [] level line w' hnone henv
  refine ⟨hsafe, fun hbulk => absurd (hstrategy.symm.trans hbulk) nofun, fun _ => ?_⟩
  exact Stages.runIncremental hround hstopped (fun _ _ h => h) limit session w' hstart

/-! ## Finished -/

/-- No report says that the run is finished. -/
def Unfinished (reports : List Report) : Prop := ∀ report ∈ reports, report.phase ≠ .finished

/-- How a run ends for its observer: the last report, and no other one, says that it is finished, and is made of the
    latest readings. -/
def SignedOff (s : Session ι) (w : Trace ι) : Prop :=
  ∀ current, s.snapshots = some current → ∃ previous elapsed earlier,
    w.reports = Progress.report previous current elapsed .finished :: earlier ∧ Unfinished earlier

theorem ensures_emit_finished {fail : SyncError → Session ι → Trace ι → Prop} (h : Unfinished w.reports) :
    Action.Ensures recording (fun _ => True) (emit .finished) (fun _ => SignedOff) fail s w := by
  have hunread : s.snapshots = none → s.SignedOff w :=
    fun hnone current hsnapshots => absurd (hnone.symm.trans hsnapshots) nofun
  refine ensures_emit_latest (P := fun _ => True) trivial hunread ?_
  intro current previous elapsed now w' hsnapshots hreports
  refine ⟨trivial, fun current' hcurrent => ?_⟩
  obtain rfl := Option.some.inj (hsnapshots.symm.trans hcurrent)
  exact ⟨previous, elapsed, w.reports, hreports, h⟩

theorem signedOff_outlastsLog : OutlastsLog recording (fun _ => True) (SignedOff : Session ι → Trace ι → Prop) := by
  rintro s w level line _ h rfl
  exact ⟨trivial, h⟩

theorem follows_stopped : Follows recording (fun _ => True) (Reporting Unfinished : Session ι → Trace ι → Prop)
    (fun _ _ _ => True) stopped fun _ => SignedOff := by
  intro s w h
  unfold stopped
  rw [Action.ensures_bind]
  rintro _ _ rfl
  refine ⟨trivial, (Action.ensures_bind _ _).mpr ?_⟩
  refine Action.Ensures.mono (ensures_emit_finished ?_) (fun _ _ _ h' => h') fun _ _ _ h' => h'
  exact h

theorem follows_completeBulk (baseline : Snapshot) :
    Follows recording (fun _ => True) (Reporting Unfinished : Session ι → Trace ι → Prop) (fun _ _ _ => True)
      (completeBulk baseline) fun _ => SignedOff := by
  have hend : ∀ s w, Unfinished w.reports → Action.Ensures recording (fun _ => True) (do
      emit .finished
      Action.log .info ("Bulk sync reached baseline " ++ baseline.position.text)
      return Outcome.completed) (fun _ => SignedOff) (fun _ _ _ => True) (s : Session ι) w := by
    intro s w h
    refine (ensures_emit_finished h).andThen fun _ s₁ w₁ h₁ => (Action.ensures_bind _ _).mpr ?_
    exact fun _ w₂ henv => signedOff_outlastsLog s₁ w₁ _ _ w₂ h₁ henv
  intro s w h
  have hsteady : Steady recording (fun w => Unfinished w.reports) (Reporting Unfinished : Session ι → Trace ι → Prop)
      fun _ => True := steady_reporting Unfinished
  have hunfreeze : Stays recording (fun w => Unfinished w.reports) (Reporting Unfinished) (fun _ => True)
      (onSlave (Client.setFreeze s.space false)) s w := by
    refine hsteady.preparable.noteOnSlave h _ _ fun w' h' => hsteady.preparable.onSlave h' ?_ _
    rintro r _ rfl
    exact ⟨h', h'⟩
  unfold completeBulk
  rw [Action.ensures_bind, Action.ensures_get]
  dsimp only
  split
  · refine Action.Ensures.andThen ?_ fun _ s₁ w₁ h₁ => hend s₁ w₁ h₁
    exact (hunfreeze.relax fun _ _ => trivial).mono (fun _ _ _ h' => h') fun _ _ _ _ => trivial
  · exact hend s w h

/-- What holds when a run ends without a failure: its observer has been told. -/
def ToldIfEnded : Option Outcome → Session ι → Trace ι → Prop
  | some _ => SignedOff
  | none => fun _ _ => True

/-- **A run that ends without a failure signs off with its last report.** -/
theorem ensures_signedOff (session : Session ι) (limit : Nat) :
    Action.Ensures recording (fun _ => True) (run limit) ToldIfEnded (fun _ _ _ => True) session [] := by
  have hcons : ∀ phase, phase ≠ .finished → Outlasts Unfinished (fun _ : Session ι => True) phase :=
    fun phase hphase _ _ _ _ _ _ _ hreports => List.forall_mem_cons.mpr ⟨hphase, hreports⟩
  have hstart : Unfinished (Trace.reports ([] : Trace ι)) := nofun
  refine Stages.run (fun _ _ _ => trivial) (fun _ level line w' henv => ?_) (fun _ => signedOff_outlastsLog)
    fun _ _ _ _ _ _ _ _ => ⟨trivial, trivial⟩
  obtain rfl := henv
  have hrelax : ∀ {α : Type} {x : Action (Session ι) ι α} {post : α → Session ι → Trace ι → Prop},
      Follows recording (fun w => Unfinished w.reports) (Reporting Unfinished) (fun _ => Reporting Unfinished) x post →
      Follows recording (fun _ => True) (Reporting Unfinished) (fun _ _ _ => True) x post :=
    fun hx s w h => ((hx s w h).relax fun _ _ => trivial).mono (fun _ _ _ h' => h') fun _ _ _ _ => trivial
  refine ⟨trivial, fun _ => ?_, fun _ => ?_⟩
  · refine Stages.runBulk (hrelax (prepareRound_reporting Unfinished)) ?_
      (fun baseline => hrelax (copyRound_reporting (hcons .syncing nofun) baseline)) follows_stopped
      follows_completeBulk (fun _ _ _ => trivial) (fun _ _ _ _ => trivial) limit session _ hstart
    rintro baseline s w level line _ h rfl
    exact ⟨trivial, h⟩
  · have hround := fun poll => hrelax (incrementalRound_reporting (hcons .waiting nofun) (hcons .syncing nofun)
      (fun _ _ _ _ => trivial) (fun s w => (ensures_any step s w).mono (fun _ _ _ _ _ => trivial) fun _ _ _ h' => h')
      poll)
    exact Stages.runIncremental hround follows_stopped (fun _ _ _ => trivial) limit session _ hstart

/-! ## A short run -/

theorem runs_ensureAuthenticated (h : s.LoggedIn) : ensureAuthenticated.Runs s [] (.ok ()) s := by
  obtain ⟨trace, result, s', hrun⟩ := Action.exists_runs ensureAuthenticated s
  have hensures : Action.Ensures recording (fun _ => True) ensureAuthenticated _ _ s [] :=
    ensures_ensureAuthenticated s []
  have hend := (hrun.ensured trivial hensures).2
  cases result with
  | ok _ =>
    obtain ⟨rfl, rfl, -⟩ := hend
    exact hrun
  | error _ =>
    obtain ⟨-, -, client, hclient, hout, -⟩ := hend
    exact absurd (hout.symm.trans (h.of_isEnd hclient)) nofun

/-- A step between equal sides finds nothing to do. -/
theorem runs_step_level (hlogged : s.LoggedIn) (ns : Namespace)
    (hforward : movedBackwards s.lastSlave ns.snapshot = false) :
    step.Runs s ([readBy s.slave s.space ns] ++ [readBy s.master s.space ns]) (.ok .idle)
      { s with lastMaster := some ns.snapshot, lastSlave := some ns.snapshot } := by
  have hdecide : Snapshot.decide ns.snapshot ns.snapshot = .wait := Namespace.decide_of_segments_eq rfl
  have hslave := runs_slaveInfo (s := { s with lastMaster := some ns.snapshot }) hlogged.2 ns hforward
  unfold step
  refine Action.Runs.bind (runs_masterInfo hlogged.1 ns) (Action.Runs.finish hslave ?_)
  rw [hdecide]
  rfl

theorem runs_succeeded (h : s.failures = 0) :
    succeeded.Runs s [] (.ok ()) { s with failures := 0, backoff := s.backoff.reset } := by
  refine .bind_get ?_
  rw [if_neg (by omega)]
  exact .refl _ _

theorem exists_runs_emit {current : PairSnapshot} (h : s.snapshots = some current) (phase : Phase) (now : Duration) :
    ∃ previous elapsed, (emit phase).Runs s
      [⟨.report (Progress.report previous current elapsed phase), ()⟩, ⟨.clock, now⟩] (.ok ())
      { s with reported := some (current, now) } := by
  let reported := s.reported.getD (current, now)
  refine ⟨reported.1, ⟨now.nanos - reported.2.nanos⟩, .bind_get ?_⟩
  rw [h]
  exact .step rfl (.step rfl (.refl _ _))

/-- The start of a run between equal sides, up to the wait after its report. -/
def upToPause (s : Session ι) (ns : Namespace) (waiting : Report) : Trace ι :=
  [⟨.stopRequested, false⟩, ⟨.report waiting, ()⟩, ⟨.clock, ⟨0⟩⟩, readBy s.slave s.space ns,
    readBy s.master s.space ns, ⟨.stopRequested, false⟩, ⟨.log .info "Starting incremental sync", ()⟩]

/-- The end of a run that is stopped while it pauses. -/
def fromPause (delay : Duration) (finished : Report) : Trace ι :=
  [⟨.log .info "Session ended: Stopped", ()⟩, ⟨.report finished, ()⟩, ⟨.clock, ⟨0⟩⟩,
    ⟨.log .info "Stop requested", ()⟩, ⟨.wait delay, .signalled⟩]

/-- An incremental run between equal sides may be stopped while it pauses. -/
theorem exists_runs_paused (hlogged : s.LoggedIn) (hstrategy : s.strategy = .incremental) (hfailures : s.failures = 0)
    (hslave : s.lastSlave = none) (ns : Namespace) :
    ∃ waiting finished delay s', waiting.phase = .waiting ∧ finished.phase = .finished ∧
      s'.snapshots = some ⟨ns.snapshot, ns.snapshot⟩ ∧
      (run 1).Runs s (fromPause delay finished ++ upToPause s ns waiting) (.ok (some .stopped)) s' := by
  let poll := s.options.poll.backoff
  let level : PairSnapshot := ⟨ns.snapshot, ns.snapshot⟩
  let s₁ := { s with lastMaster := some ns.snapshot, lastSlave := some ns.snapshot }
  let s₂ := { s₁ with failures := 0, backoff := s.backoff.reset }
  let s₃ := { s₂ with reported := some (level, ⟨0⟩) }
  obtain ⟨previous, elapsed, hwaiting⟩ := exists_runs_emit (s := s₂) rfl .waiting ⟨0⟩
  obtain ⟨previous', elapsed', hfinished⟩ := exists_runs_emit (s := s₃) rfl .finished ⟨0⟩
  have hstep : step.Runs s _ (.ok .idle) s₁ := runs_step_level hlogged ns (by rw [hslave]; rfl)
  have hguarded : (guarded noteEnd step).Runs s _ (.ok (.value .idle)) s₁ := hstep.attempt.finish rfl
  have hsucceeded : succeeded.Runs s₁ [] (.ok ()) s₂ := runs_succeeded hfailures
  have hpause : (Action.sleep poll.next.1 : Action (Session ι) ι Bool).Runs s₃ _ (.ok true) s₃ :=
    Slept.signalled.runs s₃
  have hround : (incrementalRound poll).Runs s _ (.ok (.last ())) s₃ :=
    (Action.runs_perform .stopRequested false s).bind (hguarded.bind (hsucceeded.bind (hwaiting.bind
      (hpause.finish rfl))))
  have hrounds : (Action.rounds incrementalRound 1 poll).Runs s _ (.ok (some ())) s₃ := hround.finish rfl
  have hstopped : stopped.Runs s₃ _ (.ok .stopped) _ :=
    (Action.runs_perform (.log .info "Stop requested") () s₃).bind (hfinished.finish rfl)
  have hincremental : (runIncremental 1).Runs s _ (.ok (some .stopped)) _ :=
    .bind_get (hrounds.bind (hstopped.finish rfl))
  have hfollow : (follow 1).Runs s _ (.ok (some .stopped)) _ := .bind_get (by rw [hstrategy]; exact hincremental)
  have hrun : (run 1).Runs s _ (.ok (some .stopped)) _ :=
    (runs_ensureAuthenticated hlogged).bind (.bind_get ((Action.runs_perform (.log .info _) () s).bind
      (hfollow.attempt.bind ((Action.runs_perform (.log .info _) () _).finish rfl))))
  rw [hstrategy] at hrun
  exact ⟨Progress.report previous level elapsed .waiting, Progress.report previous' level elapsed' .finished,
    poll.next.1, _, rfl, rfl, rfl, hrun⟩

end SegmentSync.Session
