import SegmentSync.Proofs.Replication.Exactness
import SegmentSync.Proofs.Replication.Safety
import SegmentSync.Proofs.Session.Cursors
import SegmentSync.Proofs.Session.Reports
import SegmentSync.Proofs.Store.Sizes

/-!
# `SegmentSync.Proofs.Replication.Progress` — what is reported is true of the sides

A report is made of the latest readings, which may be of different times, and of different rounds where one of them has
failed. It is a report on a log and on a prefix of it all the same: the latest reading of the slave was a prefix of the
master's log when the master was read, as the slave has only grown since.

## Contents
- **Reports.** `Report.Truthful`: the slave is not beyond the master, in position or in size.
- **Entry by entry.** `Session.Aligned` is kept by the steps, so that every report of a run is truthful.
- **Copies.** A copy is done where the slave has been read at the baseline or beyond it (`Session.CaughtUp`).
- **The run.** `reports_truthful`.
-/

namespace SegmentSync

/-! ## Reports -/

/-- The slave is not beyond the master, in position or in size, and has as much where it is at the same place. -/
structure Report.Truthful (report : Report) : Prop where
  position : report.slave ≤ report.master
  size : report.synced ≤ report.total
  level : report.slave = report.master → report.synced = report.total

/-- **A report on a log and on a prefix of it is truthful.** -/
theorem Progress.truthful_report {m s : Namespace} (hm : m.Measured) (h : LogPrefix s.segments m.segments)
    (previous : PairSnapshot) (elapsed : Duration) (phase : Phase) :
    (Progress.report previous ⟨m.snapshot, s.snapshot⟩ elapsed phase).Truthful := by
  have hle : s.position ≤ m.position := Position.le_of_not_lt (Namespace.not_position_lt hm.fits₆₄ h)
  have hsize : s.size ≤ m.size := hm.size_le h (LogPrefix.refl _) hle
  refine ⟨hle, hsize, fun hlevel => UInt64.le_antisymm hsize ?_⟩
  have hge : m.position ≤ s.position := Position.le_def.mpr (.inr hlevel.symm)
  exact hm.size_le (LogPrefix.refl _) h hge

namespace Session

variable {space : String} {limit : Namespace → Prop} {session : Session Role} {seen : Option Snapshot}
  {m s : Namespace} {w : Scene}

/-! ## Entry by entry -/

/-- The latest readings are those of a log and of a prefix of it. -/
def Aligned (limit : Namespace → Prop) (session : Session Role) : Prop :=
  ∀ current, session.snapshots = some current →
    ∃ m s : Namespace, limit m ∧ LogPrefix s.segments m.segments ∧ current = ⟨m.snapshot, s.snapshot⟩

theorem SameReadings.aligned {session' : Session Role} (h : session.Aligned limit)
    (hsame : SameReadings session session') : session'.Aligned limit := by
  unfold Aligned
  rw [hsame.snapshots_eq]
  exact h

/-- **When the master has just been read**, the latest reading of the slave is that of a prefix, however old it is. -/
theorem Tracks.aligned (h : session.Tracks space (some m.snapshot) m s w) (hm : limit m) : session.Aligned limit := by
  intro current hcurrent
  obtain ⟨hmaster, hslave⟩ := snapshots_eq_some.mp hcurrent
  obtain ⟨s₀, hs₀, hreading⟩ := h.lastSlave _ hslave
  refine ⟨m, s₀, hm, hs₀.trans h.behind, ?_⟩
  obtain ⟨master, slave⟩ := current
  obtain rfl := Option.some.inj (hmaster.symm.trans h.lastMaster)
  obtain rfl := hreading
  rfl

/-- The session is on track, and its readings are aligned. -/
def OnAlignedTrack (space : String) (limit : Namespace → Prop) (session : Session Role) (w : Scene) : Prop :=
  session.OnTrack space Unbounded w ∧ session.Aligned limit

/-- **A step keeps the readings aligned**, wherever it fails. -/
theorem maintains_step_aligned (hlimit : ∀ ns, limit ns → ns.Portable) :
    Action.Maintains (Scene.trouble space limit) (Scene.InStep space) (OnAlignedTrack space limit) (fun _ => True)
      step := by
  rintro session w ⟨⟨seen, m, s, h, -⟩, haligned⟩
  unfold step
  refine (Action.ensures_bind _ _).mpr ((h.masterInfo.and (remembers_masterInfo session w)).mono ?_ ?_)
  case refine_2 => exact fun _ _ _ h₁ => ⟨⟨h₁.1.2.onTrack, h₁.2.aligned haligned⟩, trivial⟩
  rintro _ session₁ w₁ ⟨⟨m₁, -, hm₁, rfl, h₁⟩, -⟩
  have hfits := (hlimit m₁ hm₁).fits₆₄
  have haligned₁ := h₁.aligned hm₁
  refine (Action.ensures_bind _ _).mpr (((h₁.slaveInfo hfits).and (remembers_slaveInfo session₁ w₁)).mono ?_ ?_)
  case refine_2 => exact fun _ _ _ h₂ => ⟨⟨h₂.1.2.onTrack, h₂.2.aligned haligned₁⟩, trivial⟩
  rintro _ session₂ w₂ ⟨⟨rfl, h₂⟩, -⟩
  have haligned₂ := h₂.aligned hm₁
  rcases Namespace.decide_of_logPrefix hfits h₂.behind with ⟨hdecide, -⟩ | ⟨hdecide, hlt⟩
  · rw [hdecide]
    exact ⟨h₂.onTrack, haligned₂⟩
  · rw [hdecide]
    refine ((h₂.advance hlimit hlt).and (remembers_advance _ session₂ w₂)).mono ?_ ?_
    · exact fun _ _ _ h₃ => ⟨h₃.1, h₃.2.2.aligned haligned₂⟩
    · exact fun _ _ _ h₃ => ⟨⟨h₃.1.1, h₃.2.aligned haligned₂⟩, trivial⟩

/-- Nothing that a session does beside its steps takes a reading. -/
theorem unaffected_aligned :
    Unaffected (Scene.trouble space limit) (fun _ => True) (OnAlignedTrack space limit) := by
  have hreadings : Unaffected (Scene.trouble space limit) (fun _ => True)
      fun session (_ : Scene) => session.Aligned limit := by
    refine ⟨⟨?_, ?_, ?_, ?_⟩, ?_, ?_⟩
    · exact fun _ _ _ h => h
    · exact fun _ _ _ h => h
    · exact fun _ _ _ _ h => h
    · exact fun _ _ _ _ _ h _ _ => ⟨trivial, h⟩
    · exact fun _ _ _ h => h
    · exact fun _ _ _ _ _ h _ _ => ⟨trivial, h⟩
  exact unaffected_onTrack.and hreadings

/-- The reports are all truthful. -/
def AllTruthful (reports : List Report) : Prop := ∀ report ∈ reports, report.Truthful

/-- **Every report of an incremental run is truthful.** -/
theorem ensures_allTruthful (hfresh : session.Fresh w m s) (hstrategy : session.strategy = .incremental)
    (rounds : Nat) :
    Action.Ensures (recorded (Scene.trouble session.space Namespace.Measured)) (fun v => AllTruthful v.2.reports)
      (run rounds) (fun _ _ _ => True) (fun _ _ _ => True) session (w, []) := by
  have hbeside : Unaffected (recorded (Scene.trouble session.space Namespace.Measured))
      (fun v => AllTruthful v.2.reports)
      (WithReports (OnAlignedTrack session.space Namespace.Measured) AllTruthful) := by
    refine unaffected_aligned.withReports ?_
    rintro session' w' current previous elapsed phase reports ⟨-, haligned⟩ hcurrent hreports
    obtain ⟨m', s', hm', hbehind, rfl⟩ := haligned current hcurrent
    exact List.forall_mem_cons.mpr ⟨Progress.truthful_report hm' hbehind previous elapsed phase, hreports⟩
  have haligned : Action.Maintains (Scene.trouble session.space Namespace.Measured) (Scene.InStep session.space)
      (OnAlignedTrack session.space Namespace.Measured) (fun _ => True) step :=
    maintains_step_aligned fun _ h => h.toPortable
  have hstep := maintains_withReports haligned (steady_reporting AllTruthful).step
  have hstart : session.WithReports (OnAlignedTrack session.space Namespace.Measured) AllTruthful (w, []) := by
    refine ⟨⟨hfresh.tracks.onTrack, fun current hcurrent => ?_⟩, nofun⟩
    exact absurd (hfresh.tracks.lastMaster.symm.trans (snapshots_eq_some.mp hcurrent).1) nofun
  have hcourse := hbeside.course hbeside (fun _ _ h => h) fun _ _ => trivial
  refine Action.Ensures.mono (hcourse.run (fun _ => hstart) (fun _ => ⟨hstart, trivial⟩) (fun hbulk => ?_)
    fun _ => ?_) (fun _ _ _ _ => trivial) fun _ _ _ _ => trivial
  · exact absurd (hstrategy.symm.trans hbulk) nofun
  · exact hcourse.runIncremental (Unaffected.follows (fun _ _ h => h) hstep) rounds

/-! ## Copies -/

/-- A copy is under way within its bounds, and the slave has been read at the baseline or beyond it. -/
def CaughtUp (space : String) (limit : Namespace → Prop) (baseline : Snapshot) (session : Session Role) (w : Scene) :
    Prop :=
  session.OnTrack space (CopyingTo limit baseline) w ∧
    ∃ reading, session.lastSlave = some reading ∧ baseline.position ≤ reading.position

theorem around_caughtUp (baseline : Snapshot) :
    Around (Scene.trouble space limit) (Scene.InStep space) (CaughtUp space limit baseline) where
  around := by
    rintro session w effect answer w' ⟨h, hreached⟩ hasks htrouble
    obtain ⟨hinStep, h'⟩ := unaffected_onTrack.around.around session w effect answer w' h hasks htrouble
    exact ⟨hinStep, h', hreached⟩
  reported := by
    rintro session w reported ⟨⟨seen, m, s, h, hbounds⟩, hreached⟩
    exact ⟨⟨seen, m, s, h.noting session.failures session.backoff reported, hbounds⟩, hreached⟩

/-- A step of the copy that finds it done has caught up. -/
theorem follows_copyStep_caughtUp (hlimit : ∀ ns, limit ns → ns.Fits (2 ^ 64)) (baseline : Snapshot) :
    Follows (Scene.trouble space limit) (Scene.InStep space) (OnTrack space (CopyingTo limit baseline))
      (Failing (fun _ => OnTrack space (CopyingTo limit baseline))
        fun failure session w => session.OnTrack space NotBeyond w ∧ failure.Consistent)
      (copyStep baseline)
      (Stages.Copied (CaughtUp space limit baseline) (OnTrack space (CopyingTo limit baseline))) := by
  refine Unaffected.follows (fun _ _ => onTrack_notBeyond hlimit) fun session w h => ?_
  refine ((ensures_copyStepTo hlimit h).and (ensures_copyStep_reached baseline session w)).mono ?_ ?_
  · rintro result session' w' ⟨⟨-, hkept⟩, hreached⟩
    cases result with
    | done => exact ⟨hkept, hreached rfl⟩
    | imported _ | jumped => exact hkept
  · exact fun _ _ _ h' => h'.1

/-- The end of the freeze takes no reading, and leaves the slave's log as it is. -/
theorem ensures_unfreeze_caughtUp (hlimit : ∀ ns, limit ns → ns.Fits (2 ^ 64)) {baseline : Snapshot}
    (h : session.CaughtUp space limit baseline w) :
    Action.Withstands space limit (onSlave (Client.setFreeze session.space false))
      (fun _ => CaughtUp space limit baseline)
      (fun failure session w => session.OnTrack space NotBeyond w ∧ failure.Consistent) session w := by
  obtain ⟨⟨seen, m, s, h, m₀, rfl, hm₀, hcopying⟩, reading, hreading, hreached⟩ := h
  have hfrozen : Copying limit m₀ seen m { s with frozen := false } :=
    ⟨hcopying.seen, hcopying.limited, hcopying.grown, hcopying.within⟩
  rw [h.wired.named]
  refine ((h.setFreeze false).and (remembers_onSlave _ session w)).mono ?_ ?_
  · rintro _ session₁ w₁ ⟨h₁, hsame⟩
    exact ⟨⟨seen, m, _, h₁, m₀, rfl, hm₀, hfrozen⟩, reading, hsame.2.trans hreading, hreached⟩
  · rintro failure session₁ w₁ ⟨⟨hconsistent, h₁ | h₁⟩, -⟩
    · exact ⟨⟨_, _, _, h₁, hcopying.notBeyond (hlimit m₀ hm₀)⟩, hconsistent⟩
    · exact ⟨⟨_, _, _, h₁, hfrozen.notBeyond (hlimit m₀ hm₀)⟩, hconsistent⟩

/-- What a run leads to: a copy that has caught up with its baseline, or less. -/
def Catches (space : String) (limit : Namespace → Prop) : Option Outcome → Session Role → Scene → Prop :=
  Course.Finished (OnTrack space NotBeyond) fun session w => ∃ baseline, session.CaughtUp space limit baseline w

/-- **A run that completes has caught up with its baseline.** -/
theorem ensures_catches (hfresh : session.Fresh w m s) (hlimit : ∀ ns, limit ns → ns.Fits (2 ^ 64))
    (hstrategy : session.strategy = .bulk) (rounds : Nat) :
    Action.Withstands session.space limit (run rounds) (Catches session.space limit)
      (fun failure session' w => session'.OnTrack session.space NotBeyond w ∧ failure.Consistent) session w := by
  have hstart : session.OnTrack session.space NotBeyond w := ⟨_, _, _, hfresh.tracks, nofun⟩
  have hcourse : Course (Scene.trouble session.space limit) (Scene.InStep session.space)
      (OnTrack session.space NotBeyond) _ _ _ _ := course_onTrack fun _ _ h => h
  have hcopying : ∀ baseline, Course (Scene.trouble session.space limit) (Scene.InStep session.space)
      (OnTrack session.space (CopyingTo limit baseline)) _ _ _ _ :=
    fun baseline => course_onTrack fun _ _ => onTrack_notBeyond hlimit
  have hpost : ∀ outcome, Around (Scene.trouble session.space limit) (Scene.InStep session.space)
      (Catches session.space limit (some outcome)) := by
    rintro (_ | _)
    · refine ⟨fun session' w' effect answer w'' ⟨baseline, h⟩ hasks htrouble => ?_,
        fun session' w' reported ⟨baseline, h⟩ => ⟨baseline, (around_caughtUp baseline).reported _ _ _ h⟩⟩
      obtain ⟨hinStep, h'⟩ := (around_caughtUp baseline).around session' w' effect answer w'' h hasks htrouble
      exact ⟨hinStep, baseline, h'⟩
    · exact unaffected_onTrack.around
  refine hcourse.runs (fun _ => hstart) (fun _ => ⟨hstart, SyncError.consistent_auth _⟩) hpost (fun _ => ?_)
    fun hincremental => absurd (hstrategy.symm.trans hincremental) nofun
  exact hcourse.finishes hcopying around_caughtUp (follows_prepare hlimit)
    (follows_copyStep_caughtUp hlimit) (fun _ _ _ h _ => ensures_unfreeze_caughtUp hlimit h) rounds

/-- **A slave that has caught up is not behind what the master was read at**, in position or in size. -/
theorem CaughtUp.snapshots {baseline : Snapshot} (h : session.CaughtUp space Namespace.Measured baseline w) :
    ∃ current, session.snapshots = some current ∧ current.master.position ≤ current.slave.position ∧
      current.master.size ≤ current.slave.size := by
  obtain ⟨⟨seen, m, s, h, m₀, rfl, -, hcopying⟩, reading, hreading, hreached⟩ := h
  obtain ⟨s₀, hs₀, rfl⟩ := h.lastSlave reading hreading
  have hcurrent : session.snapshots = some ⟨m₀.snapshot, s₀.snapshot⟩ :=
    snapshots_eq_some.mpr ⟨h.lastMaster.trans hcopying.seen, hreading⟩
  have hsize := hcopying.limited.size_le hcopying.grown (hs₀.trans h.behind) hreached
  exact ⟨_, hcurrent, hreached, hsize⟩

/-! ## The run -/

/-- **Progress reports are truthful.** However the master is written to, whatever the stores are told to do wrong, and
    wherever connections fail: all that an incremental run reports is a slave which is not beyond the master, and a
    pause is reported only where both are at the same place; and a bulk copy that completes says so in its last report
    only, which shows a slave that is not behind the baseline. A report of either is on what was read last of the
    master, and accepted last of the slave. -/
theorem reports_truthful {session : Session Role} {w : Scene} {m s : Namespace} (hfresh : session.Fresh w m s)
    (rounds : Nat) {q : Program Role (Except SyncError (Option Outcome) × Session Role)} {v : Scene × Trace Role}
    (hrun : Program.Reaches (recorded (Scene.trouble session.space Namespace.Measured)) (run rounds session) (w, []) q
      v) :
    (session.strategy = .incremental → ∀ report ∈ v.2.reports,
      report.slave ≤ report.master ∧ report.synced ≤ report.total ∧
        (report.phase = .waiting → report.slave = report.master ∧ report.synced = report.total)) ∧
      (session.strategy = .bulk → ∀ session', q = .done (.ok (some .completed), session') →
        ∃ last earlier, v.2.reports = last :: earlier ∧ last.phase = .finished ∧
          last.master ≤ last.slave ∧ last.total ≤ last.synced ∧
          ∀ report ∈ earlier, report.phase ≠ .finished) ∧
      ∀ later report earlier, v.2 = later ++ ⟨.report report, ()⟩ :: earlier →
        ∃ current : PairSnapshot, session.seenIn earlier = some current.master ∧
          session.acceptedIn earlier = some current.slave ∧ report.IsOn current := by
  refine ⟨fun hstrategy report hreport => ?_, ?_, fun later report earlier heq => ?_⟩
  · obtain ⟨htruthful, -⟩ := Program.Ensures.reaches nofun (ensures_allTruthful hfresh hstrategy rounds) hrun
    obtain ⟨hlevel, -⟩ := Program.Ensures.reaches nofun (ensures_levelWhenWaiting hstrategy rounds)
      hrun.trace_of_recorded
    obtain ⟨hposition, hsize, hsame⟩ := htruthful report hreport
    refine ⟨hposition, hsize, fun hwaiting => ?_⟩
    have hplace := hlevel report hreport hwaiting
    exact ⟨hplace, hsame hplace⟩
  · rintro hstrategy session' rfl
    obtain ⟨-, hsignedOff⟩ := Program.Ensures.reaches trivial (ensures_signedOff session rounds)
      hrun.trace_of_recorded
    obtain ⟨-, baseline, hcaughtUp⟩ := Program.Ensures.reaches hfresh.tracks.inStep
      (ensures_catches hfresh (fun _ h => h.fits₆₄) hstrategy rounds) hrun.of_recorded
    obtain ⟨current, hcurrent, hposition, hsize⟩ := hcaughtUp.snapshots
    obtain ⟨previous, elapsed, earlier, hreports, hunfinished⟩ := hsignedOff current hcurrent
    exact ⟨_, earlier, hreports, rfl, hposition, hsize, hunfinished⟩
  · exact reportsRead_of_reaches hfresh.master.link hfresh.slave.link hrun.trace_of_recorded later _ earlier heq
      report rfl

theorem measured_twoSegments : Namespace.twoSegments.Measured := ⟨Namespace.portable_twoSegments, by decide⟩

/-- A run between equal sides, which is stopped in a pause that it has reported. -/
theorem exists_reaches_paused :
    ∃ session' v, Program.Reaches (recorded (Scene.trouble "data" Namespace.Measured)) (run 1 (between .incremental))
        (.between .twoSegments .twoSegments, []) (.done (.ok (some .stopped), session')) v ∧
      ∃ report ∈ v.2.reports, report.phase = .waiting := by
  let start : Scene := .between .twoSegments .twoSegments
  have hfresh := fresh_between .incremental (LogPrefix.refl Namespace.twoSegments.segments)
  obtain ⟨waiting, finished, delay, session', hwaiting, -, -, hrun⟩ :=
    exists_runs_paused (s := between .incremental) ⟨rfl, rfl⟩ rfl rfl rfl .twoSegments
  have hquiet : start.Quiet "data" .twoSegments := rfl
  have hstarted : Program.Plays (Scene.trouble "data" Namespace.Measured)
      ([⟨.stopRequested, false⟩, ⟨.log .info "Starting incremental sync", ()⟩] ++ []) start start :=
    hquiet.plays_idle measured_twoSegments (.nil start) (by simp [Event.isContact])
  obtain ⟨_, w', hcalm', hread⟩ := (hfresh.inCalm rfl rfl).plays_readings measured_twoSegments hstarted
  have hreported : Program.Plays (Scene.trouble "data" Namespace.Measured)
      ([⟨.stopRequested, false⟩, ⟨.report waiting, ()⟩, ⟨.clock, ⟨0⟩⟩] ++ _) start w' :=
    hcalm'.quiet.plays_idle measured_twoSegments hread (by simp [Event.isContact])
  have hplays : Program.Plays (Scene.trouble "data" Namespace.Measured)
      (fromPause delay finished ++ (between .incremental).upToPause .twoSegments waiting) start w' :=
    hcalm'.quiet.plays_idle measured_twoSegments hreported (by simp [fromPause, Event.isContact])
  exact ⟨session', _, hrun.played (List.append_nil _).symm hplays, waiting,
    List.mem_cons_of_mem _ (List.mem_cons_self ..), hwaiting⟩

/-- A copy of two segments to an empty slave, which completes. -/
theorem exists_reaches_completed :
    ∃ session' v, Program.Reaches (recorded (Scene.trouble "data" Namespace.Measured)) (run 4 (between .bulk))
      (.between .twoSegments (.ofLog [] []), []) (.done (.ok (some .completed), session')) v := by
  have hfresh := fresh_between .bulk Namespace.logPrefix_twoSegments
  have hlength : (copyPlan (.ofLog [] []) ((Namespace.ofLog [] []).missing .twoSegments)).length < 4 := by decide
  have hcalm : Action.Calmly (fun _ => ⟨0⟩) "data" .twoSegments (run 4) _ _ (between .bulk) _ :=
    (hfresh.inCalm rfl rfl).run rfl measured_twoSegments.fits₆₄ hfresh.behind (Namespace.replayed_ofLog [] []) hlength
  have hrun := Program.Ensures.reaches_trouble hcalm rfl measured_twoSegments
  have hend := Program.Ensures.run hcalm
  rcases hresult : (run 4 (between .bulk)).run (Scene.calm fun _ => ⟨0⟩) (.between .twoSegments (.ofLog [] []))
    with ⟨⟨_ | result, session'⟩, w'⟩
  · rw [hresult] at hend
    exact hend.elim
  · rw [hresult] at hend hrun
    obtain ⟨rfl, -⟩ := hend
    obtain ⟨trace, hrecorded⟩ := hrun.recorded []
    exact ⟨session', _, hrecorded⟩

/-- A session between equal sides reports a pause, and a copy that completes reports its end. -/
theorem reports_truthful_between :
    (∃ session' v, Program.Reaches (recorded (Scene.trouble "data" Namespace.Measured)) (run 1 (between .incremental))
        (.between .twoSegments .twoSegments, []) (.done (.ok (some .stopped), session')) v ∧
      ∃ report ∈ v.2.reports, report.phase = .waiting ∧ report.slave = report.master ∧ report.synced = report.total) ∧
    ∃ session' v, Program.Reaches (recorded (Scene.trouble "data" Namespace.Measured)) (run 4 (between .bulk))
        (.between .twoSegments (.ofLog [] []), []) (.done (.ok (some .completed), session')) v ∧
      ∃ last earlier, v.2.reports = last :: earlier ∧ last.phase = .finished ∧ last.master ≤ last.slave ∧
        last.total ≤ last.synced := by
  constructor
  · have hfresh := fresh_between .incremental (LogPrefix.refl Namespace.twoSegments.segments)
    obtain ⟨session', v, hrun, waiting, hmem, hwaiting⟩ := exists_reaches_paused
    obtain ⟨-, -, hlevel⟩ := (reports_truthful hfresh 1 hrun).1 rfl waiting hmem
    exact ⟨session', v, hrun, waiting, hmem, hwaiting, hlevel hwaiting⟩
  · have hfresh := fresh_between .bulk Namespace.logPrefix_twoSegments
    obtain ⟨session', v, hrun⟩ := exists_reaches_completed
    obtain ⟨last, earlier, hreports, hfinished, hposition, hsize, -⟩ :=
      (reports_truthful hfresh 4 hrun).2.1 rfl session' rfl
    exact ⟨session', v, hrun, last, earlier, hreports, hfinished, hposition, hsize⟩

end Session

end SegmentSync
