import SegmentSync.Proofs.Replication.Calm
import SegmentSync.Proofs.Replication.Operations
import SegmentSync.Proofs.Session.Acknowledgement
import SegmentSync.Proofs.Store.Missing

/-!
# `SegmentSync.Proofs.Replication.Safety` — entry by entry, a slave never leaves the master's log

A step reads the master's cursor, the slave's cursor and an entry, one after the other, while the master is
written to and connections fail. It is the order of these readings that makes the jump to the next segment safe:
where the slave's end was before the end of an earlier reading of the master, and the master has nothing more in
the slave's segment now, that segment is closed (`Namespace.exists_next_segment`).

## Contents
- **One step.** `onTrack_step`.
- **The run.** `incremental_never_diverges`, and a run whose copied entry is not heard of.
-/

namespace SegmentSync.Session

variable {α : Type} {space : String} {limit : Namespace → Prop} {session : Session Role} {seen : Option Snapshot}
  {m s : Namespace} {w : Scene}

/-- There are no bounds to what the sides may have. -/
def Unbounded (_ : Option Snapshot) (_ _ : Namespace) : Prop := True

theorem Tracks.onTrack (h : session.Tracks space seen m s w) : session.OnTrack space Unbounded w :=
  ⟨seen, m, s, h, trivial⟩

theorem onTrack_of_either {s' : Namespace} {failure : SyncError}
    (h : failure.Consistent ∧ (session.Tracks space seen m s w ∨ session.Tracks space seen m s' w)) :
    session.OnTrack space Unbounded w ∧ failure.Consistent :=
  ⟨h.2.elim Tracks.onTrack Tracks.onTrack, h.1⟩

/-! ## One step -/

/-- A failure to acknowledge becomes an integrity fault, which is not about cursors. -/
theorem ensures_acknowledged {fault : (reason : String) → IntegrityFault} {x : Action (Client Role) Role α}
    {post : α → Session Role → Scene → Prop}
    (h : Action.Withstands space limit (onSlave x) post
      (fun failure session w => session.OnTrack space Unbounded w ∧ failure.Consistent) session w) :
    Action.Withstands space limit (acknowledged fault x) post
      (fun failure session w => session.OnTrack space Unbounded w ∧ failure.Consistent) session w := by
  unfold acknowledged
  refine (Action.ensures_bind _ _).mpr ?_
  rw [Action.ensures_attempt]
  refine h.mono (fun _ _ _ h' => h') fun failure session w h' => ?_
  split
  · exact absurd (‹_› : Except.error _ = Except.ok _) nofun
  · exact ⟨h'.1, SyncError.consistent_integrity _⟩
  · exact ⟨h'.1, SyncError.consistent_integrity _⟩
  · exact ⟨h'.1, Except.error.inj ‹_› ▸ h'.2⟩

/-- The slave takes over the next entry. -/
theorem Tracks.replay (h : session.Tracks space seen m s w) {entry : Entry} (at_ : Position)
    (hnext : LogPrefix (s.append entry).segments m.segments) :
    Action.Withstands space limit (Session.replay (entry.record at_))
      (fun _ session' w' => session'.OnTrack space Unbounded w')
      (fun failure session' w' => session'.OnTrack space Unbounded w' ∧ failure.Consistent) session w := by
  obtain ⟨key, value, marker⟩ := entry
  unfold Session.replay
  cases value with
  | none =>
    refine (Action.ensures_bind _ _).mpr (ensures_acknowledged ?_)
    exact (h.applyDelete hnext).mono (fun _ _ _ h' => h'.onTrack) fun _ _ _ h' => onTrack_of_either h'
  | some value =>
    refine (Action.ensures_bind _ _).mpr (ensures_acknowledged ?_)
    refine (h.applySet hnext).mono (fun echo _ _ h' => ?_) fun _ _ _ h' => onTrack_of_either h'
    dsimp only
    split
    · exact ⟨h'.onTrack, SyncError.consistent_integrity _⟩
    · exact h'.onTrack

/-- A slave that ends before an earlier end of the master comes closer to it. -/
theorem Tracks.advance (h : session.Tracks space seen m s w) (hlimit : ∀ ns, limit ns → ns.Portable)
    (hlt : s.position < m.position) :
    Action.Withstands space limit (Session.advance s.position)
      (fun _ session' w' => session'.OnTrack space Unbounded w')
      (fun failure session' w' => session'.OnTrack space Unbounded w' ∧ failure.Consistent) session w := by
  unfold Session.advance
  refine (Action.ensures_bind _ _).mpr ?_
  rw [Action.ensures_attempt]
  refine (h.fetchRecord hlimit).mono ?_ ?_
  · rintro _ session₁ w₁ ⟨m₁, entry, tail, rest, -, -, hsegments, rfl, h₁⟩
    have hposition : ¬ (entry.record s.position).position ≠ s.position := fun hne => hne rfl
    dsimp only
    rw [if_neg hposition]
    exact h₁.replay s.position (Namespace.logPrefix_append_of_next hsegments)
  · rintro failure session₁ w₁ ⟨hconsistent, hkept, heof⟩
    dsimp only
    split
    · -- The master has nothing more here, but it ended further on before: there is a further segment.
      obtain ⟨m₁, rest, hm₁, hportable, hsegments, h₁⟩ := heof ‹_›
      obtain ⟨next, more, rfl⟩ :=
        Namespace.exists_next_segment (hlimit m₁ hportable).fits₆₄ hm₁ hlt hsegments
      refine (Action.ensures_bind _ _).mpr (h₁.log fun w₂ h₂ => ?_)
      refine (Action.ensures_bind _ _).mpr ?_
      exact (h₂.jumpSegment (Namespace.logPrefix_jump_of_closed hsegments)).mono
        (fun _ _ _ h₃ => h₃.onTrack) fun _ _ _ h₃ => onTrack_of_either h₃
    · exact ⟨hkept.onTrack, hconsistent⟩

/-- **A step stays on track**, and finds no cursors that cannot be. -/
theorem onTrack_step (hlimit : ∀ ns, limit ns → ns.Portable) : StaysOnTrack space limit Unbounded step := by
  rintro session w ⟨seen, m, s, h, -⟩
  unfold step
  refine (Action.ensures_bind _ _).mpr (h.masterInfo.mono ?_ fun _ _ _ h₁ => ⟨h₁.2.onTrack, h₁.1⟩)
  rintro _ session₁ w₁ ⟨m₁, -, hm₁, rfl, h₁⟩
  have hfits := (hlimit m₁ hm₁).fits₆₄
  refine (Action.ensures_bind _ _).mpr ((h₁.slaveInfo hfits).mono ?_ fun _ _ _ h₂ => ⟨h₂.2.onTrack, h₂.1⟩)
  rintro _ session₂ w₂ ⟨rfl, h₂⟩
  -- The master's reading is the older one, but the slave was a prefix of the master then already.
  rcases Namespace.decide_of_logPrefix hfits h₂.behind with ⟨hdecide, -⟩ | ⟨hdecide, hlt⟩
  · rw [hdecide]; exact h₂.onTrack
  · rw [hdecide]; exact h₂.advance hlimit hlt

/-! ## The run -/

theorem onTrack_runIncremental (hlimit : ∀ ns, limit ns → ns.Portable) (rounds : Nat) :
    StaysOnTrack space limit Unbounded (runIncremental rounds) := by
  have hcourse : Course (Scene.trouble space limit) (Scene.InStep space) (OnTrack space Unbounded) _ _ _ _ :=
    course_onTrack fun _ _ h => h
  exact hcourse.runIncremental (Unaffected.follows (fun _ _ h => h) (onTrack_step hlimit)) rounds

/-- **Entry by entry, a slave never leaves the master's log.** However the master is written to, whatever the
    stores are told to do wrong, and wherever connections fail: at every point of a run the slave's log is a
    prefix of the master's, and no run ends because of impossible cursors. -/
theorem incremental_never_diverges {session : Session Role} {w v : Scene} {m s : Namespace}
    (hfresh : session.Fresh w m s) (rounds : Nat)
    {q : Program Role (Except SyncError (Option Outcome) × Session Role)}
    (hrun : Program.Reaches (Scene.trouble session.space Namespace.Portable) (runIncremental rounds session) w q
      v) :
    LogPrefix (v.slave.store.segments session.space) (v.master.store.segments session.space) ∧
      ∀ failure session', q = .done (.error failure, session') →
        ∀ master slave fault, failure ≠ .invariantViolation master slave fault := by
  have htracks := hfresh.tracks
  obtain ⟨hsafe, hrest⟩ := Program.Ensures.reaches htracks.inStep
    (onTrack_runIncremental (fun _ h => h) rounds session w htracks.onTrack) hrun
  refine ⟨hsafe, ?_⟩
  rintro failure session' rfl
  exact hrest.2

/-- The two segments after one write more. -/
def writtenOn : Namespace := Namespace.twoSegments.append ⟨[98], some [50], 1⟩

/-- The first entry of them. -/
def firstEntry : Entry := ⟨[97], some [49], 1⟩

/-- A step that copies it to an empty slave, and does not hear of that. -/
def unheardStep : Trace Role :=
  [.sent .slave (firstEntry.record .zero).request (.error (.transport "reset")),
    .sent .master (.dataRaw .zero) (.ok (Serve.recordReply firstEntry .zero)),
    .sent .slave (.nsInfo "data") (.ok (.bulk (Utf8.encode ((Namespace.ofLog [] []).info "data")))),
    .sent .master (.nsInfo "data") (.ok (.bulk (Utf8.encode (writtenOn.info "data"))))]

/-- The end of a run that is stopped while it recovers. -/
def fromRecovery (warning : String) (finished : Report) : Trace Role :=
  [⟨.report finished, ()⟩, ⟨.clock, ⟨0⟩⟩, ⟨.log .info "Stop requested", ()⟩, ⟨.stopRequested, true⟩,
    ⟨.log .warn warning, ()⟩]

theorem portable_writtenOn : writtenOn.Portable := ⟨⟨by decide, by decide⟩, by decide⟩

theorem segments_writtenOn :
    writtenOn.segments = (Namespace.ofLog [] []).earlier ++ ((Namespace.ofLog [] []).current ++ firstEntry :: []) ::
      [[⟨[97], none, 2⟩, ⟨[98], some [50], 1⟩]] := rfl

/-- Such a step may be what happens at the stores, when the master is written to at the look before it. -/
theorem exists_plays_unheardStep :
    ∃ w : Scene, Program.Plays (Scene.trouble "data" Namespace.Portable) (unheardStep ++ [⟨.stopRequested, false⟩])
        (.between .twoSegments (.ofLog [] [])) w ∧
      w.Quiet "data" writtenOn ∧ w.slave.Shows "data" ((Namespace.ofLog [] []).append firstEntry) := by
  let s : Namespace := .ofLog [] []
  let start : Scene := .between .twoSegments s
  let written := start.suffer [.set "data" [98] [50]] []
  have hlimit := portable_writtenOn
  have hquiet : written.Quiet "data" writtenOn := rfl
  have hwrite : Scene.trouble "data" Namespace.Portable start .stopRequested false written :=
    ⟨[.set "data" [98] [50]], [], nofun, rfl, fun _ hns => Option.some.inj (hquiet.symm.trans hns) ▸ hlimit⟩
  have hwritten : (between .incremental).Fresh written writtenOn s :=
    ⟨rfl, ⟨rfl, rfl, rfl, fun _ => rfl, rfl, rfl⟩, ⟨rfl, rfl, rfl, nofun, rfl, rfl⟩,
      Namespace.logPrefix_iff.mpr ⟨_, _, segments_writtenOn⟩, rfl⟩
  have hlooked : Program.Plays (Scene.trouble "data" Namespace.Portable) [⟨.stopRequested, false⟩] start written :=
    .cons (.nil start) hwrite
  obtain ⟨_, w₁, hcalm₁, hplays₁⟩ := (hwritten.inCalm rfl rfl).plays_readings hlimit hlooked
  obtain ⟨w₂, hcalm₂, hplays₂⟩ := hcalm₁.plays_master hlimit hplays₁ (.dataRaw s.position) rfl fun _ hshows =>
    recorded_position hlimit.fits₆₄ segments_writtenOn ▸ Serve.on_serveRecord hshows s.position
  obtain ⟨w₃, hquiet₃, hshows₃, hplays₃⟩ := (hcalm₂.plays_slave hlimit hplays₂
    (firstEntry.record s.position).request (s.logPrefix_append firstEntry) fun _ hcalm hshows =>
      ⟨_, dispatch_set rfl hshows [97] [49] 1, hcalm.marked.put _ _, hshows.marked.put _⟩).2 "reset"
  exact ⟨w₃, hplays₃, hquiet₃, hshows₃⟩

/-- A run of that step, which is stopped while it recovers. -/
theorem exists_runs_unheardStep :
    ∃ (warning : String) (finished : Report) (session' : Session Role),
      (runIncremental 1).Runs (between .incremental)
        (fromRecovery warning finished ++ (unheardStep ++ [⟨.stopRequested, false⟩])) (.ok (some .stopped))
        session' := by
  let session := between .incremental
  have hentry : Client.reading (.dataRaw .zero) Client.record? (.ok (Serve.recordReply firstEntry .zero)) =
      .ok (firstEntry.record .zero) := Client.reading_dataRaw firstEntry (by decide) (by decide)
  have hhanded : HandsOver session (firstEntry.record .zero) _ :=
    .handed (Client.reading_nsInfo "data" writtenOn) (Client.reading_nsInfo "data" (.ofLog [] [])) rfl (by decide)
      hentry rfl
  obtain ⟨seen, here, hstep⟩ := runs_step ⟨rfl, rfl⟩ hhanded (.error (.transport "reset"))
  rw [Record.settle_error] at hstep
  let noticed : Session Role := { session with lastMaster := some seen, lastSlave := some here }
  let stopping : Session Role := { noticed with failures := 1, backoff := noticed.backoff.next.2 }
  have hrecover : (recover (.transport "reset")).Runs noticed [⟨.stopRequested, true⟩, ⟨.log .warn _, ()⟩] (.ok true)
      stopping := .answered () (.answered true (.refl _ _))
  have hround : (incrementalRound session.options.poll.backoff).Runs session _ (.ok (.last ())) stopping :=
    (Action.runs_perform .stopRequested false session).bind
      ((hstep.attempt.bind (hrecover.finish rfl)).finish rfl)
  have hrounds : (Action.rounds incrementalRound 1 session.options.poll.backoff).Runs session _ (.ok (some ()))
      stopping := hround.finish rfl
  have hstopped : ∃ finished s', stopped.Runs stopping
      [⟨.report finished, ()⟩, ⟨.clock, ⟨0⟩⟩, ⟨.log .info "Stop requested", ()⟩] (.ok .stopped) s' :=
    ⟨_, _, .answered () (.answered ⟨0⟩ (.answered () (.refl _ _)))⟩
  obtain ⟨finished, s', hstopped⟩ := hstopped
  have hrun : (runIncremental 1).Runs session _ (.ok (some .stopped)) s' :=
    .bind_get (hrounds.bind (hstopped.finish rfl))
  exact ⟨_, finished, s', hrun⟩

/-- The master is written to, the first entry is copied, the answer to that gets lost, and the session is stopped while
    it recovers. -/
theorem incremental_never_diverges_from_empty :
    ∃ session' v, Program.Reaches (Scene.trouble "data" Namespace.Portable)
        (runIncremental 1 (between .incremental)) (.between .twoSegments (.ofLog [] []))
        (.done (.ok (some .stopped), session')) v ∧
      v.slave.store.segments "data" = [[⟨[97], some [49], 1⟩]] ∧
      LogPrefix (v.slave.store.segments "data") (v.master.store.segments "data") := by
  have hfresh := fresh_between .incremental Namespace.logPrefix_twoSegments
  obtain ⟨w, hplays, hquiet, hshows⟩ := exists_plays_unheardStep
  obtain ⟨warning, finished, session', hrun⟩ := exists_runs_unheardStep
  have hidle : ∀ event ∈ fromRecovery warning finished, event.isContact = false := by
    simp [fromRecovery, Event.isContact]
  have hreached := (hrun.played (List.append_nil _).symm
    (hquiet.plays_idle portable_writtenOn hplays hidle)).of_recorded
  exact ⟨session', w, hreached, hshows.holds.segments, (incremental_never_diverges hfresh 1 hreached).1⟩

end SegmentSync.Session
