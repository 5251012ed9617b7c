import SegmentSync.Proofs.Session.Finality

/-!
# `SegmentSync.Proofs.Session.Cursors` — a slave that goes back is not followed

A session remembers the cursor of its slave that it has accepted last, and keeps it from one run or step to the next,
whatever fails in between. A slave that turns out to be behind it has lost something that it had; that ends the run at
once, and the session still knows where the slave has been.

## Contents
- **Cursors.** `Session.acceptances` are the cursors that were accepted, `Session.cursorsReported` those in reports.
- **Calls.** `Session.IsCall` lists what may be asked of a session. What each of them adds to a trace is judged as the
  events of a run are, so a cursor behind the last one ends it (`IsCall.refuses`).
- **Lives.** `Session.Lived` is one call after another; `Session.cursors_monotone`.
-/

namespace SegmentSync.Session

variable {α : Type} {session s s' : Session Role} {w events : Trace Role} {event : Event Role} {snapshot : Snapshot}
  {at_ : Position}

/-! ## Cursors -/

theorem acceptedIn_append (hspace : s.space = session.space) (h : s.lastSlave = session.acceptedIn w)
    (events : Trace Role) : s.acceptedIn events = session.acceptedIn (events ++ w) := by
  induction events with
  | nil => exact h
  | cons event events ih => rw [List.cons_append, acceptedIn_cons, acceptedIn_cons, hspace, ih]

theorem seen_append (space : String) (start : Option Snapshot) (events w : Trace Role) :
    seen space start (events ++ w) = seen space (seen space start w) events := by
  induction events with
  | nil => rfl
  | cons event events ih => rw [List.cons_append, seen, seen, ih]

theorem seenIn_append (hspace : s.space = session.space) (h : s.lastMaster = session.seenIn w) (events : Trace Role) :
    s.seenIn events = session.seenIn (events ++ w) := by
  rw [seenIn, seenIn, seen_append, hspace, h]

theorem movedBackwards_some {before snapshot : Snapshot} :
    movedBackwards (some before) snapshot = true ↔ snapshot.position < before.position := decide_eq_true_iff

/-- What is accepted is not behind what was accepted before, and stays accepted until something else is. -/
theorem acceptedIn_mono {before : Snapshot} (h : session.acceptedIn w = some before) (event : Event Role) :
    ∃ after, session.acceptedIn (event :: w) = some after ∧ before.position ≤ after.position := by
  have hstays : ∃ after, some before = some after ∧ before.position ≤ after.position := ⟨before, rfl, .inr rfl⟩
  rw [acceptedIn_cons, h]
  cases sighting? .slave session.space event with
  | none => exact hstays
  | some snapshot =>
    dsimp only
    by_cases hback : movedBackwards (some before) snapshot = true
    · rw [if_pos hback]
      exact hstays
    · rw [if_neg hback]
      exact ⟨snapshot, rfl, Position.le_of_not_lt fun hlt => hback (movedBackwards_some.mpr hlt)⟩

/-- The cursors that were accepted, the latest first, down to the one that the session came with. -/
def acceptances (session : Session Role) : Trace Role → List Position
  | [] => (session.lastSlave.map Snapshot.position).toList
  | event :: earlier =>
    match sighting? .slave session.space event with
    | some snapshot =>
      if movedBackwards (session.acceptedIn earlier) snapshot then session.acceptances earlier
      else snapshot.position :: session.acceptances earlier
    | none => session.acceptances earlier

/-- An event adds the cursor that is accepted with it, or none. -/
theorem acceptances_cons (session : Session Role) (event : Event Role) (w : Trace Role) :
    session.acceptedIn (event :: w) = session.acceptedIn w ∧
        session.acceptances (event :: w) = session.acceptances w ∨
      ∃ snapshot, session.acceptedIn (event :: w) = some snapshot ∧
        session.acceptances (event :: w) = snapshot.position :: session.acceptances w := by
  rw [acceptances, acceptedIn_cons]
  cases sighting? .slave session.space event with
  | none => exact .inl ⟨rfl, rfl⟩
  | some snapshot =>
    dsimp only
    by_cases hback : movedBackwards (session.acceptedIn w) snapshot = true
    · rw [if_pos hback, if_pos hback]
      exact .inl ⟨rfl, rfl⟩
    · rw [if_neg hback, if_neg hback]
      exact .inr ⟨snapshot, rfl, rfl⟩

/-- No cursor that was accepted is ahead of the latest one. -/
theorem le_acceptedIn (hmem : at_ ∈ session.acceptances w) :
    ∃ snapshot, session.acceptedIn w = some snapshot ∧ at_ ≤ snapshot.position := by
  induction w generalizing at_ with
  | nil =>
    have hstart : ∃ snapshot, session.lastSlave = some snapshot ∧ snapshot.position = at_ := by
      simpa [acceptances] using hmem
    obtain ⟨snapshot, hsnapshot, rfl⟩ := hstart
    exact ⟨snapshot, hsnapshot, .inr rfl⟩
  | cons event w ih =>
    have hearlier : at_ ∈ session.acceptances w →
        ∃ snapshot, session.acceptedIn (event :: w) = some snapshot ∧ at_ ≤ snapshot.position := by
      intro hmem
      obtain ⟨before, hbefore, hle⟩ := ih hmem
      obtain ⟨after, hafter, hle'⟩ := acceptedIn_mono hbefore event
      exact ⟨after, hafter, Position.le_trans hle hle'⟩
    rcases acceptances_cons session event w with ⟨-, heq⟩ | ⟨snapshot, hsnapshot, heq⟩
    · exact hearlier (heq ▸ hmem)
    · rw [heq] at hmem
      rcases List.mem_cons.mp hmem with rfl | hmem
      · exact ⟨snapshot, hsnapshot, .inr rfl⟩
      · exact hearlier hmem

/-- **Cursors are accepted in order.** -/
theorem pairwise_acceptances (session : Session Role) (w : Trace Role) :
    (session.acceptances w).Pairwise fun later earlier => earlier ≤ later := by
  induction w with
  | nil =>
    rw [acceptances]
    cases session.lastSlave with
    | none => exact .nil
    | some _ => exact List.pairwise_singleton _ _
  | cons event w ih =>
    rcases acceptances_cons session event w with ⟨-, heq⟩ | ⟨snapshot, hsnapshot, heq⟩
    · rw [heq]
      exact ih
    · rw [heq]
      refine List.pairwise_cons.mpr ⟨fun at_ hmem => ?_, ih⟩
      obtain ⟨before, hbefore, hle⟩ := le_acceptedIn hmem
      obtain ⟨after, hafter, hle'⟩ := acceptedIn_mono hbefore event
      obtain rfl : snapshot = after := Option.some.inj (hsnapshot.symm.trans hafter)
      exact Position.le_trans hle hle'

theorem mem_acceptances (h : session.acceptedIn w = some snapshot) : snapshot.position ∈ session.acceptances w := by
  induction w with
  | nil =>
    have hstart : session.lastSlave = some snapshot := h
    simp [acceptances, hstart]
  | cons event w ih =>
    rcases acceptances_cons session event w with ⟨hsame, heq⟩ | ⟨latest, hlatest, heq⟩
    · rw [heq]
      exact ih (hsame.symm.trans h)
    · obtain rfl : latest = snapshot := Option.some.inj (hlatest.symm.trans h)
      rw [heq]
      exact List.mem_cons_self

theorem acceptances_subset (session : Session Role) (later earlier : Trace Role) :
    session.acceptances earlier ⊆ session.acceptances (later ++ earlier) := by
  induction later with
  | nil => exact List.Subset.refl _
  | cons event later ih =>
    rcases acceptances_cons session event (later ++ earlier) with ⟨-, heq⟩ | ⟨snapshot, -, heq⟩
    · rw [List.cons_append, heq]
      exact ih
    · rw [List.cons_append, heq]
      exact List.subset_cons_of_subset _ ih

/-- What a session came with is not ahead of what it accepts. -/
theorem le_acceptedIn_of_start {before : Snapshot} (h : session.lastSlave = some before) (w : Trace Role) :
    ∃ after, session.acceptedIn w = some after ∧ before.position ≤ after.position := by
  have hstart : session.acceptedIn [] = some before := h
  have hmem : before.position ∈ session.acceptances (w ++ []) :=
    acceptances_subset session w [] (mem_acceptances hstart)
  rw [List.append_nil] at hmem
  exact le_acceptedIn hmem

/-- The cursor of the slave that an event reports. -/
def cursorReported? : Event Role → Option Position
  | ⟨.report report, _⟩ => some report.slave
  | _ => none

/-- The cursors that were reported, the latest first. -/
def cursorsReported (w : Trace Role) : List Position := w.filterMap cursorReported?

/-- Every report tells the cursor of the slave that was accepted at that time. -/
theorem ReportsRead.accepted {later earlier : Trace Role} (h : session.ReportsRead (later ++ event :: earlier))
    (hreported : cursorReported? event = some at_) :
    ∃ snapshot, session.acceptedIn earlier = some snapshot ∧ snapshot.position = at_ := by
  obtain ⟨effect, answer⟩ := event
  cases effect with
  | report report =>
    obtain rfl := Option.some.inj hreported
    obtain ⟨current, -, hslave, hon⟩ := h later _ earlier rfl report rfl
    exact ⟨current.slave, hslave, hon.slave.symm⟩
  | _ => cases hreported

/-- What is reported has been accepted. -/
theorem ReportsRead.subset (h : session.ReportsRead w) : cursorsReported w ⊆ session.acceptances w := by
  intro at_ hmem
  obtain ⟨event, hevent, hreported⟩ := List.mem_filterMap.mp hmem
  obtain ⟨later, earlier, rfl⟩ := List.append_of_mem hevent
  obtain ⟨snapshot, hsnapshot, rfl⟩ := h.accepted hreported
  rw [List.append_cons]
  exact acceptances_subset session _ earlier (mem_acceptances hsnapshot)

/-- **Cursors are reported in order.** -/
theorem ReportsRead.pairwise (h : session.ReportsRead w) :
    (cursorsReported w).Pairwise fun later earlier => earlier ≤ later := by
  induction w with
  | nil => exact .nil
  | cons event w ih =>
    have htail : session.ReportsRead w := h.tail
    cases hreported : cursorReported? event with
    | none =>
      have hsame : cursorsReported (event :: w) = cursorsReported w := List.filterMap_cons_none hreported
      rw [hsame]
      exact ih htail
    | some at_ =>
      have hcons : cursorsReported (event :: w) = at_ :: cursorsReported w := List.filterMap_cons_some hreported
      have hlatest : session.ReportsRead ([] ++ event :: w) := h
      obtain ⟨snapshot, hsnapshot, rfl⟩ := hlatest.accepted hreported
      rw [hcons]
      refine List.pairwise_cons.mpr ⟨fun earlier hmem => ?_, ih htail⟩
      obtain ⟨latest, hlatest, hle⟩ := le_acceptedIn (htail.subset hmem)
      obtain rfl : snapshot = latest := Option.some.inj (hsnapshot.symm.trans hlatest)
      exact hle

/-! ## Calls -/

/-- What may be asked of a session. -/
inductive IsCall : {α : Type} → Action (Session Role) Role α → Prop where
  | run (limit : Nat) : IsCall (run limit)
  | step : IsCall step

variable {x : Action (Session Role) Role α} {result : Except SyncError α}

/-- The answers to a call are judged as those to a run are. A single step goes entry by entry, whatever the strategy
    is. -/
theorem IsCall.judged (hx : IsCall x) (hmaster : s.master.link = .master) (hslave : s.slave.link = .slave)
    (hrun : x.Runs s events result s') :
    ∃ strategy, Standing { s with strategy } False none s' events ∨
      ∃ failure, result = .error failure ∧ Doomed { s with strategy } failure s' events := by
  cases hx with
  | run limit =>
    have hend := (hrun.ensured trivial (ensures_run_ending hmaster hslave limit)).2
    refine ⟨s.strategy, ?_⟩
    cases result with
    | ok outcome =>
      have hgoing : Going s False none s' events := hend
      exact .inl hgoing.toStanding
    | error failure =>
      have hending : Ending s failure s' events := hend
      exact hending.judged.imp_right fun hdoomed => ⟨failure, rfl, hdoomed⟩
  | step =>
    -- The strategy only tells what the slave was compared with.
    let stepping : Session Role := { s with strategy := .incremental }
    have hstart : Poised stepping False none s [] := .start .incremental hmaster hslave
    have hend := (hrun.ensured trivial (hstart.step rfl)).2
    refine ⟨.incremental, ?_⟩
    cases result with
    | ok value =>
      have hpoised : Poised stepping False none s' events := hend
      exact .inl hpoised.toStanding
    | error failure =>
      have hfails : Fails stepping False none failure s' events := hend
      exact hfails.judged.imp_right fun hdoomed => ⟨failure, rfl, hdoomed⟩

/-- What a session knows does not depend on its strategy. -/
theorem Knows.of_strategy {strategy : Strategy} (h : Knows { s with strategy } s' events) : Knows s s' events where
  space := h.space
  masterLink := h.masterLink
  slaveLink := h.slaveLink
  masterTarget := h.masterTarget
  slaveTarget := h.slaveTarget
  lastMaster := h.lastMaster
  lastSlave := h.lastSlave
  reports := h.reports

/-- What is known of one time and what is known of the time after it are known together. -/
theorem Knows.trans (h : Knows session s w) (h' : Knows s s' events) : Knows session s' (events ++ w) where
  space := h'.space.trans h.space
  masterLink := h'.masterLink
  slaveLink := h'.slaveLink
  masterTarget := h'.masterTarget.trans h.masterTarget
  slaveTarget := h'.slaveTarget.trans h.slaveTarget
  lastMaster := h'.lastMaster.trans (seenIn_append h.space h.lastMaster events)
  lastSlave := h'.lastSlave.trans (acceptedIn_append h.space h.lastSlave events)
  reports := by
    intro later event earlier heq
    rcases Trace.append_eq_append_cons heq with ⟨m, rfl, rfl⟩ | ⟨m, rfl, rfl⟩
    · rw [← seenIn_append h.space h.lastMaster m, ← acceptedIn_append h.space h.lastSlave m]
      exact h'.reports later event m rfl
    · exact h.reports m event earlier rfl

theorem IsCall.knows (hx : IsCall x) (hmaster : s.master.link = .master) (hslave : s.slave.link = .slave)
    (hrun : x.Runs s events result s') : Knows s s' events := by
  obtain ⟨strategy, hstanding | ⟨failure, -, hdoomed⟩⟩ := hx.judged hmaster hslave hrun
  · exact hstanding.toKnows.of_strategy
  · exact hdoomed.toKnows.of_strategy

/-- **Every report of a run is on the readings that were taken last**, also of a run that goes on. -/
theorem reportsRead_of_reaches {limit : Nat} (hmaster : session.master.link = .master)
    (hslave : session.slave.link = .slave) {q : Program Role (Except SyncError (Option Outcome) × Session Role)}
    (h : Program.Reaches recording (run limit session) [] q w) : session.ReportsRead w := by
  obtain ⟨⟨result, s'⟩, whole, hrest⟩ := q.exists_end w
  obtain ⟨events, rfl, -⟩ := hrest.shift
  have hrun : (run limit).Runs session (events ++ w) result s' := h.trans hrest
  have hknows : Knows session s' (events ++ w) := (IsCall.run limit).knows hmaster hslave hrun
  rintro later event earlier rfl
  exact hknows.reports (events ++ later) event earlier (List.append_assoc ..).symm

theorem acceptedIn_of_isLog {later : Trace Role} (h : ∀ event ∈ later, event.isLog = true) :
    session.acceptedIn (later ++ w) = session.acceptedIn w := by
  induction later with
  | nil => rfl
  | cons event later ih =>
    obtain ⟨hlog, hlater⟩ := List.forall_mem_cons.mp h
    obtain ⟨effect, answer⟩ := event
    cases effect with
    | log level line => exact (plain_log level line).accepted.trans (ih hlater)
    | _ => cases hlog

/-- **A slave that has gone back** ends the call. The session still knows where it has been. -/
theorem IsCall.refuses (hx : IsCall x) (hmaster : s.master.link = .master) (hslave : s.slave.link = .slave)
    {later earlier : Trace Role} (hrun : x.Runs s (later ++ event :: earlier) result s')
    (hsighting : sighting? .slave s.space event = some snapshot)
    (hback : movedBackwards (s.acceptedIn earlier) snapshot = true) :
    result = .error (.invariantViolation (cursorOf (s.seenIn earlier)) snapshot.position .movedBackwards) ∧
      s'.lastSlave = s.acceptedIn earlier ∧ ∀ event ∈ later, event.isLog = true := by
  have hknows : Knows s s' (later ++ event :: earlier) := hx.knows hmaster hslave hrun
  obtain ⟨strategy, hjudged⟩ := hx.judged hmaster hslave hrun
  have hverdict : Session.verdict { s with strategy } earlier event =
      some (.invariantViolation (cursorOf (s.seenIn earlier)) snapshot.position .movedBackwards) :=
    verdict_of_movedBackwards hsighting hback
  -- Nothing but this reading can have condemned the session, and it has.
  rcases hjudged with hstanding | ⟨failure, rfl, hdoomed⟩
  · rw [hstanding.clear later event earlier rfl] at hverdict
    cases hverdict
  · obtain ⟨rfl, hlogs⟩ := hdoomed.last rfl hverdict
    refine ⟨rfl, ?_, hlogs⟩
    rw [hknows.lastSlave, acceptedIn_of_isLog hlogs, acceptedIn_cons, hsighting]
    exact if_pos hback

/-! ## Lives -/

/-- What has become of a session after one call or another, however they have ended, and what has happened
    meanwhile. -/
inductive Lived (session : Session Role) : Session Role → Trace Role → Prop where
  | start : Lived session session []
  | call {β : Type} {s s' : Session Role} {w events : Trace Role} {x : Action (Session Role) Role β}
    {result : Except SyncError β} (h : Lived session s w) (hx : IsCall x) (hrun : x.Runs s events result s') :
    Lived session s' (events ++ w)

/-- **A session knows what has happened in its life.** -/
theorem Lived.knows (hmaster : session.master.link = .master) (hslave : session.slave.link = .slave)
    (h : Lived session s w) : Knows session s w := by
  induction h with
  | start =>
    have hstart : Poised session False none session [] := .start session.strategy hmaster hslave
    exact hstart.toKnows
  | call _ hx hrun ih => exact ih.trans (hx.knows ih.masterLink ih.slaveLink hrun)

/-- **A slave that goes back is not followed.** Over the whole life of a session the cursor that it remembers is the
    last one that it has accepted, and never behind an earlier one. The cursors that it accepts come in order, and so
    do the ones that it reports, which are among them. A slave that turns out to be behind the last of them ends the
    call at once: all that follows is that this is logged, and the session still remembers what it did. -/
theorem cursors_monotone {session s : Session Role} (hmaster : session.master.link = .master)
    (hslave : session.slave.link = .slave) {w : Trace Role} (h : Lived session s w) :
    s.lastSlave = session.acceptedIn w ∧
      (∀ before, session.lastSlave = some before →
        ∃ after, s.lastSlave = some after ∧ before.position ≤ after.position) ∧
      (session.acceptances w).Pairwise (fun later earlier => earlier ≤ later) ∧
      (cursorsReported w).Pairwise (fun later earlier => earlier ≤ later) ∧
      cursorsReported w ⊆ session.acceptances w ∧
      ∀ {α : Type} (x : Action (Session Role) Role α) (result : Except SyncError α) (s' : Session Role)
        (later : Trace Role) (event : Event Role) (earlier : Trace Role) (snapshot : Snapshot), IsCall x →
        x.Runs s (later ++ event :: earlier) result s' → sighting? .slave session.space event = some snapshot →
        movedBackwards (session.acceptedIn (earlier ++ w)) snapshot = true →
        result = .error (.invariantViolation (cursorOf (session.seenIn (earlier ++ w))) snapshot.position
            .movedBackwards) ∧
          s'.lastSlave = session.acceptedIn (earlier ++ w) ∧ ∀ event ∈ later, event.isLog = true := by
  have hknows : Knows session s w := h.knows hmaster hslave
  refine ⟨hknows.lastSlave, fun before hbefore => ?_, pairwise_acceptances session w, hknows.reports.pairwise,
    hknows.reports.subset, ?_⟩
  · rw [hknows.lastSlave]
    exact le_acceptedIn_of_start hbefore w
  intro α x result s' later event earlier snapshot hx hrun hsighting hback
  have haccepted : s.acceptedIn earlier = session.acceptedIn (earlier ++ w) :=
    acceptedIn_append hknows.space hknows.lastSlave earlier
  have hseen : s.seenIn earlier = session.seenIn (earlier ++ w) :=
    seenIn_append hknows.space hknows.lastMaster earlier
  rw [← haccepted] at hback
  rw [← hknows.space] at hsighting
  rw [← haccepted, ← hseen]
  exact hx.refuses hknows.masterLink hknows.slaveLink hrun hsighting hback

/-- A slave that has lost its second segment between two steps is not followed back to its first one. -/
theorem cursors_monotone_of_lost :
    ∃ (session s s' : Session Role) (w earlier : Trace Role) (lost : Namespace), Lived session s w ∧
      step.Runs s (readBy session.slave session.space lost :: earlier)
        (.error (.invariantViolation ⟨1, 0⟩ ⟨0, 0⟩ .movedBackwards)) s' ∧
      movedBackwards (session.acceptedIn (earlier ++ w)) lost.snapshot = true ∧
      s'.lastSlave = session.acceptedIn (earlier ++ w) := by
  let session : Session Role := between .incremental
  let m : Namespace := .ofLog [[]] []
  let lost : Namespace := .ofLog [] []
  let session₁ : Session Role := { session with lastMaster := some m.snapshot }
  let session₂ : Session Role := { session₁ with lastSlave := some m.snapshot }
  let w : Trace Role := [readBy session.slave session.space m, readBy session.master session.space m]
  let earlier : Trace Role := [readBy session.master session.space m]
  let failure : SyncError := .invariantViolation m.position lost.position .movedBackwards
  have hmaster₁ : masterInfo.Runs session _ (.ok m.snapshot) session₁ := runs_masterInfo rfl m
  have hslave₁ : slaveInfo.Runs session₁ _ (.ok m.snapshot) session₂ := runs_slaveInfo rfl m rfl
  have hidle : step.Runs session _ (.ok .idle) session₂ := hmaster₁.bind (hslave₁.finish rfl)
  have hlived : Lived session session₂ w := .call .start .step hidle
  have hmaster₂ : masterInfo.Runs session₂ earlier (.ok m.snapshot) session₂ := runs_masterInfo rfl m
  have hread : (onSlave (Client.namespaceInfo session.space)).Runs session₂ _ (.ok lost.snapshot) session₂ :=
    (Client.runs_namespaceInfo rfl session.space lost).focus
  have hslave₂ : slaveInfo.Runs session₂ _ (.error failure) session₂ := .bind_get (hread.finish rfl)
  have hstep : step.Runs session₂ _ (.error failure) session₂ := hmaster₂.bind hslave₂.bind_error
  obtain ⟨hremembered, -, -, -, -, hrefuses⟩ := cursors_monotone rfl rfl hlived
  have haccepted : session.acceptedIn (earlier ++ w) = some m.snapshot := hremembered.symm
  have hback : movedBackwards (session.acceptedIn (earlier ++ w)) lost.snapshot = true := by
    rw [haccepted]; rfl
  have hsighting : sighting? .slave session.space (readBy session.slave session.space lost) = some lost.snapshot :=
    sighting_readBy session.slave session.space lost
  obtain ⟨-, hkept, -⟩ := hrefuses step _ session₂ [] _ earlier lost.snapshot .step hstep hsighting hback
  exact ⟨session, session₂, session₂, w, earlier, lost, hlived, hstep, hback, hkept⟩

end SegmentSync.Session
