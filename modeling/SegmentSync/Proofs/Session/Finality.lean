import SegmentSync.Proofs.Session.Upkeep
import SegmentSync.Proofs.Session.Verdicts

/-!
# `SegmentSync.Proofs.Session.Finality` — the first failure for good is the end

Connections may fail as often as they like; every other failure of an attempt ends the run, with that failure and
without a word to either store. It is the answer to the latest request that tells: with each action of a session goes
what its answers condemn it to, and once that has happened, all that is left is to log it.

## Contents
- **Requests.** What an action of a session makes of each answer, as far as `Session.verdict` tells.
- **Entry by entry**, and **copies.** `Session.step`, `Session.prepare` and `Session.copyStep` keep a session
  `Poised`, or fail as they are told to.
- **Runs.** `Session.Went` is a trace without a failure for good, `Session.Felled` one that has come to it. The engine
  is `Session.course_going`, the result `Session.failure_for_good_final`.
-/

namespace SegmentSync.Session

variable {α : Type} {session s : Session Role} {w : Trace Role} {login : Prop} {baseline : Option Snapshot}

/-! ## Requests -/

namespace Standing

/-- Asking the master: the request is held back for want of a login, or its outcome is read. -/
theorem onMaster (h : Standing session login baseline s w) {request : Request} {shape : Answer → Option α}
    {post : α → Session Role → Trace Role → Prop} {fail : SyncError → Session Role → Trace Role → Prop}
    (hheld : ¬ login → fail (s.master.heldBack request) s w)
    (hsent : ∀ r, match Client.reading request shape r with
      | .ok value => post value s (.sent .master request r :: w)
      | .error failure => fail (.protocol failure) s (.sent .master request r :: w)) :
    Bears (onMaster (Client.callFor request shape)) post fail s w := by
  refine (Action.ensures_focus _ _ _ _).mpr ?_
  refine Client.ensures_callFor (fun hholds => hheld fun hlogin => ?_) fun r w' hw' => ⟨trivial, ?_⟩
  · rw [Client.holdsBack, (h.loggedIn hlogin).1, Bool.not_true, Bool.and_false] at hholds
    cases hholds
  · rw [h.masterLink] at hw'
    subst hw'
    exact hsent r

/-- Asking the slave, or telling it something. -/
theorem onSlave (h : Standing session login baseline s w) {request : Request} {shape : Answer → Option α}
    {post : α → Session Role → Trace Role → Prop} {fail : SyncError → Session Role → Trace Role → Prop}
    (hheld : ¬ login → fail (s.slave.heldBack request) s w)
    (hsent : ∀ r, match Client.reading request shape r with
      | .ok value => post value s (.sent .slave request r :: w)
      | .error failure => fail (.protocol failure) s (.sent .slave request r :: w)) :
    Bears (onSlave (Client.callFor request shape)) post fail s w := by
  refine (Action.ensures_focus _ _ _ _).mpr ?_
  refine Client.ensures_callFor (fun hholds => hheld fun hlogin => ?_) fun r w' hw' => ⟨trivial, ?_⟩
  · rw [Client.holdsBack, (h.loggedIn hlogin).2, Bool.not_true, Bool.and_false] at hholds
    cases hholds
  · rw [h.slaveLink] at hw'
    subst hw'
    exact hsent r

/-- A request that is held back fails, and nothing has happened. -/
theorem held (h : Standing session login baseline s w) {base : Option Snapshot} (client : Client Role)
    (request : Request) (hlogin : ¬ login) : Fails session login base (client.heldBack request) s w :=
  .inr ⟨hlogin, h.forget⟩

/-- **Reading the master**, which may become the baseline of a copy. -/
theorem masterInfo (h : Standing session login baseline s w) :
    Bears masterInfo
      (fun snapshot s' w' => Standing session login (some snapshot) s' w' ∧ session.justSeen w' = some snapshot)
      (Fails session login baseline) s w := by
  unfold Session.masterInfo
  refine (Action.ensures_bind _ _).mpr ?_
  rw [Action.ensures_get, h.space]
  refine (Action.ensures_bind _ _).mpr (h.onMaster (h.held _ _) fun r => ?_)
  have hverdict : session.verdict w (.sent .master (.nsInfo session.space) r) =
      shapeVerdict (Client.reading (.nsInfo session.space) Client.info? r) := rfl
  cases hreading : Client.reading (.nsInfo session.space) Client.info? r with
  | error failure =>
    rw [hreading] at hverdict
    have hplain : Plain session.space (.sent .master (.nsInfo session.space) r) := plain_of_failed hreading
    exact h.failed (h.toKnows.plain hplain) hplain.justSeen hverdict
  | ok snapshot =>
    have hsighting := sighting_sent .master session.space r
    rw [hreading] at hverdict hsighting
    refine ⟨{ h.toKnows with
      clear := h.clear.cons hverdict
      loggedIn := h.loggedIn
      baseline := fun _ heq => heq
      lastMaster := ?_
      reports := h.reports.cons nofun }, hsighting⟩
    rw [seenIn, seen, hsighting]
    rfl

/-- A reading that is behind the one before condemns the session, which keeps the one before. -/
theorem refused (h : Standing session login baseline s w) {event : Event Role} {snapshot : Snapshot}
    (hsighting : sighting? .slave session.space event = some snapshot)
    (hback : movedBackwards (session.acceptedIn w) snapshot = true) :
    Doomed session (.invariantViolation (cursorOf (session.seenIn w)) snapshot.position .movedBackwards) s
      (event :: w) := by
  have hverdict := verdict_of_movedBackwards hsighting hback
  have haccepted := acceptedIn_cons session event w
  rw [hsighting] at haccepted
  obtain ⟨r, rfl, -⟩ := exists_of_sighting hsighting
  have hkept : session.acceptedIn (.sent .slave (.nsInfo session.space) r :: w) = session.acceptedIn w :=
    haccepted.trans (if_pos hback)
  have hknows : Knows session s (.sent .slave (.nsInfo session.space) r :: w) :=
    { h.toKnows with
      lastSlave := h.lastSlave.trans hkept.symm
      reports := h.reports.cons nofun }
  exact h.condemned hknows hverdict

/-- Any other reading is accepted, though the slave may be ahead of the master that has just been read. -/
theorem accept (h : Standing session login baseline s w) {event : Event Role} {snapshot : Snapshot}
    (hsighting : sighting? .slave session.space event = some snapshot)
    (hforward : ¬ movedBackwards (session.acceptedIn w) snapshot = true) :
    session.acceptedIn (event :: w) = some snapshot ∧
      match (session.justSeen w).bind (session.aheadVerdict snapshot) with
      | none => Poised session login baseline { s with lastSlave := some snapshot } (event :: w)
      | some failure => Doomed session failure { s with lastSlave := some snapshot } (event :: w) := by
  have hverdict : session.verdict w event = (session.justSeen w).bind (session.aheadVerdict snapshot) :=
    (verdict_of_sighting hsighting).trans (if_neg hforward)
  have haccepted := acceptedIn_cons session event w
  rw [hsighting] at haccepted
  replace haccepted : session.acceptedIn (event :: w) = some snapshot := haccepted.trans (if_neg hforward)
  obtain ⟨r, rfl, -⟩ := exists_of_sighting hsighting
  have hknows : Knows session { s with lastSlave := some snapshot }
      (.sent .slave (.nsInfo session.space) r :: w) :=
    { h.toKnows with
      lastSlave := haccepted.symm
      reports := h.reports.cons nofun }
  refine ⟨haccepted, ?_⟩
  cases hahead : (session.justSeen w).bind (session.aheadVerdict snapshot) with
  | none =>
    exact { hknows with
      clear := h.clear.cons (hverdict.trans hahead)
      loggedIn := h.loggedIn
      baseline := h.baseline
      idle := rfl }
  | some failure =>
    exact { hknows with
      cause := ⟨[], _, w, rfl, List.forall_mem_nil _, hverdict.trans hahead, h.clear⟩ }

/-- **Reading the slave**, which may condemn the session: to have gone back, or to be ahead of the master that has just
    been read. -/
theorem slaveInfo (h : Standing session login baseline s w) :
    Bears slaveInfo
      (fun snapshot s' w' => session.acceptedIn w' = some snapshot ∧
        match (session.justSeen w).bind (session.aheadVerdict snapshot) with
        | none => Poised session login baseline s' w'
        | some failure => Doomed session failure s' w')
      (Fails session login baseline) s w := by
  unfold Session.slaveInfo
  refine (Action.ensures_bind _ _).mpr ?_
  rw [Action.ensures_get, h.space]
  refine (Action.ensures_bind _ _).mpr (h.onSlave (h.held _ _) fun r => ?_)
  cases hreading : Client.reading (.nsInfo session.space) Client.info? r with
  | error failure =>
    have hverdict := verdict_slaveInfo session w r
    rw [hreading] at hverdict
    exact h.failed (h.toKnows.plain (plain_of_failed hreading)) rfl hverdict
  | ok snapshot =>
    have hsighting := sighting_sent .slave session.space r
    rw [hreading] at hsighting
    refine (Action.ensures_bind _ _).mpr ?_
    rw [Action.ensures_get]
    dsimp only
    rw [h.lastSlave]
    by_cases hback : movedBackwards (session.acceptedIn w) snapshot = true
    · rw [if_pos hback, h.lastMaster]
      exact .inl (h.refused hsighting hback)
    · rw [if_neg hback]
      exact h.accept hsighting hback

/-- Telling the slave something that it has to acknowledge. -/
theorem tell (h : Standing session login baseline s w) {request : Request} (hread : request ≠ .nsInfo session.space)
    (hshape : ∀ r, session.verdict w (.sent .slave request r) = shapeVerdict (Client.reading request Client.ack? r)) :
    Bears (Session.onSlave (Client.callFor request Client.ack?)) (fun _ => Poised session login baseline)
      (Fails session login baseline) s w := by
  refine h.onSlave (h.held _ _) fun r => ?_
  have hknows : Knows session s (.sent .slave request r :: w) := h.toKnows.plain (plain_sent hread)
  have hverdict := hshape r
  cases hreading : Client.reading request Client.ack? r with
  | ok _ =>
    rw [hreading] at hverdict
    exact h.passed hknows rfl hverdict
  | error failure =>
    rw [hreading] at hverdict
    exact h.failed hknows rfl hverdict

/-- The same, with a line of the log before it. -/
theorem noteAndTell (h : Standing session login baseline s w) {request : Request} (level : Level) (line : String)
    (hread : request ≠ .nsInfo session.space)
    (hshape : ∀ w r, session.verdict w (.sent .slave request r) =
      shapeVerdict (Client.reading request Client.ack? r)) :
    Bears (Session.onSlave (do Client.note level line; Client.callFor request Client.ack?))
      (fun _ => Poised session login baseline) (Fails session login baseline) s w := by
  refine (Action.ensures_focus _ _ _ _).mpr ((Action.ensures_bind _ _).mpr ?_)
  refine Client.ensures_note fun line w' hw' => ⟨trivial, ?_⟩
  subst hw'
  exact (Action.ensures_focus _ _ _ _).mp ((h.log level line).tell hread (hshape _))

end Standing

/-- A slave that is ahead of the master is found out where both are compared. -/
theorem compared {master slave : Snapshot} {kept : Prop} {doomed : SyncError → Prop}
    (hmaster : session.justSeen w = some master)
    (h : match (session.justSeen w).bind (session.aheadVerdict slave) with
      | none => kept
      | some failure => doomed failure) :
    Snapshot.decide master slave = .fatal ∧
        doomed (.invariantViolation master.position slave.position session.strategy.aheadFault) ∨
      Snapshot.decide master slave ≠ .fatal ∧ kept := by
  rw [hmaster, Option.bind_some, aheadVerdict] at h
  by_cases hlt : master.position < slave.position
  · rw [if_pos hlt] at h
    exact .inl ⟨if_pos hlt, h⟩
  · rw [if_neg hlt] at h
    refine .inr ⟨fun hfatal => ?_, h⟩
    exact hlt (Snapshot.gt_of_decide hfatal)

/-! ## Entry by entry -/

namespace Poised

/-- An answer that does not acknowledge an entry condemns the session for the fault that it shows. -/
theorem acknowledged (h : Poised session login baseline s w) {request : Request} {shape : Answer → Option α}
    {fault : (reason : String) → IntegrityFault} {post : α → Session Role → Trace Role → Prop}
    (hread : request ≠ .nsInfo session.space)
    (hok : ∀ r value, Client.reading request shape r = .ok value → post value s (.sent .slave request r :: w))
    (hfault : ∀ r failure, Client.reading request shape r = .error failure →
      session.verdict w (.sent .slave request r) = failure.refusal? fun reason => .integrity (fault reason)) :
    Bears (acknowledged fault (Client.callFor request shape)) post (Fails session login baseline) s w := by
  unfold Session.acknowledged
  refine (Action.ensures_bind _ _).mpr ?_
  rw [Action.ensures_attempt]
  have hheld : ¬ login → Fails session login baseline (s.slave.heldBack request) s w := h.held _ _
  refine h.toStanding.onSlave hheld fun r => ?_
  have hknows : Knows session s (.sent .slave request r :: w) := h.toKnows.plain (plain_sent hread)
  cases hreading : Client.reading request shape r with
  | ok value => exact hok r value hreading
  | error failure =>
    have hverdict := hfault r failure hreading
    cases failure with
    | server _ | unexpectedReply _ _ => exact .inl (h.condemned hknows hverdict)
    | eof | transport _ => exact h.failed hknows rfl hverdict

/-- **Replaying the entry at the slave's cursor.** -/
theorem replay (h : Poised session login baseline s w) {entry : Record}
    (hcursor : cursorOf (session.acceptedIn w) = entry.position) :
    Bears (replay entry) (fun _ => Poised session login baseline) (Fails session login baseline) s w := by
  unfold Session.replay
  cases entry.isDelete with
  | true =>
    rw [if_pos rfl]
    refine (Action.ensures_bind _ _).mpr ?_
    refine h.acknowledged nofun (fun r value hreading => ?_) fun r failure hreading => ?_
    · refine h.passed (h.toKnows.plain (plain_sent nofun)) rfl ?_
      rw [verdict_del r hcursor, hreading]
    · rw [verdict_del r hcursor, hreading]
  | false =>
    rw [if_neg Bool.false_ne_true]
    refine (Action.ensures_bind _ _).mpr ?_
    refine h.acknowledged nofun (fun r echo hreading => ?_) fun r failure hreading => ?_
    · have hverdict : session.verdict w (.sent .slave (.set entry.key (entry.value.getD []) entry.marker) r) = _ :=
        verdict_set r hcursor
      rw [hreading] at hverdict
      by_cases hecho : echo = entry.key
      · rw [if_neg (not_not_intro hecho)]
        exact h.passed (h.toKnows.plain (plain_sent nofun)) rfl (hverdict.trans (if_pos hecho))
      · rw [if_pos hecho]
        exact .inl (h.condemned (h.toKnows.plain (plain_sent nofun)) (hverdict.trans (if_neg hecho)))
    · rw [verdict_set r hcursor, hreading]

/-- **Getting closer** by the entry or the end of a segment at the slave's cursor. -/
theorem advance (h : Poised session login baseline s w) {at_ : Position}
    (hcursor : cursorOf (session.acceptedIn w) = at_) :
    Bears (advance at_) (fun _ => Poised session login baseline) (Fails session login baseline) s w := by
  have hplain : ∀ r, Plain session.space (.sent .master (.dataRaw at_) r) := fun _ => plain_sent nofun
  have hheld : ¬ login → Fails session login baseline (s.master.heldBack (.dataRaw at_)) s w := h.held _ _
  unfold Session.advance
  refine (Action.ensures_bind _ _).mpr ?_
  rw [Action.ensures_attempt]
  refine h.toStanding.onMaster hheld fun r => ?_
  have hknows := h.toKnows.plain (hplain r)
  have hverdict := verdict_dataRaw r hcursor
  cases hreading : Client.reading (.dataRaw at_) Client.record? r with
  | ok entry =>
    rw [hreading] at hverdict
    dsimp only at hverdict ⊢
    by_cases hplace : entry.position = at_
    · rw [if_neg (not_not_intro hplace)]
      have hpassed := h.passed hknows (hplain r).justSeen (hverdict.trans (if_pos hplace))
      refine hpassed.replay ?_
      rw [(hplain r).accepted, hcursor]
      exact hplace.symm
    · rw [if_pos hplace]
      exact .inl (h.condemned hknows (hverdict.trans (if_neg hplace)))
  | error failure =>
    rw [hreading] at hverdict
    cases failure with
    | eof =>
      have hpassed := h.passed hknows (hplain r).justSeen hverdict
      refine (Action.ensures_bind _ _).mpr ?_
      rintro _ _ rfl
      refine ⟨trivial, (Action.ensures_bind _ _).mpr ?_⟩
      exact (hpassed.log _ _).noteAndTell .debug _ nofun fun _ _ => rfl
    | transport _ | server _ | unexpectedReply _ _ => exact h.failed hknows (hplain r).justSeen hverdict

/-- **A step.** -/
theorem step (hstrategy : session.strategy = .incremental) (h : Poised session login none s w) :
    Bears step (fun _ => Poised session login none) (Fails session login none) s w := by
  unfold Session.step
  refine Action.Ensures.andThen h.masterInfo ?_
  rintro master s₁ w₁ ⟨h₁, hmaster⟩
  refine (Action.ensures_bind _ _).mpr (h₁.slaveInfo.mono ?_ ?_)
  · rintro slave s₂ w₂ ⟨hslave, h₂⟩
    rcases compared hmaster h₂ with ⟨hfatal, hdoomed⟩ | ⟨hahead, hpoised⟩
    · rw [hfatal]
      rw [hstrategy] at hdoomed
      exact .inl hdoomed
    · have hforgotten : Poised session login none s₂ w₂ := { hpoised with baseline := nofun }
      cases hdecide : Snapshot.decide master slave with
      | fatal => exact absurd hdecide hahead
      | wait => exact hforgotten
      | advance => exact hforgotten.advance (by rw [hslave]; rfl)
  · exact fun _ _ _ hfails => hfails.imp (fun _ _ h' => { h' with baseline := nofun }) fun _ hended => hended

/-! ## Copies -/

/-- **Preparing a copy.** -/
theorem prepare (hstrategy : session.strategy = .bulk) (h : Poised session login none s w) :
    Bears prepare (fun snapshot => Poised session login (some snapshot)) (Fails session login none) s w := by
  unfold Session.prepare
  refine (Action.ensures_bind _ _).mpr ?_
  rw [Action.ensures_get, h.space]
  refine Action.Ensures.andThen (h.noteAndTell .debug _ nofun fun _ _ => rfl) fun _ s₁ w₁ h₁ => ?_
  refine Action.Ensures.andThen h₁.masterInfo ?_
  rintro master s₂ w₂ ⟨h₂, hmaster⟩
  refine (Action.ensures_bind _ _).mpr (h₂.slaveInfo.mono ?_ ?_)
  · rintro slave s₃ w₃ ⟨-, h₃⟩
    rcases compared hmaster h₃ with ⟨hfatal, hdoomed⟩ | ⟨hahead, hpoised⟩
    · rw [hfatal]
      rw [hstrategy] at hdoomed
      exact .inl hdoomed
    · cases hdecide : Snapshot.decide master slave with
      | fatal => exact absurd hdecide hahead
      | wait | advance => exact hpoised
  · exact fun _ _ _ hfails => hfails.imp (fun _ _ h' => { h' with baseline := nofun }) fun _ hended => hended

/-- **The end of a segment** at the slave's cursor. -/
theorem endOfSegment (h : Standing session login baseline s w) {event : Event Role} {position at_ : Position}
    (hknows : Knows session s (event :: w)) (hidle : session.justSeen (event :: w) = none)
    (hverdict : session.verdict w event =
      if position ≤ at_ ∨ at_.next?.isSome = true then none else some .segmentOverflow) :
    Bears (endOfSegment position at_) (fun _ => Poised session login baseline) (Fails session login baseline) s
      (event :: w) := by
  unfold Session.endOfSegment
  by_cases hreached : position ≤ at_
  · have hpassed := h.passed hknows hidle (hverdict.trans (if_pos (.inl hreached)))
    rw [if_pos hreached]
    by_cases hbeyond : position < at_
    · rw [if_pos hbeyond]
      refine (Action.ensures_bind _ _).mpr ?_
      rintro _ _ rfl
      exact ⟨trivial, hpassed.log _ _⟩
    · rw [if_neg hbeyond]
      exact hpassed
  · rw [if_neg hreached]
    cases hnext : at_.next? with
    | none =>
      rw [hnext] at hverdict
      exact .inl (h.condemned hknows (hverdict.trans (if_neg (by simpa using hreached))))
    | some next =>
      rw [hnext] at hverdict
      have hpassed := h.passed hknows hidle (hverdict.trans (if_pos (.inr rfl)))
      refine (Action.ensures_bind _ _).mpr ?_
      rintro _ _ rfl
      refine ⟨trivial, (Action.ensures_bind _ _).mpr ?_⟩
      exact (hpassed.log _ _).noteAndTell .debug _ nofun fun _ _ => rfl

/-- **A step of a copy.** -/
theorem copyStep {baseline : Snapshot} (h : Poised session login (some baseline) s w) :
    Bears (copyStep baseline) (fun _ => Poised session login (some baseline)) (Fails session login (some baseline))
      s w := by
  unfold Session.copyStep
  refine Action.Ensures.andThen h.slaveInfo ?_
  rintro slave s₁ w₁ ⟨hslave, h₁⟩
  rw [h.idle] at h₁
  replace h₁ : Poised session login (some baseline) s₁ w₁ := h₁
  let at_ := slave.position
  have hcursor : cursorOf (session.acceptedIn w₁) = at_ := by rw [hslave]; rfl
  have hbaseline : cursorOf (session.seenIn w₁) = baseline.position := by
    rw [← h₁.lastMaster, h₁.baseline baseline rfl]; rfl
  have hplain : ∀ r, Plain session.space (.sent .master (.dataExport at_) r) := fun _ => plain_sent nofun
  have hheld : ¬ login → Fails session login (some baseline) (s₁.master.heldBack (.dataExport at_)) s₁ w₁ :=
    h₁.held _ _
  refine (Action.ensures_bind _ _).mpr ?_
  rw [Action.ensures_attempt]
  refine h₁.toStanding.onMaster hheld fun r => ?_
  have hknows := h₁.toKnows.plain (hplain r)
  have hverdict := verdict_dataExport r hcursor hbaseline
  cases hreading : Client.reading (.dataExport at_) Client.blob? r with
  | ok blob =>
    rw [hreading] at hverdict
    have hpassed := h₁.passed hknows (hplain r).justSeen hverdict
    exact Action.Ensures.andThen (hpassed.tell nofun fun _ => rfl) fun _ _ _ h₂ => h₂
  | error failure =>
    rw [hreading] at hverdict
    cases failure with
    | eof =>
      exact endOfSegment h₁.toStanding hknows (hplain r).justSeen hverdict
    | transport _ | server _ | unexpectedReply _ _ => exact h₁.failed hknows (hplain r).justSeen hverdict

end Poised

/-! ## Runs -/

/-- What has happened since `session` was fresh is attempts that have left it going, and what is between them: each
    attempt has worked, or its connection has failed. -/
inductive Went (session : Session Role) : Session Role → Trace Role → Prop where
  | start : Went session session []
  | between {s : Session Role} {w : Trace Role} {event : Event Role} (h : Went session s w)
    (hevent : event.isBetween = true) : Went session s (event :: w)
  | noted {s : Session Role} {w : Trace Role} (h : Went session s w) (failures : Nat) (backoff : Backoff)
    (reported : Option (PairSnapshot × Duration)) : Went session { s with failures, backoff, reported } w
  | worked {β : Type} {s s' : Session Role} {w events : Trace Role} {x : Action (Session Role) Role β}
    {forward : β → Bool} {value : β} (h : Went session s w) (hx : IsAttempt session.strategy x forward)
    (hrun : x.Runs s events (.ok value) s') : Went session s' (events ++ w)
  | disconnected {β : Type} {s s' : Session Role} {w events : Trace Role} {x : Action (Session Role) Role β}
    {forward : β → Bool} {failure : SyncError} (h : Went session s w) (hx : IsAttempt session.strategy x forward)
    (hrun : x.Runs s events (.error failure) s') (htransient : failure.transient?.isSome = true) :
    Went session s' (events ++ w)

/-- An attempt has failed for good, by the answer to what it has asked for last. All that has happened since is that
    something was logged. -/
inductive Felled (session : Session Role) (failure : SyncError) : Trace Role → Prop where
  | condemned {β : Type} {s s' : Session Role} {x : Action (Session Role) Role β} {forward : β → Bool}
    {before earlier since logs : Trace Role} {event : Event Role} (hwent : Went session s before)
    (hx : IsAttempt session.strategy x forward)
    (hrun : x.Runs s (since ++ event :: earlier) (.error failure) s') (hfinal : failure.transient? = none)
    (hverdict : session.verdict (earlier ++ before) event = some failure)
    (hsince : ∀ log ∈ since, log.isLog = true) (hlogs : ∀ log ∈ logs, log.isLog = true) :
    Felled session failure (logs ++ (since ++ event :: earlier) ++ before)

/-- A session whose attempts have left it going. -/
structure Going (session : Session Role) (login : Prop) (baseline : Option Snapshot) (s : Session Role)
    (w : Trace Role) : Prop extends Poised session login baseline s w where
  went : Went session s w

/-- How a run has ended with a failure. -/
structure Ending (session : Session Role) (failure : SyncError) (s : Session Role) (w : Trace Role) : Prop where
  judged : Standing session False none s w ∨ Doomed session failure s w
  course : Went session s w ∨ Felled session failure w

namespace Going

theorem forget (h : Going session login baseline s w) : Going session False none s w :=
  { h with loggedIn := nofun, baseline := nofun }

theorem ending (h : Going session login baseline s w) (failure : SyncError) : Ending session failure s w :=
  ⟨.inl h.toStanding.forget, .inl h.went⟩

theorem noted (h : Going session login baseline s w) (failures : Nat) (backoff : Backoff)
    (reported : Option (PairSnapshot × Duration)) :
    Going session login baseline { s with failures, backoff, reported } w :=
  { h with went := h.went.noted failures backoff reported }

theorem quiet (h : Going session login baseline s w) {event : Event Role} (hplain : Plain session.space event)
    (hverdict : session.verdict w event = none) (hbetween : event.isBetween = true) :
    Going session login baseline s (event :: w) :=
  { h.passed (h.toKnows.plain hplain) hplain.justSeen hverdict with went := h.went.between hbetween }

theorem log (h : Going session login baseline s w) (level : Level) (line : String) :
    Going session login baseline s (⟨.log level line, ()⟩ :: w) :=
  h.quiet (plain_log level line) rfl rfl

/-- A report is on the latest readings. -/
theorem report (h : Going session login baseline s w) {previous current : PairSnapshot} {elapsed : Duration}
    {phase : Phase} (hsnapshots : s.snapshots = some current) :
    Going session login baseline s (⟨.report (Progress.report previous current elapsed phase), ()⟩ :: w) := by
  have hreports : session.ReportsRead (⟨.report (Progress.report previous current elapsed phase), ()⟩ :: w) := by
    refine h.reports.cons fun report hreported => ?_
    obtain rfl : Progress.report previous current elapsed phase = report := Option.some.inj hreported
    obtain ⟨hmaster, hslave⟩ := snapshots_eq_some.mp hsnapshots
    exact ⟨current, h.lastMaster.symm.trans hmaster, h.lastSlave.symm.trans hslave, Progress.report_isOn ..⟩
  have hknows : Knows session s (⟨.report (Progress.report previous current elapsed phase), ()⟩ :: w) :=
    { h.toKnows with reports := hreports }
  exact { h.passed hknows rfl rfl with went := h.went.between rfl }

theorem around (session : Session Role) (login : Prop) (baseline : Option Snapshot) :
    Around recording (fun _ => True) (Going session login baseline) where
  around := by
    rintro s w effect answer _ h hasks rfl
    refine ⟨trivial, ?_⟩
    cases hasks with
    | log _ _ | clock => exact h.quiet ⟨fun _ => rfl, rfl⟩ rfl rfl
    | pause hpause => cases hpause <;> exact h.quiet ⟨fun _ => rfl, rfl⟩ rfl rfl
    | finished hsnapshots => exact h.report hsnapshots
  reported := fun s w reported h => h.noted s.failures s.backoff reported

theorem reportable (session : Session Role) (login : Prop) (baseline : Option Snapshot) :
    Reportable recording (fun _ => True) (Going session login baseline) where
  failures := fun s w failures backoff h => h.noted failures backoff s.reported
  reported := fun s w reported h => h.noted s.failures s.backoff reported
  reporting := by
    rintro s w effect answer _ h hasks rfl
    refine ⟨trivial, ?_⟩
    cases hasks with
    | log _ _ | stopRequested | clock => exact h.quiet ⟨fun _ => rfl, rfl⟩ rfl rfl
    | report hsnapshots => exact h.report hsnapshots

/-- **An attempt** leaves the session going, or fells it. -/
theorem attempt (h : Going session login baseline s w) {x : Action (Session Role) Role α} {forward : α → Bool}
    (hx : IsAttempt session.strategy x forward) {base : α → Option Snapshot}
    (hbears : Bears x (fun value => Poised session True (base value)) (Fails session True baseline) s w) :
    Bears x (fun value => Going session True (base value))
      (Failing (fun _ => Going session False baseline) (Ending session)) s w := by
  refine (Action.Ensures.and hbears (Action.ensures_runs x s w)).mono ?_ ?_
  · rintro value s' _ ⟨hpoised, events, rfl, hrun⟩
    exact { hpoised with went := h.went.worked hx hrun }
  · rintro failure s' _ ⟨hfails, events, rfl, hrun⟩
    refine hfails.imp (fun last htransient hpoised => ?_) fun hfinal hended => ?_
    · exact { hpoised with went := h.went.disconnected hx hrun (by rw [htransient]; rfl) }
    · have hdoomed : Doomed session failure s' (events ++ w) := hended.resolve_right fun hheld => hheld.1 trivial
      refine ⟨.inr hdoomed, .inr ?_⟩
      obtain ⟨since, event, earlier, heq, hsince, hverdict, -⟩ := hdoomed.cause
      -- The answer came during this attempt: none of those before it has condemned the session.
      rcases Trace.append_eq_append_cons heq with ⟨m, rfl, rfl⟩ | ⟨m, -, rfl⟩
      · exact .condemned h.went hx hrun hfinal hverdict hsince (List.forall_mem_nil _)
      · rw [h.clear m event earlier rfl] at hverdict
        cases hverdict

end Going

theorem Felled.log {failure : SyncError} (h : Felled session failure w) (level : Level) (line : String) :
    Felled session failure (⟨.log level line, ()⟩ :: w) := by
  cases h with
  | condemned hwent hx hrun hfinal hverdict hsince hlogs =>
    exact .condemned hwent hx hrun hfinal hverdict hsince (List.forall_mem_cons.mpr ⟨rfl, hlogs⟩)

theorem Ending.log {failure : SyncError} (h : Ending session failure s w) (level : Level) (line : String) :
    Ending session failure s (⟨.log level line, ()⟩ :: w) where
  judged := h.judged.imp (fun hstanding => (hstanding.log level line).toStanding) fun hdoomed => hdoomed.log level line
  course := h.course.imp (fun hwent => hwent.between rfl) fun hfelled => hfelled.log level line

/-- **Recovering** leads back to a session that is logged in, or that has been stopped. -/
theorem Going.recoverWithin (h : Going session False baseline s w) (budget : Nat) (last : ProtocolError) :
    Bears (recoverWithin budget last)
      (fun isStopped => if isStopped then Going session False none else Going session True baseline)
      (Ending session) s w := by
  -- On the budget: each failure on the way leaves the session going, with one attempt less.
  induction budget generalizing last s w with
  | zero =>
    refine ensures_recoverWithin_zero (fun _ => ?_) fun _ => h.ending _
    exact (h.noted (s.failures + 1) s.backoff s.reported).ending _
  | succ budget ih =>
    refine ensures_recoverWithin_succ (fun _ => h.ending _) ?_
    rintro - line _ rfl
    have hnoted := (h.log .warn line).noted (s.failures + 1) s.backoff.next.2 s.reported
    refine ⟨trivial, ((Going.around session False baseline).sleep _ _ _ hnoted).mono ?_ fun _ _ _ hended => hended⟩
    intro isStopped s₂ w₂ hpaused
    cases isStopped with
    | true => exact hpaused.forget
    | false =>
      refine (hpaused.attempt .reopen hpaused.toPoised.reopen).mono ?_ ?_
      · rintro _ s₃ w₃ h₃ line _ rfl
        exact ⟨trivial, h₃.log .info line⟩
      · intro failure s₃ w₃ hfailing
        refine hfailing.imp (fun last _ h₃ => ?_) fun _ hending => hending
        rintro line _ rfl
        exact ⟨trivial, ih (h₃.log .warn line) last⟩

/-- **The end of the freeze** is no attempt. -/
theorem Going.unfreeze (h : Going session False none s w) :
    Bears (Session.onSlave (Client.setFreeze s.space false)) (fun _ => Going session False none) (Ending session) s
      w := by
  -- The request may be held back, so the failure need not be one that an answer has caused.
  have htold : Bears (Session.onSlave (Client.setFreeze s.space false)) (fun _ => Poised session False none)
      (Fails session False none) s w := by
    rw [h.space]
    exact h.noteAndTell .debug _ nofun fun _ _ => rfl
  have hwent := ensures_liftFreeze h.went (fun level line w hwent => hwent.between rfl)
    fun r w hwent => hwent.between rfl
  refine (Action.Ensures.and htold hwent).mono ?_ ?_
  · exact fun _ _ _ h' => { h'.1 with went := h'.2 }
  · exact fun _ _ _ h' => ⟨Fails.judged h'.1, .inl h'.2.kept⟩

/-- **The course of a run** that ends with the first failure for good. -/
theorem course_going (session : Session Role) (baseline : Option Snapshot) :
    Course recording (fun _ => True) (Going session True baseline) (Going session True baseline)
      (fun _ => Going session False baseline) (Ending session) (Going session False none) where
  toAround := Going.around session True baseline
  halts := fun _ _ h => h.forget
  haltedAround := Going.around session False none
  readyLog := fun s w level line w' h henv => ⟨trivial, henv ▸ h.log level line⟩
  endedLog := fun failure s w level line w' h henv => ⟨trivial, henv ▸ h.log level line⟩
  recover := fun last s w h => by
    unfold Session.recover
    rw [Action.ensures_bind, Action.ensures_get]
    exact h.recoverWithin _ last
  progress := fun phase _ => (Going.reportable session True baseline).progresses phase

/-- **A run** ends with the first failure for good. -/
theorem ensures_run_ending (hmaster : session.master.link = .master) (hslave : session.slave.link = .slave)
    (limit : Nat) :
    Bears (run limit) (fun _ => Going session False none) (Ending session) session [] := by
  have hpoised : Poised session False none session [] := .start session.strategy hmaster hslave
  have hstart : Going session False none session [] := { hpoised with went := .start }
  refine (course_going session none).run (fun hlogin => { hstart with loggedIn := fun _ => hlogin })
    (fun _ => hstart.ending _) (fun hbulk => ?_) fun hincremental => ?_
  · refine (course_going session none).runBulk (fun baseline => course_going session (some baseline)) ?_ ?_ ?_ limit
    · exact fun s w h => h.attempt (.prepare hbulk) (h.toPoised.prepare hbulk)
    · intro baseline s w h
      have hstep := h.attempt (.copyStep hbulk baseline) h.toPoised.copyStep
      refine hstep.mono (fun result _ _ h' => ?_) fun _ _ _ h' => h'
      cases result <;> exact h'
    · exact fun s w h _ => h.unfreeze
  · exact (course_going session none).runIncremental
      (fun s w h => h.attempt (.step hincremental) (h.toPoised.step hincremental)) limit

/-- **The first failure for good is the end.** Either every attempt of a run has worked or has lost its connection, or
    one has failed for good, and then the run fails as that attempt did. Any answer that condemns the session is the
    last thing that anyone was asked for, and the failure to which it condemns the session is the one of the run. -/
theorem failure_for_good_final {session session' : Session Role} (hmaster : session.master.link = .master)
    (hslave : session.slave.link = .slave) {limit : Nat} {trace : Trace Role}
    {result : Except SyncError (Option Outcome)} (hrun : (run limit).Runs session trace result session') :
    ((∃ s, Went session s trace) ∨ ∃ failure, result = .error failure ∧ Felled session failure trace) ∧
      ∀ later event earlier failure, trace = later ++ event :: earlier →
        session.verdict earlier event = some failure →
        result = .error failure ∧ ∀ event ∈ later, event.isLog = true := by
  have hend := (hrun.ensured trivial (ensures_run_ending hmaster hslave limit)).2
  cases result with
  | ok outcome =>
    have hgoing : Going session False none session' trace := hend
    refine ⟨.inl ⟨session', hgoing.went⟩, fun later event earlier failure heq hverdict => ?_⟩
    rw [hgoing.clear later event earlier heq] at hverdict
    cases hverdict
  | error failure =>
    have hending : Ending session failure session' trace := hend
    refine ⟨hending.course.imp (fun hwent => ⟨session', hwent⟩) fun hfelled => ⟨failure, rfl, hfelled⟩, ?_⟩
    intro later event earlier failure' heq hverdict
    -- A run that fails although nothing has condemned it was not logged in, or has spent its budget.
    rcases hending.judged with hstanding | hdoomed
    · rw [hstanding.clear later event earlier heq] at hverdict
      cases hverdict
    · obtain ⟨rfl, hlogs⟩ := hdoomed.last heq hverdict
      exact ⟨rfl, hlogs⟩

/-- A slave with a segment that the master does not have is ahead of it. The run ends with that, and all that follows
    is that it is logged. -/
theorem failure_for_good_final_of_ahead :
    ∃ failure trace session', (run 1).Runs (between .incremental) trace (.error failure) session' ∧
      failure = .invariantViolation ⟨0, 0⟩ ⟨1, 0⟩ .aheadOfMaster ∧
      ∃ later event earlier, trace = later ++ event :: earlier ∧
        (between .incremental).verdict earlier event = some failure ∧ ∀ event ∈ later, event.isLog = true := by
  let session : Session Role := between .incremental
  let m : Namespace := .ofLog [] []
  let s : Namespace := .ofLog [[]] []
  let failure : SyncError := .invariantViolation m.position s.position .aheadOfMaster
  let session₁ : Session Role := { session with lastMaster := some m.snapshot }
  let session₂ : Session Role := { session₁ with lastSlave := some s.snapshot }
  let read : Event Role := readBy session.slave session.space s
  let stopped : Event Role := ⟨.log .error ("Incremental sync stopped: " ++ failure.message), ()⟩
  let aborted : Event Role := ⟨.log .error ("Session aborted: " ++ failure.message), ()⟩
  let earlier : Trace Role := [readBy session.master session.space m, ⟨.stopRequested, false⟩,
    ⟨.log .info ("Starting " ++ session.strategy.text ++ " sync"), ()⟩]
  have hmaster : masterInfo.Runs session _ (.ok m.snapshot) session₁ := runs_masterInfo rfl m
  have hslave : slaveInfo.Runs session₁ [read] (.ok s.snapshot) session₂ := runs_slaveInfo rfl s rfl
  have hstep : step.Runs session _ (.error failure) session₂ := hmaster.bind (hslave.finish rfl)
  have hnoted : (do noteEnd failure; throw failure : Action (Session Role) Role (Guarded Step)).Runs session₂
      [stopped] (.error failure) session₂ := .answered () (.refl _ _)
  have hguarded : (guarded noteEnd step).Runs session _ (.error failure) session₂ := hstep.attempt.bind hnoted
  have hround : (incrementalRound session.options.poll.backoff).Runs session _ (.error failure) session₂ :=
    (Action.runs_perform .stopRequested false session).bind hguarded.bind_error
  have hrun : (run 1).Runs session _ (.error failure) session₂ :=
    (Action.runs_perform (.log .info _) () session).bind
      (hround.bind_error.bind_error.attempt.bind (.answered () (.refl _ _)))
  have hseen : session.justSeen earlier = some m.snapshot := sighting_readBy session.master session.space m
  have hsighting : sighting? .slave session.space read = some s.snapshot :=
    sighting_readBy session.slave session.space s
  have hverdict : session.verdict earlier read = some failure := by
    rw [verdict_of_sighting hsighting]
    show (session.justSeen earlier).bind (session.aheadVerdict s.snapshot) = _
    rw [hseen]; rfl
  obtain ⟨-, hlogs⟩ := (failure_for_good_final rfl rfl hrun).2 [aborted, stopped] read earlier failure rfl hverdict
  exact ⟨failure, _, session₂, hrun, rfl, [aborted, stopped], read, earlier, rfl, hverdict, hlogs⟩

end SegmentSync.Session
