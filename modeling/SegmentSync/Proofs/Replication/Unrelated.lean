import SegmentSync.Proofs.Replication.Calm

/-!
# `SegmentSync.Proofs.Replication.Unrelated` — one step between any two logs

The other modules on replication start from a slave that is behind its master. Here the two logs need have nothing
to do with each other, the slave may be frozen, and the session may remember whatever it likes. A step is safe all
the same: it changes the slave by what it reports and by nothing else, and a step that fails has changed nothing.

## Contents
- **Cursors.** A slave that is not ahead of the master ends in a segment that the master has.
- **Ends.** `Session.Connects` is what a step starts from, `Session.Meets` what holds between its requests.
- **Entries.** A slave takes an entry over, or refuses it for one of two reasons (`Namespace.refusal?`).
- **One step.** `Session.Advanced` is what a step does when it succeeds, `Session.StepFault` how it fails.
- **The theorem.** `step_changes_as_reported`.
-/

namespace SegmentSync

/-! ## Cursors -/

/-- A log that ends before another one ends in a segment that the other one has. -/
theorem Namespace.segment_lt_of_position_lt {m s : Namespace} (hm : m.Fits (2 ^ 64)) (hs : s.Fits (2 ^ 64))
    (h : s.position < m.position) : s.position.segment.toNat < m.segments.length := by
  rw [hs.segment_toNat, Namespace.length_segments]
  rcases (Namespace.position_lt_iff hs hm).mp h with hearlier | ⟨hsame, -⟩
  · omega
  · omega

/-! ## Entries -/

/-- Why a slave refuses to take an entry over, if it does. -/
def Namespace.refusal? (s : Namespace) (entry : Entry) : Option String :=
  if s.frozen then some "Namespace is temporarily frozen"
  else if entry.value = none ∧ s.keys.contains entry.key = false then some "Key not found"
  else none

/-- The fault of a slave that refuses an entry. -/
def Entry.refused (entry : Entry) (at_ : Position) (reason : String) : IntegrityFault :=
  match entry.value with
  | some _ => .notAcknowledged (Utf8.decodeLossy entry.key) at_ reason
  | none => .deletionRejected (Utf8.decodeLossy entry.key) at_ reason

/-- No reason to refuse an entry is about the number of a segment. -/
theorem frozen_inRange (n : Nat) : "Namespace is temporarily frozen" ≠ "Invalid data id " ++ Decimal.text n := by
  intro heq
  have hchars := congrArg String.toList heq
  simp at hchars

theorem missing_inRange (n : Nat) : "Key not found" ≠ "Invalid data id " ++ Decimal.text n := by
  intro heq
  have hchars := congrArg String.toList heq
  simp at hchars

theorem offset_inRange (k n : Nat) : "Invalid offset " ++ Decimal.text k ≠ "Invalid data id " ++ Decimal.text n := by
  intro heq
  have hchars := congrArg String.toList heq
  simp at hchars

/-! ## Ends -/

/-- The exchange was not turned down for the number of a segment. -/
def Exchange.InRange (exchange : Exchange) : Prop :=
  ∀ n : Nat, exchange.outcome ≠ .error (.server ("Invalid data id " ++ Decimal.text n))

/-- Good connections to both ends, which have these namespaces selected. -/
structure Scene.Offers (w : Scene) (space : String) (m s : Namespace) : Prop where
  master : w.master.Calm
  masterShows : w.master.Shows space m
  slave : w.slave.Calm
  slaveShows : w.slave.Shows space s

namespace Session

/-- The clients of a session are established at both ends, whose stores have no orders to misbehave. -/
structure Connects (session : Session Role) (w : Scene) (m s : Namespace) : Prop where
  masterSpace : session.master.target.space = session.space
  slaveSpace : session.slave.target.space = session.space
  master : session.master.Established .master w.master m
  slave : session.slave.Established .slave w.slave s
  masterFaults : w.master.store.faults = []
  slaveFaults : w.slave.store.faults = []

/-- Both clients are logged in on good connections to stores that have these namespaces, and every exchange after the
    earlier ones was about a segment that there is. -/
structure Meets (session : Session Role) (space : String) (m s : Namespace) (earlier : List Exchange)
    (w : Scene) : Prop extends w.Offers space m s where
  wired : session.Wired space
  masterLogin : session.master.authenticated = true
  slaveLogin : session.slave.authenticated = true
  inRange : ∃ exchanges, w.history = exchanges ++ earlier ∧ ∀ exchange ∈ exchanges, exchange.InRange

variable {session session' : Session Role} {space : String} {m s s' : Namespace} {earlier : List Exchange}
  {w : Scene} {time : Scene → Duration} {α : Type}

theorem Connects.meets (h : session.Connects w m s) : session.Meets session.space m s w.history w where
  wired := ⟨rfl, h.master.link, h.slave.link, h.masterSpace, h.slaveSpace⟩
  masterLogin := h.master.authenticated
  slaveLogin := h.slave.authenticated
  master := ⟨h.master.isOpen, h.masterFaults, h.master.admin⟩
  masterShows := ⟨h.masterSpace ▸ h.master.found, h.masterSpace ▸ h.master.selected⟩
  slave := ⟨h.slave.isOpen, h.slaveFaults, h.slave.admin⟩
  slaveShows := ⟨h.slaveSpace ▸ h.slave.found, h.slaveSpace ▸ h.slave.selected⟩
  inRange := ⟨[], rfl, fun _ hmem => absurd hmem List.not_mem_nil⟩

theorem Meets.quiet (h : session.Meets space m s earlier w) : w.Quiet space m := h.masterShows.found

/-- What the session remembers is not about the ends. -/
theorem Meets.of_clients (h : session.Meets space m s earlier w) (hspace : session'.space = session.space)
    (hmaster : session'.master = session.master) (hslave : session'.slave = session.slave) :
    session'.Meets space m s earlier w := by
  have hwired : session'.Wired space := by
    refine h.wired.of_ends hspace ?_ ?_
    · rw [hmaster]
      exact ⟨rfl, rfl⟩
    · rw [hslave]
      exact ⟨rfl, rfl⟩
  exact ⟨h.toOffers, hwired, hmaster ▸ h.masterLogin, hslave ▸ h.slaveLogin, h.inRange⟩

/-! ## Requests -/

variable {request : Request} {shape : Answer → Option α} {answer : Except ProtocolError Reply}
  {post : α → Session Role → Scene → Prop} {fail : SyncError → Session Role → Scene → Prop}

/-- The master answers a request that changes nothing. -/
theorem Meets.askMaster (h : session.Meets space m s earlier w)
    (hdispatch : ∀ serving : Serving, serving.Shows space m →
      (Serve.dispatch request none).on serving = (answer, serving))
    (hrange : ∀ n : Nat, answer ≠ .error (.server ("Invalid data id " ++ Decimal.text n)))
    (hnext : ∀ w', session.Meets space m s earlier w' → match Client.reading request shape answer with
      | .ok value => post value session w'
      | .error failure => fail (.protocol failure) session w') :
    Action.Calmly time space m (onMaster (Client.callFor request shape)) post fail session w := by
  have hserved := hdispatch _ (h.masterShows.logged request.command)
  obtain ⟨exchanges, hhistory, hexchanges⟩ := h.inRange
  have h' : session.Meets space m s earlier
      ((w.put .master (w.master.logged request.command)).note .master request answer) := by
    refine ⟨⟨h.master.logged _, h.masterShows.logged _, h.slave, h.slaveShows⟩, h.wired, h.masterLogin, h.slaveLogin,
      _ :: exchanges, congrArg (_ :: ·) hhistory, List.forall_mem_cons.mpr ⟨hrange, hexchanges⟩⟩
  refine (Action.ensures_focus _ _ _ _).mpr ?_
  exact Client.calm_callFor h.wired.masterLink h.masterLogin h.master hserved h'.quiet (hnext _ h')

/-- The slave answers a request, and has another namespace after it. -/
theorem Meets.askSlave (h : session.Meets space m s earlier w)
    (hdispatch : ∃ serving', (Serve.dispatch request none).on (w.slave.logged request.command) = (answer, serving') ∧
      serving'.Calm ∧ serving'.Shows space s')
    (hrange : ∀ n : Nat, answer ≠ .error (.server ("Invalid data id " ++ Decimal.text n)))
    (hnext : ∀ w', session.Meets space m s' earlier w' → match Client.reading request shape answer with
      | .ok value => post value session w'
      | .error failure => fail (.protocol failure) session w') :
    Action.Calmly time space m (onSlave (Client.callFor request shape)) post fail session w := by
  obtain ⟨serving', hserved, hcalm', hshows'⟩ := hdispatch
  obtain ⟨exchanges, hhistory, hexchanges⟩ := h.inRange
  have h' : session.Meets space m s' earlier ((w.put .slave serving').note .slave request answer) := by
    refine ⟨⟨h.master, h.masterShows, hcalm', hshows'⟩, h.wired, h.masterLogin, h.slaveLogin, _ :: exchanges,
      congrArg (_ :: ·) hhistory, List.forall_mem_cons.mpr ⟨hrange, hexchanges⟩⟩
  refine (Action.ensures_focus _ _ _ _).mpr ?_
  exact Client.calm_callFor h.wired.slaveLink h.slaveLogin h.slave hserved h'.quiet (hnext _ h')

/-- Both cursors are read as they are. -/
theorem Meets.masterInfo (h : session.Meets space m s earlier w) :
    Action.Calmly time space m Session.masterInfo
      (fun snapshot session' w' => snapshot = m.snapshot ∧
        session' = { session with lastMaster := some m.snapshot } ∧ session'.Meets space m s earlier w')
      (fun _ _ _ => False) session w := by
  unfold Session.masterInfo
  refine (Action.ensures_bind _ _).mpr ?_
  obtain rfl := h.wired.named
  rw [Action.ensures_get, Action.ensures_bind]
  refine h.askMaster (fun _ hshows => Serve.on_serveInfo hshows.found) nofun fun w' h' => ?_
  rw [Client.reading_nsInfo]
  exact ⟨rfl, rfl, h'.of_clients rfl rfl rfl⟩

/-- The slave is refused where the session has seen it further on. -/
theorem Meets.slaveInfo (h : session.Meets space m s earlier w) :
    Action.Calmly time space m Session.slaveInfo
      (fun snapshot session' w' => snapshot = s.snapshot ∧ movedBackwards session.lastSlave s.snapshot = false ∧
        session'.Meets space m s earlier w')
      (fun failure session' w' => movedBackwards session.lastSlave s.snapshot = true ∧
        failure = .invariantViolation ((session.lastMaster.map Snapshot.position).getD .zero) s.position
          .movedBackwards ∧ session'.Meets space m s earlier w') session w := by
  unfold Session.slaveInfo
  refine (Action.ensures_bind _ _).mpr ?_
  rw [Action.ensures_get, Action.ensures_bind, h.wired.named]
  have hserved := Serve.on_serveInfo (h.slaveShows.logged (Request.nsInfo space).command).found
  refine h.askSlave ⟨_, hserved, h.slave.logged _, h.slaveShows.logged _⟩ nofun fun w' h' => ?_
  rw [Client.reading_nsInfo]
  refine (Action.ensures_bind _ _).mpr ?_
  rw [Action.ensures_get]
  dsimp only
  cases hmoved : movedBackwards session.lastSlave s.snapshot with
  | true => exact ⟨rfl, rfl, h'⟩
  | false => exact ⟨rfl, rfl, h'.of_clients rfl rfl rfl⟩

/-- What a slave makes of an entry under the marker that has come with it. -/
def Took (s : Namespace) (entry : Entry) (s' : Namespace) : Prop :=
  ∃ marker, (entry.marker.toNat < 2 ^ 63 → marker = entry.marker) ∧ s' = s.append { entry with marker }

theorem took_append (s : Namespace) (serving : Serving) (entry : Entry) :
    Took s entry (s.append { entry with marker := serving.markerOf entry.signedMarker }) := by
  refine ⟨_, fun hmarker => ?_, rfl⟩
  rw [Client.signedMarker_eq hmarker, Serving.markerOf_digits]

/-- A slave sets a key unless it is frozen. -/
theorem Meets.applySet (h : session.Meets space m s earlier w) (key value argument : Bytes) :
    Action.Calmly time space m (onSlave (Client.applySet key value argument))
      (fun echo session' w' => echo = key ∧ s.frozen = false ∧
        session'.Meets space m (s.append ⟨key, some value, w.slave.markerOf argument⟩) earlier w')
      (fun failure session' w' => s.frozen = true ∧
        failure = .protocol (.server "Namespace is temporarily frozen") ∧ session'.Meets space m s earlier w')
      session w := by
  have hshows := h.slaveShows.logged .set
  have hserved := Serve.on_serveSet_argument hshows key value argument none
  cases hfrozen : s.frozen with
  | true =>
    rw [hfrozen, if_pos rfl] at hserved
    refine h.askSlave ⟨_, hserved, (h.slave.logged _).marked, hshows.marked⟩ ?_ fun w' h' => ⟨rfl, rfl, h'⟩
    exact fun n heq => frozen_inRange n (ProtocolError.server.inj (Except.error.inj heq))
  | false =>
    rw [hfrozen, if_neg Bool.false_ne_true] at hserved
    refine h.askSlave ⟨_, hserved, (h.slave.logged _).marked.put _ _, hshows.marked.put _⟩ nofun fun w' h' => ?_
    exact ⟨rfl, rfl, h'⟩

/-- A slave deletes a key that it has, unless it is frozen. -/
theorem Meets.applyDelete (h : session.Meets space m s earlier w) (key argument : Bytes) :
    Action.Calmly time space m (onSlave (Client.applyDelete key argument))
      (fun _ session' w' => s.frozen = false ∧ s.keys.contains key = true ∧
        session'.Meets space m (s.append ⟨key, none, w.slave.markerOf argument⟩) earlier w')
      (fun failure session' w' => session'.Meets space m s earlier w' ∧
        (s.frozen = true ∧ failure = .protocol (.server "Namespace is temporarily frozen") ∨
          s.frozen = false ∧ s.keys.contains key = false ∧ failure = .protocol (.server "Key not found")))
      session w := by
  have hshows := h.slaveShows.logged .del
  have hserved := Serve.on_serveDelete_argument hshows key argument
  cases hfrozen : s.frozen with
  | true =>
    rw [hfrozen, if_pos rfl] at hserved
    refine h.askSlave ⟨_, hserved, (h.slave.logged _).marked, hshows.marked⟩ ?_ fun w' h' => ⟨h', .inl ⟨rfl, rfl⟩⟩
    exact fun n heq => frozen_inRange n (ProtocolError.server.inj (Except.error.inj heq))
  | false =>
    rw [hfrozen, if_neg Bool.false_ne_true] at hserved
    cases hkey : s.keys.contains key with
    | true =>
      rw [hkey, if_pos rfl] at hserved
      refine h.askSlave ⟨_, hserved, (h.slave.logged _).marked.put _ _, hshows.marked.put _⟩ nofun fun w' h' => ?_
      exact ⟨rfl, rfl, h'⟩
    | false =>
      rw [hkey, if_neg Bool.false_ne_true] at hserved
      refine h.askSlave ⟨_, hserved, (h.slave.logged _).marked, hshows.marked⟩ ?_
        fun w' h' => ⟨h', .inr ⟨rfl, rfl, rfl⟩⟩
      exact fun n heq => missing_inRange n (ProtocolError.server.inj (Except.error.inj heq))

/-- The slave takes an entry over as it has been handed out, or refuses it and stays as it is. -/
theorem Meets.replay (h : session.Meets space m s earlier w) (entry : Entry) (at_ : Position) :
    Action.Calmly time space m (Session.replay (entry.handedOut at_))
      (fun done session' w' => done = .applied at_ entry.value.isNone ∧
        ∃ s', Took s entry s' ∧ session'.Meets space m s' earlier w')
      (fun failure session' w' => ∃ reason, s.refusal? entry = some reason ∧
        failure = .integrity (entry.refused at_ reason) ∧ session'.Meets space m s earlier w') session w := by
  have htook := took_append s w.slave entry
  obtain ⟨key, value, marker⟩ := entry
  unfold Session.replay acknowledged
  cases value with
  | none =>
    refine (Action.ensures_bind _ _).mpr ((Action.ensures_bind _ _).mpr ?_)
    rw [Action.ensures_attempt]
    refine (h.applyDelete key _).mono (fun _ session' w' hdone => ?_) fun failure session' w' hfailed => ?_
    · obtain ⟨-, -, h'⟩ := hdone
      exact ⟨rfl, _, htook, h'⟩
    · obtain ⟨h', ⟨hfrozen, rfl⟩ | ⟨hfrozen, hkey, rfl⟩⟩ := hfailed
      · exact ⟨_, if_pos hfrozen, rfl, h'⟩
      · refine ⟨"Key not found", ?_, rfl, h'⟩
        unfold Namespace.refusal?
        rw [hfrozen, if_neg Bool.false_ne_true, if_pos ⟨rfl, hkey⟩]
  | some value =>
    refine (Action.ensures_bind _ _).mpr ((Action.ensures_bind _ _).mpr ?_)
    rw [Action.ensures_attempt]
    refine (h.applySet key value _).mono (fun echo session' w' hdone => ?_) fun failure session' w' hfailed => ?_
    · obtain ⟨rfl, -, h'⟩ := hdone
      have hecho : ¬ echo ≠ (Entry.handedOut ⟨echo, some value, marker⟩ at_).key := fun hne => hne rfl
      refine (Action.ensures_pure _).mpr ?_
      dsimp only
      rw [if_neg hecho]
      exact ⟨rfl, _, htook, h'⟩
    · obtain ⟨hfrozen, rfl, h'⟩ := hfailed
      exact ⟨_, if_pos hfrozen, rfl, h'⟩

/-- The master hands out the entry at a cursor, if there is one. -/
theorem Meets.fetchRecord (h : session.Meets space m s earlier w) {at_ : Position}
    (hsegment : at_.segment.toNat < m.segments.length) (hoffset : at_.offset.toNat < 2 ^ 63) :
    Action.Calmly time space m (onMaster (Client.fetchRecord at_))
      (fun record session' w' => ∃ before entry after, m.CutAt at_ before (entry :: after) ∧
        record = entry.handedOut at_ ∧ session'.Meets space m s earlier w')
      (fun failure session' w' => session'.Meets space m s earlier w' ∧
        ((∃ before, m.CutAt at_ before []) ∧ failure = .protocol .eof ∨
          (¬ ∃ before after, m.CutAt at_ before after) ∧
            failure = .protocol (.server ("Invalid offset " ++ Decimal.text at_.offset.toNat)))) session w := by
  have hdispatch : ∀ serving : Serving, serving.Shows space m →
      (Serve.dispatch (.dataRaw at_) none).on serving = (Serve.recorded m at_, serving) :=
    fun serving hshows => Serve.on_serveRecord hshows at_
  unfold Serve.recorded at hdispatch
  rcases Namespace.entriesFrom?_cases hsegment with ⟨before, after, hcut⟩ | ⟨hnone, hinvalid⟩
  · rw [hcut.entriesFrom?] at hdispatch
    cases after with
    | nil => exact h.askMaster hdispatch nofun fun w' h' => ⟨h', .inl ⟨⟨before, hcut⟩, rfl⟩⟩
    | cons entry after =>
      refine h.askMaster hdispatch nofun fun w' h' => ?_
      rw [Client.reading_handedOut entry hoffset]
      exact ⟨before, entry, after, hcut, rfl, h'⟩
  · rw [hinvalid] at hdispatch
    refine h.askMaster hdispatch ?_ fun w' h' => ⟨h', .inr ⟨hnone, rfl⟩⟩
    exact fun n heq => offset_inRange _ n (ProtocolError.server.inj (Except.error.inj heq))

theorem Meets.jumpSegment (h : session.Meets space m s earlier w) :
    Action.Calmly time space m (onSlave Client.jumpSegment)
      (fun _ session' w' => session'.Meets space m s.jump earlier w') (fun _ _ _ => False) session w := by
  have hshows := h.slaveShows.logged .nsJump
  refine calmly_note h.quiet ?_
  exact h.askSlave ⟨_, Serve.on_serveJump hshows, (h.slave.logged _).put _ _, hshows.put _⟩ nofun fun _ h' => h'

/-! ## One step -/

/-- What a step does that succeeds. -/
inductive Advanced (m s : Namespace) : Step → Namespace → Prop where
  | idle (h : s.position = m.position) : Advanced m s .idle s
  | applied {before after : List Entry} {entry : Entry} {s' : Namespace}
    (hcut : m.CutAt s.position before (entry :: after)) (htook : Took s entry s') :
    Advanced m s (.applied s.position entry.value.isNone) s'
  | jumped {before : List Entry} (hcut : m.CutAt s.position before []) : Advanced m s (.jumped s.position) s.jump

/-- How a step fails. -/
inductive StepFault (last : Option Snapshot) (m s : Namespace) : SyncError → Prop where
  | movedBackwards (h : Session.movedBackwards last s.snapshot = true) :
    StepFault last m s (.invariantViolation m.position s.position .movedBackwards)
  | ahead (h : m.position < s.position) :
    StepFault last m s (.invariantViolation m.position s.position .aheadOfMaster)
  /-- The slave's cursor stands between no two entries of the master. -/
  | misaligned (h : ¬ ∃ before after, m.CutAt s.position before after) :
    StepFault last m s (.protocol (.server ("Invalid offset " ++ Decimal.text s.position.offset.toNat)))
  | refused {before after : List Entry} {entry : Entry} {reason : String}
    (hcut : m.CutAt s.position before (entry :: after)) (hreason : s.refusal? entry = some reason) :
    StepFault last m s (.integrity (entry.refused s.position reason))

/-- What is behind the slave's cursor in the master's log is what the slave is brought closer by. -/
theorem Meets.advance {last : Option Snapshot} (h : session.Meets space m s earlier w) (hm : m.Fits (2 ^ 63))
    (hs : s.Fits (2 ^ 63)) (hbehind : s.position < m.position) :
    Action.Calmly time space m (Session.advance s.position)
      (fun done session' w' => ∃ s', Advanced m s done s' ∧ session'.Meets space m s' earlier w')
      (fun failure session' w' => StepFault last m s failure ∧ session'.Meets space m s earlier w')
      session w := by
  have hs₆₄ : s.Fits (2 ^ 64) := hs.mono (by decide)
  have hsegment := Namespace.segment_lt_of_position_lt (hm.mono (by decide)) hs₆₄ hbehind
  have hoffset : s.position.offset.toNat < 2 ^ 63 := by
    rw [hs₆₄.offset_toNat]
    exact hs.sizeOf_current_lt
  unfold Session.advance
  refine (Action.ensures_bind _ _).mpr ?_
  rw [Action.ensures_attempt]
  refine (h.fetchRecord hsegment hoffset).mono (fun record session₁ w₁ hfound => ?_) fun failure session₁ w₁ hend => ?_
  · obtain ⟨before, entry, after, hcut, rfl, h₁⟩ := hfound
    have hposition : ¬ (entry.handedOut s.position).position ≠ s.position := fun hne => hne rfl
    dsimp only
    rw [if_neg hposition]
    refine (h₁.replay entry s.position).mono (fun done session₂ w₂ hdone => ?_) fun failure session₂ w₂ hfailed => ?_
    · obtain ⟨rfl, s', htook, h₂⟩ := hdone
      exact ⟨s', .applied hcut htook, h₂⟩
    · obtain ⟨reason, hreason, rfl, h₂⟩ := hfailed
      exact ⟨.refused hcut hreason, h₂⟩
  · obtain ⟨h₁, ⟨⟨before, hcut⟩, rfl⟩ | ⟨hnone, rfl⟩⟩ := hend
    · refine (Action.ensures_bind _ _).mpr (Action.calmly_log h₁.quiet ?_)
      refine (Action.ensures_bind _ _).mpr (h₁.jumpSegment.mono (fun _ _ _ h₂ => ?_) fun _ _ _ h₂ => h₂.elim)
      exact ⟨_, .jumped hcut, h₂⟩
    · exact ⟨.misaligned hnone, h₁⟩

/-- **Whatever the two logs have to do with each other, a step brings the slave closer or fails without a trace.** -/
theorem Meets.step (time : Scene → Duration) (h : session.Meets space m s earlier w) (hm : m.Fits (2 ^ 63))
    (hs : s.Fits (2 ^ 63)) :
    Action.Calmly time space m Session.step
      (fun done session' w' => ∃ s', Advanced m s done s' ∧ session'.Meets space m s' earlier w')
      (fun failure session' w' => StepFault session.lastSlave m s failure ∧ session'.Meets space m s earlier w')
      session w := by
  unfold Session.step
  refine (Action.ensures_bind _ _).mpr (h.masterInfo.mono ?_ fun _ _ _ h₁ => h₁.elim)
  rintro _ session₁ w₁ ⟨rfl, rfl, h₁⟩
  refine (Action.ensures_bind _ _).mpr (h₁.slaveInfo.mono ?_ ?_)
  · rintro _ session₂ w₂ ⟨rfl, -, h₂⟩
    cases hdecide : Snapshot.decide m.snapshot s.snapshot with
    | fatal => exact ⟨.ahead (Snapshot.gt_of_decide hdecide), h₂⟩
    | wait => exact ⟨s, .idle (Snapshot.eq_of_decide hdecide), h₂⟩
    | advance => exact h₂.advance hm hs (Snapshot.lt_of_decide hdecide)
  · rintro _ session₂ w₂ ⟨hmoved, rfl, h₂⟩
    exact ⟨.movedBackwards hmoved, h₂⟩

/-! ## The theorem -/

/-- A fault of a step is not about the number of a segment. -/
theorem StepFault.inRange {last : Option Snapshot} {failure : SyncError} (h : StepFault last m s failure) (n : Nat) :
    failure ≠ .protocol (.server ("Invalid data id " ++ Decimal.text n)) := by
  cases h with
  | movedBackwards _ | ahead _ | refused _ _ => exact nofun
  | misaligned _ => exact fun heq => offset_inRange _ n (ProtocolError.server.inj (SyncError.protocol.inj heq))

/-- **A step changes the slave by what it reports and by nothing else**, whatever the two logs are, frozen or not. An
    entry is taken over only at the slave's cursor, where it is the master's next one; the next segment is started
    only where the master's segment ends. A step that waits or fails leaves the slave as it was, and fails for one of
    four reasons; no segment is asked for that the master does not have. -/
theorem step_changes_as_reported {session : Session Role} {w : Scene} {m s : Namespace} (time : Scene → Duration)
    (hconnects : session.Connects w m s) (hm : m.Fits (2 ^ 63)) (hs : s.Fits (2 ^ 63)) :
    ∃ result session' v s', (step session).run (Scene.calm time) w = ((result, session'), v) ∧
      v.master.store.namespaces.find? session.space = some m ∧
      v.slave.store.namespaces.find? session.space = some s' ∧
      (s' ≠ s ↔ (∃ at_ deleted, result = .ok (.applied at_ deleted)) ∨ ∃ start, result = .ok (.jumped start)) ∧
      (∀ at_ deleted, result = .ok (.applied at_ deleted) → at_ = s.position ∧ ∃ before entry after,
        m.CutAt at_ before (entry :: after) ∧ deleted = entry.value.isNone ∧ Took s entry s') ∧
      (∀ start, result = .ok (.jumped start) →
        start = s.position ∧ (∃ before, m.CutAt start before []) ∧ s' = s.jump) ∧
      (result = .ok .idle → s.position = m.position) ∧
      (∀ failure, result = .error failure → StepFault session.lastSlave m s failure) ∧
      (∀ n : Nat, result ≠ .error (.protocol (.server ("Invalid data id " ++ Decimal.text n)))) ∧
      ∃ exchanges, v.history = exchanges ++ w.history ∧ ∀ exchange ∈ exchanges, exchange.InRange := by
  have hrun := Program.Ensures.run (hconnects.meets.step time hm hs)
  rcases hresult : (step session).run (Scene.calm time) w with ⟨⟨failure | done, session'⟩, v⟩
  · rw [hresult] at hrun
    obtain ⟨hfault, hend⟩ := hrun
    refine ⟨.error failure, session', v, s, rfl, hend.masterShows.found, hend.slaveShows.found, ?_, nofun, nofun, nofun,
      fun _ heq => Except.error.inj heq ▸ hfault, fun n heq => hfault.inRange n (Except.error.inj heq), hend.inRange⟩
    constructor
    · exact fun hne => absurd rfl hne
    · rintro (⟨_, _, heq⟩ | ⟨_, heq⟩) <;> cases heq
  · rw [hresult] at hrun
    obtain ⟨s', hdone, hend⟩ := hrun
    refine ⟨.ok done, session', v, s', rfl, hend.masterShows.found, hend.slaveShows.found, ?_, ?_, ?_, ?_, nofun, nofun,
      hend.inRange⟩
    · cases hdone with
      | idle _ =>
        constructor
        · exact fun hne => absurd rfl hne
        · rintro (⟨_, _, heq⟩ | ⟨_, heq⟩) <;> cases heq
      | applied _ htook =>
        obtain ⟨marker, -, rfl⟩ := htook
        exact ⟨fun _ => .inl ⟨_, _, rfl⟩, fun _ => s.append_ne _⟩
      | jumped _ => exact ⟨fun _ => .inr ⟨_, rfl⟩, fun _ => s.jump_ne⟩
    · rintro at_ deleted heq
      cases hdone with
      | idle _ | jumped _ => cases heq
      | applied hcut htook =>
        cases heq
        exact ⟨rfl, _, _, _, hcut, rfl, htook⟩
    · rintro start heq
      cases hdone with
      | idle _ | applied _ _ => cases heq
      | jumped hcut =>
        cases heq
        exact ⟨rfl, ⟨_, hcut⟩, rfl⟩
    · intro heq
      cases hdone with
      | idle hsame => exact hsame
      | applied _ _ | jumped _ => cases heq

theorem connects_between (strategy : Strategy) (m s : Namespace) :
    (between strategy).Connects (.between m s) m s where
  masterSpace := rfl
  slaveSpace := rfl
  master := ⟨rfl, rfl, rfl, fun _ => rfl, rfl, rfl⟩
  slave := ⟨rfl, rfl, rfl, nofun, rfl, rfl⟩
  masterFaults := rfl
  slaveFaults := rfl

/-- A slave that has another entry of the same size takes the next one over all the same. -/
theorem step_changes_as_reported_diverged :
    let next : Entry := ⟨[98], some [50], 2⟩
    let m : Namespace := .ofLog [] [⟨[97], some [49], 1⟩, next]
    let s : Namespace := .ofLog [] [⟨[99], some [51], 3⟩]
    ∃ session' v s', (step (between .incremental)).run (Scene.calm fun _ => ⟨0⟩) (.between m s) =
        ((.ok (.applied ⟨0, 20⟩ false), session'), v) ∧
      v.slave.store.namespaces.find? "data" = some s' ∧ s'.segments = [[⟨[99], some [51], 3⟩, next]] := by
  intro next m s
  have hknown : m.CutAt s.position [⟨[97], some [49], 1⟩] [next] := ⟨rfl, rfl⟩
  obtain ⟨result, session', v, s', hrun, -, hslave, -, happlied, hjumped, hidle, hfault, -⟩ :=
    step_changes_as_reported (fun _ => ⟨0⟩) (connects_between .incremental m s) ⟨by decide, by decide⟩
      ⟨by decide, by decide⟩
  cases result with
  | error failure =>
    exfalso
    cases hfault failure rfl with
    | movedBackwards h => exact absurd h nofun
    | ahead h => exact absurd h (by decide)
    | misaligned h => exact h ⟨_, _, hknown⟩
    | refused hcut hreason =>
      obtain ⟨rfl, -⟩ := List.cons.inj (Except.ok.inj (hcut.entriesFrom?.symm.trans hknown.entriesFrom?))
      exact absurd hreason nofun
  | ok done =>
    cases done with
    | idle => exact absurd (hidle rfl) (by decide)
    | jumped start =>
      obtain ⟨rfl, ⟨before, hcut⟩, -⟩ := hjumped start rfl
      exact absurd (Except.ok.inj (hcut.entriesFrom?.symm.trans hknown.entriesFrom?)) nofun
    | applied at_ deleted =>
      obtain ⟨rfl, before, entry, after, hcut, rfl, marker, hmarker, rfl⟩ := happlied at_ deleted rfl
      obtain ⟨rfl, -⟩ := List.cons.inj (Except.ok.inj (hcut.entriesFrom?.symm.trans hknown.entriesFrom?))
      refine ⟨session', v, _, hrun, hslave, ?_⟩
      rw [hmarker (by decide)]
      rfl

end Session

end SegmentSync
