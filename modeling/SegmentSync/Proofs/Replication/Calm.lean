import SegmentSync.Proofs.Program.Recorded
import SegmentSync.Proofs.Replication.Sides
import SegmentSync.Proofs.Store.Blob
import SegmentSync.Proofs.Store.Missing

/-!
# `SegmentSync.Proofs.Replication.Calm` — a session in calm, one operation at a time

Without trouble every operation has one outcome. `Session.InCalm` says which namespaces the stores have, and which
requests have been sent that change a log.

## Contents
- **Requests.** What becomes of a request, from what its command does (`Proofs.Store.Commands`).
- **Cursors.** Both ends are read as they are.
- **Entries and segments.** What the master hands out at the end of the slave, and what the slave takes over.
- **Reports.** They succeed, and change nothing else.
- **The start.** A fresh session is in calm.
- **Calm in trouble.** A run in calm is one of the runs in trouble, where an answer may get lost as well
  (`InCalm.plays_slave`).
-/

namespace SegmentSync

variable {σ α : Type} {time : Scene → Duration}

/-- What an action ensures in calm, while the master stays as it is. -/
abbrev Action.Calmly (time : Scene → Duration) (space : String) (m : Namespace) (x : Action σ Role α)
    (post : α → σ → Scene → Prop) (fail : SyncError → σ → Scene → Prop) (state : σ) (w : Scene) : Prop :=
  Action.Ensures (Program.answering (Scene.calm time)) (Scene.Quiet space m) x post fail state w

section

variable {space : String} {m : Namespace} {state : σ} {w : Scene} {fail : SyncError → σ → Scene → Prop}

theorem Action.calmly_log (hquiet : w.Quiet space m) {level : Level} {line : String}
    {post : Unit → σ → Scene → Prop} (hpost : post () state w) :
    Action.Calmly time space m (Action.log level line) post fail state w :=
  fun _ _ hcalm => (Prod.mk.inj hcalm).2 ▸ ⟨hquiet, hpost⟩

theorem Action.calmly_stopRequested (hquiet : w.Quiet space m) {post : Bool → σ → Scene → Prop}
    (hpost : post false state w) : Action.Calmly time space m Action.stopRequested post fail state w :=
  fun _ _ hcalm => (Prod.mk.inj hcalm).1 ▸ (Prod.mk.inj hcalm).2 ▸ ⟨hquiet, hpost⟩

end

/-! ## Requests -/

/-- **A client that is logged in on a good connection has its request dispatched**, and reads the answer. -/
theorem Client.calm_callFor {c : Client Role} {role : Role} {w : Scene} {safe : Scene → Prop} {request : Request}
    {shape : Answer → Option α} {answer : Except ProtocolError Reply} {s' : Serving}
    {post : α → Client Role → Scene → Prop} {fail : SyncError → Client Role → Scene → Prop}
    (hlink : c.link = role) (hlogin : c.authenticated = true) (hcalm : (w.serving role).Calm)
    (hserved : (Serve.dispatch request none).on ((w.serving role).logged request.command) = (answer, s'))
    (hsafe : safe ((w.put role s').note role request answer))
    (hnext : match reading request shape answer with
      | .ok value => post value c ((w.put role s').note role request answer)
      | .error failure => fail (.protocol failure) c ((w.put role s').note role request answer)) :
    Action.Ensures (Program.answering (Scene.calm time)) safe (callFor request shape) post fail c w := by
  refine ensures_callFor (fun hheld => ?_) fun r w' henv => ?_
  · simp [holdsBack, hlogin] at hheld
  · have hon : (Serve.execute request).on (w.serving role) = (answer, s') :=
      (Serve.execute_of_calm hcalm request).trans hserved
    rw [hlink] at henv
    obtain ⟨rfl, rfl⟩ := Prod.mk.inj ((Scene.calm_execute hon).symm.trans henv)
    exact ⟨hsafe, hnext⟩

theorem Scene.changes_note (w : Scene) (role : Role) (request : Request) (r : Except ProtocolError Reply) :
    (w.note role request r).changes =
      w.changes ++ if request.command.changesLog then [(role, request)] else [] := by
  unfold changes note
  cases hchanges : request.command.changesLog <;> simp [hchanges]

namespace Session

variable {session : Session Role} {space : String} {m s s' : Namespace} {changes : List (Role × Request)}
  {w : Scene}

/-- Both clients are logged in on good connections to stores that have these namespaces, and these changes of logs
    have been asked for. -/
structure InCalm (session : Session Role) (space : String) (m s : Namespace) (changes : List (Role × Request))
    (w : Scene) : Prop where
  wired : session.Wired space
  masterLogin : session.master.authenticated = true
  slaveLogin : session.slave.authenticated = true
  lastSlave : ∀ reading, session.lastSlave = some reading →
    ∃ s₀ : Namespace, LogPrefix s₀.segments s.segments ∧ reading = s₀.snapshot
  master : w.master.Calm
  masterShows : w.master.Shows space m
  slave : w.slave.Calm
  slaveShows : w.slave.Shows space s
  changes : w.changes = changes

theorem InCalm.quiet (h : session.InCalm space m s changes w) : w.Quiet space m := h.masterShows.found

variable {request : Request} {shape : Answer → Option α} {answer : Except ProtocolError Reply}
  {post : α → Session Role → Scene → Prop} {fail : SyncError → Session Role → Scene → Prop}

/-- After a request that the master has answered, and that changes nothing. -/
theorem InCalm.askedMaster (h : session.InCalm space m s changes w) (hcommand : request.command.changesLog = false)
    (answer : Except ProtocolError Reply) : session.InCalm space m s changes
      ((w.put .master (w.master.logged request.command)).note .master request answer) := by
  refine ⟨h.wired, h.masterLogin, h.slaveLogin, h.lastSlave, h.master.logged _, h.masterShows.logged _,
    h.slave, h.slaveShows, ?_⟩
  rw [Scene.changes_note, hcommand]
  exact (List.append_nil _).trans h.changes

/-- After a request that the slave has answered. -/
theorem InCalm.askedSlave {serving' : Serving} (h : session.InCalm space m s changes w) (request : Request)
    (answer : Except ProtocolError Reply) (hcalm : serving'.Calm)
    (hshows : serving'.Shows space s') (hgrows : LogPrefix s.segments s'.segments) :
    session.InCalm space m s' (changes ++ if request.command.changesLog then [(.slave, request)] else [])
      ((w.put .slave serving').note .slave request answer) := by
  refine ⟨h.wired, h.masterLogin, h.slaveLogin, fun reading hreading => ?_, h.master, h.masterShows,
    hcalm, hshows, ?_⟩
  · obtain ⟨s₀, hs₀, heq⟩ := h.lastSlave reading hreading
    exact ⟨s₀, hs₀.trans hgrows, heq⟩
  · rw [Scene.changes_note]
    exact congrArg (· ++ _) h.changes

/-- The master answers a request that changes nothing. -/
theorem InCalm.askMaster (h : session.InCalm space m s changes w)
    (hdispatch : ∀ serving : Serving, serving.Shows space m →
      (Serve.dispatch request none).on serving = (answer, serving))
    (hcommand : request.command.changesLog = false)
    (hnext : ∀ w', session.InCalm space m s changes w' → match Client.reading request shape answer with
      | .ok value => post value session w'
      | .error failure => fail (.protocol failure) session w') :
    Action.Calmly time space m (onMaster (Client.callFor request shape)) post fail session w := by
  have hserved := hdispatch _ (h.masterShows.logged request.command)
  have h' := h.askedMaster hcommand answer
  refine (Action.ensures_focus _ _ _ _).mpr ?_
  exact Client.calm_callFor h.wired.masterLink h.masterLogin h.master hserved h'.quiet (hnext _ h')

/-- The slave answers a request, and has another namespace after it. -/
theorem InCalm.askSlave (h : session.InCalm space m s changes w)
    (hdispatch : ∀ serving : Serving, serving.Calm → serving.Shows space s → ∃ serving',
      (Serve.dispatch request none).on serving = (answer, serving') ∧ serving'.Calm ∧ serving'.Shows space s')
    (hgrows : LogPrefix s.segments s'.segments)
    (hnext : ∀ w', session.InCalm space m s'
        (changes ++ if request.command.changesLog then [(.slave, request)] else []) w' →
      match Client.reading request shape answer with
      | .ok value => post value session w'
      | .error failure => fail (.protocol failure) session w') :
    Action.Calmly time space m (onSlave (Client.callFor request shape)) post fail session w := by
  obtain ⟨serving', hserved, hcalm', hshows'⟩ :=
    hdispatch _ (h.slave.logged _) (h.slaveShows.logged request.command)
  have h' := h.askedSlave request answer hcalm' hshows' hgrows
  refine (Action.ensures_focus _ _ _ _).mpr ?_
  exact Client.calm_callFor h.wired.slaveLink h.slaveLogin h.slave hserved h'.quiet (hnext _ h')

/-- A note comes before some changes. -/
theorem calmly_note (hquiet : w.Quiet space m) {x : Action (Client Role) Role α} {level : Level} {line : String}
    (hx : Action.Calmly time space m (onSlave x) post fail session w) :
    Action.Calmly time space m (onSlave (Client.note level line >>= fun _ => x)) post fail session w := by
  refine (Action.ensures_focus _ _ _ _).mpr ?_
  rw [Action.ensures_bind]
  refine Client.ensures_note fun line w' hcalm => ?_
  obtain rfl : w = w' := (Prod.mk.inj hcalm).2
  exact ⟨hquiet, (Action.ensures_focus _ _ _ _).mp hx⟩

/-! ## Cursors -/

theorem InCalm.masterInfo (h : session.InCalm space m s changes w) :
    Action.Calmly time space m Session.masterInfo
      (fun snapshot session' w' => snapshot = m.snapshot ∧ session'.InCalm space m s changes w')
      (fun _ _ _ => False) session w := by
  unfold Session.masterInfo
  refine (Action.ensures_bind _ _).mpr ?_
  rw [Action.ensures_get, Action.ensures_bind, h.wired.named]
  refine h.askMaster (fun _ hshows => Serve.on_serveInfo hshows.found) rfl fun w' h' => ?_
  rw [Client.reading_nsInfo]
  exact ⟨rfl, h'.wired.of_ends rfl ⟨rfl, rfl⟩ ⟨rfl, rfl⟩, h'.masterLogin, h'.slaveLogin, h'.lastSlave, h'.master,
    h'.masterShows, h'.slave, h'.slaveShows, h'.changes⟩

theorem InCalm.slaveInfo (h : session.InCalm space m s changes w) (hs : s.Fits (2 ^ 64)) :
    Action.Calmly time space m Session.slaveInfo
      (fun snapshot session' w' => snapshot = s.snapshot ∧ session'.InCalm space m s changes w')
      (fun _ _ _ => False) session w := by
  unfold Session.slaveInfo
  refine (Action.ensures_bind _ _).mpr ?_
  rw [Action.ensures_get, Action.ensures_bind, h.wired.named]
  refine h.askSlave (fun serving hcalm hshows => ⟨serving, Serve.on_serveInfo hshows.found, hcalm, hshows⟩)
    (LogPrefix.refl _) fun w' h' => ?_
  rw [Client.reading_nsInfo]
  refine (Action.ensures_bind _ _).mpr ?_
  rw [Action.ensures_get]
  dsimp only
  -- No earlier reading of the slave is beyond this one.
  rw [not_movedBackwards h'.lastSlave hs]
  refine ⟨rfl, h'.wired.of_ends rfl ⟨rfl, rfl⟩ ⟨rfl, rfl⟩, h'.masterLogin, h'.slaveLogin,
    fun reading hreading => ?_, h'.master, h'.masterShows, h'.slave, h'.slaveShows,
    h'.changes.trans (List.append_nil _)⟩
  exact ⟨s, LogPrefix.refl _, (Option.some.inj hreading).symm⟩

/-! ## Entries and segments -/

section

variable {tail : List Entry} {rest : List (List Entry)}

/-- What the master hands out at the end of a slave that lacks an entry. -/
theorem recorded_position (hm : m.Fits (2 ^ 64)) {entry : Entry}
    (hsegments : m.segments = s.earlier ++ (s.current ++ entry :: tail) :: rest) :
    Serve.recorded m s.position = .ok (Serve.recordReply entry s.position) := by
  -- The cursor is computed at the slave's end, but it is an offset of the master's segment too.
  have hbehind := Namespace.logPrefix_iff.mpr ⟨_, _, hsegments⟩
  unfold Serve.recorded
  rw [Namespace.entriesFrom?_position (hm.of_logPrefix hbehind) hsegments]

theorem InCalm.fetchRecord_entry (h : session.InCalm space m s changes w) (hm : m.Portable) {entry : Entry}
    (hsegments : m.segments = s.earlier ++ (s.current ++ entry :: tail) :: rest) :
    Action.Calmly time space m (onMaster (Client.fetchRecord s.position))
      (fun record session' w' => record = entry.record s.position ∧ session'.InCalm space m s changes w')
      (fun _ _ _ => False) session w := by
  have hbehind := Namespace.logPrefix_iff.mpr ⟨_, _, hsegments⟩
  refine h.askMaster (fun _ hshows => Serve.on_serveRecord hshows s.position) rfl fun w' h' => ?_
  rw [recorded_position hm.fits₆₄ hsegments,
    Client.reading_dataRaw entry (hm.offset_lt hbehind) (hm.marker_lt hsegments)]
  exact ⟨rfl, h'⟩

theorem InCalm.fetchRecord_eof (h : session.InCalm space m s changes w) (hm : m.Fits (2 ^ 64))
    (hsegments : m.segments = s.earlier ++ (s.current ++ []) :: rest) :
    Action.Calmly time space m (onMaster (Client.fetchRecord s.position)) (fun _ _ _ => False)
      (fun failure session' w' => failure = .protocol .eof ∧ session'.InCalm space m s changes w')
      session w := by
  have hbehind := Namespace.logPrefix_iff.mpr ⟨_, _, hsegments⟩
  have hanswer : Serve.recorded m s.position = .error .eof := by
    unfold Serve.recorded
    rw [Namespace.entriesFrom?_position (hm.of_logPrefix hbehind) hsegments]
  refine h.askMaster (fun _ hshows => Serve.on_serveRecord hshows s.position) rfl fun w' h' => ?_
  rw [hanswer]
  exact ⟨rfl, h'⟩

theorem InCalm.exportSegment_rest (h : session.InCalm space m s changes w) (hm : m.Fits (2 ^ 64)) {entry : Entry}
    (hsegments : m.segments = s.earlier ++ (s.current ++ entry :: tail) :: rest) :
    Action.Calmly time space m (onMaster (Client.exportSegment s.position))
      (fun blob session' w' => blob = Blob.write (entry :: tail) ∧ session'.InCalm space m s changes w')
      (fun _ _ _ => False) session w := by
  have hbehind := Namespace.logPrefix_iff.mpr ⟨_, _, hsegments⟩
  have hanswer : Serve.exported m s.position = .ok (.bulk (Blob.write (entry :: tail))) := by
    unfold Serve.exported
    rw [Namespace.entriesFrom?_position (hm.of_logPrefix hbehind) hsegments]
  refine h.askMaster (fun _ hshows => Serve.on_serveExport hshows s.position) rfl fun w' h' => ?_
  rw [hanswer, Client.reading_dataExport]
  exact ⟨rfl, h'⟩

theorem InCalm.exportSegment_eof (h : session.InCalm space m s changes w) (hm : m.Fits (2 ^ 64))
    (hsegments : m.segments = s.earlier ++ (s.current ++ []) :: rest) :
    Action.Calmly time space m (onMaster (Client.exportSegment s.position)) (fun _ _ _ => False)
      (fun failure session' w' => failure = .protocol .eof ∧ session'.InCalm space m s changes w')
      session w := by
  have hbehind := Namespace.logPrefix_iff.mpr ⟨_, _, hsegments⟩
  have hanswer : Serve.exported m s.position = .error .eof := by
    unfold Serve.exported
    rw [Namespace.entriesFrom?_position (hm.of_logPrefix hbehind) hsegments]
  refine h.askMaster (fun _ hshows => Serve.on_serveExport hshows s.position) rfl fun w' h' => ?_
  rw [hanswer]
  exact ⟨rfl, h'⟩

end

theorem InCalm.jumpSegment (h : session.InCalm space m s changes w) :
    Action.Calmly time space m (onSlave Client.jumpSegment)
      (fun _ session' w' => session'.InCalm space m s.jump (changes ++ [(.slave, .nsJump)]) w')
      (fun _ _ _ => False) session w :=
  calmly_note h.quiet <| h.askSlave
    (fun _ hcalm hshows => ⟨_, Serve.on_serveJump hshows, hcalm.put _ _, hshows.put s.jump⟩)
    s.logPrefix_jump fun _ h' => h'

theorem InCalm.setFreeze (h : session.InCalm space m s changes w) (enabled : Bool) :
    Action.Calmly time space m (onSlave (Client.setFreeze space enabled))
      (fun _ session' w' => session'.InCalm space m { s with frozen := enabled } changes w')
      (fun _ _ _ => False) session w := by
  refine calmly_note h.quiet (h.askSlave (fun _ hcalm hshows =>
    ⟨_, Serve.on_serveFreeze hshows.found enabled, hcalm.put _ _, hshows.put { s with frozen := enabled }⟩)
    (LogPrefix.refl _) fun w' h' => ?_)
  rw [Client.reading_okay rfl]
  exact List.append_nil changes ▸ h'

theorem InCalm.importSegment (h : session.InCalm space m s changes w) (tail : List Entry) :
    Action.Calmly time space m (onSlave (Client.importSegment s.position (Blob.write tail)))
      (fun _ session' w' => session'.InCalm space m (tail.foldl Namespace.append s)
        (changes ++ [(.slave, .dataImport s.position (Blob.write tail))]) w')
      (fun _ _ _ => False) session w := by
  have himport : ∀ serving : Serving, serving.Shows space s →
      (Serve.dispatch (.dataImport s.position (Blob.write tail)) none).on serving =
        (.ok .okay, serving.put space (tail.foldl Namespace.append s)) := by
    intro serving hshows
    -- The cursor is the slave's end, and the blob reads back as the entries that it was written from.
    have hserved := Serve.on_serveImport hshows s.position (Blob.write tail)
    rw [if_pos rfl, Blob.read?_write] at hserved
    exact hserved
  exact h.askSlave (fun serving hcalm hshows => ⟨_, himport serving hshows, hcalm.put _ _, hshows.put _⟩)
    (s.logPrefix_appendAll tail) fun _ h' => h'

/-- A slave that is not frozen takes over an entry that sets a key. -/
theorem dispatch_set (hfrozen : s.frozen = false) {serving : Serving} (hshows : serving.Shows space s)
    (key value : Bytes) (marker : UInt64) :
    (Serve.dispatch (.set key value (Utf8.encodeChars (Decimal.digits marker.toNat))) none).on serving =
      (.ok (.bulk key), serving.marked.put space (s.append ⟨key, some value, marker⟩)) := by
  have hserved := Serve.on_serveSet hshows key value marker none
  rw [hfrozen] at hserved
  exact hserved

theorem InCalm.applySet (h : session.InCalm space m s changes w) (hfrozen : s.frozen = false) (key value : Bytes)
    (marker : UInt64) :
    Action.Calmly time space m
      (onSlave (Client.applySet key value (Utf8.encodeChars (Decimal.digits marker.toNat))))
      (fun echo session' w' => echo = key ∧ ∃ changes',
        session'.InCalm space m (s.append ⟨key, some value, marker⟩) changes' w')
      (fun _ _ _ => False) session w :=
  h.askSlave
    (fun _ hcalm hshows => ⟨_, dispatch_set hfrozen hshows key value marker, hcalm.marked.put _ _,
      hshows.marked.put _⟩)
    (s.logPrefix_append _) fun _ h' => ⟨rfl, _, h'⟩

theorem InCalm.applyDelete (h : session.InCalm space m s changes w) (hfrozen : s.frozen = false) (key : Bytes)
    (marker : UInt64) (hkey : s.keys.contains key = true) :
    Action.Calmly time space m (onSlave (Client.applyDelete key (Utf8.encodeChars (Decimal.digits marker.toNat))))
      (fun _ session' w' => ∃ changes', session'.InCalm space m (s.append ⟨key, none, marker⟩) changes' w')
      (fun _ _ _ => False) session w := by
  have hdelete : ∀ serving : Serving, serving.Shows space s →
      (Serve.dispatch (.del key (Utf8.encodeChars (Decimal.digits marker.toNat))) none).on serving =
        (.ok .okay, serving.marked.put space (s.append ⟨key, none, marker⟩)) := by
    intro serving hshows
    have hserved := Serve.on_serveDelete hshows key marker
    rw [hfrozen, if_neg Bool.false_ne_true, if_pos hkey] at hserved
    exact hserved
  exact h.askSlave
    (fun serving hcalm hshows => ⟨_, hdelete serving hshows, hcalm.marked.put _ _, hshows.marked.put _⟩)
    (s.logPrefix_append _) fun _ h' => ⟨_, h'⟩

/-- A key that is not set cannot be deleted. -/
theorem InCalm.applyDelete_dead (h : session.InCalm space m s changes w) (hfrozen : s.frozen = false) (key : Bytes)
    (marker : UInt64) (hkey : s.keys.contains key = false) :
    Action.Calmly time space m (onSlave (Client.applyDelete key (Utf8.encodeChars (Decimal.digits marker.toNat))))
      (fun _ _ _ => False)
      (fun failure session' w' => failure = .protocol (.server "Key not found") ∧
        ∃ changes', session'.InCalm space m s changes' w') session w := by
  have hdelete : ∀ serving : Serving, serving.Shows space s →
      (Serve.dispatch (.del key (Utf8.encodeChars (Decimal.digits marker.toNat))) none).on serving =
        (.error (.server "Key not found"), serving.marked) := by
    intro serving hshows
    have hserved := Serve.on_serveDelete hshows key marker
    rw [hfrozen, hkey, if_neg Bool.false_ne_true, if_neg Bool.false_ne_true] at hserved
    exact hserved
  exact h.askSlave (fun serving hcalm hshows => ⟨_, hdelete serving hshows, hcalm.marked, hshows.marked⟩)
    (LogPrefix.refl _) fun _ h' => ⟨rfl, _, h'⟩

/-! ## Reports -/

/-- What a session notes about failures and reports is not about the sides. -/
theorem InCalm.noting (h : session.InCalm space m s changes w) (failures : Nat) (backoff : Backoff)
    (reported : Option (PairSnapshot × Duration)) :
    { session with failures, backoff, reported }.InCalm space m s changes w :=
  ⟨h.wired.of_ends rfl ⟨rfl, rfl⟩ ⟨rfl, rfl⟩, h.masterLogin, h.slaveLogin, h.lastSlave, h.master, h.masterShows,
    h.slave, h.slaveShows, h.changes⟩

theorem InCalm.succeeded (h : session.InCalm space m s changes w) :
    Action.Calmly time space m succeeded (fun _ session' w' => session'.InCalm space m s changes w')
      (fun _ _ _ => False) session w := by
  unfold Session.succeeded
  refine (Action.ensures_bind _ _).mpr ?_
  rw [Action.ensures_get]
  dsimp only
  split
  · refine (Action.ensures_bind _ _).mpr ?_
    exact Action.calmly_log h.quiet (h.noting _ _ session.reported)
  · exact h.noting _ _ session.reported

theorem InCalm.emit (h : session.InCalm space m s changes w) (phase : Phase) :
    Action.Calmly time space m (emit phase) (fun _ session' w' => session'.InCalm space m s changes w')
      (fun _ _ _ => False) session w := by
  unfold Session.emit
  refine (Action.ensures_bind _ _).mpr ?_
  rw [Action.ensures_get]
  cases session.snapshots with
  | none => exact h
  | some current =>
    refine (Action.ensures_bind _ _).mpr fun now w' hclock => ?_
    obtain rfl : w = w' := (Prod.mk.inj hclock).2
    refine ⟨h.quiet, ?_⟩
    refine (Action.ensures_bind _ _).mpr fun _ w' hreport => ?_
    obtain rfl : w = w' := (Prod.mk.inj hreport).2
    exact ⟨h.quiet, h.noting session.failures session.backoff _⟩

/-- Where nothing fails there is nothing to recover from. -/
theorem calmly_guarded {atEnd : SyncError → Action (Session Role) Role Unit} {x : Action (Session Role) Role α}
    {post : α → Session Role → Scene → Prop}
    (hx : Action.Calmly time space m x post (fun _ _ _ => False) session w) :
    Action.Calmly time space m (guarded atEnd x)
      (fun result session w => ∃ value, result = .value value ∧ post value session w) fail session w := by
  unfold guarded
  refine (Action.ensures_bind _ _).mpr ?_
  rw [Action.ensures_attempt]
  exact hx.mono (fun value _ _ h => ⟨value, rfl, h⟩) fun _ _ _ h => h.elim

/-! ## The start -/

/-- A fresh session finds calm where the stores have no orders to misbehave. -/
theorem Fresh.inCalm (h : session.Fresh w m s) (hmaster : w.master.store.faults = [])
    (hslave : w.slave.store.faults = []) : session.InCalm session.space m s [] w := by
  have htracks := h.tracks
  obtain ⟨hmasterSpace, hslaveSpace, -, -⟩ := h.made_iff
  refine ⟨htracks.wired, h.master.authenticated, h.slave.authenticated, htracks.lastSlave,
    ⟨h.master.isOpen, hmaster, h.master.admin⟩, ⟨?_, ?_⟩, ⟨h.slave.isOpen, hslave, h.slave.admin⟩, ⟨?_, ?_⟩, ?_⟩
  · exact hmasterSpace ▸ h.master.found
  · exact hmasterSpace ▸ h.master.selected
  · exact hslaveSpace ▸ h.slave.found
  · exact hslaveSpace ▸ h.slave.selected
  · unfold Scene.changes
    rw [h.history]; rfl

end Session

/-! ## Calm in trouble -/

/-- Calm is one of the ways in which trouble can go, as long as the master is within its limits. -/
theorem Scene.trouble_of_calm {space : String} {limit : Namespace → Prop} {m : Namespace} {w : Scene}
    (hquiet : w.Quiet space m) (hlimit : limit m) (effect : Effect Role) :
    Scene.trouble space limit w effect (Scene.calm time effect w).1 (Scene.calm time effect w).2 := by
  have hdisturbed := hquiet.disturbed hlimit
  cases effect with
  | execute role request => exact ⟨w, _, hdisturbed, .served, rfl⟩
  | reopen role => exact ⟨w, _, hdisturbed, .served, rfl⟩
  | stopRequested | wait _ | rest _ | report _ | log _ _ | clock => exact hdisturbed

/-- So a run in calm is one in trouble. -/
theorem Program.Ensures.reaches_trouble {space : String} {limit : Namespace → Prop} {m : Namespace}
    {p : Program Role α} {post : α → Scene → Prop} {w : Scene}
    (h : p.Ensures (answering (Scene.calm time)) (Scene.Quiet space m) post w) (hquiet : w.Quiet space m)
    (hlimit : limit m) :
    p.Reaches (Scene.trouble space limit) w (.done (p.run (Scene.calm time) w).1)
      (p.run (Scene.calm time) w).2 := by
  induction p generalizing w with
  | done a => exact .refl _ _
  | ask effect next ih =>
    obtain ⟨hquiet', hnext⟩ := h _ _ rfl
    exact .step (Scene.trouble_of_calm hquiet hlimit effect) (ih _ hnext hquiet')

/-- In trouble too, nothing need happen to the stores where nothing is asked of them. -/
theorem Scene.Quiet.plays_idle {space : String} {limit : Namespace → Prop} {m : Namespace} {later trace : Trace Role}
    {u w : Scene} (h : w.Quiet space m) (hlimit : limit m)
    (hplays : Program.Plays (Scene.trouble space limit) trace u w)
    (hidle : ∀ event ∈ later, event.isContact = false) :
    Program.Plays (Scene.trouble space limit) (later ++ trace) u w := by
  induction later with
  | nil => exact hplays
  | cons event later ih =>
    obtain ⟨hevent, hlater⟩ := List.forall_mem_cons.mp hidle
    refine .cons (ih hlater) ?_
    obtain ⟨effect, answer⟩ := event
    cases effect with
    | execute _ _ | reopen _ => cases hevent
    | stopRequested | wait _ | rest _ | report _ | log _ _ | clock => exact h.disturbed hlimit

namespace Session

variable {session : Session Role} {space : String} {limit : Namespace → Prop} {m s s' : Namespace}
  {changes : List (Role × Request)} {trace : Trace Role} {u w : Scene} {request : Request}
  {answer : Except ProtocolError Reply}

/-- In trouble the master may answer as in calm. -/
theorem InCalm.plays_master (h : session.InCalm space m s changes w) (hlimit : limit m)
    (hplays : Program.Plays (Scene.trouble space limit) trace u w) (request : Request)
    (hcommand : request.command.changesLog = false)
    (hdispatch : ∀ serving : Serving, serving.Shows space m →
      (Serve.dispatch request none).on serving = (answer, serving)) :
    ∃ w', session.InCalm space m s changes w' ∧
      Program.Plays (Scene.trouble space limit) (.sent .master request answer :: trace) u w' :=
  ⟨_, h.askedMaster hcommand answer, .cons hplays
    (h.quiet.trouble_served .master hlimit h.master (hdispatch _ (h.masterShows.logged request.command)))⟩

/-- So may the slave, or its answer gets lost. -/
theorem InCalm.plays_slave (h : session.InCalm space m s changes w) (hlimit : limit m)
    (hplays : Program.Plays (Scene.trouble space limit) trace u w) (request : Request)
    (hgrows : LogPrefix s.segments s'.segments)
    (hdispatch : ∀ serving : Serving, serving.Calm → serving.Shows space s → ∃ serving',
      (Serve.dispatch request none).on serving = (answer, serving') ∧ serving'.Calm ∧ serving'.Shows space s') :
    (∃ changes' w', session.InCalm space m s' changes' w' ∧
      Program.Plays (Scene.trouble space limit) (.sent .slave request answer :: trace) u w') ∧
      ∀ reason, ∃ w', w'.Quiet space m ∧ w'.slave.Shows space s' ∧ Program.Plays (Scene.trouble space limit)
        (.sent .slave request (.error (.transport reason)) :: trace) u w' := by
  obtain ⟨serving', hserved, hcalm, hshows⟩ :=
    hdispatch _ (h.slave.logged _) (h.slaveShows.logged request.command)
  refine ⟨⟨_, _, h.askedSlave request answer hcalm hshows hgrows, .cons hplays ?_⟩, fun reason => ?_⟩
  · exact h.quiet.trouble_served .slave hlimit h.slave hserved
  · have hlost := h.quiet.trouble_unanswered .slave hlimit h.slave hserved reason false
    exact ⟨(w.put .slave (serving'.withOpen false)).note .slave request _, h.quiet, hshows.withOpen false,
      .cons hplays hlost⟩

/-- The sides may be read one after the other. -/
theorem InCalm.plays_readings (h : session.InCalm space m s changes w) (hlimit : limit m)
    (hplays : Program.Plays (Scene.trouble space limit) trace u w) :
    ∃ changes' w', session.InCalm space m s changes' w' ∧ Program.Plays (Scene.trouble space limit)
      (.sent .slave (.nsInfo space) (.ok (.bulk (Utf8.encode (s.info space)))) ::
        .sent .master (.nsInfo space) (.ok (.bulk (Utf8.encode (m.info space)))) :: trace) u w' := by
  obtain ⟨_, h₁, hplays₁⟩ := h.plays_master hlimit hplays (.nsInfo space) rfl fun _ hshows =>
    Serve.on_serveInfo hshows.found
  exact (h₁.plays_slave hlimit hplays₁ (.nsInfo space) (LogPrefix.refl _) fun serving hcalm hshows =>
    ⟨serving, Serve.on_serveInfo hshows.found, hcalm, hshows⟩).1

end Session

end SegmentSync
