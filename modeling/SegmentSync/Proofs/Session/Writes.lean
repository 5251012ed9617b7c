import SegmentSync.Proofs.Client.Replies
import SegmentSync.Proofs.Program.Trace
import SegmentSync.Proofs.Replication.Scene
import SegmentSync.Proofs.Session.Upkeep
import SegmentSync.Proofs.Store.Missing

/-!
# `SegmentSync.Proofs.Session.Writes` — why a slave is told to change

Whatever the stores answer, and whenever connections fail or the session is stopped: a slave is told to change its
log only right after its cursor has been read and the master has been asked about that very cursor, and what it is
told is what the master has answered. So no change is ever sent twice for one reading, however it fares.

## Contents
- **Warrants.** `Session.Warranted` says what must have happened right before a request that changes a slave.
- **Requests.** What is known after the requests that steps are made of.
- **Steps.** `Watched.step` and `Watched.copyStep_reached`, which also say what it takes for a step to report a change,
  and for a copy to have reached its baseline (`Session.Reached`).
- **The run.** `changes_warranted`.
-/

namespace SegmentSync

/-- The request by which a slave takes over an entry. -/
def Record.request (entry : Record) : Request :=
  if entry.isDelete then .del entry.key entry.marker else .set entry.key (entry.value.getD []) entry.marker

namespace Session

/-! ## Warrants -/

/-- What is known when a trace begins: the reading of the slave that was accepted last, and the baseline of a copy
    that is under way. -/
structure Start where
  lastSlave : Option Snapshot
  baseline : Option Snapshot := none

variable {α : Type} {space : String} {start : Start} {strategy : Strategy}

/-- The reading of the slave that was accepted last: a reading behind the one before is refused. -/
def accepted (space : String) (start : Start) : Trace Role → Option Snapshot
  | [] => start.lastSlave
  | .sent .slave request r :: earlier =>
    match Client.reading request Client.info? r with
    | .ok snapshot =>
      if request = .nsInfo space ∧ movedBackwards (accepted space start earlier) snapshot = false then some snapshot
      else accepted space start earlier
    | .error _ => accepted space start earlier
  | _ :: earlier => accepted space start earlier

/-- What the slave has answered puts it at a cursor, and is accepted after what has happened before. -/
def ReadAt (space : String) (start : Start) (at_ : Position) (r : Except ProtocolError Reply)
    (earlier : Trace Role) : Prop :=
  ∃ snapshot, Client.reading (.nsInfo space) Client.info? r = .ok snapshot ∧ snapshot.position = at_ ∧
    movedBackwards (accepted space start earlier) snapshot = false

/-- The baseline of a copy: the slave was frozen, the master was read, and the slave was not ahead of it. It remains
    the baseline as long as the master is not read again. -/
inductive Captured (space : String) (start : Start) (baseline : Snapshot) : Trace Role → Prop where
  | known (hbaseline : start.baseline = some baseline) : Captured space start baseline []
  | prepared {frozen : Reply} {master slave : Except ProtocolError Reply} {at_ : Position} {earlier : Trace Role}
      (hfrozen : frozen.IsOkay) (hbaseline : Client.reading (.nsInfo space) Client.info? master = .ok baseline)
      (hread : ReadAt space start at_ slave
        (.sent .master (.nsInfo space) master :: .sent .slave (.nsFreeze space true) (.ok frozen) :: earlier))
      (hnotAhead : ¬ baseline.position < at_) :
    Captured space start baseline (.sent .slave (.nsInfo space) slave :: .sent .master (.nsInfo space) master ::
      .sent .slave (.nsFreeze space true) (.ok frozen) :: earlier)
  | since {event : Event Role} {earlier : Trace Role} (hevent : ∀ r, event ≠ .sent .master (.nsInfo space) r)
      (hcaptured : Captured space start baseline earlier) : Captured space start baseline (event :: earlier)

/-- What has happened right before a request that changes the slave: its cursor was read, the master was asked
    about that cursor, and nothing else but lines of the log. -/
inductive Warranted (space : String) (start : Start) : Strategy → Request → Trace Role → Prop where
  /-- The slave takes over the entry that the master has at its cursor. -/
  | replayed {entry : Record} {reply : Reply} {slave : Except ProtocolError Reply} {earlier : Trace Role}
      (hread : ReadAt space start entry.position slave earlier) (hentry : reply.HandsOut entry) :
    Warranted space start .incremental entry.request
      (.sent .master (.dataRaw entry.position) (.ok reply) :: .sent .slave (.nsInfo space) slave :: earlier)
  /-- The slave goes on where the master's segment ends, before the end of the master that was read just before. -/
  | jumped {at_ : Position} {seen : Snapshot} {slave master : Except ProtocolError Reply} {earlier : Trace Role}
      (logs : Trace Role) (hlogs : ∀ event ∈ logs, event.isLog = true)
      (hread : ReadAt space start at_ slave (.sent .master (.nsInfo space) master :: earlier))
      (hseen : Client.reading (.nsInfo space) Client.info? master = .ok seen) (hlt : at_ < seen.position) :
    Warranted space start .incremental .nsJump
      (logs ++ .sent .master (.dataRaw at_) (.error .eof) :: .sent .slave (.nsInfo space) slave ::
        .sent .master (.nsInfo space) master :: earlier)
  /-- The slave takes over the rest of a segment as the master has exported it. -/
  | imported {at_ : Position} {blob : Bytes} {reply : Reply} {slave : Except ProtocolError Reply}
      {earlier : Trace Role} (hread : ReadAt space start at_ slave earlier) (hblob : reply.asBytes = .ok blob) :
    Warranted space start .bulk (.dataImport at_ blob)
      (.sent .master (.dataExport at_) (.ok reply) :: .sent .slave (.nsInfo space) slave :: earlier)
  /-- The slave goes on where the master's segment ends, before the baseline. -/
  | wentOn {at_ : Position} {baseline : Snapshot} {slave : Except ProtocolError Reply} {earlier : Trace Role}
      (logs : Trace Role) (hlogs : ∀ event ∈ logs, event.isLog = true) (hread : ReadAt space start at_ slave earlier)
      (hbaseline : Captured space start baseline earlier) (hlt : at_ < baseline.position) :
    Warranted space start .bulk .nsJump
      (logs ++ .sent .master (.dataExport at_) (.error .eof) :: .sent .slave (.nsInfo space) slave :: earlier)

/-- The copy has reached its baseline: the slave was read there or behind it, and the master has said that its segment
    ends there; nothing was asked of them since. -/
inductive Reached (space : String) (start : Start) (baseline : Snapshot) : Trace Role → Prop where
  | intro {at_ : Position} {slave : Except ProtocolError Reply} {earlier : Trace Role} (since : Trace Role)
      (hsince : ∀ event ∈ since, event.isContact = false) (hread : ReadAt space start at_ slave earlier)
      (hcaptured : Captured space start baseline earlier) (hle : baseline.position ≤ at_) :
    Reached space start baseline
      (since ++ .sent .master (.dataExport at_) (.error .eof) :: .sent .slave (.nsInfo space) slave :: earlier)

theorem Reached.cons {baseline : Snapshot} {trace : Trace Role} {event : Event Role}
    (h : Reached space start baseline trace) (hevent : event.isContact = false) :
    Reached space start baseline (event :: trace) := by
  cases h with
  | intro since hsince hread hcaptured hle =>
    exact .intro (event :: since) (List.forall_mem_cons.mpr ⟨hevent, hsince⟩) hread hcaptured hle

/-- Every change of the slave was warranted by what had happened before. -/
def ChangesWarranted (space : String) (start : Start) (strategy : Strategy) (trace : Trace Role) : Prop :=
  ∀ later request r earlier, trace = later ++ .sent .slave request r :: earlier →
    request.command.changesLog = true → Warranted space start strategy request earlier

variable {trace : Trace Role} {event : Event Role}

theorem changesWarranted_nil : ChangesWarranted space start strategy [] := by
  intro later request r earlier heq
  exact absurd heq (by simp)

theorem ChangesWarranted.cons (h : ChangesWarranted space start strategy trace)
    (hevent : ∀ request r, event = .sent .slave request r → request.command.changesLog = true →
      Warranted space start strategy request trace) : ChangesWarranted space start strategy (event :: trace) := by
  intro later request r earlier heq hchanges
  cases later with
  | nil =>
    obtain ⟨rfl, rfl⟩ := List.cons.inj heq
    exact hevent request r rfl hchanges
  | cons _ later =>
    obtain ⟨-, rfl⟩ := List.cons.inj heq
    exact h later request r earlier rfl hchanges

theorem accepted_of_ne {request : Request} {r : Except ProtocolError Reply} (h : request ≠ .nsInfo space) :
    accepted space start (.sent .slave request r :: trace) = accepted space start trace := by
  simp only [accepted, h, false_and, if_false]
  cases Client.reading request Client.info? r <;> rfl

/-- The event neither changes a side nor reads its cursor. -/
def Quiet (space : String) (event : Event Role) : Prop :=
  ∀ link request r, event = .sent link request r → request.command.changesLog = false ∧ request ≠ .nsInfo space

theorem accepted_of_quiet (h : Quiet space event) :
    accepted space start (event :: trace) = accepted space start trace := by
  rcases event with ⟨_ | _ | _ | _ | _ | _ | _, r⟩
  case execute link request =>
    cases link with
    | master => rfl
    | slave => exact accepted_of_ne (h .slave request r rfl).2
  all_goals rfl

/-! ## What a session knows -/

/-- What a session knows while every change of the slave has been warranted; a copy has a baseline. -/
structure Watched (space : String) (start : Start) (strategy : Strategy) (baseline : Option Snapshot)
    (session : Session Role) (trace : Trace Role) : Prop where
  named : session.space = space
  masterLink : session.master.link = .master
  slaveLink : session.slave.link = .slave
  lastSlave : session.lastSlave = accepted space start trace
  captured : ∀ snapshot, baseline = some snapshot → Captured space start snapshot trace
  warranted : ChangesWarranted space start strategy trace

variable {baseline : Option Snapshot} {session : Session Role}

namespace Watched

/-- There is nothing to be known of a copy that has no baseline yet. -/
theorem forget (h : session.Watched space start strategy baseline trace) :
    session.Watched space start strategy none trace :=
  ⟨h.named, h.masterLink, h.slaveLink, h.lastSlave, nofun, h.warranted⟩

theorem quiet (h : session.Watched space start strategy baseline trace) (hevent : Quiet space event) :
    session.Watched space start strategy baseline (event :: trace) where
  named := h.named
  masterLink := h.masterLink
  slaveLink := h.slaveLink
  lastSlave := h.lastSlave.trans (accepted_of_quiet hevent).symm
  captured := fun snapshot hbaseline =>
    .since (fun r heq => (hevent .master _ r heq).2 rfl) (h.captured snapshot hbaseline)
  warranted := h.warranted.cons fun request r heq hchanges => by
    rw [(hevent .slave request r heq).1] at hchanges
    cases hchanges

end Watched

/-- What an action ensures, as long as every change is warranted. -/
abbrev Heeds (space : String) (start : Start) (strategy : Strategy) (x : Action (Session Role) Role α)
    (post : α → Session Role → Trace Role → Prop) (fail : SyncError → Session Role → Trace Role → Prop)
    (session : Session Role) (trace : Trace Role) : Prop :=
  Action.Ensures recording (ChangesWarranted space start strategy) x post fail session trace

theorem quiet_login {name : String} {link : Role} {request : Request} {r : Except ProtocolError Reply}
    (h : Client.IsLogin name request) : Quiet space (.sent link request r) := by
  intro link' request' r' heq
  cases heq
  cases h <;> exact ⟨rfl, nofun⟩

/-- Only requests are not quiet. -/
theorem quiet_of_ne {effect : Effect Role} {answer : effect.Answer}
    (h : ∀ link request, effect ≠ .execute link request) : Quiet space ⟨effect, answer⟩ := by
  intro link request r heq
  exact absurd (congrArg Event.effect heq) (h link request)

theorem quiet_connect {client : Client Role} {effect : Effect Role} (h : client.AsksToConnect effect)
    (answer : effect.Answer) : Quiet space ⟨effect, answer⟩ := by
  cases h with
  | request hlogin => exact quiet_login hlogin
  | reopen | log _ _ => exact quiet_of_ne nofun

/-- **Recovering and reporting change no slave.** -/
theorem unaffected_watched :
    Unaffected recording (ChangesWarranted space start strategy) (Watched space start strategy baseline) where
  master := fun _ _ _ h => ⟨h.named, h.masterLink, h.slaveLink, h.lastSlave, h.captured, h.warranted⟩
  slave := fun _ _ _ h => ⟨h.named, h.masterLink, h.slaveLink, h.lastSlave, h.captured, h.warranted⟩
  failures := fun _ _ _ _ h => ⟨h.named, h.masterLink, h.slaveLink, h.lastSlave, h.captured, h.warranted⟩
  reported := fun _ _ _ h => ⟨h.named, h.masterLink, h.slaveLink, h.lastSlave, h.captured, h.warranted⟩
  effect := fun _ _ effect answer _ h hasks henv => by
    have hquiet : Quiet space ⟨effect, answer⟩ := by
      cases hasks with
      | master hconnect | slave hconnect => exact quiet_connect hconnect answer
      | pause hpause => cases hpause <;> exact quiet_of_ne nofun
    subst henv
    exact ⟨(h.quiet hquiet).warranted, h.quiet hquiet⟩
  reporting := fun _ _ effect answer _ h hasks henv => by
    have hquiet : Quiet space ⟨effect, answer⟩ := by
      cases hasks <;> exact quiet_of_ne nofun
    subst henv
    exact ⟨(h.quiet hquiet).warranted, h.quiet hquiet⟩

/-! ## Requests -/

namespace Watched

/-- **Asking the master.** Where the answer is the end of a segment, it is the master who has said so. The master is
    not read while a copy goes on. -/
theorem ask (h : session.Watched space start strategy baseline trace) (request : Request)
    (shape : Answer → Option α) (hread : baseline = none ∨ request ≠ .nsInfo space) :
    Heeds space start strategy (onMaster (Client.callFor request shape))
      (fun value session' trace' => session'.Watched space start strategy baseline trace' ∧
        ∃ r, trace' = .sent .master request r :: trace ∧ Client.reading request shape r = .ok value)
      (fun failure session' trace' => session'.Watched space start strategy baseline trace' ∧
        (failure.isEof = true → trace' = .sent .master request (.error .eof) :: trace))
      session trace := by
  refine (Action.ensures_focus _ _ _ _).mpr ?_
  refine Client.ensures_callFor (fun _ => ⟨h, nofun⟩) fun r trace' htrace => ?_
  rw [h.masterLink] at htrace
  obtain rfl := htrace
  have h' : session.Watched space start strategy baseline (.sent .master request r :: trace) := by
    refine ⟨h.named, h.masterLink, h.slaveLink, h.lastSlave, fun snapshot hbaseline => ?_, h.warranted.cons ?_⟩
    · refine .since (fun r' heq => ?_) (h.captured snapshot hbaseline)
      cases heq
      exact hread.elim (fun hnone => absurd (hnone.symm.trans hbaseline) nofun) fun hne => hne rfl
    · intro request' r' heq
      cases heq
  refine ⟨h'.warranted, ?_⟩
  cases hreading : Client.reading request shape r with
  | ok value => exact ⟨h', r, rfl, hreading⟩
  | error failure =>
    refine ⟨h', fun heof => ?_⟩
    have hfailure : failure = .eof := by
      cases failure <;> first | rfl | cases heof
    subst hfailure
    rw [Client.reading_eq_eof hreading]

/-- **Telling the slave.** A change that is warranted may be sent, once. -/
theorem tell (h : session.Watched space start strategy baseline trace) (request : Request)
    (shape : Answer → Option α) (hread : request ≠ .nsInfo space)
    (hwarrant : request.command.changesLog = true → Warranted space start strategy request trace) :
    Heeds space start strategy (onSlave (Client.callFor request shape))
      (fun value session' trace' => session'.Watched space start strategy baseline trace' ∧
        ∃ r, trace' = .sent .slave request r :: trace ∧ Client.reading request shape r = .ok value)
      (fun _ session' trace' => session'.Watched space start strategy baseline trace')
      session trace := by
  refine (Action.ensures_focus _ _ _ _).mpr ?_
  refine Client.ensures_callFor (fun _ => h) fun r trace' htrace => ?_
  rw [h.slaveLink] at htrace
  obtain rfl := htrace
  have h' : session.Watched space start strategy baseline (.sent .slave request r :: trace) := by
    refine ⟨h.named, h.masterLink, h.slaveLink, h.lastSlave.trans (accepted_of_ne hread).symm, ?_, ?_⟩
    · exact fun snapshot hbaseline => .since nofun (h.captured snapshot hbaseline)
    · exact h.warranted.cons fun request' r' heq hchanges => by
        cases heq
        exact hwarrant hchanges
  refine ⟨h'.warranted, ?_⟩
  cases hreading : Client.reading request shape r with
  | ok value => exact ⟨h', r, rfl, hreading⟩
  | error failure => exact h'

theorem masterInfo (h : session.Watched space start strategy none trace) :
    Heeds space start strategy masterInfo
      (fun snapshot session' trace' => session'.Watched space start strategy none trace' ∧
        ∃ r, trace' = .sent .master (.nsInfo space) r :: trace ∧
          Client.reading (.nsInfo space) Client.info? r = .ok snapshot)
      (fun _ session' trace' => session'.Watched space start strategy none trace')
      session trace := by
  unfold Session.masterInfo
  refine (Action.ensures_bind _ _).mpr ?_
  rw [Action.ensures_get, h.named, Action.ensures_bind]
  refine (h.ask _ _ (.inl rfl)).mono (fun snapshot session' trace' h' => ?_) fun _ _ _ h' => h'.1
  obtain ⟨h', hsent⟩ := h'
  exact ⟨⟨h'.named, h'.masterLink, h'.slaveLink, h'.lastSlave, nofun, h'.warranted⟩, hsent⟩

/-- **Reading the slave.** A reading that goes back is refused, and the one before remains. -/
theorem slaveInfo (h : session.Watched space start strategy baseline trace) :
    Heeds space start strategy slaveInfo
      (fun snapshot session' trace' => session'.Watched space start strategy baseline trace' ∧
        ∃ r, trace' = .sent .slave (.nsInfo space) r :: trace ∧ ReadAt space start snapshot.position r trace)
      (fun _ session' trace' => session'.Watched space start strategy baseline trace')
      session trace := by
  unfold Session.slaveInfo
  refine (Action.ensures_bind _ _).mpr ?_
  rw [Action.ensures_get, h.named, Action.ensures_bind]
  refine (Action.ensures_focus _ _ _ _).mpr ?_
  refine Client.ensures_callFor (fun _ => h) fun r trace' htrace => ?_
  rw [h.slaveLink] at htrace
  obtain rfl := htrace
  have hcaptured : ∀ snapshot, baseline = some snapshot →
      Captured space start snapshot (.sent .slave (.nsInfo space) r :: trace) :=
    fun snapshot hbaseline => .since nofun (h.captured snapshot hbaseline)
  have hwarranted : ChangesWarranted space start strategy (.sent .slave (.nsInfo space) r :: trace) :=
    h.warranted.cons fun request r' heq hchanges => by
      cases heq
      cases hchanges
  refine ⟨hwarranted, ?_⟩
  cases hreading : Client.reading (.nsInfo space) Client.info? r with
  | error failure =>
    have hkept : session.lastSlave = accepted space start (.sent .slave (.nsInfo space) r :: trace) := by
      simp only [h.lastSlave, accepted, hreading]
    exact ⟨h.named, h.masterLink, h.slaveLink, hkept, hcaptured, hwarranted⟩
  | ok snapshot =>
    have haccepted : ∀ refused, movedBackwards session.lastSlave snapshot = refused →
        accepted space start (.sent .slave (.nsInfo space) r :: trace) =
          if refused then session.lastSlave else some snapshot := fun refused hrefused => by
      rw [h.lastSlave] at hrefused
      simp only [accepted, hreading, true_and, hrefused, h.lastSlave]
      cases refused <;> rfl
    refine (Action.ensures_bind _ _).mpr ?_
    rw [Action.ensures_get]
    dsimp only
    split
    · exact ⟨h.named, h.masterLink, h.slaveLink, (haccepted true ‹_›).symm, hcaptured, hwarranted⟩
    · have hforward := Bool.eq_false_iff.mpr ‹¬ _›
      refine ⟨⟨h.named, h.masterLink, h.slaveLink, (haccepted false hforward).symm, hcaptured, hwarranted⟩, r, rfl, ?_⟩
      exact ⟨snapshot, hreading, rfl, h.lastSlave ▸ hforward⟩

theorem log (h : session.Watched space start strategy baseline trace) {level : Level} {line : String}
    {post : Unit → Session Role → Trace Role → Prop} {fail : SyncError → Session Role → Trace Role → Prop}
    (hpost : session.Watched space start strategy baseline (⟨.log level line, ()⟩ :: trace) →
      post () session (⟨.log level line, ()⟩ :: trace)) :
    Heeds space start strategy (Action.log level line) post fail session trace :=
  (Action.ensures_recording _).mpr fun _ =>
    have h' : session.Watched space start strategy baseline (⟨.log level line, ()⟩ :: trace) :=
      h.quiet (quiet_of_ne nofun)
    ⟨h'.warranted, hpost h'⟩

/-- **Noting something and telling the slave**, which acknowledges it. -/
theorem noteAndTell (h : session.Watched space start strategy baseline trace) (request : Request) (level : Level)
    (line : String) (hread : request ≠ .nsInfo space) (hreader : Answer.reader request.command = Answer.readAck)
    (hwarrant : ∀ line, request.command.changesLog = true →
      Warranted space start strategy request (⟨.log level line, ()⟩ :: trace)) :
    Heeds space start strategy (onSlave (do Client.note level line; Client.callFor request Client.ack?))
      (fun _ session' trace' => session'.Watched space start strategy baseline trace' ∧
        ∃ line reply, trace' = .sent .slave request (.ok reply) :: ⟨.log level line, ()⟩ :: trace ∧ reply.IsOkay)
      (fun _ session' trace' => session'.Watched space start strategy baseline trace')
      session trace := by
  refine (Action.ensures_focus _ _ _ _).mpr ((Action.ensures_bind _ _).mpr ?_)
  refine Client.ensures_note fun line trace' htrace => ?_
  obtain rfl := htrace
  have h' : session.Watched space start strategy baseline (⟨.log level line, ()⟩ :: trace) :=
    h.quiet (quiet_of_ne nofun)
  refine ⟨h'.warranted, ?_⟩
  have htell := (Action.ensures_focus _ _ _ _).mp (h'.tell request Client.ack? hread (hwarrant line))
  refine htell.mono ?_ fun _ _ _ h'' => h''
  rintro ⟨⟩ client trace'' ⟨h'', r, rfl, hreading⟩
  obtain ⟨reply, rfl, hokay⟩ := Client.reading_ack hreader hreading
  exact ⟨h'', line, reply, rfl, hokay⟩

theorem jumpSegment (h : session.Watched space start strategy baseline trace)
    (hwarrant : ∀ line, Warranted space start strategy .nsJump (⟨.log .debug line, ()⟩ :: trace)) :
    Heeds space start strategy (onSlave Client.jumpSegment)
      (fun _ session' trace' => session'.Watched space start strategy baseline trace' ∧
        ∃ earlier reply, trace' = .sent .slave .nsJump (.ok reply) :: earlier ∧ reply.IsOkay)
      (fun _ session' trace' => session'.Watched space start strategy baseline trace') session trace := by
  refine (h.noteAndTell .nsJump .debug _ nofun rfl fun line _ => hwarrant line).mono ?_ fun _ _ _ h' => h'
  rintro _ session' _ ⟨h', line, reply, rfl, hokay⟩
  exact ⟨h', _, reply, rfl, hokay⟩

end Watched

/-! ## Steps -/

/-- The reply acknowledges the request: a set by the key again, all else by an explicit OK. -/
def Acknowledges (reply : Reply) (request : Request) : Prop :=
  match request with
  | ⟨.set, key :: _⟩ => reply.asBytes = .ok key
  | _ => reply.IsOkay

/-- What a step says it has done is what the slave has just acknowledged. -/
inductive Step.Acknowledged : Step → Trace Role → Prop where
  | idle {trace : Trace Role} : Acknowledged .idle trace
  | applied {entry : Record} {reply : Reply} {earlier : Trace Role} (h : Acknowledges reply entry.request) :
    Acknowledged (.applied entry.position entry.isDelete) (.sent .slave entry.request (.ok reply) :: earlier)
  | jumped {at_ : Position} {reply : Reply} {earlier : Trace Role} (h : Acknowledges reply .nsJump) :
    Acknowledged (.jumped at_) (.sent .slave .nsJump (.ok reply) :: earlier)

/-- What a step of a copy says it has done is what the slave has just acknowledged. -/
inductive CopyStep.Acknowledged : CopyStep → Trace Role → Prop where
  | imported {at_ : Position} {blob : Bytes} {reply : Reply} {earlier : Trace Role}
      (h : Acknowledges reply (.dataImport at_ blob)) :
    Acknowledged (.imported blob.length) (.sent .slave (.dataImport at_ blob) (.ok reply) :: earlier)
  | jumped {reply : Reply} {earlier : Trace Role} (h : Acknowledges reply .nsJump) :
    Acknowledged .jumped (.sent .slave .nsJump (.ok reply) :: earlier)
  | done {trace : Trace Role} : Acknowledged .done trace

namespace Watched

theorem acknowledged {x : Action (Client Role) Role α} {fault : String → IntegrityFault}
    {post : α → Session Role → Trace Role → Prop}
    (hx : Heeds space start strategy (onSlave x) post
      (fun _ session' trace' => session'.Watched space start strategy baseline trace') session trace) :
    Heeds space start strategy (acknowledged fault x) post
      (fun _ session' trace' => session'.Watched space start strategy baseline trace') session trace := by
  unfold Session.acknowledged
  refine (Action.ensures_bind _ _).mpr ?_
  rw [Action.ensures_attempt]
  refine hx.mono (fun _ _ _ hpost => hpost) fun failure _ _ h => ?_
  split <;> first | exact h | contradiction

/-- **What is replayed is what the master has handed out.** -/
theorem replay {entry : Record} (h : session.Watched space start .incremental none trace)
    (hwarrant : Warranted space start .incremental entry.request trace) :
    Heeds space start .incremental (replay entry)
      (fun result session' trace' => session'.Watched space start .incremental none trace' ∧ result.Acknowledged trace')
      (fun _ session' trace' => session'.Watched space start .incremental none trace') session trace := by
  unfold Session.replay
  cases hdelete : entry.isDelete with
  | true =>
    have hrequest : entry.request = .del entry.key entry.marker := if_pos hdelete
    have htell := h.tell (.del entry.key entry.marker) Client.ack? nofun fun _ => hrequest ▸ hwarrant
    rw [if_pos rfl]
    refine Action.Ensures.andThen (acknowledged htell) ?_
    rintro ⟨⟩ session' trace' ⟨h', r, rfl, hreading⟩
    obtain ⟨reply, rfl, hokay⟩ := Client.reading_ack rfl hreading
    refine ⟨h', ?_⟩
    have happlied : Acknowledges reply entry.request := hrequest ▸ hokay
    have hack : Step.Acknowledged _ (.sent .slave entry.request (.ok reply) :: trace) := .applied happlied
    rwa [hrequest, hdelete] at hack
  | false =>
    have hrequest : entry.request = .set entry.key (entry.value.getD []) entry.marker :=
      if_neg (by simp [hdelete])
    have htell := h.tell (.set entry.key (entry.value.getD []) entry.marker) Client.blob? nofun
      fun _ => hrequest ▸ hwarrant
    rw [if_neg Bool.false_ne_true]
    refine Action.Ensures.andThen (acknowledged htell) ?_
    rintro echo session' trace' ⟨h', r, rfl, hreading⟩
    split
    · exact h'
    · obtain ⟨reply, rfl, hecho⟩ := Client.reading_blob rfl hreading
      obtain rfl : echo = entry.key := Decidable.of_not_not ‹_›
      refine ⟨h', ?_⟩
      have happlied : Acknowledges reply entry.request := hrequest ▸ hecho
      have hack : Step.Acknowledged _ (.sent .slave entry.request (.ok reply) :: trace) := .applied happlied
      rwa [hrequest, hdelete] at hack

/-- **A step of a slave that is behind** is about the entry at its cursor, or about the end of its segment. -/
theorem advance {at_ : Position} {seen : Snapshot} {master slave : Except ProtocolError Reply}
    {earlier : Trace Role}
    (h : session.Watched space start .incremental none
      (.sent .slave (.nsInfo space) slave :: .sent .master (.nsInfo space) master :: earlier))
    (hread : ReadAt space start at_ slave (.sent .master (.nsInfo space) master :: earlier))
    (hseen : Client.reading (.nsInfo space) Client.info? master = .ok seen) (hlt : at_ < seen.position) :
    Heeds space start .incremental (advance at_)
      (fun result session' trace' => session'.Watched space start .incremental none trace' ∧ result.Acknowledged trace')
      (fun _ session' trace' => session'.Watched space start .incremental none trace')
      session (.sent .slave (.nsInfo space) slave :: .sent .master (.nsInfo space) master :: earlier) := by
  unfold Session.advance
  refine (Action.ensures_bind _ _).mpr ?_
  rw [Action.ensures_attempt]
  refine (h.ask (.dataRaw at_) _ (.inl rfl)).mono ?_ ?_
  · rintro entry session₁ _ ⟨h₁, r, rfl, hreading⟩
    obtain ⟨reply, rfl, hentry⟩ := Client.reading_record rfl hreading
    dsimp only
    split
    · exact h₁
    · obtain rfl : entry.position = at_ := Decidable.of_not_not ‹_›
      exact h₁.replay (.replayed hread hentry)
  · rintro failure session₁ _ ⟨h₁, heof⟩
    dsimp only
    split
    · obtain rfl := heof ‹_›
      refine (Action.ensures_bind _ _).mpr (h₁.log fun h₂ => ?_)
      refine Action.Ensures.andThen (h₂.jumpSegment fun line => ?_) ?_
      · exact .jumped [_, _] (by simp [Event.isLog]) hread hseen hlt
      · rintro _ session₃ _ ⟨h₃, earlier, reply, rfl, hokay⟩
        exact ⟨h₃, .jumped hokay⟩
    · exact h₁

theorem step (h : session.Watched space start .incremental none trace) :
    Heeds space start .incremental step
      (fun result session' trace' => session'.Watched space start .incremental none trace' ∧ result.Acknowledged trace')
      (fun _ session' trace' => session'.Watched space start .incremental none trace') session trace := by
  unfold Session.step
  refine Action.Ensures.andThen h.masterInfo ?_
  rintro seen session₁ _ ⟨h₁, master, rfl, hseen⟩
  refine Action.Ensures.andThen h₁.slaveInfo ?_
  rintro snapshot session₂ _ ⟨h₂, slave, rfl, hread⟩
  split
  · exact h₂
  · exact ⟨h₂, .idle⟩
  · exact h₂.advance hread hseen (Snapshot.lt_of_decide ‹_›)

/-! ## Copies -/

/-- **Preparing leads to a baseline**, which the master has while the slave is frozen. -/
theorem prepare (h : session.Watched space start .bulk none trace) :
    Heeds space start .bulk prepare
      (fun snapshot session' trace' => session'.Watched space start .bulk (some snapshot) trace')
      (fun _ session' trace' => session'.Watched space start .bulk none trace') session trace := by
  unfold Session.prepare
  refine (Action.ensures_bind _ _).mpr ?_
  rw [Action.ensures_get, h.named]
  refine Action.Ensures.andThen (h.noteAndTell (.nsFreeze space true) .debug _ nofun rfl fun _ => nofun) ?_
  rintro _ session₁ _ ⟨h₁, line, frozen, rfl, hfrozen⟩
  refine Action.Ensures.andThen h₁.masterInfo ?_
  rintro snapshot session₂ _ ⟨h₂, master, rfl, hseen⟩
  refine Action.Ensures.andThen h₂.slaveInfo ?_
  rintro at_ session₃ _ ⟨h₃, slave, rfl, hread⟩
  cases hdecide : Snapshot.decide snapshot at_ with
  | fatal => exact h₃
  | wait | advance =>
    refine ⟨h₃.named, h₃.masterLink, h₃.slaveLink, h₃.lastSlave, fun baseline hbaseline => ?_, h₃.warranted⟩
    obtain rfl := Option.some.inj hbaseline
    have hnotAhead := Snapshot.not_lt_of_decide (by rw [hdecide]; exact nofun)
    exact .prepared hfrozen hseen hread hnotAhead

/-- **The end of a segment**, which the master has just said to be at the cursor. -/
theorem endOfSegment {baseline : Snapshot} {at_ : Position} {slave : Except ProtocolError Reply}
    {earlier : Trace Role}
    (h : session.Watched space start .bulk (some baseline)
      (.sent .master (.dataExport at_) (.error .eof) :: .sent .slave (.nsInfo space) slave :: earlier))
    (hread : ReadAt space start at_ slave earlier) (hcaptured : Captured space start baseline earlier) :
    Heeds space start .bulk (endOfSegment baseline.position at_)
      (fun result session' trace' => session'.Watched space start .bulk (some baseline) trace' ∧
        result.Acknowledged trace' ∧ (result = .done → Reached space start baseline trace'))
      (fun _ session' trace' => session'.Watched space start .bulk (some baseline) trace')
      session (.sent .master (.dataExport at_) (.error .eof) :: .sent .slave (.nsInfo space) slave :: earlier) := by
  unfold Session.endOfSegment
  dsimp only
  split
  · have hle : baseline.position ≤ at_ := ‹_›
    split
    · refine (Action.ensures_bind _ _).mpr (h.log fun h' => ⟨h', .done, fun _ => ?_⟩)
      exact .intro [_] (List.forall_mem_singleton.mpr rfl) hread hcaptured hle
    · exact ⟨h, .done, fun _ => .intro [] (List.forall_mem_nil _) hread hcaptured hle⟩
  · have hlt : at_ < baseline.position := Position.lt_of_not_le ‹_›
    split
    · exact h
    · refine (Action.ensures_bind _ _).mpr (h.log fun h₁ => ?_)
      refine Action.Ensures.andThen (h₁.jumpSegment fun line => ?_) ?_
      · exact .wentOn [_, _] (by simp [Event.isLog]) hread hcaptured hlt
      · rintro _ session₂ _ ⟨h₂, earlier, reply, rfl, hokay⟩
        exact ⟨h₂, .jumped hokay, nofun⟩

/-- **A step of a copy** is about what the master exports at the slave's cursor. It is the last one where that has
    reached the baseline. -/
theorem copyStep_reached {baseline : Snapshot} (h : session.Watched space start .bulk (some baseline) trace) :
    Heeds space start .bulk (copyStep baseline)
      (fun result session' trace' => session'.Watched space start .bulk (some baseline) trace' ∧
        result.Acknowledged trace' ∧ (result = .done → Reached space start baseline trace'))
      (fun _ session' trace' => session'.Watched space start .bulk (some baseline) trace') session trace := by
  have hcaptured := h.captured baseline rfl
  unfold Session.copyStep
  refine Action.Ensures.andThen h.slaveInfo ?_
  rintro snapshot session₁ _ ⟨h₁, slave, rfl, hread⟩
  refine (Action.ensures_bind _ _).mpr ?_
  rw [Action.ensures_attempt]
  refine (h₁.ask (.dataExport snapshot.position) _ (.inr nofun)).mono ?_ ?_
  · rintro blob session₂ _ ⟨h₂, r, rfl, hreading⟩
    obtain ⟨reply, rfl, hblob⟩ := Client.reading_blob rfl hreading
    have htell := h₂.tell (.dataImport snapshot.position blob) Client.ack? nofun fun _ => .imported hread hblob
    refine Action.Ensures.andThen htell ?_
    rintro ⟨⟩ session₃ _ ⟨h₃, r', rfl, hacknowledged⟩
    obtain ⟨reply', rfl, hokay⟩ := Client.reading_ack rfl hacknowledged
    exact ⟨h₃, .imported hokay, nofun⟩
  · rintro failure session₂ _ ⟨h₂, heof⟩
    dsimp only
    split
    · obtain rfl := heof ‹_›
      exact h₂.endOfSegment hread hcaptured
    · exact h₂

theorem copyStep {baseline : Snapshot} (h : session.Watched space start .bulk (some baseline) trace) :
    Heeds space start .bulk (copyStep baseline)
      (fun result session' trace' => session'.Watched space start .bulk (some baseline) trace' ∧
        result.Acknowledged trace')
      (fun _ session' trace' => session'.Watched space start .bulk (some baseline) trace') session trace :=
  h.copyStep_reached.mono (fun _ _ _ h' => ⟨h'.1, h'.2.1⟩) fun _ _ _ h' => h'

end Watched

/-! ## The run -/

/-- In the course of a run every change of the slave is warranted. -/
theorem Watched.run (h : session.Watched space start session.strategy none trace) (limit : Nat) :
    Heeds space start session.strategy (Session.run limit)
      (fun _ => Watched space start session.strategy none) (fun _ => Watched space start session.strategy none)
      session trace := by
  have hcourse : ∀ strategy baseline, Course recording (ChangesWarranted space start strategy)
      (Watched space start strategy baseline) (Watched space start strategy baseline)
      (fun _ => Watched space start strategy baseline) (fun _ s w => Watched space start strategy none s w ∧ True)
      (Watched space start strategy none) :=
    fun strategy baseline => unaffected_watched.course unaffected_watched (fun _ _ hs => hs.forget)
      fun _ _ => trivial
  have hrun : Heeds space start session.strategy (Session.run limit)
      (fun _ => Watched space start session.strategy none)
      (fun _ s w => Watched space start session.strategy none s w ∧ True) session trace := by
    refine (hcourse session.strategy none).run (fun _ => h) (fun _ => ⟨h, trivial⟩) (fun hbulk => ?_)
      fun hincremental => ?_
    · rw [hbulk]
      refine (hcourse .bulk none).runBulk (fun baseline => hcourse .bulk (some baseline)) ?_ (fun baseline => ?_)
        (fun s w hs _ => ?_) limit
      · exact Unaffected.follows (fun _ _ hs => hs) fun s w hs =>
          hs.prepare.mono (fun _ _ _ hs' => hs') fun _ _ _ hs' => ⟨hs', trivial⟩
      · exact Unaffected.follows (fun _ _ hs => hs.forget) fun s w hs =>
          hs.copyStep.mono (fun result _ _ hs' => by cases result <;> exact hs'.1) fun _ _ _ hs' => ⟨hs', trivial⟩
      · refine (hs.noteAndTell (.nsFreeze s.space false) .debug _ nofun rfl fun _ => nofun).mono ?_ ?_
        · exact fun _ _ _ hs' => hs'.1
        · exact fun _ _ _ hs' => ⟨hs', trivial⟩
    · rw [hincremental]
      exact (hcourse .incremental none).runIncremental (Unaffected.follows (fun _ _ hs => hs) fun s w hs =>
        hs.step.mono (fun _ _ _ hs' => hs'.1) fun _ _ _ hs' => ⟨hs', trivial⟩) limit
  exact hrun.mono (fun _ _ _ hs => hs) fun _ _ _ hs => hs.1

/-- **No change is sent blindly.** At any point of a run, every change that was sent to the slave was warranted by what
    had happened right before; the same holds of a step on its own, and of a step of a copy towards a baseline. A step
    says that it has changed the slave only where the slave has acknowledged that. -/
theorem changes_warranted (session : Session Role) (hmaster : session.master.link = .master)
    (hslave : session.slave.link = .slave) :
    (∀ limit q trace, (run limit session).Reaches recording [] q trace →
      ChangesWarranted session.space ⟨session.lastSlave, none⟩ session.strategy trace) ∧
    (∀ q trace, (step session).Reaches recording [] q trace →
      ChangesWarranted session.space ⟨session.lastSlave, none⟩ .incremental trace) ∧
    (∀ baseline q trace, (copyStep baseline session).Reaches recording [] q trace →
      ChangesWarranted session.space ⟨session.lastSlave, some baseline⟩ .bulk trace) ∧
    (∀ trace result session', step.Runs session trace (.ok result) session' → result.Acknowledged trace) ∧
    ∀ baseline trace result session', (copyStep baseline).Runs session trace (.ok result) session' →
      result.Acknowledged trace := by
  have hstart : ∀ strategy, session.Watched session.space ⟨session.lastSlave, none⟩ strategy none [] :=
    fun strategy => ⟨rfl, hmaster, hslave, rfl, nofun, changesWarranted_nil⟩
  have hcopying : ∀ baseline,
      session.Watched session.space ⟨session.lastSlave, some baseline⟩ .bulk (some baseline) [] :=
    fun baseline => ⟨rfl, hmaster, hslave, rfl, fun _ heq => .known heq, changesWarranted_nil⟩
  refine ⟨fun limit q trace hrun => ?_, fun q trace hrun => ?_, fun baseline q trace hrun => ?_,
    fun trace result session' hrun => ?_, fun baseline trace result session' hrun => ?_⟩
  · exact (((hstart _).run limit).reaches changesWarranted_nil hrun).1
  · exact ((hstart _).step.reaches changesWarranted_nil hrun).1
  · exact ((hcopying baseline).copyStep.reaches changesWarranted_nil hrun).1
  · exact (hrun.ensured changesWarranted_nil (hstart _).step).2.2
  · exact (hrun.ensured changesWarranted_nil (hcopying baseline).copyStep).2.2

/-- A slave that has nothing is told to go on, as the master's first segment turns out to be empty. -/
theorem changes_warranted_from_empty :
    ∃ earlier session', step.Runs (between .incremental) (.sent .slave .nsJump (.ok .okay) :: earlier)
        (.ok (.jumped .zero)) session' ∧
      Warranted "data" ⟨none, none⟩ .incremental .nsJump earlier ∧
      (Step.jumped .zero).Acknowledged (.sent .slave .nsJump (.ok .okay) :: earlier) := by
  let session := between .incremental
  let m : Namespace := .ofLog [[]] []
  let s : Namespace := .ofLog [] []
  let session₁ : Session Role := { session with lastMaster := some m.snapshot }
  let session₂ : Session Role := { session₁ with lastSlave := some s.snapshot }
  let ending : List (Event Role) := [.sent .slave .nsJump (.ok .okay),
    ⟨.log .debug ("slave" ++ ": " ++ "jumping to next segment"), ()⟩,
    ⟨.log .debug ("Master segment " ++ Decimal.text Position.zero.segment.toNat ++ " ended, jumping"), ()⟩,
    .sent .master (.dataRaw .zero) (.error .eof)]
  have hmaster : masterInfo.Runs session _ (.ok m.snapshot) session₁ := runs_masterInfo rfl m
  have hslave : slaveInfo.Runs session₁ _ (.ok s.snapshot) session₂ := runs_slaveInfo rfl s rfl
  have hadvance : (advance .zero).Runs session₂ ending (.ok (.jumped .zero)) session₂ :=
    .answered (.error .eof) (.answered () (.answered () (.answered (.ok .okay) (.refl _ _))))
  have hstep : step.Runs session _ (.ok (.jumped .zero)) session₂ := hmaster.bind (hslave.bind hadvance)
  have h := changes_warranted session rfl rfl
  exact ⟨_, session₂, hstep, h.2.1 _ _ hstep [] _ _ _ rfl rfl, h.2.2.2.1 _ _ _ hstep⟩

end Session

end SegmentSync
