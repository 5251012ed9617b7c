import SegmentSync.Proofs.Client.Usability
import SegmentSync.Proofs.Protocol.Shapes
import SegmentSync.Simulation.World

/-!
# `SegmentSync.Proofs.Client.Agreement` — the client expects what the readers find

A client has three ways to say that a reply is unexpected: its reader has said so, the command has no reader, and the
reader has found an answer of another shape than the operation is after. Only the first of them occurs. The failure
then names the command of the reply, which is the latest that has happened.

## Contents
- **Origins.** `Misread` and `Relayed`: where an unexpected reply can come from.
- **Readings.** The shape that an operation is after accepts every answer that its command has.
- **Operations.** `Accounts` takes the origin of a failure through the operations, piece by piece.
- **Connections.** `Wire.Yields`: what requests over a wire come to is never an unexpected reply, so that nothing of
  the kind is relayed.
- **Agreement.** `readers_agree`.
-/

namespace SegmentSync

variable {ι α β : Type}

/-! ## Origins -/

/-- A command was sent, and its reader says this of the reply. -/
inductive Misread (name : String) (mismatch : Mismatch) : Event ι → Prop where
  | reply {link : ι} {request : Request} {reply : Reply} (hname : request.command.name = name)
      (hreader : Answer.reader request.command reply = .error mismatch) (hmismatch : mismatch.IsReaders) :
    Misread name mismatch (.sent link request (.ok reply))

/-- The connection itself has failed in this way. -/
inductive Relayed (failure : ProtocolError) : Event ι → Prop where
  | request (link : ι) (request : Request) : Relayed failure (.sent link request (.error failure))
  | opening (link : ι) : Relayed failure ⟨.reopen link, (.error failure : Except ProtocolError Unit)⟩

/-- If the failure is that of an unexpected reply, the latest event is where it comes from. -/
def Accounted (failure : SyncError) (events : Trace ι) : Prop :=
  ∀ name mismatch, failure = .protocol (.unexpectedReply name mismatch) →
    ∃ event earlier, events = event :: earlier ∧
      (Misread name mismatch event ∨ Relayed (.unexpectedReply name mismatch) event)

/-! ## Readings -/

namespace Client

/-- The shape accepts every answer that the command has. -/
def Suits (shape : Answer → Option α) (command : Command) : Prop :=
  ∀ answer, Answer.IsFor command answer → (shape answer).isSome = true

theorem suits_info : Suits info? .nsInfo := by
  rintro _ ⟨⟩ <;> first | rfl | contradiction

theorem suits_exported : Suits blob? .dataExport := by
  rintro _ ⟨⟩ <;> first | rfl | contradiction

theorem suits_echoed : Suits blob? .set := by
  rintro _ ⟨⟩ <;> first | rfl | contradiction

theorem suits_entry : Suits record? .dataRaw := by
  rintro _ ⟨⟩ <;> first | rfl | contradiction

theorem suits_challenge : Suits text? .authChallenge := by
  rintro _ ⟨⟩ <;> first | rfl | contradiction

theorem suits_ack {command : Command} (h : command ∉ Command.telling) : Suits ack? command := by
  intro answer hanswer
  cases hanswer with
  | ack _ => rfl
  | _ => exact absurd (by decide) h

/-- **Where the shape suits the command**, a reading fails as the request does or as the reader does. -/
theorem accounted_reading {request : Request} {shape : Answer → Option α} (hshape : Suits shape request.command)
    {r : Except ProtocolError Reply} {failure : ProtocolError} (h : reading request shape r = .error failure)
    (link : ι) (earlier : Trace ι) : Accounted (.protocol failure) (.sent link request r :: earlier) := by
  rintro name mismatch heq
  obtain rfl := SyncError.protocol.inj heq
  refine ⟨_, earlier, rfl, ?_⟩
  cases r with
  | error failure =>
    obtain rfl := Except.error.inj h
    exact .inr (.request link request)
  | ok reply =>
    left
    unfold reading at h
    cases hanswer : Answer.ofReply request.command reply with
    | error failure =>
      obtain ⟨mismatch', rfl, hreader, hmismatch⟩ := Answer.unexpected_of_ofReply hanswer
      simp only [hanswer] at h
      cases h
      exact .reply rfl hreader hmismatch
    | ok answer =>
      have hsome := hshape answer (Answer.isFor_of_ofReply hanswer)
      obtain ⟨value, hvalue⟩ := Option.isSome_iff_exists.mp hsome
      simp only [hanswer, hvalue] at h
      cases h

/-! ## Operations -/

/-- However an action is run, it accounts for the failure it ends with. -/
def Accounts (x : Action (Client ι) ι α) : Prop :=
  ∀ c w, Action.Ensures recording (fun _ => True) x (fun _ _ _ => True) (fun failure _ w' => Accounted failure w') c w

namespace Accounts

theorem pure (a : α) : Accounts (pure a : Action (Client ι) ι α) := fun _ _ => trivial

/-- Whatever is not about a reply needs no account. -/
theorem throw {failure : SyncError} (h : ∀ fault, failure ≠ .protocol fault) :
    Accounts (throw failure : Action (Client ι) ι α) :=
  fun _ _ _ _ heq => absurd heq (h _)

theorem get : Accounts (get : Action (Client ι) ι (Client ι)) := fun _ _ => trivial

theorem bind {x : Action (Client ι) ι β} {f : β → Action (Client ι) ι α} (hx : Accounts x)
    (hf : ∀ b, Accounts (f b)) : Accounts (x >>= f) :=
  fun c w => (hx c w).andThen fun b c' w' _ => hf b c' w'

/-- What goes on after a failure passes it on at once, or does something else. -/
theorem bind_attempt {x : Action (Client ι) ι β} {f : Except SyncError β → Action (Client ι) ι α} (hx : Accounts x)
    (hok : ∀ b, Accounts (f (.ok b)))
    (herror : ∀ failure, f (.error failure) = MonadExcept.throw failure ∨ Accounts (f (.error failure))) :
    Accounts (Action.attempt x >>= f) := by
  intro c w
  rw [Action.ensures_bind, Action.ensures_attempt]
  refine (hx c w).mono (fun b c' w' _ => hok b c' w') fun failure c' w' haccounted => ?_
  rcases herror failure with hpass | herror
  · rw [hpass]
    exact haccounted
  · exact herror c' w'

end Accounts

theorem accounts_callFor {request : Request} {shape : Answer → Option α} (hshape : Suits shape request.command) :
    Accounts (callFor request shape : Action (Client ι) ι α) := by
  intro c w
  refine ensures_callFor (fun _ _ _ heq => nomatch heq) fun r w' hw' => ⟨trivial, ?_⟩
  subst hw'
  cases hreading : reading request shape r with
  | ok value => exact trivial
  | error failure => exact accounted_reading hshape hreading c.link w

theorem accounts_note (level : Level) (line : String) : Accounts (note level line : Action (Client ι) ι Unit) :=
  fun _ _ => ensures_note fun _ _ _ => ⟨trivial, trivial⟩

theorem accounts_setAuthenticated (authenticated : Bool) :
    Accounts (setAuthenticated authenticated : Action (Client ι) ι Unit) := fun _ _ => trivial

/-- What is to be granted takes an unexpected reply for a refusal. -/
theorem accounts_granted {request : Request} (hopen : request.command.requiresAuth = false) :
    Accounts (granted request : Action (Client ι) ι Bool) := by
  intro c w
  refine (ensures_granted_alone hopen).mono (fun _ _ _ _ => trivial) ?_
  rintro _ _ _ ⟨-, fault, hfault, rfl, -⟩ name mismatch heq
  obtain rfl := SyncError.protocol.inj heq
  cases hfault

theorem accounts_authenticate (password : String) : Accounts (authenticate password : Action (Client ι) ι Bool) := by
  have hrejected : ∀ (level : Level) (line : String),
      Accounts (do note level line; return false : Action (Client ι) ι Bool) :=
    fun level line => (accounts_note level line).bind fun _ => .pure false
  refine (accounts_setAuthenticated false).bind fun _ => ?_
  refine .bind_attempt (accounts_callFor suits_challenge) (fun challenge => ?_) fun failure => ?_
  · refine (accounts_granted rfl).bind fun accepted => ?_
    cases accepted with
    | false => exact hrejected _ _
    | true =>
      refine Accounts.get.bind fun client => (accounts_granted rfl).bind fun selected => ?_
      cases selected with
      | false => exact hrejected _ _
      | true =>
        refine (accounts_setAuthenticated true).bind fun _ => ?_
        exact (accounts_note _ _).bind fun _ => .pure true
  · cases failure with
    | protocol fault =>
      cases fault with
      | server reason => exact .inr (hrejected _ _)
      | eof | transport _ | unexpectedReply _ _ => exact .inl rfl
    | _ => exact .inl rfl

theorem accounts_establish : Accounts (establish : Action (Client ι) ι Unit) := by
  have hend : ∀ (target : Target) (accepted : Bool),
      Accounts (if !accepted then throw (.auth (.refused target)) else pure () : Action (Client ι) ι Unit) := by
    intro target accepted
    cases accepted with
    | true => exact .pure ()
    | false => exact .throw nofun
  refine Accounts.get.bind fun client => ?_
  dsimp only
  split
  · exact (accounts_authenticate _).bind fun accepted => hend client.target accepted
  · refine (accounts_granted rfl).bind fun selected => ?_
    exact (accounts_setAuthenticated selected).bind fun _ => hend client.target selected

theorem accounts_reconnect : Accounts (reconnect : Action (Client ι) ι Unit) := by
  refine (accounts_setAuthenticated false).bind fun _ => Accounts.get.bind fun client => ?_
  intro c w
  rw [Action.ensures_bind]
  rintro r _ rfl
  refine ⟨trivial, (Action.ensures_ofRequest _).mpr ?_⟩
  cases r with
  | ok _ => exact trivial
  | error failure =>
    intro name mismatch heq
    obtain rfl := SyncError.protocol.inj heq
    exact ⟨_, w, rfl, .inr (.opening client.link)⟩

/-- **Every operation accounts for its failure.** -/
theorem Operation.accounts (op : Operation) : Accounts (op.act : Action (Client ι) ι Unit) := by
  have hdone : ∀ {β : Type} {x : Action (Client ι) ι β}, Accounts x → Accounts (discarded x) :=
    fun hx => hx.bind fun _ => .pure ()
  have hacked : ∀ (command : Command) (arguments : List Bytes),
      command ∉ Command.telling → Accounts (callFor ⟨command, arguments⟩ ack? : Action (Client ι) ι Unit) :=
    fun _ _ h => accounts_callFor (suits_ack h)
  cases op with
  | namespaceInfo space => exact hdone (accounts_callFor suits_info)
  | exportSegment start => exact hdone (accounts_callFor suits_exported)
  | fetchRecord at_ => exact hdone (accounts_callFor suits_entry)
  | applySet key value marker => exact hdone (accounts_callFor suits_echoed)
  | requestChallenge => exact hdone (accounts_callFor suits_challenge)
  | importSegment at_ blob => exact hdone (hacked .dataImport _ (by decide))
  | applyDelete key marker => exact hdone (hacked .del _ (by decide))
  | setFreeze space enabled => exact hdone ((accounts_note _ _).bind fun _ => hacked .nsSet _ (by decide))
  | jumpSegment => exact hdone ((accounts_note _ _).bind fun _ => hacked .nsJump _ (by decide))
  | submitDigest digest => exact hdone (accounts_granted rfl)
  | selectNamespace space password => exact hdone (accounts_granted rfl)
  | authenticate password => exact hdone (accounts_authenticate password)
  | establish => exact hdone accounts_establish
  | reconnect => exact hdone accounts_reconnect

end Client

/-! ## Connections -/

/-- What a request over a wire can come to: there is no connection, the connection is lost, or there is an end to the
    reading of a reply. -/
inductive Wire.Yields : Except ProtocolError Reply → Prop where
  | unconnected (endpoint : Endpoint) : Yields (.error (Channel.notConnected endpoint))
  | lost : Yields (.error Channel.lost)
  | concluded (reading : Except Interruption Reply) : Yields (Channel.conclude reading).1

/-- All requests have gone over a wire, and what opens a connection fails as connections do. -/
structure OverWire (events : Trace ι) : Prop where
  requests : ∀ link request r, Event.sent link request r ∈ events → Wire.Yields r
  openings : ∀ link failure, (⟨.reopen link, (.error failure : Except ProtocolError Unit)⟩ : Event ι) ∈ events →
    ∃ reason, failure = .transport reason

/-- The other end of a wire cannot make up a misreading. -/
theorem Wire.Yields.ne_unexpectedReply {r : Except ProtocolError Reply} (h : Wire.Yields r) (name : String)
    (mismatch : Mismatch) : r ≠ .error (.unexpectedReply name mismatch) := by
  cases h with
  | unconnected endpoint => exact nofun
  | lost => exact nofun
  | concluded reading =>
    cases reading with
    | ok reply =>
      show reply.outcome ≠ _
      unfold Reply.outcome ProtocolError.ofErrorLine
      split
      · split <;> exact nofun
      · exact nofun
    | error interruption => cases interruption <;> exact nofun

/-- **Over a wire nothing of the kind is relayed.** -/
theorem OverWire.not_relayed {events : Trace ι} (h : OverWire events) {event : Event ι} (hmem : event ∈ events)
    {name : String} {mismatch : Mismatch} : ¬ Relayed (.unexpectedReply name mismatch) event := by
  intro hrelayed
  cases hrelayed with
  | request link request => exact (h.requests link request _ hmem).ne_unexpectedReply name mismatch rfl
  | opening link =>
    obtain ⟨reason, heq⟩ := h.openings link _ hmem
    cases heq

/-- Whoever is at the other end of a socket, a request over it comes to what a wire yields. -/
theorem Simulation.World.exchange_yields (socket : Simulation.Socket) (request : Request) (world : World) :
    Wire.Yields ((exchange socket request).run world).1.1 := by
  unfold exchange
  cases socket.channel with
  | closed => exact .unconnected socket.endpoint
  | spent => exact .lost
  | opened =>
    simp only [StateT.run_bind]
    rcases (answerOver socket request).run world with ⟨⟨_ | bytes, socket'⟩, world'⟩
    · exact .lost
    · exact .concluded (Reply.read bytes)

/-! ## Agreement -/

/-- **The client expects what the readers find.** Every command has a reader, and what it finds in a reply, whatever the
    reply is, is an answer of the shape that the command has. When an operation fails with an unexpected reply, the
    reader of the command that was sent last has said so of the reply, and the failure names this command; or the
    connection has failed so itself, which does not happen over a wire. -/
theorem Client.readers_agree :
    (∀ command, (Answer.readers.find? command).isSome = true) ∧
    (∀ command reply answer, Answer.ofReply command reply = .ok answer → answer.IsFor command) ∧
    ∀ (op : Operation) (c c' : Client ι) (events : Trace ι) (name : String) (mismatch : Mismatch),
      op.act.Runs c events (.error (.protocol (.unexpectedReply name mismatch))) c' →
      ∃ event earlier, events = event :: earlier ∧
        (Misread name mismatch event ∨ Relayed (.unexpectedReply name mismatch) event) ∧
        (OverWire events → Misread name mismatch event) := by
  refine ⟨Answer.isSome_find?_readers, fun _ _ _ => Answer.isFor_of_ofReply, ?_⟩
  intro op c c' events name mismatch hrun
  have haccounted : Accounted _ events := (hrun.ensured trivial (op.accounts c [])).2
  obtain ⟨event, earlier, rfl, horigin⟩ := haccounted name mismatch rfl
  refine ⟨event, earlier, rfl, horigin, fun hwire => ?_⟩
  exact horigin.resolve_right (hwire.not_relayed List.mem_cons_self)

/-- A null in the place of an information block is a misreading of the reply to that command. -/
theorem Client.readers_agree_on_null :
    ∃ (c : Client Unit) (event : Event Unit),
      (Operation.act (.namespaceInfo "data")).Runs c [event]
        (.error (.protocol (.unexpectedReply Command.nsInfo.name (.notString Reply.nil.summary)))) c ∧
      OverWire [event] ∧ Misread Command.nsInfo.name (.notString Reply.nil.summary) event := by
  let c : Client Unit := ⟨(), ⟨.tcp "master" 9900, "data", none, "master"⟩, true⟩
  have hrun : (Operation.act (.namespaceInfo "data")).Runs c [.sent () (.nsInfo "data") (.ok .nil)]
      (.error (.protocol (.unexpectedReply Command.nsInfo.name (.notString Reply.nil.summary)))) c :=
    .answered (.ok .nil) (.refl _ _)
  have hwire : OverWire [Event.sent () (.nsInfo "data") (.ok .nil)] := by
    constructor
    · intro link request r hmem
      cases List.mem_singleton.mp hmem
      exact .concluded (.ok .nil)
    · intro link failure hmem
      cases List.mem_singleton.mp hmem
  obtain ⟨event, earlier, heq, -, hmisread⟩ := readers_agree.2.2 _ c c _ _ _ hrun
  obtain ⟨rfl, -⟩ := List.cons.inj heq
  exact ⟨c, _, hrun, hwire, hmisread hwire⟩

end SegmentSync
