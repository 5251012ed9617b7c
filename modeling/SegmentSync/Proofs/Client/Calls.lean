import Mathlib.Algebra.Group.Nat.Defs
import SegmentSync.Client.Login
import SegmentSync.Proofs.Program.Ensures
import SegmentSync.Proofs.Store.Commands
import SegmentSync.Proofs.Store.Information

/-!
# `SegmentSync.Proofs.Client.Calls` — what a client makes of an outcome

A call asks for one effect at most. What comes of it depends on the outcome of the request alone, through
`Client.reading`, so that nobody who reasons about a session has to open the readers of replies.

## Contents
- **Calls.** What a call ensures, in terms of the outcome of its request.
- **Readings.** Failures are passed on as they are, and no reply reads as the end of a segment. What a store
  answers to each command reads as what it means.
-/

namespace SegmentSync

/-- The record that stands for an entry at a cursor. -/
def Entry.record (entry : Entry) (at_ : Position) : Record where
  key := entry.key
  isDelete := entry.value.isNone
  position := at_
  marker := Utf8.encodeChars (Decimal.digits entry.marker.toNat)
  value := entry.value

/-- The marker of an entry as it travels: as a signed word. -/
def Entry.signedMarker (entry : Entry) : Bytes := Utf8.encode (Decimal.signedText entry.marker.toInt64.toInt)

/-- The record as which an entry is handed out at a cursor. -/
def Entry.handedOut (entry : Entry) (at_ : Position) : Record :=
  { entry.record at_ with marker := entry.signedMarker }

namespace Client

variable {ι α ω : Type} {env : Environment ι ω} {safe : ω → Prop}

/-! ## Calls -/

/-- A client holds a request back: its connection is not logged in, and the command makes no sense then. -/
def holdsBack (client : Client ι) (request : Request) : Bool :=
  request.command.requiresAuth && !client.authenticated

/-- The failure of a request that is held back. -/
def heldBack (client : Client ι) (request : Request) : SyncError :=
  .auth (.heldBack request.command client.target)

/-- What a client makes of the outcome of a request whose answer has to have a certain shape. -/
def reading (request : Request) (shape : Answer → Option α) : Except ProtocolError Reply → Except ProtocolError α
  | .error failure => .error failure
  | .ok reply =>
    match Answer.ofReply request.command reply with
    | .error failure => .error failure
    | .ok answer =>
      match shape answer with
      | some value => .ok value
      | none => .error (.unexpectedReply request.command.name (.unsuitable answer))

/-- What a client makes of the outcome of a request that is to be granted. -/
def granting (request : Request) (r : Except ProtocolError Reply) : Except ProtocolError Bool :=
  match r.bind (Answer.ofReply request.command) with
  | .ok .ack => .ok true
  | .ok _ | .error (.server _) | .error (.unexpectedReply _ _) => .ok false
  | .error failure => .error failure

variable {post : α → Client ι → ω → Prop} {fail : SyncError → Client ι → ω → Prop} {c : Client ι} {w : ω}

theorem ensures_call {request : Request} {post : Answer → Client ι → ω → Prop}
    (hheld : c.holdsBack request = true → fail (c.heldBack request) c w)
    (hsent : ∀ r w', env w (.execute c.link request) r w' → safe w' ∧
      match r.bind (Answer.ofReply request.command) with
      | .ok answer => post answer c w'
      | .error failure => fail (.protocol failure) c w') :
    Action.Ensures env safe (call request) post fail c w := by
  unfold call
  simp only [Action.ensures_bind, Action.ensures_get]
  split
  · exact hheld ‹_›
  · simp only [Action.ensures_bind, Action.ensures_perform]
    intro r w' henv
    obtain ⟨hsafe, h⟩ := hsent r w' henv
    refine ⟨hsafe, ?_⟩
    refine (Action.ensures_ofRequest r).mpr ?_
    cases r with
    | error failure => exact h
    | ok reply =>
      simp only [Except.bind] at h
      show Action.Ensures env safe (Action.ofRequest (Answer.ofReply request.command reply)) post fail c w'
      rw [Action.ensures_ofRequest]
      cases hanswer : Answer.ofReply request.command reply <;> simpa only [hanswer] using h

/-- **What becomes of a call is what becomes of the reading of its outcome.** -/
theorem ensures_callFor {request : Request} {shape : Answer → Option α}
    (hheld : c.holdsBack request = true → fail (c.heldBack request) c w)
    (hsent : ∀ r w', env w (.execute c.link request) r w' → safe w' ∧
      match reading request shape r with
      | .ok value => post value c w'
      | .error failure => fail (.protocol failure) c w') :
    Action.Ensures env safe (callFor request shape) post fail c w := by
  unfold callFor
  rw [Action.ensures_bind]
  refine ensures_call hheld fun r w' henv => ?_
  obtain ⟨hsafe, h⟩ := hsent r w' henv
  refine ⟨hsafe, ?_⟩
  cases r with
  | error failure => exact h
  | ok reply =>
    simp only [Except.bind]
    cases hanswer : Answer.ofReply request.command reply with
    | error failure => simpa only [reading, hanswer] using h
    | ok answer =>
      cases hshape : shape answer with
      | none => simpa only [reading, hanswer, hshape, Action.ensures_throw] using h
      | some value => simpa only [reading, hanswer, hshape, Action.ensures_pure] using h

/-- A call keeps what its request does not break. -/
theorem maintains_callFor {request : Request} {shape : Answer → Option α} {inv : Client ι → ω → Prop}
    (h : ∀ c w r w', inv c w → env w (.execute c.link request) r w' → safe w' ∧ inv c w') :
    Action.Maintains env safe inv (fun _ => True) (callFor request shape) := by
  intro c w hinv
  refine ensures_callFor (fun _ => ⟨hinv, trivial⟩) fun r w' henv => ?_
  obtain ⟨hsafe, hinv'⟩ := h c w r w' hinv henv
  refine ⟨hsafe, ?_⟩
  cases reading request shape r with
  | error failure => exact ⟨hinv', trivial⟩
  | ok value => exact hinv'

/-- Notes change nothing. -/
theorem ensures_note {level : Level} {line : String} {post : Unit → Client ι → ω → Prop}
    (h : ∀ line w', env w (.log level line) () w' → safe w' ∧ post () c w') :
    Action.Ensures env safe (note level line) post fail c w := by
  unfold note
  simp only [Action.ensures_bind, Action.ensures_get]
  exact fun _ w' henv => h _ w' henv

/-- **What becomes of a request that is to be granted**: a refusal is noted, and it fails as the request does. -/
theorem ensures_granting {request : Request} {post : Bool → Client ι → ω → Prop}
    (hopen : request.command.requiresAuth = false)
    (hsent : ∀ r w', env w (.execute c.link request) r w' → safe w' ∧
      match granting request r with
      | .ok true => post true c w'
      | .ok false => ∀ line w'', env w' (.log .debug line) () w'' → safe w'' ∧ post false c w''
      | .error failure => fail (.protocol failure) c w') :
    Action.Ensures env safe (granted request) post fail c w := by
  unfold granted
  rw [Action.ensures_bind, Action.ensures_attempt]
  refine ensures_call (fun hheld => ?_) fun r w' henv => ?_
  · rw [holdsBack, hopen] at hheld
    cases hheld
  obtain ⟨hsafe, hend⟩ := hsent r w' henv
  refine ⟨hsafe, ?_⟩
  have hrefused (reason : String)
      (h : ∀ line w'', env w' (.log .debug line) () w'' → safe w'' ∧ post false c w'') :
      Action.Ensures env safe
        (do note .debug (request.command.name ++ " rejected: " ++ reason); return false : Action (Client ι) ι Bool)
        post fail c w' := by
    rw [Action.ensures_bind]
    exact ensures_note h
  unfold granting at hend
  cases hanswer : r.bind (Answer.ofReply request.command) with
  | error failure =>
    rw [hanswer] at hend
    cases failure with
    | server reason => exact hrefused _ hend
    | unexpectedReply command mismatch => exact hrefused _ hend
    | eof => exact hend
    | transport reason => exact hend
  | ok answer =>
    rw [hanswer] at hend
    cases answer with
    | ack => exact hend
    | _ => exact hrefused _ hend

/-! ## Readings -/

section

variable {request : Request} {shape : Answer → Option α}

/-- An answer can be wrong in one way only. -/
theorem ofReply_eq_error {command : Command} {reply : Reply} {failure : ProtocolError}
    (h : Answer.ofReply command reply = .error failure) :
    ∃ mismatch, failure = .unexpectedReply command.name mismatch := by
  unfold Answer.ofReply at h
  cases hreader : Answer.reader command reply with
  | ok answer =>
    rw [hreader] at h
    cases h
  | error mismatch =>
    rw [hreader] at h
    exact ⟨mismatch, (Except.error.inj h).symm⟩

/-- All other failures are those of the request. -/
theorem reading_eq_error {r : Except ProtocolError Reply} {failure : ProtocolError}
    (h : reading request shape r = .error failure) :
    r = .error failure ∨ ∃ mismatch, failure = .unexpectedReply request.command.name mismatch := by
  unfold reading at h
  cases r with
  | error failure => exact Or.inl (congrArg _ (Except.error.inj h))
  | ok reply =>
    dsimp only at h
    split at h
    · cases h
      exact Or.inr (ofReply_eq_error ‹_›)
    · split at h
      · cases h
      · cases h
        exact Or.inr ⟨_, rfl⟩

/-- Only a store says that a segment ends. -/
theorem reading_eq_eof {r : Except ProtocolError Reply} (h : reading request shape r = .error .eof) :
    r = .error .eof :=
  (reading_eq_error h).resolve_right nofun

/-- Only a connection fails as connections do. -/
theorem reading_eq_transport {r : Except ProtocolError Reply} {reason : String}
    (h : reading request shape r = .error (.transport reason)) : r = .error (.transport reason) :=
  (reading_eq_error h).resolve_right nofun

/-- A reply is read in two steps: as an answer, and by its shape. -/
theorem reading_of_answer {r : Except ProtocolError Reply} {answer : Answer}
    (h : r.bind (Answer.ofReply request.command) = .ok answer) :
    reading request shape r = match shape answer with
      | some value => .ok value
      | none => .error (.unexpectedReply request.command.name (.unsuitable answer)) := by
  cases r with
  | error failure => cases h
  | ok reply =>
    have hanswer : Answer.ofReply request.command reply = .ok answer := h
    simp only [reading, hanswer]

theorem reading_of_failure {r : Except ProtocolError Reply} {failure : ProtocolError}
    (h : r.bind (Answer.ofReply request.command) = .error failure) : reading request shape r = .error failure := by
  cases r with
  | error failure' => exact congrArg Except.error (Except.error.inj h)
  | ok reply =>
    have hanswer : Answer.ofReply request.command reply = .error failure := h
    simp only [reading, hanswer]

theorem reading_of_refused {r : Except ProtocolError Reply} (h : Serve.Refused r) :
    Serve.Refused (reading request shape r) := by
  obtain ⟨failure, rfl, hne⟩ := h
  exact ⟨failure, rfl, hne⟩

theorem reading_nsInfo (name : String) (ns : Namespace) :
    reading (.nsInfo name) info? (.ok (.bulk (Utf8.encode (ns.info name)))) = .ok ns.snapshot := by
  have hanswer : Answer.ofReply (Request.nsInfo name).command (.bulk (Utf8.encode (ns.info name))) =
      .ok (.info ns.snapshot) := by
    show (Answer.readInfo _).mapError _ = _
    rw [ns.readInfo_info name]; rfl
  simp only [reading, hanswer, info?]

theorem reading_dataExport (at_ : Position) (blob : Bytes) :
    reading (.dataExport at_) blob? (.ok (.bulk blob)) = .ok blob := rfl

theorem reading_okay {request : Request} (h : Answer.reader request.command = Answer.readAck) :
    reading request ack? (.ok .okay) = .ok () := by
  unfold reading Answer.ofReply
  rw [h]; rfl

theorem toInt_toInt64 {n : UInt64} (h : n.toNat < 2 ^ 63) : n.toInt64.toInt = n.toNat := by
  show (n.toBitVec.toInt) = _
  rw [BitVec.toInt_eq_toNat_of_lt (by show 2 * n.toNat < 2 ^ 64; omega)]
  rfl

theorem asUInt64_natCast (field : String) (n : Nat) :
    Reply.asUInt64 field (.int n) = .ok n.toUInt64 := by
  simp only [Reply.asUInt64]
  rw [if_neg (by omega), Int.toNat_natCast]

theorem asBytes_natCast (n : Nat) :
    Reply.asBytes (.int n) = .ok (Utf8.encodeChars (Decimal.digits n)) := by
  simp only [Reply.asBytes, Decimal.signedText, Int.natAbs_natCast]
  rw [if_neg (by omega), Utf8.encode, Decimal.toList_text]

/-- The numbers of a cursor, as words. -/
theorem position_ofNat (at_ : Position) :
    (⟨at_.segment.toNat.toUInt64.toUInt32, at_.offset.toNat.toUInt64⟩ : Position) = at_ := by
  have hsegment : at_.segment.toNat.toUInt64.toUInt32 = at_.segment := by
    apply UInt32.toNat_inj.mp
    have := at_.segment.toNat_lt
    rw [UInt64.toNat_toUInt32, Nat.toUInt64_eq, UInt64.toNat_ofNat']
    omega
  have hoffset : at_.offset.toNat.toUInt64 = at_.offset := by
    rw [Nat.toUInt64_eq, UInt64.ofNat_toNat]
  rw [hsegment, hoffset]

/-- A cursor below 2⁶³ travels with an entry unharmed, and the marker as a signed word. -/
theorem readRecord_recordReply (entry : Entry) {at_ : Position} (hoffset : at_.offset.toNat < 2 ^ 63) :
    Answer.readRecord (Serve.recordReply entry at_) = .ok (.record (entry.handedOut at_)) := by
  have hsegment : at_.segment.toNat.toUInt64.toNat = at_.segment.toNat := by
    have := at_.segment.toNat_lt
    rw [Nat.toUInt64_eq, UInt64.toNat_ofNat']
    omega
  have hfits : ¬ UInt32.size ≤ at_.segment.toNat := Nat.not_le.mpr at_.segment.toNat_lt
  have hbulk : ∀ bytes : Bytes, Reply.asBytes (.bulk bytes) = .ok bytes := fun _ => rfl
  have hmarker : ∀ n : Int, Reply.asBytes (.int n) = .ok (Utf8.encode (Decimal.signedText n)) := fun _ => rfl
  have hflag : ∀ b : Bool, Reply.asUInt64 "flag" (.int (if b then 0 else 1)) = .ok (if b then 0 else 1) :=
    fun b => by cases b <;> rfl
  simp only [Serve.recordReply, Answer.readRecord, Answer.recordOf, toInt_toInt64 hoffset, asUInt64_natCast,
    hmarker, hbulk, hflag, bind, Except.bind, hsegment, hfits, if_false]
  rw [position_ofNat]
  cases hv : entry.value with
  | none => simp [Entry.handedOut, Entry.record, Entry.signedMarker, Except.map, pure, Except.pure, hv]
  | some value => simp [Entry.handedOut, Entry.record, Entry.signedMarker, Except.map, pure, Except.pure, hbulk, hv]

/-- A marker below 2⁶³ does not change its sign. -/
theorem signedMarker_eq {entry : Entry} (hmarker : entry.marker.toNat < 2 ^ 63) :
    entry.signedMarker = Utf8.encodeChars (Decimal.digits entry.marker.toNat) := by
  have hbytes := asBytes_natCast entry.marker.toNat
  unfold Entry.signedMarker
  rw [toInt_toInt64 hmarker]
  exact Except.ok.inj hbytes

theorem reading_handedOut (entry : Entry) {at_ : Position} (hoffset : at_.offset.toNat < 2 ^ 63) :
    reading (.dataRaw at_) record? (.ok (Serve.recordReply entry at_)) = .ok (entry.handedOut at_) := by
  have hanswer : Answer.ofReply (Request.dataRaw at_).command (Serve.recordReply entry at_) =
      .ok (.record (entry.handedOut at_)) := by
    rw [Request.dataRaw, Answer.ofReply, Answer.reader_dataRaw, readRecord_recordReply entry hoffset]; rfl
  simp only [reading, hanswer, record?]

/-- A cursor and a marker below 2⁶³ travel with an entry unharmed. -/
theorem reading_dataRaw (entry : Entry) {at_ : Position} (hoffset : at_.offset.toNat < 2 ^ 63)
    (hmarker : entry.marker.toNat < 2 ^ 63) :
    reading (.dataRaw at_) record? (.ok (Serve.recordReply entry at_)) = .ok (entry.record at_) := by
  rw [reading_handedOut entry hoffset, Entry.handedOut, signedMarker_eq hmarker]
  rfl

end

end Client

end SegmentSync
