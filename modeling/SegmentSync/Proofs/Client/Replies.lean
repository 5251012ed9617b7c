import SegmentSync.Proofs.Client.Calls
import SegmentSync.Proofs.Program.Trace

/-!
# `SegmentSync.Proofs.Client.Replies` — what a reading has been read from

A client goes on with the reading of a reply. Here it is the other way round: what a reply must have been to be
read as an acknowledgement, as octets, as a text or as an entry of the log, and that such a reply is read so.

## Contents
- **Acknowledgements.** `Reply.IsOkay`: nothing but an explicit OK reads as one, or has anything granted.
- **Octets and texts.** Their readings are those of the reply itself.
- **Entries.** `Reply.HandsOut`: the octets of an entry are those of the elements of the reply.
- **Runs.** A call that is not held back is one exchange.
-/

namespace SegmentSync

/-! ## Acknowledgements -/

/-- An explicit OK, in whichever case. -/
def Reply.IsOkay : Reply → Prop
  | .okay => True
  | .simple words => asciiLower words = ['o', 'k']
  | _ => False

namespace Answer

theorem readAck_eq_ok {reply : Reply} {answer : Answer} (h : readAck reply = .ok answer) :
    reply.IsOkay ∧ answer = .ack := by
  unfold readAck at h
  split at h
  · exact ⟨trivial, (Except.ok.inj h).symm⟩
  · split at h
    · exact ⟨‹_›, (Except.ok.inj h).symm⟩
    · cases h
  · cases h

theorem readAck_of_isOkay {reply : Reply} (h : reply.IsOkay) : readAck reply = .ok .ack := by
  cases reply with
  | okay => rfl
  | simple words => exact if_pos h
  | _ => exact h.elim

theorem ofReply_eq_ok {command : Command} {reply : Reply} {answer : Answer} (h : ofReply command reply = .ok answer) :
    reader command reply = .ok answer := by
  unfold ofReply at h
  cases hreader : reader command reply with
  | ok answer' =>
    rw [hreader] at h
    exact congrArg _ (Except.ok.inj h)
  | error fault =>
    rw [hreader] at h
    cases h

end Answer

namespace Client

variable {α : Type} {request : Request} {r : Except ProtocolError Reply}

/-- What has been read was answered. -/
theorem reading_eq_ok {shape : Answer → Option α} {value : α} (h : reading request shape r = .ok value) :
    ∃ reply answer, r = .ok reply ∧ Answer.reader request.command reply = .ok answer ∧ shape answer = some value := by
  unfold reading at h
  cases r with
  | error failure => cases h
  | ok reply =>
    cases hanswer : Answer.ofReply request.command reply with
    | error failure => simp only [hanswer] at h; cases h
    | ok answer =>
      simp only [hanswer] at h
      cases hshape : shape answer with
      | none => simp only [hshape] at h; cases h
      | some value' =>
        simp only [hshape] at h
        exact ⟨reply, answer, rfl, Answer.ofReply_eq_ok hanswer, hshape.trans (congrArg _ (Except.ok.inj h))⟩

/-- What the reader of a command makes of a reply is read from it. -/
theorem reading_of_reader {shape : Answer → Option α} {reply : Reply} {answer : Answer} {value : α}
    (hread : Answer.reader request.command reply = .ok answer) (hshape : shape answer = some value) :
    reading request shape (.ok reply) = .ok value := by
  have hanswer : Except.bind (.ok reply) (Answer.ofReply request.command) = .ok answer := by
    show Answer.ofReply request.command reply = _
    rw [Answer.ofReply, hread]
    rfl
  rw [reading_of_answer hanswer, hshape]

/-- A reply that does not read as it should is refused for its shape. -/
theorem exists_mismatch {shape : Answer → Option α} {reply : Reply} {failure : ProtocolError}
    (h : reading request shape (.ok reply) = .error failure) :
    ∃ mismatch, failure = .unexpectedReply request.command.name mismatch :=
  (reading_eq_error h).resolve_left nofun

theorem reading_ack (hreader : Answer.reader request.command = Answer.readAck)
    (h : reading request ack? r = .ok ()) : ∃ reply, r = .ok reply ∧ reply.IsOkay := by
  obtain ⟨reply, answer, rfl, hanswer, -⟩ := reading_eq_ok h
  rw [hreader] at hanswer
  exact ⟨reply, rfl, (Answer.readAck_eq_ok hanswer).1⟩

theorem reading_of_isOkay (hreader : Answer.reader request.command = Answer.readAck) {reply : Reply}
    (h : reply.IsOkay) : reading request ack? (.ok reply) = .ok () :=
  reading_of_reader (hreader ▸ Answer.readAck_of_isOkay h) rfl

/-- Nothing but an explicit OK is granted. -/
theorem granting_eq_true_iff (hreader : Answer.reader request.command = Answer.readAck) :
    granting request r = .ok true ↔ ∃ reply, r = .ok reply ∧ reply.IsOkay := by
  unfold granting
  constructor
  · intro h
    split at h
    · rename_i hanswer
      cases r with
      | error failure => cases hanswer
      | ok reply =>
        have hread := Answer.ofReply_eq_ok hanswer
        rw [hreader] at hread
        exact ⟨reply, rfl, (Answer.readAck_eq_ok hread).1⟩
    all_goals cases h
  · rintro ⟨reply, rfl, hokay⟩
    have hanswer : Except.bind (.ok reply) (Answer.ofReply request.command) = .ok .ack := by
      show (Answer.reader request.command reply).mapError _ = _
      rw [hreader, Answer.readAck_of_isOkay hokay]
      rfl
    rw [hanswer]

/-! ## Octets and texts -/

theorem reading_blob {bytes : Bytes} (hreader : Answer.reader request.command = Answer.readBlob)
    (h : reading request blob? r = .ok bytes) : ∃ reply, r = .ok reply ∧ reply.asBytes = .ok bytes := by
  obtain ⟨reply, answer, rfl, hanswer, hshape⟩ := reading_eq_ok h
  rw [hreader] at hanswer
  refine ⟨reply, rfl, ?_⟩
  unfold Answer.readBlob at hanswer
  cases hbytes : reply.asBytes with
  | error fault => rw [hbytes] at hanswer; cases hanswer
  | ok bytes' =>
    rw [hbytes] at hanswer
    obtain rfl := Except.ok.inj hanswer
    exact congrArg _ (Option.some.inj hshape)

theorem reading_of_asBytes (hreader : Answer.reader request.command = Answer.readBlob) {reply : Reply} {bytes : Bytes}
    (h : reply.asBytes = .ok bytes) : reading request blob? (.ok reply) = .ok bytes := by
  have hread : Answer.readBlob reply = .ok (.blob bytes) := by
    rw [Answer.readBlob, h]
    rfl
  exact reading_of_reader (hreader ▸ hread) rfl

theorem reading_text {words : String} (hreader : Answer.reader request.command = Answer.readText)
    (h : reading request text? r = .ok words) : ∃ reply, r = .ok reply ∧ reply.asText = .ok words := by
  obtain ⟨reply, answer, rfl, hanswer, hshape⟩ := reading_eq_ok h
  rw [hreader] at hanswer
  refine ⟨reply, rfl, ?_⟩
  unfold Answer.readText at hanswer
  cases hwords : reply.asText with
  | error fault => rw [hwords] at hanswer; cases hanswer
  | ok words' =>
    rw [hwords] at hanswer
    obtain rfl := Except.ok.inj hanswer
    exact congrArg _ (Option.some.inj hshape)

end Client

/-! ## Entries -/

/-- The reply hands out an entry: its elements are the key, the numbers of the cursor, the flag, the marker and, for
    a set, the value. -/
def Reply.HandsOut (reply : Reply) (entry : Record) : Prop :=
  ∃ key segment offset flag marker rest number n, reply = .array (key :: segment :: offset :: flag :: marker :: rest) ∧
    key.asBytes = .ok entry.key ∧ marker.asBytes = .ok entry.marker ∧
    segment.asUInt64 "segment" = .ok number ∧ number.toNat = entry.position.segment.toNat ∧
    offset.asUInt64 "offset" = .ok entry.position.offset ∧
    flag.asUInt64 "flag" = .ok n ∧ (entry.isDelete = true ↔ n ≠ 0) ∧
    (entry.isDelete = false → ∃ value bytes, rest.head? = some value ∧ value.asBytes = .ok bytes ∧
      entry.value = some bytes)

namespace Answer

/-- What has been read in two steps has been read in each. -/
theorem exists_of_bind_eq_ok {ε α β : Type} {x : Except ε α} {f : α → Except ε β} {b : β}
    (h : (x >>= f) = .ok b) : ∃ a, x = .ok a ∧ f a = .ok b := by
  cases x with
  | error fault => cases h
  | ok a => exact ⟨a, rfl, h⟩

/-- A set without a value is refused. -/
theorem eq_of_valued {n : UInt64} {v : Option Bytes} {e entry : Record}
    (h : (do if !decide (n ≠ 0) && v.isNone then throw Mismatch.missingValue
             return e : Except Mismatch Record) = .ok entry) : (n = 0 → v.isSome = true) ∧ entry = e := by
  dsimp only at h
  split at h
  · cases h
  · rename_i hvalued
    refine ⟨fun hset => ?_, (Except.ok.inj h).symm⟩
    cases v with
    | none => simp [hset] at hvalued
    | some bytes => rfl

theorem recordOf_eq_ok {key segment offset flag marker : Reply} {rest : List Reply} {entry : Record}
    (h : recordOf key segment offset flag marker rest.head? = .ok entry) :
    (Reply.array (key :: segment :: offset :: flag :: marker :: rest)).HandsOut entry := by
  unfold recordOf at h
  obtain ⟨k, hkey, h⟩ := exists_of_bind_eq_ok h
  obtain ⟨number, hsegment, h⟩ := exists_of_bind_eq_ok h
  dsimp only at h
  split at h
  · cases h
  have hnumber : number.toUInt32.toNat = number.toNat := by
    rw [UInt64.toNat_toUInt32]
    exact Nat.mod_eq_of_lt (Nat.lt_of_not_le ‹_›)
  obtain ⟨o, hoffset, h⟩ := exists_of_bind_eq_ok h
  obtain ⟨n, hflag, h⟩ := exists_of_bind_eq_ok h
  obtain ⟨m, hmarker, h⟩ := exists_of_bind_eq_ok h
  -- However the value is read, the entry is what has been read, and a set has a value.
  have hend : ∃ v : Option Bytes, (∀ bytes, v = some bytes → ∃ value, rest.head? = some value ∧
      value.asBytes = .ok bytes) ∧ (n = 0 → v.isSome = true) ∧
      entry = ⟨k, n ≠ 0, ⟨number.toUInt32, o⟩, m, if n ≠ 0 then none else v⟩ := by
    split at h
    · exact ⟨none, nofun, eq_of_valued h⟩
    · exact ⟨none, nofun, eq_of_valued h⟩
    · rename_i value _ hrest
      obtain ⟨v, hv, h⟩ := exists_of_bind_eq_ok h
      refine ⟨v, fun bytes hbytes => ⟨value, hrest, ?_⟩, eq_of_valued h⟩
      cases hvalue : value.asBytes with
      | error fault => rw [hvalue] at hv; cases hv
      | ok bytes' =>
        rw [hvalue, hbytes] at hv
        exact congrArg _ (Option.some.inj (Except.ok.inj hv))
  obtain ⟨v, hv, hset, rfl⟩ := hend
  refine ⟨key, segment, offset, flag, marker, rest, number, n, rfl, hkey, hmarker, hsegment, hnumber.symm, hoffset,
    hflag, decide_eq_true_iff, fun hkept => ?_⟩
  have hn : n = 0 := by simpa using hkept
  obtain ⟨bytes, rfl⟩ := Option.isSome_iff_exists.mp (hset hn)
  obtain ⟨value, hvalue, hbytes⟩ := hv bytes rfl
  exact ⟨value, bytes, hvalue, hbytes, by simp [hn]⟩

end Answer

/-- **An entry that has been read is the one that the reply hands out.** -/
theorem Client.reading_record {request : Request} {r : Except ProtocolError Reply} {entry : Record}
    (hreader : Answer.reader request.command = Answer.readRecord)
    (h : reading request record? r = .ok entry) : ∃ reply, r = .ok reply ∧ reply.HandsOut entry := by
  obtain ⟨reply, answer, rfl, hanswer, hshape⟩ := reading_eq_ok h
  rw [hreader] at hanswer
  refine ⟨reply, rfl, ?_⟩
  unfold Answer.readRecord at hanswer
  split at hanswer
  · rename_i key segment offset flag marker rest
    cases hentry : Answer.recordOf key segment offset flag marker rest.head? with
    | error fault => rw [hentry] at hanswer; cases hanswer
    | ok entry' =>
      rw [hentry] at hanswer
      obtain rfl := Except.ok.inj hanswer
      obtain rfl := Option.some.inj hshape
      exact Answer.recordOf_eq_ok hentry
  · cases hanswer
  · cases hanswer

/-! ## Runs -/

namespace Client

variable {ι α : Type} {c : Client ι} {request : Request}

theorem runs_call (h : c.holdsBack request = false) (r : Except ProtocolError Reply) :
    (call request).Runs c [.sent c.link request r]
      ((r.bind (Answer.ofReply request.command)).mapError .protocol) c := by
  have hnot : ¬ (request.command.requiresAuth && !c.authenticated) = true := by
    rw [← holdsBack, h]
    exact Bool.false_ne_true
  show Program.Reaches recording ((if _ then _ else _ : Action (Client ι) ι Answer) c) _ _ _
  rw [if_neg hnot]
  show (Action.perform (.execute c.link request) >>= _).Runs c ([] ++ [_]) _ _
  refine (Action.runs_perform (.execute c.link request) r c).bind ?_
  cases r with
  | error failure => exact .refl _ _
  | ok reply => exact Action.runs_ofRequest (Answer.ofReply request.command reply) c

/-- A call that is not held back is one exchange, whose outcome it reads. -/
theorem runs_callFor (h : c.holdsBack request = false) (shape : Answer → Option α) (r : Except ProtocolError Reply) :
    (callFor request shape).Runs c [.sent c.link request r] ((reading request shape r).mapError .protocol) c := by
  have hcall := runs_call h r
  unfold callFor reading
  cases r with
  | error failure => exact hcall.bind_error
  | ok reply =>
    dsimp only [Except.bind] at hcall ⊢
    cases hanswer : Answer.ofReply request.command reply with
    | error failure =>
      rw [hanswer] at hcall
      exact hcall.bind_error
    | ok answer =>
      rw [hanswer] at hcall
      dsimp only
      show (call request >>= _).Runs c ([] ++ [_]) _ _
      refine hcall.bind ?_
      cases shape answer <;> exact .refl _ _

/-- A namespace is read by one exchange. -/
theorem runs_namespaceInfo_of_reading (hlogin : c.authenticated = true) {name : String} {r : Except ProtocolError Reply}
    {snapshot : Snapshot} (hread : reading (.nsInfo name) info? r = .ok snapshot) :
    (namespaceInfo name).Runs c [.sent c.link (.nsInfo name) r] (.ok snapshot) c := by
  have hsent : c.holdsBack (.nsInfo name) = false := by rw [holdsBack, hlogin]; rfl
  have hcall := runs_callFor hsent info? r
  rwa [hread] at hcall

theorem runs_namespaceInfo (hlogin : c.authenticated = true) (name : String) (ns : Namespace) :
    (namespaceInfo name).Runs c [.sent c.link (.nsInfo name) (.ok (.bulk (Utf8.encode (ns.info name))))]
      (.ok ns.snapshot) c :=
  runs_namespaceInfo_of_reading hlogin (reading_nsInfo name ns)

end Client

end SegmentSync
