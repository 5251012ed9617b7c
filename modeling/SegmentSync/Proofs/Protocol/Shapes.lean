import SegmentSync.Error

/-!
# `SegmentSync.Proofs.Protocol.Shapes` — what can come of reading a reply

The readers are written one by one and registered one by one, and a client expects an answer of one shape from each
command. Here the two meet: whatever a reply is, the reader of a command finds an answer of the shape of the command,
or says in words of its own what does not fit.

## Contents
- **Shapes.** `Answer.IsFor` says which answers a command has, and `Mismatch.IsReaders` what a reader says of a reply.
- **Readings.** `Settles` takes both through the readers, piece by piece.
- **The table.** Every command has a reader, and each reader is in the place of its command (`settles_reader`). So an
  answer to a command is one that the command has, and an unexpected reply to it is one of which its reader says so.
-/

namespace SegmentSync

variable {α β : Type}

/-! ## Shapes -/

/-- The commands that are answered with more than that they have been carried out. -/
def Command.telling : List Command := [.nsInfo, .dataExport, .set, .dataRaw, .authChallenge]

/-- The answers that a command has. -/
inductive Answer.IsFor : Command → Answer → Prop where
  | info (snapshot : Snapshot) : IsFor .nsInfo (.info snapshot)
  | exported (bytes : Bytes) : IsFor .dataExport (.blob bytes)
  | echoed (key : Bytes) : IsFor .set (.blob key)
  | entry (entry : Record) : IsFor .dataRaw (.record entry)
  | challenge (words : String) : IsFor .authChallenge (.text words)
  /-- All other commands are acknowledged. -/
  | ack {command : Command} (h : command ∉ Command.telling) : IsFor command .ack

/-- What a reader can say of a reply. It always finds itself registered, does not judge answers, and repeats nobody
    else's words. -/
def Mismatch.IsReaders : Mismatch → Prop
  | .unsuitable _ | .unregistered | .stated _ => False
  | _ => True

/-! ## Readings -/

/-- A reading comes to something good, or to what a reader can say of a reply. -/
def Settles (good : α → Prop) : Except Mismatch α → Prop
  | .ok value => good value
  | .error mismatch => mismatch.IsReaders

namespace Settles

variable {good : α → Prop} {good' : β → Prop} {x : Except Mismatch α}

theorem bind {f : α → Except Mismatch β} (hx : Settles good x) (hf : ∀ value, good value → Settles good' (f value)) :
    Settles good' (x >>= f) := by
  cases x with
  | ok value => exact hf value hx
  | error mismatch => exact hx

theorem map {f : α → β} (hx : Settles good x) (hf : ∀ value, good value → good' (f value)) :
    Settles good' (x.map f) := by
  cases x with
  | ok value => exact hf value hx
  | error mismatch => exact hx

/-- A fault of another kind, put in a reader's words. -/
theorem mapError {ε : Type} {r : Except ε α} {f : ε → Mismatch} (hf : ∀ fault, (f fault).IsReaders) :
    Settles (fun _ => True) (r.mapError f) := by
  cases r with
  | ok value => exact trivial
  | error fault => exact hf fault

end Settles

namespace Reply

variable (reply : Reply)

theorem settles_asText : Settles (fun _ => True) reply.asText := by
  unfold asText
  split
  · exact .mapError fun _ => trivial
  all_goals exact trivial

theorem settles_asBytes : Settles (fun _ => True) reply.asBytes := by
  unfold asBytes
  split <;> exact trivial

theorem settles_asUInt64 (field : String) : Settles (fun _ => True) (reply.asUInt64 field) := by
  unfold asUInt64
  split
  · split <;> exact trivial
  · exact (settles_asText _).bind fun _ _ => .mapError fun _ => trivial

end Reply

namespace Answer

open Reply (settles_asText settles_asBytes settles_asUInt64)

theorem settles_infoNumber (fields : Table (List Char) (List Char)) (field : String)
    (readNumber : List Char → Except Decimal.Fault α) :
    Settles (fun _ => True) (infoNumber fields field readNumber) := by
  unfold infoNumber
  split
  · exact trivial
  · exact .mapError fun _ => trivial

theorem settles_infoSnapshot (fields : Table (List Char) (List Char)) :
    Settles (fun _ => True) (infoSnapshot fields) := by
  refine (settles_infoNumber fields segmentField _).bind fun segment _ => ?_
  refine (settles_infoNumber fields offsetField _).bind fun offset _ => ?_
  exact (settles_infoNumber fields sizeField _).bind fun size _ => trivial

theorem settles_recordOf (key segment offset flag marker : Reply) (value : Option Reply) :
    Settles (fun _ => True) (recordOf key segment offset flag marker value) := by
  refine key.settles_asBytes.bind fun key _ => ?_
  refine (segment.settles_asUInt64 "segment").bind fun segment _ => ?_
  by_cases hrange : UInt32.size ≤ segment.toNat
  · rw [if_pos hrange]
    exact trivial
  rw [if_neg hrange]
  refine (offset.settles_asUInt64 "offset").bind fun offset _ => ?_
  refine (flag.settles_asUInt64 "flag").bind fun flag _ => ?_
  refine marker.settles_asBytes.bind fun marker _ => ?_
  -- The value is left out, null, or octets.
  have hnone : Settles (fun _ => True) (pure none : Except Mismatch (Option Bytes)) := trivial
  dsimp only
  split
  · exact hnone.bind fun value _ => by split <;> exact trivial
  · exact hnone.bind fun value _ => by split <;> exact trivial
  · rename_i value _
    have hsome : Settles (fun _ => True) (value.asBytes.map some) := value.settles_asBytes.map fun _ _ => trivial
    exact hsome.bind fun value _ => by split <;> exact trivial

/-! ## The table -/

/-- Every command has a reader. -/
theorem isSome_find?_readers (command : Command) : (readers.find? command).isSome = true := by
  cases command <;> rfl

theorem settles_readAck {command : Command} (reply : Reply) (h : command ∉ Command.telling) :
    Settles (IsFor command) (readAck reply) := by
  unfold readAck
  split
  · exact .ack h
  · split
    · exact .ack h
    · exact trivial
  · exact trivial

/-- **What a reply is read as is an answer of its command.** -/
theorem settles_reader (command : Command) (reply : Reply) : Settles (IsFor command) (reader command reply) := by
  cases command with
  | nsInfo =>
    refine reply.settles_asText.bind fun block _ => ?_
    exact (settles_infoSnapshot _).bind fun snapshot _ => .info snapshot
  | dataExport => exact reply.settles_asBytes.map fun bytes _ => .exported bytes
  | set => exact reply.settles_asBytes.map fun key _ => .echoed key
  | authChallenge => exact reply.settles_asText.map fun words _ => .challenge words
  | dataRaw =>
    show Settles _ (readRecord reply)
    unfold readRecord
    split
    · exact (settles_recordOf _ _ _ _ _ _).map fun entry _ => .entry entry
    · exact trivial
    · exact trivial
  | nsSet | nsJump | dataImport | del | authSecure | select => exact settles_readAck reply (by decide)

/-- An unexpected reply to a command is one of which its reader says so. -/
theorem unexpected_of_ofReply {command : Command} {reply : Reply} {failure : ProtocolError}
    (h : ofReply command reply = .error failure) :
    ∃ mismatch, failure = .unexpectedReply command.name mismatch ∧ reader command reply = .error mismatch ∧
      mismatch.IsReaders := by
  have hsettles := settles_reader command reply
  unfold ofReply at h
  cases hreader : reader command reply with
  | ok answer =>
    rw [hreader] at h
    cases h
  | error mismatch =>
    rw [hreader] at h hsettles
    exact ⟨mismatch, (Except.error.inj h).symm, rfl, hsettles⟩

/-- An answer to a command is one that the command has. -/
theorem isFor_of_ofReply {command : Command} {reply : Reply} {answer : Answer}
    (h : ofReply command reply = .ok answer) : answer.IsFor command := by
  have hsettles := settles_reader command reply
  unfold ofReply at h
  cases hreader : reader command reply with
  | ok answer' =>
    rw [hreader] at h hsettles
    exact Except.ok.inj h ▸ hsettles
  | error mismatch =>
    rw [hreader] at h
    cases h

end Answer

end SegmentSync
