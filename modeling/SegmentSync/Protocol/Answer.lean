import SegmentSync.Position
import SegmentSync.Table
import SegmentSync.Text.Blank
import SegmentSync.Protocol.Reply
import SegmentSync.Protocol.Request

/-!
# `SegmentSync.Protocol.Answer` — what a reply means

Each command has one reader that turns a reply into an `Answer` of the command's own shape, or says in a
`Mismatch` what does not fit.

## Contents
- **Answers.** `Record`, `Answer`.
- **Mismatches.** Causes, and their wording.
- **Readers.** Text, octets and numbers of a reply; acknowledgements; the information block of a namespace,
  where of two lines with one key the later counts; records of the log.
- **The table.** `Answer.readers` with the reader of each command, and `Answer.reader`.
-/

namespace SegmentSync

/-! ## Answers -/

/-- One entry of the log as a store hands it out. -/
structure Record where
  key : Bytes
  isDelete : Bool
  position : Position
  /-- An opaque mark that goes with the entry to the slave. -/
  marker : Bytes
  /-- There is a value unless the entry is a deletion. -/
  value : Option Bytes
  deriving DecidableEq, Repr, Inhabited

/-- A reply with its meaning. -/
inductive Answer where
  | ack
  | info (snapshot : Snapshot)
  | blob (bytes : Bytes)
  | text (text : String)
  | record (record : Record)
  deriving DecidableEq, Repr, Inhabited

/-- A cursor with its parts named. -/
def Position.debugText (p : Position) : String :=
  "Position \x7b segment: " ++ Decimal.text p.segment.toNat ++
    ", offset: " ++ Decimal.text p.offset.toNat ++ " \x7d"

/-- The answer with its parts named. -/
def Answer.debugText : Answer → String
  | .ack => "Ack"
  | .info snapshot =>
    "Info(NamespaceSnapshot \x7b position: " ++ snapshot.position.debugText ++
      ", size_bytes: " ++ Decimal.text snapshot.size.toNat ++ " \x7d)"
  | .blob bytes => "Blob(" ++ Text.octetList bytes ++ ")"
  | .text words => "Text(" ++ Text.quoted words ++ ")"
  | .record entry =>
    "Record(Record \x7b key: " ++ Text.octetList entry.key ++
      ", is_delete: " ++ (if entry.isDelete then "true" else "false") ++
      ", position: " ++ entry.position.debugText ++
      ", marker: " ++ Text.octetList entry.marker ++
      ", value: " ++ (match entry.value with
        | some value => "Some(" ++ Text.octetList value ++ ")"
        | none => "None") ++ " \x7d)"

/-! ## Mismatches -/

/-- What does not fit in a reply. -/
inductive Mismatch where
  /-- Octets that are no text. -/
  | notText (fault : Utf8.Fault)
  /-- Something else in the place of a text, of octets, of an acknowledgement, of a list. -/
  | notString (summary : String)
  | notBytes (summary : String)
  | notAck (summary : String)
  | notArray (summary : String)
  /-- A field that is negative, or no number. -/
  | negative (field : String) (n : Int)
  | notNumber (field text : String) (fault : Decimal.Fault)
  /-- A field that the information block does not have. -/
  | missingField (field : String)
  /-- A record with too few elements, with a segment beyond its width, or without a value. -/
  | shortRecord (length : Nat)
  | segmentOutOfRange (n : Nat)
  | missingValue
  /-- An answer of another shape than the command has. -/
  | unsuitable (answer : Answer)
  /-- A reply to a command that has no reader. -/
  | unregistered
  /-- A fault that another reader states in its own words. -/
  | stated (reason : String)
  deriving DecidableEq, Repr

/-- The mismatch in words. -/
def Mismatch.message : Mismatch → String
  | .notText fault => "invalid utf-8: " ++ fault.message
  | .notString summary => "expected string, got " ++ summary
  | .notBytes summary => "expected bytes, got " ++ summary
  | .notAck summary => "expected OK, got " ++ summary
  | .notArray summary => "expected array, got " ++ summary
  | .negative field n => "negative " ++ field ++ ": " ++ Decimal.signedText n
  | .notNumber field text fault => "invalid " ++ field ++ " '" ++ text ++ "': " ++ fault.message
  | .missingField field => "missing field " ++ field
  | .shortRecord length => "expected at least 5 elements, got " ++ Decimal.text length
  | .segmentOutOfRange n => "segment out of range: " ++ Decimal.text n
  | .missingValue => "SET record without value"
  | .unsuitable answer => "decoded to " ++ answer.debugText
  | .unregistered => "no decoder registered"
  | .stated reason => reason

/-! ## Readers -/

namespace Reply

/-- The text of a reply. -/
def asText : Reply → Except Mismatch String
  | .bulk bytes => (Utf8.decode bytes).mapError .notText
  | .simple text => .ok text
  | .verbatim _ text => .ok text
  | .okay => .ok "OK"
  | reply => .error (.notString reply.summary)

/-- The octets of a reply; a number gives its decimal digits. -/
def asBytes : Reply → Except Mismatch Bytes
  | .bulk bytes => .ok bytes
  | .simple text => .ok (Utf8.encode text)
  | .int n => .ok (Utf8.encode (Decimal.signedText n))
  | reply => .error (.notBytes reply.summary)

/-- The number of a reply, which may also be a text with white space around it. -/
def asUInt64 (field : String) : Reply → Except Mismatch UInt64
  | .int n => if n < 0 then .error (.negative field n) else .ok n.toNat.toUInt64
  | reply => do
    let text ← reply.asText
    (Decimal.readUInt64 (Text.trim text.toList)).mapError (.notNumber field text)

end Reply

/-- A letter without its ASCII case. -/
def asciiLower (text : String) : List Char := text.toList.map Char.toLower

namespace Answer

/-- An acknowledgement: the plain `OK`, or a text that reads so in any case. -/
def readAck : Reply → Except Mismatch Answer
  | .okay => .ok .ack
  | .simple words =>
    if asciiLower words = ['o', 'k'] then .ok .ack
    else .error (.notAck (Reply.simple words).summary)
  | reply => .error (.notAck reply.summary)

/-- A text. -/
def readText (reply : Reply) : Except Mismatch Answer := reply.asText.map .text

/-- Octets. -/
def readBlob (reply : Reply) : Except Mismatch Answer := reply.asBytes.map .blob

/-- The key and the value of one line of an information block: none in a comment, and none without a
    colon. -/
def infoField? (line : List Char) : Option (List Char × List Char) :=
  if line.head? = some '#' then none
  else (Text.splitOnce ':' line).map fun (key, value) => (Text.trim key, Text.trim value)

/-- The fields of an information block; of two lines with one key the later counts. -/
def infoFields (chars : List Char) : Table (List Char) (List Char) :=
  ((Text.lines chars).filterMap infoField?).foldl (fun table (key, value) => table.insert key value) .empty

/-- The field with the current segment. -/
def segmentField : String := "data_current_id"

/-- The field with the offset in the current segment. -/
def offsetField : String := "data_current_offset"

/-- The field with the total size of the data. -/
def sizeField : String := "data_size_bytes"

/-- Reads a number from a field of an information block. -/
def infoNumber {α : Type} (fields : Table (List Char) (List Char)) (field : String)
    (readNumber : List Char → Except Decimal.Fault α) : Except Mismatch α :=
  match fields.find? field.toList with
  | none => .error (.missingField field)
  | some raw => (readNumber raw).mapError (.notNumber field (String.ofList raw))

/-- Cursor and size from the fields of an information block. -/
def infoSnapshot (fields : Table (List Char) (List Char)) : Except Mismatch Snapshot := do
  let segment ← infoNumber fields segmentField Decimal.readUInt32
  let offset ← infoNumber fields offsetField Decimal.readUInt64
  let size ← infoNumber fields sizeField Decimal.readUInt64
  return ⟨⟨segment, offset⟩, size⟩

/-- Cursor and size of a namespace, from its information block. -/
def readInfo (reply : Reply) : Except Mismatch Answer := do
  let block ← reply.asText
  let snapshot ← infoSnapshot (infoFields block.toList)
  return .info snapshot

/-- A record from its elements: key, segment, offset, flag, marker and value; the flag of a set is zero.
    The value may be left out, and what follows it does not count. -/
def recordOf (key segment offset flag marker : Reply) (value : Option Reply) :
    Except Mismatch Record := do
  let key ← key.asBytes
  let segment ← segment.asUInt64 "segment"
  if UInt32.size ≤ segment.toNat then throw (.segmentOutOfRange segment.toNat)
  let offset ← offset.asUInt64 "offset"
  let flag ← flag.asUInt64 "flag"
  let marker ← marker.asBytes
  let value ← match value with
    | none | some .nil => pure none
    | some value => (value.asBytes).map some
  let isDelete := flag ≠ 0
  if !isDelete && value.isNone then throw .missingValue
  return { key, isDelete, position := ⟨segment.toUInt32, offset⟩, marker
           value := if isDelete then none else value }

/-- A record of the log. -/
def readRecord : Reply → Except Mismatch Answer
  | .array (key :: segment :: offset :: flag :: marker :: rest) =>
    (recordOf key segment offset flag marker rest.head?).map .record
  | .array items => .error (.shortRecord items.length)
  | reply => .error (.notArray reply.summary)

/-! ## The table -/

/-- The readers, registered one after the other. -/
def readers : Table Command (Reply → Except Mismatch Answer) :=
  Table.empty
    |>.insert .nsInfo readInfo
    |>.insert .nsSet readAck
    |>.insert .nsJump readAck
    |>.insert .dataExport readBlob
    |>.insert .dataImport readAck
    |>.insert .dataRaw readRecord
    |>.insert .set readBlob
    |>.insert .del readAck
    |>.insert .authChallenge readText
    |>.insert .authSecure readAck
    |>.insert .select readAck

/-- Reads a reply by the reader that is registered for its command. -/
def reader (command : Command) (reply : Reply) : Except Mismatch Answer :=
  match readers.find? command with
  | some read => read reply
  | none => .error .unregistered

theorem reader_dataRaw : reader .dataRaw = readRecord := rfl

end Answer

end SegmentSync
