import SegmentSync.Error
import SegmentSync.Number.Lexical
import SegmentSync.Text.Blank

/-!
# `SegmentSync.Wire.Reply.Reader` — replies from bytes

## Contents
- **Taking.** `Take`: what is read off the front of the bytes. Reading stops where the bytes end before the
  reply does, or where they are no reply.
- **Lines.** Texts, numbers and octets behind a mark.
- **Replies.** One for each mark, in both versions of the protocol. Arrays may be nested a hundred deep.
- **Answers.** `Reply.read` skips messages that are pushed in between. `Reply.outcome`: a reply with an error
  anywhere inside is that error.
-/

namespace SegmentSync.Wire

/-! ## Taking -/

/-- Why there is no reply. -/
inductive Interruption where
  /-- The bytes end before the reply does. -/
  | incomplete
  /-- The bytes are no reply. -/
  | malformed
  deriving DecidableEq, Repr

/-- Reads something off the front of the bytes. -/
abbrev Take := StateT Bytes (Except Interruption)

namespace Take

/-- A value, without which the bytes are no reply. -/
def ofOption {α : Type} : Option α → Take α
  | some a => pure a
  | none => throw .malformed

/-- One octet. -/
def octet : Take UInt8 := fun
  | [] => .error .incomplete
  | byte :: rest => .ok (byte, rest)

/-- So many octets. -/
def octets (n : Nat) : Take Bytes := fun bytes =>
  if bytes.length < n then .error .incomplete else .ok (bytes.splitAt n)

/-! ## Lines -/

/-- The octets before the first end of a line, and those behind it. -/
def splitLine? : Bytes → Option (Bytes × Bytes)
  | 13 :: 10 :: rest => some ([], rest)
  | byte :: rest => (splitLine? rest).map fun (line, rest) => (byte :: line, rest)
  | [] => none

/-- A line, which has to be a text. -/
def line : Take (List Char) := do
  match splitLine? (← get) with
  | none => throw .incomplete
  | some (bytes, rest) =>
    set rest
    ofOption ((Utf8.decode bytes).toOption.map String.toList)

/-- The end of a line. -/
def lineEnd : Take Unit := do
  if (← octet) ≠ 13 then throw .malformed
  if (← octet) ≠ 10 then throw .malformed

/-- A number on a line, with or without blanks around it. -/
def number : Take Int := do
  ofOption (Decimal.readSigned64 (Text.trim (← line)))

/-- Octets and the end of a line behind their number. No number of octets is negative, so more than there
    will ever be are expected then. -/
def block : Take Bytes := do
  let n ← number
  if n < 0 then throw .incomplete
  let content ← octets n.toNat
  lineEnd
  return content

/-- A text behind the number of its octets. -/
def textBlock : Take (List Char) := do
  return Utf8.decodeCharsLossy (← block)

/-- A double. -/
def double : Take Float := do
  ofOption (Binary64.readNamed? (Text.trim (← line)))

/-- A truth value. -/
def boolean : Take Bool := do
  match ← line with
  | ['t'] => return true
  | ['f'] => return false
  | _ => throw .malformed

/-- Reads digits, between which underscores may stand. -/
def readGrouped? (digits : List Char) : Option Nat :=
  if digits.isEmpty || digits.head? = some '_' then none
  else
    digits.foldlM (fun n c => if c = '_' then some n else (Decimal.digit? c).map fun d => n * 10 + d) 0

/-- A whole number of any size. -/
def bigNumber : Take Int := do
  match ← line with
  | '-' :: digits => ofOption ((readGrouped? digits).map fun n => -(n : Int))
  | '+' :: digits => ofOption ((readGrouped? digits).map fun n => (n : Int))
  | digits => ofOption ((readGrouped? digits).map fun n => (n : Int))

/-! ## Replies -/

/-- How deep arrays may be nested. -/
def maxDepth : Nat := 100

/-- Replies in pairs. -/
def pairs : List Reply → List (Reply × Reply)
  | key :: value :: rest => (key, value) :: pairs rest
  | _ => []

/-- The number of members of a map. -/
def mapSize : Take Nat := do
  let n ← number
  if n < 0 then throw .malformed
  return n.toNat

/-- The text of a simple reply. -/
def simple (text : List Char) : Reply :=
  if text = ['O', 'K'] then .okay else .simple (String.ofList text)

/-- A text with its format before it. -/
def verbatim : Take Reply := do
  match Text.splitOnce ':' (← textBlock) with
  | some (format, text) => return .verbatim (String.ofList format) (String.ofList text)
  | none => throw .malformed

mutual

/-- A reply inside of `depth` others; every reply takes at least one octet. -/
def reply : Nat → (depth : Nat) → Take Reply
  | 0, _ => throw .incomplete
  | fuel + 1, depth => do
    match Char.ofNat (← octet).toNat with
    | '+' => return simple (← line)
    | '-' => return .error (ErrorLine.ofChars (← line))
    | ':' => return .int (← number)
    | '$' =>
      -- The length is looked at for its sign before it is read with the block.
      let start ← get
      if (← number) < 0 then return .nil
      set start
      return .bulk (← block)
    | '*' =>
      if maxDepth ≤ depth then throw .malformed
      let n ← number
      if n < 0 then return .nil
      return .array (← items fuel (depth + 1) n.toNat)
    | '~' =>
      let n ← number
      if n < 0 then return .nil
      return .set (← items fuel (depth + 1) n.toNat)
    | '%' =>
      let n ← mapSize
      return .map (pairs (← items fuel (depth + 1) (2 * n)))
    | '|' =>
      let n ← mapSize
      -- The attributes come before the reply that they belong to.
      let attributes ← items fuel (depth + 1) (2 * n)
      return .attribute (← reply fuel (depth + 1)) (pairs attributes)
    | '_' =>
      let _ ← line
      return .nil
    | ',' => return .double (← double)
    | '#' => return .boolean (← boolean)
    | '!' => return .error (ErrorLine.ofChars (← textBlock))
    | '=' => verbatim
    | '(' => return .bigNumber (← bigNumber)
    | _ => throw .malformed

/-- So many replies. -/
def items : Nat → (depth : Nat) → Nat → Take (List Reply)
  | _, _, 0 => return []
  | 0, _, _ => throw .incomplete
  | fuel + 1, depth, n + 1 => do
    let item ← reply fuel depth
    return item :: (← items fuel depth n)

end

/-! ## Answers -/

/-- A reply can be the name of a kind of messages. -/
def isName : Reply → Bool
  | .bulk bytes => (Utf8.decode bytes).toOption.isSome
  | .simple _ => true
  | _ => false

/-- The rest of a message that is pushed, behind its mark: the name of its kind, and its content. -/
def pushed (fuel : Nat) : Take Unit := do
  let n ← number
  if n ≤ 0 then return
  match ← items fuel 1 n.toNat with
  | kind :: _ => if !isName kind then throw .malformed
  | [] => throw .malformed

/-- The next reply that answers something; `fuel` is twice the number of octets at least. -/
def answer (fuel : Nat) : Nat → Take Reply
  | 0 => throw .incomplete
  | messages + 1 => do
    -- The mark `>` is that of a message that answers nothing.
    if (← get).head? = some 62 then
      let _ ← octet
      pushed fuel
      answer fuel messages
    else reply fuel 0

end Take

end SegmentSync.Wire

namespace SegmentSync.Reply

open Wire

/-- Reads the reply at the front of some bytes. -/
def read (bytes : Bytes) : Except Interruption Reply :=
  (Take.answer (2 * bytes.length + 2) (bytes.length + 1)).run' bytes

mutual

/-- The first error inside of a reply. -/
def firstError : Reply → Option ErrorLine
  | .error line => some line
  | .array items => firstErrorOf items
  | .set items => firstErrorOf items
  | .map pairs => firstErrorIn pairs
  | .attribute data pairs => (firstError data).or (firstErrorIn pairs)
  | _ => none

/-- The first error inside of some replies. -/
def firstErrorOf : List Reply → Option ErrorLine
  | [] => none
  | item :: rest => (firstError item).or (firstErrorOf rest)

/-- The first error inside of some pairs. -/
def firstErrorIn : List (Reply × Reply) → Option ErrorLine
  | [] => none
  | (key, value) :: rest => ((firstError key).or (firstError value)).or (firstErrorIn rest)

end

/-- What a reply comes to. -/
def outcome (reply : Reply) : Except ProtocolError Reply :=
  match reply.firstError with
  | some line => .error (.ofErrorLine line)
  | none => .ok reply

end SegmentSync.Reply
