import SegmentSync.Protocol.Request

/-!
# `SegmentSync.Wire.Frame` — requests as bytes

A request travels as an array of byte strings: the number of parts, then each part behind its length. Lengths
are counted in octets, so a part may hold anything.

## Contents
- **Writing.** `part`, `frame`, `Request.parts`, `Request.encode`.
- **Reading.** `readFrame?` takes one frame off the front of its input; `readFrames?` reads an input that
  holds frames and nothing else.
-/

namespace SegmentSync.Frame

/-- The end of a line. -/
def lineEnd : Bytes := [13, 10]

/-- A mark, a decimal number, and the end of the line. -/
def header (mark : Char) (n : Nat) : Bytes :=
  Utf8.encodeChar mark ++ Utf8.encodeChars (Decimal.digits n) ++ lineEnd

/-! ## Writing -/

/-- One part behind its length. -/
def part (bytes : Bytes) : Bytes := header '$' bytes.length ++ bytes ++ lineEnd

/-- The parts behind their number. -/
def frame (parts : List Bytes) : Bytes := header '*' parts.length ++ parts.flatMap part

/-! ## Reading -/

/-- The value of an octet that is an ASCII digit. -/
def digit? (byte : UInt8) : Option Nat :=
  if 48 ≤ byte.toNat && byte.toNat ≤ 57 then some (byte.toNat - 48) else none

/-- Takes the rest of a number and the end of its line off the front; `n` has been read so far. -/
def readDigits? : Nat → Bytes → Option (Nat × Bytes)
  | n, 13 :: 10 :: rest => some (n, rest)
  | n, byte :: rest => (digit? byte).bind fun d => readDigits? (n * 10 + d) rest
  | _, [] => none

/-- Takes a mark, a number of at least one digit, and the end of the line off the front. -/
def readHeader? (mark : UInt8) : Bytes → Option (Nat × Bytes)
  | byte :: first :: rest =>
    if byte = mark then (digit? first).bind fun d => readDigits? d rest else none
  | _ => none

/-- Takes one part off the front. -/
def readPart? (bytes : Bytes) : Option (Bytes × Bytes) := do
  let (length, rest) ← readHeader? 36 bytes
  if rest.length < length then none
  let (content, rest) := rest.splitAt length
  match rest with
  | 13 :: 10 :: rest => some (content, rest)
  | _ => none

/-- Takes `n` parts off the front. -/
def readParts? : Nat → Bytes → Option (List Bytes × Bytes)
  | 0, bytes => some ([], bytes)
  | n + 1, bytes => do
    let (part, rest) ← readPart? bytes
    let (parts, rest) ← readParts? n rest
    return (part :: parts, rest)

/-- Takes one frame off the front. -/
def readFrame? (bytes : Bytes) : Option (List Bytes × Bytes) := do
  let (n, rest) ← readHeader? 42 bytes
  readParts? n rest

/-- Reads at most `fuel` frames, after which nothing may be left. -/
def readFramesUpTo? : Nat → Bytes → Option (List (List Bytes))
  | _, [] => some []
  | 0, _ => none
  | fuel + 1, bytes => do
    let (parts, rest) ← readFrame? bytes
    let frames ← readFramesUpTo? fuel rest
    return parts :: frames

/-- Reads an input that holds frames and nothing else; each frame takes at least one octet. -/
def readFrames? (bytes : Bytes) : Option (List (List Bytes)) := readFramesUpTo? bytes.length bytes

end SegmentSync.Frame

namespace SegmentSync.Request

/-- The parts of a request on the wire: the words of its command, then its arguments. -/
def parts (request : Request) : List Bytes :=
  request.command.words.map Utf8.encode ++ request.arguments

/-- The request as bytes. -/
def encode (request : Request) : Bytes := Frame.frame request.parts

end SegmentSync.Request
