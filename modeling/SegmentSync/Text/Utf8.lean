import SegmentSync.Bytes

/-!
# `SegmentSync.Text.Utf8` — UTF-8, with the place and size of the first fault

## Contents
- **Writing.** `encodeChar` / `encode`: the one to four octets of a character, of a text.
- **Reading.** `scan` looks at one character. A malformed start is skipped as a whole: the longest run of
  octets that could still have begun a character, never less than one. A start that is well formed as far
  as it goes, but cut off by the end of the input, is `truncated`.
- **Outcomes.** `decode` stops at the first fault and says where it is; `decodeLossy` puts one replacement
  character in the place of each faulty run and goes on.
-/

namespace SegmentSync.Utf8

/-! ## Writing -/

/-- The octets of one character. -/
def encodeChar (c : Char) : Bytes :=
  let n := c.toNat
  if n < 0x80 then [n.toUInt8]
  else if n < 0x800 then [(0xC0 + n / 64).toUInt8, (0x80 + n % 64).toUInt8]
  else if n < 0x10000 then
    [(0xE0 + n / 4096).toUInt8, (0x80 + n / 64 % 64).toUInt8, (0x80 + n % 64).toUInt8]
  else
    [(0xF0 + n / 262144).toUInt8, (0x80 + n / 4096 % 64).toUInt8, (0x80 + n / 64 % 64).toUInt8,
      (0x80 + n % 64).toUInt8]

/-- The octets of a list of characters. -/
def encodeChars (chars : List Char) : Bytes := chars.flatMap encodeChar

/-- The octets of a text. -/
def encode (text : String) : Bytes := encodeChars text.toList

theorem encodeChars_append (a b : List Char) :
    encodeChars (a ++ b) = encodeChars a ++ encodeChars b := by
  simp [encodeChars]

/-! ## Reading one character -/

/-- What stands at the start of a non-empty input. -/
inductive Scan where
  /-- A character and what follows it. -/
  | char (c : Char) (rest : Bytes)
  /-- A run of `length` octets that begins no character, and what follows it. -/
  | malformed (length : Nat) (rest : Bytes)
  /-- The beginning of a character, cut off by the end of the input. -/
  | truncated
  deriving DecidableEq

/-- An octet that continues a character: `10xxxxxx`. -/
def isTail (byte : UInt8) : Bool := 0x80 ≤ byte.toNat && byte.toNat < 0xC0

/-- The octets allowed after a first octet that announces three. -/
def secondOfThree (first second : Nat) : Bool :=
  if first = 0xE0 then 0xA0 ≤ second && second < 0xC0
  else if first = 0xED then 0x80 ≤ second && second < 0xA0
  else 0x80 ≤ second && second < 0xC0

/-- The octets allowed after a first octet that announces four. -/
def secondOfFour (first second : Nat) : Bool :=
  if first = 0xF0 then 0x90 ≤ second && second < 0xC0
  else if first = 0xF4 then 0x80 ≤ second && second < 0x90
  else 0x80 ≤ second && second < 0xC0

/-- Looks at the character that begins with `first`. -/
def scan (first : UInt8) (rest : Bytes) : Scan :=
  let a := first.toNat
  if a < 0x80 then .char (Char.ofNat a) rest
  else if a < 0xC2 then .malformed 1 rest
  else if a < 0xE0 then
    match rest with
    | [] => .truncated
    | b :: rest₁ =>
      if isTail b then .char (Char.ofNat ((a - 0xC0) * 64 + (b.toNat - 0x80))) rest₁
      else .malformed 1 rest
  else if a < 0xF0 then
    match rest with
    | [] => .truncated
    | b :: rest₁ =>
      if secondOfThree a b.toNat then
        match rest₁ with
        | [] => .truncated
        | c :: rest₂ =>
          if isTail c then
            .char (Char.ofNat
              ((a - 0xE0) * 4096 + (b.toNat - 0x80) * 64 + (c.toNat - 0x80))) rest₂
          else .malformed 2 rest₁
      else .malformed 1 rest
  else if a < 0xF5 then
    match rest with
    | [] => .truncated
    | b :: rest₁ =>
      if secondOfFour a b.toNat then
        match rest₁ with
        | [] => .truncated
        | c :: rest₂ =>
          if isTail c then
            match rest₂ with
            | [] => .truncated
            | d :: rest₃ =>
              if isTail d then
                .char (Char.ofNat ((a - 0xF0) * 262144 + (b.toNat - 0x80) * 4096
                  + (c.toNat - 0x80) * 64 + (d.toNat - 0x80))) rest₃
              else .malformed 3 rest₂
          else .malformed 2 rest₁
      else .malformed 1 rest
  else .malformed 1 rest

/-- What is left after a character is never longer than what followed its first octet. -/
theorem scan_char_length {first : UInt8} {rest : Bytes} {c : Char} {left : Bytes}
    (h : scan first rest = .char c left) : left.length ≤ rest.length := by
  unfold scan at h
  grind

/-- What is left after a malformed run is never longer than what followed its first octet. -/
theorem scan_malformed_length {first : UInt8} {rest : Bytes} {n : Nat} {left : Bytes}
    (h : scan first rest = .malformed n left) : left.length ≤ rest.length := by
  unfold scan at h
  grind

/-! ## Reading a whole input -/

/-- The first fault of an input, with the index of the octet it starts at. -/
inductive Fault where
  /-- `length` octets at `index` begin no character. -/
  | invalid (length index : Nat)
  /-- The input ends inside the character that starts at `index`. -/
  | incomplete (index : Nat)
  deriving DecidableEq, Repr

/-- The fault in words. -/
def Fault.message : Fault → String
  | .invalid length index => s!"invalid utf-8 sequence of {length} bytes from index {index}"
  | .incomplete index => s!"incomplete utf-8 byte sequence from index {index}"

/-- Reads all characters of an input whose first octet has index `index`. -/
def decodeFrom (index : Nat) : Bytes → Except Fault (List Char)
  | [] => .ok []
  | first :: rest =>
    match h : scan first rest with
    | .char c left => do
      have := scan_char_length h
      let chars ← decodeFrom (index + (rest.length + 1 - left.length)) left
      pure (c :: chars)
    | .malformed length _ => .error (.invalid length index)
    | .truncated => .error (.incomplete index)
termination_by bytes => bytes.length

/-- Reads a text, or finds the first fault. -/
def decode (bytes : Bytes) : Except Fault String := (decodeFrom 0 bytes).map String.ofList

/-- The character that stands for a faulty run. -/
def replacement : Char := '\uFFFD'

/-- Reads all characters, with `replacement` in the place of each faulty run. -/
def decodeCharsLossy : Bytes → List Char
  | [] => []
  | first :: rest =>
    match h : scan first rest with
    | .char c left =>
      have := scan_char_length h
      c :: decodeCharsLossy left
    | .malformed _ left =>
      have := scan_malformed_length h
      replacement :: decodeCharsLossy left
    | .truncated => [replacement]
termination_by bytes => bytes.length

/-- Reads a text, with `replacement` in the place of each faulty run. -/
def decodeLossy (bytes : Bytes) : String := String.ofList (decodeCharsLossy bytes)

end SegmentSync.Utf8
