import SegmentSync.Text.Utf8
import SegmentSync.Yaml.Scalar

/-!
# `SegmentSync.Yaml.Property` — anchors, tags and directives

## Contents
- **Anchors.** The name of an anchor or of an alias, and what may stand behind it.
- **Tags.** A tag is a handle and a suffix; `%` escapes in the suffix stand for the octets of UTF-8.
- **Directives.** The version of the language, and what a tag handle stands for.
-/

namespace SegmentSync.Yaml

/-! ## Anchors -/

/-- Reads the name of an anchor or an alias behind its first character. -/
def readAnchor? (c : Cursor) : Option (List Char × Cursor) :=
  let name := c.takeWhile isNameChar
  let c := c.skip name.length
  let closed := c.atGap || c.head?.any fun char => ['?', ':', ',', ']', '\x7d', '%', '@', '\u0060'].contains char
  if name.isEmpty || !closed then none else some (name, c)

/-! ## Tags -/

/-- A tag as it is written. -/
structure Tag where
  handle : List Char
  suffix : List Char
  deriving DecidableEq, Repr, Inhabited

/-- A character of a tag's suffix; commas and brackets only where the suffix is closed by other means. -/
def isUriChar (brackets : Bool) (c : Char) : Bool :=
  isNameChar c ||
    [';', '/', '?', ':', '@', '&', '=', '+', '$', '.', '%', '!', '~', '*', '\'', '(', ')'].contains c ||
    (brackets && [',', '[', ']'].contains c)

/-- The octet that an escape at the start of a text stands for. -/
def escapedOctet? : List Char → Option UInt8
  | '%' :: a :: b :: _ => (hexNumber? [a, b]).map Nat.toUInt8
  | _ => none

/-- The number of octets of a character with this first octet. -/
def utf8Width? (first : UInt8) : Option Nat :=
  let n := first.toNat
  if n < 0x80 then some 1
  else if 0xC0 ≤ n && n < 0xE0 then some 2
  else if 0xE0 ≤ n && n < 0xF0 then some 3
  else if 0xF0 ≤ n && n < 0xF8 then some 4
  else none

/-- Reads so many escaped octets in a row. -/
def escapedOctets? : Nat → List Char → Option Bytes
  | 0, _ => some []
  | n + 1, text => do
    let octet ← escapedOctet? text
    let rest ← escapedOctets? n (text.drop 3)
    return octet :: rest

/-- Reads the escapes of one character. -/
def readUriEscape? (c : Cursor) : Option (Char × Cursor) := do
  let width ← utf8Width? (← escapedOctet? c.rest)
  match (Utf8.decode (← escapedOctets? width c.rest)).toOption.map String.toList with
  | some [char] => return (char, c.skip (3 * width))
  | _ => none

/-- Reads the suffix of a tag. -/
def readUri? (brackets : Bool) : Nat → List Char → Cursor → Option (List Char × Cursor)
  | 0, text, c => some (text, c)
  | fuel + 1, text, c =>
    match c.head? with
    | none => some (text, c)
    | some char =>
      if char = '%' then
        match readUriEscape? c with
        | none => none
        | some (char, c) => readUri? brackets fuel (text ++ [char]) c
      else if isUriChar brackets char then readUri? brackets fuel (text ++ [char]) (c.skip 1)
      else some (text, c)

/-- Reads a tag between `!<` and `>`. -/
def readVerbatimTag? (c : Cursor) : Option (Tag × Cursor) := do
  let (suffix, c) ← readUri? true (c.rest.length + 1) [] (c.skip 2)
  if suffix.isEmpty || !c.isAt '>' then none
  return (⟨[], suffix⟩, c.skip 1)

/-- Reads a handle: an exclamation mark, a name, and perhaps another exclamation mark. -/
def readHandle? (c : Cursor) : Option (List Char × Cursor) :=
  if !c.isAt '!' then none
  else
    let name := (c.skip 1).takeWhile isNameChar
    let c := c.skip (1 + name.length)
    if c.isAt '!' then some ('!' :: name ++ ['!'], c.skip 1) else some ('!' :: name, c)

/-- Reads a tag with a handle, where a name that no exclamation mark follows belongs to the suffix. -/
def readShortTag? (c : Cursor) : Option (Tag × Cursor) := do
  let (handle, c) ← readHandle? c
  if 2 ≤ handle.length && handle.getLast? = some '!' then
    let (suffix, c) ← readUri? false (c.rest.length + 1) [] c
    if suffix.isEmpty then none
    return (⟨handle, suffix⟩, c)
  let (suffix, c) ← readUri? false (c.rest.length + 1) (handle.drop 1) c
  return (if suffix.isEmpty then ⟨[], ['!']⟩ else ⟨['!'], suffix⟩, c)

/-- Reads a tag. -/
def readTag? (flow : Bool) (c : Cursor) : Option (Tag × Cursor) := do
  let (tag, c) ← if (c.skip 1).isAt '<' then readVerbatimTag? c else readShortTag? c
  if !(c.atGap || (flow && c.isAt ',')) then none
  return (tag, c)

/-! ## Directives -/

/-- A directive. -/
inductive Directive where
  | version (major minor : Nat)
  | tag (handle replacement : List Char)
  deriving DecidableEq, Repr

/-- Reads a number of at most nine digits. -/
def readVersionNumber? (c : Cursor) : Option (Nat × Cursor) :=
  let digits := c.takeWhile Char.isDigit
  if digits.isEmpty || 9 < digits.length then none
  else some (digits.foldl (fun n d => n * 10 + (d.toNat - 48)) 0, c.skip digits.length)

/-- Reads the version behind the name of its directive. -/
def readVersion? (c : Cursor) : Option (Directive × Cursor) := do
  let (major, c) ← readVersionNumber? (c.skipWhile isBlank)
  if !c.isAt '.' then none
  let (minor, c) ← readVersionNumber? (c.skip 1)
  return (.version major minor, c)

/-- Reads handle and replacement behind the name of their directive. -/
def readTagDirective? (c : Cursor) : Option (Directive × Cursor) := do
  let (handle, c) ← readHandle? (c.skipWhile isBlank)
  if handle ≠ ['!'] && handle.getLast? ≠ some '!' then none
  if !c.atBlank then none
  let c := c.skipWhile isBlank
  let (replacement, c) ← readUri? true (c.rest.length + 1) [] c
  if replacement.isEmpty || !c.atGap then none
  return (.tag handle replacement, c)

/-- Reads a directive with the rest of its line. -/
def readDirective? (c : Cursor) : Option (Directive × Cursor) := do
  let c := c.skip 1
  let name := c.takeWhile isNameChar
  let c := c.skip name.length
  if !c.atGap then none
  let (directive, c) ←
    if name = ['Y', 'A', 'M', 'L'] then readVersion? c
    else if name = ['T', 'A', 'G'] then readTagDirective? c
    else none
  return (directive, ← c.restOfLine?)

end SegmentSync.Yaml
