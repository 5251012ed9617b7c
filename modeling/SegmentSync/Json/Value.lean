import SegmentSync.Bytes
import SegmentSync.Json.Number
import SegmentSync.Text.Utf8

/-!
# `SegmentSync.Json.Value` — JSON values and their text

## Contents
- **Values.** The content of a string is missing where its escapes or octets stand for no text; such a string
  may stand wherever nobody looks at it.
- **Writing.** `write` is the compact form, `writePretty` the form with one member to a line.
-/

namespace SegmentSync.Json

/-! ## Values -/

/-- A JSON value. -/
inductive Value where
  | null
  | boolean (b : Bool)
  | number (n : Number)
  | string (content : Option String)
  | array (items : List Value)
  | object (members : List (Option String × Value))
  deriving Inhabited

namespace Value

/-- A natural number. -/
def natural (n : Nat) : Value := .number { whole := Decimal.digits n }

/-- An integer. -/
def integer (n : Int) : Value := .number { negative := n < 0, whole := Decimal.digits n.natAbs }

/-- A text. -/
def text (s : String) : Value := .string (some s)

/-- An object with these members. -/
def record (members : List (String × Value)) : Value :=
  .object (members.map fun (name, value) => (some name, value))

/-- The value of the first member with that name. -/
def member? (name : String) : Value → Option Value
  | .object members => members.lookup (some name)
  | _ => none

end Value

/-! ## Writing -/

/-- One character inside of a string. -/
def escapeChar (c : Char) : List Char :=
  if c = '"' then ['\\', '"']
  else if c = '\\' then ['\\', '\\']
  else if c = '\n' then ['\\', 'n']
  else if c = '\r' then ['\\', 'r']
  else if c = '\t' then ['\\', 't']
  else if c.toNat = 8 then ['\\', 'b']
  else if c.toNat = 12 then ['\\', 'f']
  else if c.toNat < 32 then
    ['\\', 'u', '0', '0', Nat.digitChar (c.toNat / 16), Nat.digitChar (c.toNat % 16)]
  else [c]

/-- A string between its quotes. -/
def stringChars (s : String) : List Char := '"' :: s.toList.flatMap escapeChar ++ ['"']

mutual

/-- The compact text of a value. -/
def Value.chars : Value → List Char
  | .null => ['n', 'u', 'l', 'l']
  | .boolean b => if b then ['t', 'r', 'u', 'e'] else ['f', 'a', 'l', 's', 'e']
  | .number n => n.chars
  | .string content => stringChars (content.getD "")
  | .array items => '[' :: itemChars items ++ [']']
  | .object members => '\x7b' :: memberChars members ++ ['\x7d']

/-- The items of an array with commas between them. -/
def itemChars : List Value → List Char
  | [] => []
  | [item] => item.chars
  | item :: rest => item.chars ++ ',' :: itemChars rest

/-- The members of an object with commas between them. -/
def memberChars : List (Option String × Value) → List Char
  | [] => []
  | [(name, value)] => stringChars (name.getD "") ++ ':' :: value.chars
  | (name, value) :: rest =>
    stringChars (name.getD "") ++ ':' :: value.chars ++ ',' :: memberChars rest

end

/-- The compact text of a value. -/
def Value.write (value : Value) : String := String.ofList value.chars

/-- A new line, indented by two blanks per level. -/
def newLine (depth : Nat) : List Char := '\n' :: List.replicate (2 * depth) ' '

mutual

/-- The text of a value inside of `depth` others, with one item or member to a line. -/
def Value.prettyChars (depth : Nat) : Value → List Char
  | .array [] => ['[', ']']
  | .array (item :: rest) =>
    '[' :: newLine (depth + 1) ++ item.prettyChars (depth + 1) ++ prettyItems (depth + 1) rest ++
      newLine depth ++ [']']
  | .object [] => ['\x7b', '\x7d']
  | .object ((name, value) :: rest) =>
    '\x7b' :: newLine (depth + 1) ++ stringChars (name.getD "") ++ ':' :: ' ' ::
      value.prettyChars (depth + 1) ++ prettyMembers (depth + 1) rest ++ newLine depth ++ ['\x7d']
  | value => value.chars

/-- Further items, each behind a comma and on its own line. -/
def prettyItems (depth : Nat) : List Value → List Char
  | [] => []
  | item :: rest => ',' :: newLine depth ++ item.prettyChars depth ++ prettyItems depth rest

/-- Further members, each behind a comma and on its own line. -/
def prettyMembers (depth : Nat) : List (Option String × Value) → List Char
  | [] => []
  | (name, value) :: rest =>
    ',' :: newLine depth ++ stringChars (name.getD "") ++ ':' :: ' ' :: value.prettyChars depth ++
      prettyMembers depth rest

end

/-- The text of a value with one item or member to a line. -/
def Value.writePretty (value : Value) : String := String.ofList (value.prettyChars 0)

end SegmentSync.Json
