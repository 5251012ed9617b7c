import SegmentSync.Bytes
import SegmentSync.Text.Printable

/-!
# `SegmentSync.Text.Quoted` — text in double quotes

Quoted text stands on one line and shows every character: quotes and backslashes are escaped by a backslash,
the common controls have a letter, and all else without a printed form is written as its code point. The
apostrophe is escaped in paths only.
-/

namespace SegmentSync.Text

/-- A code point in lowercase hexadecimal, as in `\u{7f}`. -/
def codePointEscape (n : Nat) : List Char := ['\\', 'u', '\x7b'] ++ Nat.toDigits 16 n ++ ['\x7d']

/-- One character inside of double quotes. -/
def quoteChar (apostrophe : Bool) (c : Char) : List Char :=
  if c = '\x00' then ['\\', '0']
  else if c = '\t' then ['\\', 't']
  else if c = '\r' then ['\\', 'r']
  else if c = '\n' then ['\\', 'n']
  else if c = '\\' || c = '"' || (apostrophe && c = '\'') then ['\\', c]
  else if isPrintable c then [c]
  else codePointEscape c.toNat

/-- A text in double quotes. -/
def quoted (text : String) : String :=
  String.ofList (['"'] ++ text.toList.flatMap (quoteChar false) ++ ['"'])

/-- A path in double quotes, where the apostrophe is escaped too. -/
def quotedPath (path : String) : String :=
  String.ofList (['"'] ++ path.toList.flatMap (quoteChar true) ++ ['"'])

/-- Texts in brackets, with a comma between them. -/
def bracketed (items : List String) : String := "[" ++ ", ".intercalate items ++ "]"

/-- Octets as numbers in brackets. -/
def octetList (bytes : Bytes) : String := bracketed (bytes.map fun b => toString b.toNat)

end SegmentSync.Text
