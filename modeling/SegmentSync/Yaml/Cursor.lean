/-!
# `SegmentSync.Yaml.Cursor` — a place in a text of lines

In YAML the column of a character matters, so a cursor carries it along with the rest of the text.

## Contents
- **Characters.** Line breaks, blanks, the characters of names, and the characters that may occur at all.
- **Cursors.** `Cursor`, with `skip` for characters that break no line and `skipLine` for one line break.
- **Lookahead.** What follows a cursor: a blank, the end of the line, a document mark.
-/

namespace SegmentSync.Yaml

/-! ## Characters -/

/-- A line break. A carriage return with a line feed behind it is one line break. -/
def isBreak (c : Char) : Bool :=
  c = '\n' || c = '\r' || c = '\u0085' || c = '\u2028' || c = '\u2029'

/-- A blank or a tab. -/
def isBlank (c : Char) : Bool := c = ' ' || c = '\t'

/-- Neither blank nor line break. -/
def isInk (c : Char) : Bool := !isBlank c && !isBreak c

/-- A character of anchors, of tag handles and of the names of directives. -/
def isNameChar (c : Char) : Bool := c.isAlphanum || c = '-' || c = '_'

/-- A character that may occur in a text. -/
def isAllowed (c : Char) : Bool :=
  let n := c.toNat
  n = 0x09 || n = 0x0A || n = 0x0D || (0x20 ≤ n && n ≤ 0x7E) || n = 0x85 ||
    (0xA0 ≤ n && n ≤ 0xD7FF) || (0xE000 ≤ n && n ≤ 0xFFFD) || 0x10000 ≤ n

/-- The mark of byte order, which may stand at the start of a line. -/
def byteOrderMark : Char := '\uFEFF'

/-! ## Cursors -/

/-- The rest of a text, and where it starts. -/
structure Cursor where
  rest : List Char
  /-- The number of characters before. -/
  index : Nat := 0
  line : Nat := 0
  column : Nat := 0
  deriving DecidableEq, Repr, Inhabited

namespace Cursor

/-- The next character. -/
def head? (c : Cursor) : Option Char := c.rest.head?

/-- The next character is `char`. -/
def isAt (c : Cursor) (char : Char) : Bool := c.head? = some char

/-- The cursor behind `n` characters of the same line. -/
def skip (c : Cursor) (n : Nat) : Cursor :=
  { c with rest := c.rest.drop n, index := c.index + n, column := c.column + n }

/-- The characters up to the first that is not of a class, which contains no line break. -/
def takeWhile (c : Cursor) (p : Char → Bool) : List Char := c.rest.takeWhile p

/-- The cursor behind these characters. -/
def skipWhile (c : Cursor) (p : Char → Bool) : Cursor := c.skip (c.takeWhile p).length

/-- What the next line break stands for, and the cursor behind it; nothing changes where there is none. -/
def takeLine (c : Cursor) : List Char × Cursor :=
  let next (n : Nat) : Cursor :=
    { rest := c.rest.drop n, index := c.index + n, line := c.line + 1, column := 0 }
  match c.rest with
  | '\r' :: '\n' :: _ => (['\n'], next 2)
  | '\u2028' :: _ => (['\u2028'], next 1)
  | '\u2029' :: _ => (['\u2029'], next 1)
  | char :: _ => if isBreak char then (['\n'], next 1) else ([], c)
  | [] => ([], c)

/-- The cursor behind the next line break, if there is one. -/
def skipLine (c : Cursor) : Cursor := c.takeLine.2

/-! ## Lookahead -/

/-- At the end of the text. -/
def atEnd (c : Cursor) : Bool := c.rest.isEmpty

/-- At a line break. -/
def atBreak (c : Cursor) : Bool := c.head?.any isBreak

/-- At a blank. -/
def atBlank (c : Cursor) : Bool := c.head?.any isBlank

/-- At a line break or at the end of the text. -/
def atLineEnd (c : Cursor) : Bool := c.atEnd || c.atBreak

/-- At a blank, a line break, or the end of the text. -/
def atGap (c : Cursor) : Bool := c.head?.all fun char => !isInk char

/-- At a mark of three characters at the start of a line, with a gap behind it. -/
def atDocumentMark (c : Cursor) (mark : Char) : Bool :=
  c.column = 0 && c.rest.take 3 = [mark, mark, mark] && (c.skip 3).atGap

/-- At the start or the end of a document. -/
def atAnyDocumentMark (c : Cursor) : Bool := c.atDocumentMark '-' || c.atDocumentMark '.'

/-- The rest of the line behind a header: blanks, perhaps a comment, and the line break. -/
def restOfLine? (c : Cursor) : Option Cursor :=
  let c := c.skipWhile isBlank
  let c := if c.isAt '#' then c.skipWhile (!isBreak ·) else c
  if c.atLineEnd then some c.skipLine else none

end Cursor

end SegmentSync.Yaml
