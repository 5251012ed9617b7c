import SegmentSync.Yaml.Property

/-!
# `SegmentSync.Yaml.Token` — the tokens of a text

The layout of a text decides on its structure: indentation opens and closes collections, and a colon turns what
stands before it on its line into a key. Both come out as tokens of their own.

## Contents
- **Tokens.** `Token`.
- **State.** `Scanner` knows the columns of the open collections, the depth of brackets, and for every
  depth the place of a key that may still turn out to be one.
- **Keys.** A key is found at its colon: it must be on the same line, within 1024 characters. What starts a
  line of a block mapping must turn out to be a key.
- **Tokens one by one.** `next?` reads one token; `Token.scan?` reads them all.
-/

namespace SegmentSync.Yaml

/-! ## Tokens -/

/-- How a scalar is written. -/
inductive ScalarStyle where
  | plain
  | quoted
  | literal
  | folded
  deriving DecidableEq, Repr, Inhabited

/-- A token. -/
inductive Token where
  | directive (directive : Directive)
  | documentStart
  | documentEnd
  | blockSequenceStart
  | blockMappingStart
  | blockEnd
  | flowSequenceStart
  | flowSequenceEnd
  | flowMappingStart
  | flowMappingEnd
  | blockEntry
  | flowEntry
  | key
  | value
  | alias (name : List Char)
  | anchor (name : List Char)
  | tag (tag : Tag)
  | scalar (style : ScalarStyle) (text : List Char)
  deriving DecidableEq, Repr, Inhabited

/-! ## State -/

/-- A place where a key may have started. -/
structure KeyPlace where
  /-- It must turn out to be a key. -/
  required : Bool
  /-- The number of tokens before it. -/
  index : Nat
  start : Cursor

/-- A text that has been read up to a cursor. -/
structure Scanner where
  cursor : Cursor
  /-- The tokens, the latest first. -/
  tokens : List Token := []
  /-- The column of the innermost open block collection; none outside of all. -/
  indent : Option Nat := none
  /-- The columns of the collections around it, the innermost first. -/
  outer : List (Option Nat) := []
  /-- A key may start here. -/
  keyAllowed : Bool := true
  /-- The place of a possible key outside of brackets, or inside of the innermost ones. -/
  place : Option KeyPlace := none
  /-- The places outside of each open bracket, the innermost first. -/
  outerPlaces : List (Option KeyPlace) := []

namespace Scanner

/-- Inside of brackets. -/
def inFlow (s : Scanner) : Bool := !s.outerPlaces.isEmpty

/-- The column of the next character. -/
def column (s : Scanner) : Nat := s.cursor.column

/-- Adds a token. -/
def push (s : Scanner) (token : Token) : Scanner := { s with tokens := token :: s.tokens }

/-- Adds a token behind the first `index` ones. -/
def insert (s : Scanner) (index : Nat) (token : Token) : Scanner :=
  let later := s.tokens.length - index
  { s with tokens := s.tokens.take later ++ token :: s.tokens.drop later }

/-- Goes on behind `n` characters. -/
def skip (s : Scanner) (n : Nat) : Scanner := { s with cursor := s.cursor.skip n }

/-- The column is further in than the innermost open block collection. -/
def isDeeper (s : Scanner) (column : Nat) : Bool := s.indent.all (· < column)

/-- Opens a block collection at a column, unless one is open there or further in; its token stands behind
    the first `index` ones. -/
def openBlock (s : Scanner) (column index : Nat) (token : Token) : Scanner :=
  if s.inFlow || !s.isDeeper column then s
  else { s.insert index token with indent := some column, outer := s.indent :: s.outer }

/-- Closes the block collections that are further in than a column, all of them where there is none. -/
def closeBlocks (column : Option Nat) : Nat → Scanner → Scanner
  | 0, s => s
  | fuel + 1, s =>
    match s.indent with
    | none => s
    | some indent =>
      if column.any (indent ≤ ·) then s
      else closeBlocks column fuel
        { s.push .blockEnd with indent := s.outer.head?.join, outer := s.outer.tail }

/-- Closes the block collections that do not reach to a column. -/
def unroll (s : Scanner) (column : Option Nat) : Scanner :=
  if s.inFlow then s else closeBlocks column (s.outer.length + 1) s

/-! ## Keys -/

/-- Gives up the place of a possible key, which must not be required. -/
def dropPlace? (s : Scanner) : Option Scanner :=
  if s.place.any KeyPlace.required then none else some { s with place := none }

/-- Remembers the cursor as the place of a possible key, where one is allowed. -/
def savePlace? (s : Scanner) : Option Scanner := do
  if s.keyAllowed then
    let s ← s.dropPlace?
    -- At the column of an open mapping nothing but a key may start.
    let required := !s.inFlow && s.indent = some s.column
    return { s with place := some ⟨required, s.tokens.length, s.cursor⟩ }
  else return s

/-- A key may not reach over a line break, nor over so many characters. -/
def longestKey : Nat := 1024

/-- The place is still that of a possible key. -/
def isLive (s : Scanner) (place : KeyPlace) : Bool :=
  place.start.line = s.cursor.line && s.cursor.index ≤ place.start.index + longestKey

/-- The place of the key that a colon ends, if there is one. -/
def livePlace? (s : Scanner) : Option (Option KeyPlace) :=
  match s.place with
  | none => some none
  | some place =>
    if s.isLive place then some (some place)
    else if place.required then none
    else some none

/-! ## Tokens one by one -/

/-- Goes on behind blanks, comments and line breaks. A tab does not count as a blank where it would
    indent. -/
def skipGap : Nat → Scanner → Scanner
  | 0, s => s
  | fuel + 1, s =>
    let c := s.cursor
    let c := if c.column = 0 && c.isAt byteOrderMark then c.skip 1 else c
    let tabs := s.inFlow || !s.keyAllowed
    let c := c.skipWhile fun char => char = ' ' || (tabs && char = '\t')
    let c := if c.isAt '#' then c.skipWhile (!isBreak ·) else c
    if c.atBreak then
      -- On a new line outside of brackets there is room for a key.
      skipGap fuel { s with cursor := c.skipLine, keyAllowed := s.keyAllowed || !s.inFlow }
    else { s with cursor := c }

/-- Adds a token that is read at the cursor. -/
def finish (s : Scanner) (token : Token) (cursor : Cursor) : Scanner :=
  { s.push token with cursor }

/-- Ends all block collections before a line that belongs to none. -/
def leaveBlocks? (s : Scanner) : Option Scanner := do
  let s ← (s.unroll none).dropPlace?
  return { s with keyAllowed := false }

/-- The start or end of a document. -/
def documentMark? (s : Scanner) (token : Token) : Option Scanner := do
  let s ← s.leaveBlocks?
  return (s.push token).skip 3

/-- An opening bracket. -/
def openFlow? (s : Scanner) (token : Token) : Option Scanner := do
  let s ← s.savePlace?
  return ({ s with
    outerPlaces := s.place :: s.outerPlaces, place := none, keyAllowed := true }.push token).skip 1

/-- A closing bracket. -/
def closeFlow? (s : Scanner) (token : Token) : Option Scanner := do
  let s ← s.dropPlace?
  let s := match s.outerPlaces with
    | [] => s
    | place :: outerPlaces => { s with place, outerPlaces }
  return ({ s with keyAllowed := false }.push token).skip 1

/-- A comma inside of brackets. -/
def flowEntry? (s : Scanner) : Option Scanner := do
  let s ← s.dropPlace?
  return ({ s with keyAllowed := true }.push .flowEntry).skip 1

/-- The dash before an entry of a block sequence. -/
def blockEntry? (s : Scanner) : Option Scanner := do
  if !s.inFlow && !s.keyAllowed then none
  let s ← (s.openBlock s.column s.tokens.length .blockSequenceStart).dropPlace?
  return ({ s with keyAllowed := true }.push .blockEntry).skip 1

/-- The question mark before a key. -/
def explicitKey? (s : Scanner) : Option Scanner := do
  if !s.inFlow && !s.keyAllowed then none
  let s ← (s.openBlock s.column s.tokens.length .blockMappingStart).dropPlace?
  return ({ s with keyAllowed := !s.inFlow }.push .key).skip 1

/-- The colon before a value, which makes a key of what stands before it. -/
def value? (s : Scanner) : Option Scanner := do
  match ← s.livePlace? with
  | some place =>
    -- The mark of the key goes in first, so that the start of a mapping comes to stand before it.
    let s := s.insert place.index .key
    let s := s.openBlock place.start.column place.index .blockMappingStart
    return ({ s with place := none, keyAllowed := false }.push .value).skip 1
  | none =>
    -- A value without a key in front stands where a key could.
    if !s.inFlow && !s.keyAllowed then none
    let s := s.openBlock s.column s.tokens.length .blockMappingStart
    return ({ s with keyAllowed := !s.inFlow }.push .value).skip 1

/-- What may be a key: its place is remembered, and no key follows it directly. -/
def keyLike? (s : Scanner) (read : Cursor → Option (Token × Cursor)) : Option Scanner := do
  let s ← s.savePlace?
  let (token, cursor) ← read s.cursor
  return { s with keyAllowed := false }.finish token cursor

/-- The least column inside of the innermost open block collection. -/
def innerColumn (s : Scanner) : Nat := s.indent.elim 0 (· + 1)

/-- A block scalar. -/
def blockScalar? (s : Scanner) (style : ScalarStyle) : Option Scanner := do
  let s ← s.dropPlace?
  let (text, cursor) ←
    readBlock? (style = .folded) (s.indent.getD 0) (max s.innerColumn 1) (s.cursor.skip 1)
  return { s with keyAllowed := true }.finish (.scalar style text) cursor

/-- A quoted scalar. -/
def quotedScalar? (s : Scanner) (quote : Char) : Option Scanner :=
  s.keyLike? fun c => do
    let (text, c) ← readQuoted? quote (c.rest.length + 2) [] (c.skip 1)
    return (.scalar .quoted text, c)

/-- A plain scalar. Where a line break ended it, a key may follow. -/
def plainScalar? (s : Scanner) : Option Scanner := do
  let s ← s.savePlace?
  let plain ← readPlain? s.inFlow s.innerColumn (s.cursor.rest.length + 1) [] {} s.cursor
  return { s with keyAllowed := plain.broken }.finish (.scalar .plain plain.text) plain.cursor

/-- The characters that start no plain scalar. -/
def indicators : List Char :=
  [',', '[', ']', '\x7b', '\x7d', '#', '&', '*', '!', '|', '>', '\'', '"', '%', '@', '\u0060']

/-- A token that begins with `char`, where no document mark and no directive stands. -/
def tokenAt? (s : Scanner) (char : Char) : Option Scanner :=
  let gapNext := (s.cursor.skip 1).atGap
  match char with
  | '[' => s.openFlow? .flowSequenceStart
  | '\x7b' => s.openFlow? .flowMappingStart
  | ']' => s.closeFlow? .flowSequenceEnd
  | '\x7d' => s.closeFlow? .flowMappingEnd
  | ',' => s.flowEntry?
  | '*' => s.keyLike? fun c => (readAnchor? (c.skip 1)).map fun (name, c) => (.alias name, c)
  | '&' => s.keyLike? fun c => (readAnchor? (c.skip 1)).map fun (name, c) => (.anchor name, c)
  | '!' => s.keyLike? fun c => (readTag? s.inFlow c).map fun (tag, c) => (.tag tag, c)
  | '\'' => s.quotedScalar? '\''
  | '"' => s.quotedScalar? '"'
  | _ =>
    if char = '-' && gapNext then s.blockEntry?
    else if char = '?' && (s.inFlow || gapNext) then s.explicitKey?
    else if char = ':' && (s.inFlow || gapNext) then s.value?
    else if char = '|' && !s.inFlow then s.blockScalar? .literal
    else if char = '>' && !s.inFlow then s.blockScalar? .folded
    else if isInk char && !indicators.contains char then s.plainScalar?
    else none

/-- Reads the token behind a gap; a text that is at its end stays so. -/
def next? (s : Scanner) : Option Scanner := do
  let s := s.unroll (some s.column)
  match s.cursor.head? with
  | none => s.leaveBlocks?
  | some char =>
    if s.column = 0 && char = '%' then
      let s ← s.leaveBlocks?
      let (directive, cursor) ← readDirective? s.cursor
      return s.finish (.directive directive) cursor
    else if s.cursor.atDocumentMark '-' then s.documentMark? .documentStart
    else if s.cursor.atDocumentMark '.' then s.documentMark? .documentEnd
    else s.tokenAt? char

/-- Reads all tokens; every round uses up a character. -/
def readAll? : Nat → Scanner → Option Scanner
  | 0, _ => none
  | fuel + 1, s =>
    let s := s.skipGap (s.cursor.rest.length + 1)
    if s.cursor.atEnd then s.next? else s.next?.bind (readAll? fuel)

end Scanner

/-- The tokens of a text. A mark of byte order at its start does not belong to it. -/
def Token.scan? (text : List Char) : Option (List Token) := do
  let text := if text.head? = some byteOrderMark then text.tail else text
  if !text.all isAllowed then none
  let s ← Scanner.readAll? (text.length + 1) { cursor := { rest := text } }
  return s.tokens.reverse

end SegmentSync.Yaml
