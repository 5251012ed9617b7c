import SegmentSync.Yaml.Cursor

/-!
# `SegmentSync.Yaml.Scalar` — the text of scalars

A scalar is written plain, between quotes, or as a block of indented lines. Within a plain or a quoted scalar
a gap with a single line break in it stands for a blank; further line breaks stand for themselves.

## Contents
- **Gaps.** `Gap`: what stands between two words, and the text that it comes to.
- **Plain scalars.** `readPlain?`.
- **Quoted scalars.** `readQuoted?`, with the escapes of double quotes.
- **Block scalars.** `readBlock?`, literal or folded, with its three ways to end.

Every reader works with as much fuel as there are characters; each of its rounds uses up at least one.
-/

namespace SegmentSync.Yaml

/-! ## Gaps -/

/-- What stands between two words. -/
structure Gap where
  /-- Blanks before the first line break. -/
  blanks : List Char := []
  broken : Bool := false
  /-- The first line break. -/
  first : List Char := []
  /-- The line breaks after it. -/
  more : List Char := []
  deriving Inhabited

/-- The text that a gap comes to. -/
def Gap.text (gap : Gap) : List Char :=
  if !gap.broken then gap.blanks
  else if gap.first = ['\n'] then (if gap.more.isEmpty then [' '] else gap.more)
  else gap.first ++ gap.more

/-- Reads a gap. `strict` is the column before which no tab may stand on a further line, if there is one. -/
def readGap? (strict : Option Nat) : Nat → Gap → Cursor → Option (Gap × Cursor)
  | 0, gap, c => some (gap, c)
  | fuel + 1, gap, c =>
    if c.atBlank then
      if gap.broken && c.isAt '\t' && strict.any fun column => c.column < column then none
      else
        -- Blanks count only where no line break follows.
        let gap := if gap.broken then gap else { gap with blanks := gap.blanks ++ c.rest.take 1 }
        readGap? strict fuel gap (c.skip 1)
    else if c.atBreak then
      let (text, next) := c.takeLine
      let gap :=
        if gap.broken then { gap with more := gap.more ++ text }
        else { gap with blanks := [], broken := true, first := text }
      readGap? strict fuel gap next
    else some (gap, c)

/-! ## Plain scalars -/

/-- The characters that end a plain scalar inside of brackets. -/
def flowIndicators : List Char := [',', '[', ']', '\x7b', '\x7d']

/-- The word at the start of a text. Inside of brackets a colon directly before an indicator is an error. -/
def plainWord? (flow : Bool) : List Char → Option (List Char)
  | [] => some []
  | char :: rest =>
    if !isInk char then some []
    else if flow && char = ':' && rest.head?.any fun c => c = '?' || flowIndicators.contains c then none
    else if char = ':' && rest.head?.all (fun c => !isInk c) then some []
    else if flow && flowIndicators.contains char then some []
    else (plainWord? flow rest).map (char :: ·)

/-- A scalar that has been read, whether a line break ended it, and the cursor behind it. -/
structure PlainText where
  text : List Char
  broken : Bool
  cursor : Cursor

/-- Reads the rest of a plain scalar; `column` is the least column of its further lines. -/
def readPlain? (flow : Bool) (column : Nat) : Nat → List Char → Gap → Cursor → Option PlainText
  | 0, _, _, _ => none
  | fuel + 1, text, gap, c => do
    if c.atAnyDocumentMark || c.isAt '#' then return ⟨text, gap.broken, c⟩
    let word ← plainWord? flow c.rest
    let (text, gap) := if word.isEmpty then (text, gap) else (text ++ gap.text ++ word, {})
    let c := c.skip word.length
    if c.atEnd || !c.atGap then return ⟨text, gap.broken, c⟩
    let (gap, c) ← readGap? (some column) (c.rest.length + 1) gap c
    if !flow && c.column < column then return ⟨text, gap.broken, c⟩
    readPlain? flow column fuel text gap c

/-! ## Quoted scalars -/

/-- The value of a hexadecimal digit. -/
def hexDigit? (c : Char) : Option Nat :=
  if '0' ≤ c && c ≤ '9' then some (c.toNat - 48)
  else if 'a' ≤ c && c ≤ 'f' then some (c.toNat - 87)
  else if 'A' ≤ c && c ≤ 'F' then some (c.toNat - 55)
  else none

/-- The number that some hexadecimal digits write. -/
def hexNumber? (digits : List Char) : Option Nat :=
  digits.foldlM (fun n c => (hexDigit? c).map fun d => n * 16 + d) 0

/-- The character that an escape of one letter stands for. -/
def escapes : List (Char × Char) :=
  [('0', '\x00'), ('a', '\x07'), ('b', '\x08'), ('t', '\t'), ('\t', '\t'), ('n', '\n'), ('v', '\x0b'),
    ('f', '\x0c'), ('r', '\r'), ('e', '\x1b'), (' ', ' '), ('"', '"'), ('/', '/'), ('\\', '\\'),
    ('N', '\u0085'), ('_', '\u00a0'), ('L', '\u2028'), ('P', '\u2029')]

/-- How many hexadecimal digits follow a letter that announces a code point. -/
def codeLengths : List (Char × Nat) := [('x', 2), ('u', 4), ('U', 8)]

/-- The character of a code point. -/
def charOf? (n : Nat) : Option Char := if n.isValidChar then some (Char.ofNat n) else none

/-- The character that an escape stands for, whose backslash has been read, and how long it is. -/
def readEscape? : List Char → Option (Char × Nat)
  | [] => none
  | letter :: rest =>
    match escapes.lookup letter, codeLengths.lookup letter with
    | some c, _ => some (c, 1)
    | none, some length => do
      let digits := rest.take length
      if digits.length < length then none
      let c ← charOf? (← hexNumber? digits)
      return (c, 1 + length)
    | none, none => none

/-- Reads the characters of a quoted scalar up to its quote, a gap, or an escaped line break, which is
    reported. -/
def readQuotedWord? (quote : Char) : Nat → List Char → Cursor → Option (List Char × Bool × Cursor)
  | 0, _, _ => none
  | fuel + 1, text, c =>
    match c.rest with
    | [] => some (text, false, c)
    | char :: rest =>
      if !isInk char then some (text, false, c)
      else if quote = '\'' && char = '\'' && rest.head? = some '\'' then
        readQuotedWord? quote fuel (text ++ ['\'']) (c.skip 2)
      else if char = quote then some (text, false, c)
      else if quote = '"' && char = '\\' then
        if rest.head?.any isBreak then some (text, true, (c.skip 1).skipLine)
        else
          match readEscape? rest with
          | none => none
          | some (escaped, length) =>
            readQuotedWord? quote fuel (text ++ [escaped]) (c.skip (1 + length))
      else readQuotedWord? quote fuel (text ++ [char]) (c.skip 1)

/-- Reads the rest of a quoted scalar with its closing quote. -/
def readQuoted? (quote : Char) : Nat → List Char → Cursor → Option (List Char × Cursor)
  | 0, _, _ => none
  | fuel + 1, text, c => do
    if c.atAnyDocumentMark || c.atEnd then none
    let (text, escapedBreak, c) ← readQuotedWord? quote (c.rest.length + 1) text c
    if c.isAt quote then return (text, c.skip 1)
    -- An escaped line break leaves a gap that is broken and yet begins with nothing.
    let (gap, c) ← readGap? none (c.rest.length + 1) { broken := escapedBreak } c
    readQuoted? quote fuel (text ++ gap.text) c

/-! ## Block scalars -/

/-- What becomes of the line breaks at the end of a block scalar. -/
inductive Chomping where
  /-- The first one is kept. -/
  | clip
  /-- None is kept. -/
  | strip
  /-- All are kept. -/
  | keep
  deriving DecidableEq, Repr

/-- The chomping that a sign asks for. -/
def chomping? : List Char → Option Chomping
  | '+' :: _ => some .keep
  | '-' :: _ => some .strip
  | _ => none

/-- The indentation that a digit asks for, which must not be zero. -/
def indentation? : List Char → Option (Option Nat)
  | char :: _ =>
    if '1' ≤ char && char ≤ '9' then some (some (char.toNat - 48))
    else if char = '0' then none
    else some none
  | [] => some none

/-- Reads the header of a block scalar behind its first character: a sign and a digit, in any order, either
    of which may be missing, and the rest of the line. -/
def readBlockHeader? (c : Cursor) : Option (Chomping × Option Nat × Cursor) := do
  match chomping? c.rest with
  | some chomping =>
    let indentation ← indentation? (c.rest.drop 1)
    let c ← (c.skip (if indentation.isSome then 2 else 1)).restOfLine?
    return (chomping, indentation, c)
  | none =>
    match ← indentation? c.rest with
    | some n =>
      let chomping := chomping? (c.rest.drop 1)
      let c ← (c.skip (if chomping.isSome then 2 else 1)).restOfLine?
      return (chomping.getD .clip, some n, c)
    | none => return (.clip, none, ← c.restOfLine?)

/-- Reads indentation and empty lines; gives their line breaks and the widest indentation. Where the
    indentation of the block is not known yet, no tab may stand in it. -/
def readEmptyLines? (indent : Option Nat) :
    Nat → (widest : Nat) → List Char → Cursor → Option (List Char × Nat × Cursor)
  | 0, _, _, _ => none
  | fuel + 1, widest, breaks, c =>
    -- Blanks beyond a known indentation belong to the line.
    let blanks := (c.takeWhile (· = ' ')).length
    let c := c.skip (match indent with
      | some n => min blanks (n - c.column)
      | none => blanks)
    let widest := max widest c.column
    if c.isAt '\t' && indent.all fun n => c.column < n then none
    else if c.atBreak then
      let (text, next) := c.takeLine
      readEmptyLines? indent fuel widest (breaks ++ text) next
    else some (breaks, widest, c)

/-- The lines of a block scalar as far as they have been read. -/
structure BlockText where
  text : List Char := []
  /-- The line break of the latest line. -/
  lineBreak : List Char := []
  /-- The line breaks of the empty lines after it. -/
  more : List Char
  /-- The latest line begins with a blank. -/
  blank : Bool := false

/-- Takes a line. Folding turns the single line break between two lines into a blank, unless one of them
    begins with a blank. -/
def BlockText.addLine (block : BlockText) (folded : Bool) (line : List Char) : BlockText :=
  let blank := line.head?.any isBlank
  let joint :=
    if folded && block.lineBreak = ['\n'] && !block.blank && !blank then
      (if block.more.isEmpty then [' '] else [])
    else block.lineBreak
  { block with text := block.text ++ joint ++ block.more ++ line, blank }

/-- Reads the lines of a block scalar. -/
def readBlockLines? (folded : Bool) (indent : Nat) :
    Nat → BlockText → Cursor → Option (BlockText × Cursor)
  | 0, _, _ => none
  | fuel + 1, block, c =>
    if c.column ≠ indent || c.atEnd then some (block, c)
    else do
      let line := c.takeWhile (!isBreak ·)
      let (lineBreak, c) := (c.skip line.length).takeLine
      let (more, _, c) ← readEmptyLines? (some indent) (c.rest.length + 1) 0 [] c
      readBlockLines? folded indent fuel { block.addLine folded line with lineBreak, more } c

/-- The text of a block scalar with its end chomped. -/
def BlockText.chomp (block : BlockText) : Chomping → List Char
  | .strip => block.text
  | .clip => block.text ++ block.lineBreak
  | .keep => block.text ++ block.lineBreak ++ block.more

/-- Reads a block scalar behind its first character. `least` is the least indentation of its lines where the
    lines themselves decide on it, and the base where the header does. -/
def readBlock? (folded : Bool) (base : Nat) (least : Nat) (c : Cursor) : Option (List Char × Cursor) := do
  let (chomping, indentation, c) ← readBlockHeader? c
  let asked := indentation.map (base + ·)
  let (more, widest, c) ← readEmptyLines? asked (c.rest.length + 1) 0 [] c
  let indent := asked.getD (max widest least)
  let (block, c) ← readBlockLines? folded indent (c.rest.length + 1) { more } c
  return (block.chomp chomping, c)

end SegmentSync.Yaml
