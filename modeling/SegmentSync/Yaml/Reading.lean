import SegmentSync.Document.Node
import SegmentSync.Number.Lexical
import SegmentSync.Yaml.Node

/-!
# `SegmentSync.Yaml.Reading` — nodes of a YAML document as values

A scalar is read as what the reader asks for: any scalar is a text, and a plain one may also be a number, a
boolean or null.

## Contents
- **Scalars.** Numbers in their bases, doubles with their special names, booleans, null.
- **The format.** The instance of `Node`: records are mappings, choices are scalars or tags, and a place
  where nothing is written is an empty record or list.
-/

namespace SegmentSync.Yaml

/-! ## Scalars -/

/-- The tag of a kind of scalars. -/
def kindTag (kind : String) : List Char := "tag:yaml.org,2002:".toList ++ kind.toList

/-- The text of a scalar that may be something else than a text: a plain one, or a literal one whose tag
    says so. -/
def bareText? (kind : String) : Node → Option (List Char)
  | .scalar .plain _ text => some text
  | .scalar .literal (some tag) text => if tag = kindTag kind then some text else none
  | _ => none

/-- A digit. -/
def isDigit (c : Char) : Bool := c.isDigit

/-- Digits with a zero before them are no number. -/
def hasLeadingZero (text : List Char) : Bool :=
  let digits := match text with
    | '+' :: rest => rest
    | '-' :: rest => rest
    | rest => rest
  1 < digits.length && digits.head? = some '0' && digits.all isDigit

/-- The letters that announce a base. -/
def bases : List (Char × Nat) := [('x', 16), ('o', 8), ('b', 2)]

/-- Reads digits in the base that is announced before them. -/
def readAnnounced? : List Char → Option Nat
  | '0' :: letter :: digits => (bases.lookup letter).bind fun base => Decimal.readBase? base digits
  | _ => none

/-- Reads a whole number below a bound. -/
def readNatural? (bound : Nat) (text : List Char) : Option Nat :=
  let unsigned := if text.head? = some '+' then text.drop 1 else text
  let value := match readAnnounced? unsigned with
    | some n => some n
    -- Behind the letter of a base zeros may stand in front, in decimal they may not.
    | none => if hasLeadingZero text then none else Decimal.readBase? 10 unsigned
  value.filter (· < bound)

/-- Reads a double: infinities and the value that is no number have names with a point. -/
def readDouble? (text : List Char) : Option Float :=
  let unsigned := if text.head? = some '+' then text.drop 1 else text
  let signs := text.head? = some '+' && (unsigned.head? = some '+' || unsigned.head? = some '-')
  if signs then none
  else if [".inf", ".Inf", ".INF"].contains (String.ofList unsigned) then some (1 / 0)
  else if ["-.inf", "-.Inf", "-.INF"].contains (String.ofList text) then some (-1 / 0)
  else if [".nan", ".NaN", ".NAN"].contains (String.ofList text) then some (0 / 0)
  else Binary64.read? unsigned

/-- Reads a boolean. -/
def readBoolean? (text : List Char) : Option Bool :=
  if ["true", "True", "TRUE"].contains (String.ofList text) then some true
  else if ["false", "False", "FALSE"].contains (String.ofList text) then some false
  else none

/-- A text that stands for null. -/
def isNullText (text : List Char) : Bool := ["null", "Null", "NULL", "~"].contains (String.ofList text)

/-- Whether the node is null, or nothing is written in its place. The tag of null wants one of its texts, and
    any other tag says that there is a value. -/
def isOpen? : Node → Option Bool
  | .scalar .plain none text => some (text.isEmpty || isNullText text)
  | .scalar .plain (some tag) text =>
    if tag ≠ kindTag "null" then some false else if isNullText text then some true else none
  | _ => some false

/-- The text of a scalar. -/
def text? : Node → Option String
  | .scalar _ _ text => some (String.ofList text)
  | _ => none

/-! ## The format -/

/-- Nothing is written in the place of the node. -/
def isBlankPlace : Node → Bool
  | .scalar .plain _ text => text.isEmpty
  | _ => false

/-- The value of the only pair with that key; nothing where there are two. -/
def onlyPair? (pairs : List (String × Node)) (name : String) : Option (Option Node) :=
  match pairs.filter fun (key, _) => key = name with
  | [] => some none
  | [(_, value)] => some (some value)
  | _ => none

/-- The members of a record. Every key has to be a scalar. -/
def members? (names : List String) : Node → Option (List (Option Node))
  | .mapping _ pairs => do
    let pairs ← pairs.mapM fun (key, value) => (text? key).map (·, value)
    names.mapM (onlyPair? pairs)
  | node => if isBlankPlace node then some (names.map fun _ => none) else none

/-- The items of a list. -/
def items? : Node → Option (List Node)
  | .sequence _ items => some items
  | node => if isBlankPlace node then some [] else none

/-- The name in a tag of one's own, which begins with an exclamation mark. -/
def ownTag? (tag : Option (List Char)) : Option (List Char) :=
  match tag with
  | some ['!'] => some ['!']
  | some ('!' :: name) => some name
  | _ => none

/-- The name of a choice: a tag of one's own on a null, or else the text of the scalar. -/
def choice? : Node → Option String
  | .scalar style tag text =>
    match ownTag? tag with
    | some name =>
      if style = .plain && (text.isEmpty || isNullText text) then some (String.ofList name) else none
    | none => some (String.ofList text)
  | _ => none

instance : SegmentSync.Node Node where
  members? := members?
  items? := items?
  natural? bound node := (bareText? "int" node).bind (readNatural? bound)
  double? node := (bareText? "float" node).bind readDouble?
  boolean? node := (bareText? "bool" node).bind readBoolean?
  text? := text?
  choice? := choice?
  isOpen? := isOpen?

/-- Reads a document that holds one value of a type. -/
def readAs? {α : Type} (reader : Reader Node α) (text : String) : Option α :=
  (Node.read? text.toList).bind reader

end SegmentSync.Yaml
