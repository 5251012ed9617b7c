import SegmentSync.Table
import SegmentSync.Yaml.Token

/-!
# `SegmentSync.Yaml.Node` — the tree of a document

## Contents
- **Nodes.** `Node`: scalars, sequences, mappings. An alias stands for the node of its anchor; inside of
  that node itself it is `circular`.
- **Reading.** The grammar of tokens: properties, then a collection of either style or a scalar; what is
  missing is an empty plain scalar.
- **Documents.** `Node.read?` wants a text of at most one document.
-/

namespace SegmentSync.Yaml

/-! ## Nodes -/

/-- A node of a document. -/
inductive Node where
  | scalar (style : ScalarStyle) (tag : Option (List Char)) (text : List Char)
  | sequence (tag : Option (List Char)) (items : List Node)
  | mapping (tag : Option (List Char)) (pairs : List (Node × Node))
  /-- An alias inside of the node that it stands for. -/
  | circular
  deriving Inhabited

/-- The node of a place where nothing is written. -/
def Node.empty : Node := .scalar .plain none []

/-- What remains to be read, and what is known about it. -/
structure Input where
  tokens : List Token
  /-- The latest node of each anchor. -/
  anchors : Table (List Char) Node := .empty
  /-- What the handles of tags stand for. -/
  handles : List (List Char × List Char) := []

/-- A part of reading; there is no answer where the text is malformed. -/
abbrev Parse := StateT Input Option

namespace Parse

/-! ## Reading -/

/-- The next token, if there is one. -/
def peek : Parse (Option Token) := do
  return (← get).tokens.head?

/-- Takes the next token. -/
def advance : Parse Unit := modify fun input => { input with tokens := input.tokens.tail }

/-- Takes the next token if it is this one; whether it was. -/
def accept (token : Token) : Parse Bool := do
  if (← peek) = some token then
    advance
    return true
  return false

/-- Takes a token that has to stand here. -/
def expect (token : Token) : Parse Unit := do
  if !(← accept token) then failure

/-- The next token is one of these. -/
def atOneOf (tokens : List Token) : Parse Bool := do
  match ← peek with
  | none => return false
  | some token => return tokens.contains token

/-- Anchor and tag of a node. -/
structure Properties where
  anchor : Option (List Char) := none
  tag : Option (List Char) := none

/-- What a tag stands for. -/
def resolve (tag : Tag) : Parse (List Char) := do
  if tag.handle.isEmpty then return tag.suffix
  match (← get).handles.lookup tag.handle with
  | some replacement => return replacement ++ tag.suffix
  | none => failure

/-- Reads an anchor, if there is one. -/
def anchor : Parse (Option (List Char)) := do
  match ← peek with
  | some (.anchor name) =>
    advance
    return some name
  | _ => return none

/-- Reads a tag, if there is one. -/
def tag : Parse (Option (List Char)) := do
  match ← peek with
  | some (.tag tag) =>
    advance
    return some (← resolve tag)
  | _ => return none

/-- Reads the properties of a node, in either order. -/
def properties : Parse Properties := do
  match ← anchor with
  | some name => return { anchor := some name, tag := ← tag }
  | none =>
    match ← tag with
    | some tag => return { tag := some tag, anchor := ← anchor }
    | none => return {}

/-- Remembers the node of an anchor, if there is an anchor. -/
def remember (anchor : Option (List Char)) (node : Node) : Parse Unit :=
  match anchor with
  | none => pure ()
  | some name => modify fun input => { input with anchors := input.anchors.insert name node }

/-- A scalar with its tag; the tag of an exclamation mark alone says nothing. -/
def scalarOf (style : ScalarStyle) (tag : Option (List Char)) (text : List Char) : Node :=
  .scalar style (tag.filter (· ≠ ['!'])) text

mutual

/-- Reads a node. `block` admits block collections, `flush` a block sequence that is not indented. -/
def node : Nat → (block flush : Bool) → Parse Node
  | 0, _, _ => failure
  | fuel + 1, block, flush => do
    match ← peek with
    | some (.alias name) =>
      advance
      match (← get).anchors.find? name with
      | some node => return node
      | none => failure
    | _ =>
      let props ← properties
      -- Until the node is known, its anchor stands for a node inside of itself.
      remember props.anchor .circular
      let node ← content fuel block flush props
      remember props.anchor node
      return node

/-- Reads a node behind its properties. -/
def content : Nat → (block flush : Bool) → Properties → Parse Node
  | 0, _, _, _ => failure
  | fuel + 1, block, flush, props => do
    match ← peek with
    | some (.scalar style text) =>
      advance
      return scalarOf style props.tag text
    | some .flowSequenceStart =>
      advance
      return .sequence props.tag (← flowItems fuel true)
    | some .flowMappingStart =>
      advance
      return .mapping props.tag (← flowPairs fuel true)
    | token =>
      -- A sequence that is not indented has entries, but no token for its start.
      if flush && token = some .blockEntry then return .sequence props.tag (← flushItems fuel)
      else if block && token = some .blockSequenceStart then
        advance
        return .sequence props.tag (← blockItems fuel)
      else if block && token = some .blockMappingStart then
        advance
        return .mapping props.tag (← blockPairs fuel)
      else if props.anchor.isSome || props.tag.isSome then return .scalar .plain props.tag []
      else failure

/-- Reads a node, or none where one of these tokens, or nothing, stands in its place. -/
def nodeUnless : Nat → (block flush : Bool) → List Token → Parse Node
  | 0, _, _, _ => failure
  | fuel + 1, block, flush, tokens => do
    if ← atOneOf tokens then return .empty else node fuel block flush

/-- Reads the entries of a block sequence with its end. -/
def blockItems : Nat → Parse (List Node)
  | 0 => failure
  | fuel + 1 => do
    if ← accept .blockEntry then
      let item ← nodeUnless fuel true false [.blockEntry, .blockEnd]
      return item :: (← blockItems fuel)
    expect .blockEnd
    return []

/-- Reads the entries of a block sequence that is not indented. -/
def flushItems : Nat → Parse (List Node)
  | 0 => failure
  | fuel + 1 => do
    if ← accept .blockEntry then
      let item ← nodeUnless fuel true false [.blockEntry, .key, .value, .blockEnd]
      return item :: (← flushItems fuel)
    return []

/-- Reads the pairs of a block mapping with its end. -/
def blockPairs : Nat → Parse (List (Node × Node))
  | 0 => failure
  | fuel + 1 => do
    if ← accept .key then
      let key ← nodeUnless fuel true true [.key, .value, .blockEnd]
      let value ← valueUnless fuel true [.key, .value, .blockEnd]
      return (key, value) :: (← blockPairs fuel)
    expect .blockEnd
    return []

/-- Reads a value behind its mark, which is empty where there is no mark. -/
def valueUnless : Nat → (block : Bool) → List Token → Parse Node
  | 0, _, _ => failure
  | fuel + 1, block, tokens => do
    if ← accept .value then nodeUnless fuel block block tokens else return .empty

/-- Reads the entries of a flow sequence with its end. -/
def flowItems : Nat → (isFirst : Bool) → Parse (List Node)
  | 0, _ => failure
  | fuel + 1, isFirst => do
    if ← accept .flowSequenceEnd then return []
    if !isFirst then expect .flowEntry
    if ← accept .flowSequenceEnd then return []
    let item ← flowItem fuel
    return item :: (← flowItems fuel false)

/-- Reads an entry of a flow sequence; a single pair is a mapping. A pair without a key loses the token
    behind its mark. -/
def flowItem : Nat → Parse Node
  | 0 => failure
  | fuel + 1 => do
    if ← accept .key then
      let empty ← atOneOf [.value, .flowEntry, .flowSequenceEnd]
      let key ← if empty then do advance; pure Node.empty else node fuel false false
      let value ← valueUnless fuel false [.flowEntry, .flowSequenceEnd]
      return .mapping none [(key, value)]
    node fuel false false

/-- Reads the pairs of a flow mapping with its end. -/
def flowPairs : Nat → (isFirst : Bool) → Parse (List (Node × Node))
  | 0, _ => failure
  | fuel + 1, isFirst => do
    if ← accept .flowMappingEnd then return []
    if !isFirst then expect .flowEntry
    if ← accept .flowMappingEnd then return []
    let pair ← flowPair fuel
    return pair :: (← flowPairs fuel false)

/-- Reads a pair of a flow mapping. -/
def flowPair : Nat → Parse (Node × Node)
  | 0 => failure
  | fuel + 1 => do
    if ← accept .key then
      let key ← nodeUnless fuel false false [.value, .flowEntry, .flowMappingEnd]
      let value ← valueUnless fuel false [.flowEntry, .flowMappingEnd]
      return (key, value)
    return (← node fuel false false, .empty)

end

/-! ## Documents -/

/-- The handles that need no directive. -/
def knownHandles : List (List Char × List Char) :=
  [(['!'], ['!']), (['!', '!'], "tag:yaml.org,2002:".toList)]

/-- Takes the directives before a document: at most one version, which must be a known one, and no handle
    twice. -/
def directives : Nat → (versionSeen : Bool) → Parse Unit
  | 0, _ => failure
  | fuel + 1, versionSeen => do
    match ← peek with
    | some (.directive (.version major minor)) =>
      if versionSeen || major ≠ 1 || (minor ≠ 1 && minor ≠ 2) then failure
      advance
      directives fuel true
    | some (.directive (.tag handle replacement)) =>
      if ((← get).handles.lookup handle).isSome then failure
      modify fun input => { input with handles := (handle, replacement) :: input.handles }
      advance
      directives fuel versionSeen
    | _ => pure ()

/-- The next token is a directive. -/
def atDirective : Parse Bool := do
  match ← peek with
  | some (.directive _) => return true
  | _ => return false

/-- Reads the content of a document behind its start. -/
def documentContent (fuel : Nat) : Parse Node := do
  if (← peek).isNone || (← atDirective) || (← atOneOf [.documentStart, .documentEnd]) then return .empty
  node fuel true false

/-- Reads a document. -/
def document (fuel : Nat) : Parse Node := do
  if (← peek).isNone then return .empty
  let isExplicit := (← atDirective) || (← atOneOf [.documentStart])
  directives fuel false
  modify fun input => { input with handles := input.handles ++ knownHandles }
  if isExplicit then
    expect .documentStart
    documentContent fuel
  else node fuel true false

/-- Takes the ends of a document. -/
def documentEnds : Nat → Parse Unit
  | 0 => pure ()
  | fuel + 1 => do
    if ← accept .documentEnd then documentEnds fuel

/-- Reads a document and nothing after it. -/
def onlyDocument (fuel : Nat) : Parse Node := do
  let node ← document fuel
  documentEnds fuel
  if (← peek).isSome then failure
  return node

end Parse

/-- Reads a text of at most one document. Each token is reached over at most four parts of the grammar. -/
def Node.read? (text : List Char) : Option Node := do
  let tokens ← Token.scan? text
  let (node, _) ← (Parse.onlyDocument (4 * tokens.length + 8)).run { tokens }
  return node

end SegmentSync.Yaml
