import SegmentSync.Document.Node
import SegmentSync.Json.Reader

/-!
# `SegmentSync.Json.Node` — JSON values as nodes of a document

A record is an object, or an array of the values of its members in their order, where those at the end may be
missing. A choice is a string, or an object whose only member is its name with a null.
-/

namespace SegmentSync.Json

/-- The value of the only member with that name; nothing where there are two. -/
def onlyMember? (members : List (Option String × Value)) (name : String) : Option (Option Value) :=
  match members.filter fun (name', _) => name' = some name with
  | [] => some none
  | [(_, value)] => some (some value)
  | _ => none

/-- The members of a record. The name of every member of an object has to be a text. -/
def members? (names : List String) : Value → Option (List (Option Value))
  | .object members =>
    if members.all fun (name, _) => name.isSome then names.mapM (onlyMember? members) else none
  | .array items =>
    if items.length ≤ names.length then
      some (items.map some ++ List.replicate (names.length - items.length) none)
    else none
  | _ => none

/-- The name of a choice. -/
def choice? : Value → Option String
  | .string content => content
  | .object [(name, .null)] => name
  | _ => none

instance : Node Value where
  members? := members?
  items?
    | .array items => some items
    | _ => none
  natural? bound
    | .number n => n.natural? bound
    | _ => none
  double?
    | .number n => n.double?
    | _ => none
  boolean?
    | .boolean b => some b
    | _ => none
  text?
    | .string content => content
    | _ => none
  choice? := choice?
  isOpen?
    | .null => some true
    | _ => some false

/-- Reads a document that holds one value of a type and nothing else. -/
def readAs? {α : Type} (reader : Reader Value α) (bytes : Bytes) : Option α :=
  (read? bytes).bind reader

end SegmentSync.Json
