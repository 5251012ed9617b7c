/-!
# `SegmentSync.Document.Node` — what readers ask of a document

Records are read from documents of more than one format. A reader asks a node for what it expects there, and
the format decides what counts as that.

## Contents
- **Nodes.** `Node`: a format's answers to the questions of readers.
- **Readers.** `Reader`, with readers for members that may be missing, for values that may be null, and for
  lists.
-/

namespace SegmentSync

/-! ## Nodes -/

/-- A format's answers to the questions of readers; none where a node is something else. -/
class Node (ν : Type) where
  /-- The members of a record with these names, in this order; a member that is missing has no value. A
      record with two members of one of these names is malformed, and members of other names do not count. -/
  members? : List String → ν → Option (List (Option ν))
  /-- The items of a list. -/
  items? : ν → Option (List ν)
  /-- A whole number below a bound. -/
  natural? : Nat → ν → Option Nat
  double? : ν → Option Float
  boolean? : ν → Option Bool
  text? : ν → Option String
  /-- The name of one of several choices. -/
  choice? : ν → Option String
  /-- Whether the value is left open; no answer where it says so and yet holds something. -/
  isOpen? : ν → Option Bool

/-! ## Readers -/

/-- Reads a value of type `α`, where there is one. -/
abbrev Reader (ν α : Type) := ν → Option α

namespace Reader

variable {ν α : Type} [Node ν]

/-- A member that must be there. -/
def required (read : Reader ν α) : Option ν → Option α
  | some node => read node
  | none => none

/-- A member that has a value of its own where it is missing. -/
def withDefault (default : α) (read : Reader ν α) : Option ν → Option α
  | some node => read node
  | none => some default

/-- A value that may be left open. -/
def nullable (read : Reader ν α) : Reader ν (Option α) := fun node => do
  if ← Node.isOpen? node then return none
  return some (← read node)

/-- A list of values. -/
def each (read : Reader ν α) : Reader ν (List α) := fun node => do
  (← Node.items? node).mapM read

/-- An octet. -/
def octet : Reader ν UInt8 := fun node => (Node.natural? UInt8.size node).map Nat.toUInt8

/-- A whole number of 32 bits. -/
def word32 : Reader ν UInt32 := fun node => (Node.natural? UInt32.size node).map Nat.toUInt32

/-- A whole number of 64 bits. -/
def word64 : Reader ν UInt64 := fun node => (Node.natural? UInt64.size node).map Nat.toUInt64

end Reader

end SegmentSync
