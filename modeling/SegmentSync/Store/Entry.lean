import SegmentSync.Json.Node

/-!
# `SegmentSync.Store.Entry` — what a segment is made of

An entry sets a key to a value or deletes it, and carries a marker. Entries travel between stores as a blob:
the compact JSON of a list of records with the members `key`, `value` and `marker`, where keys and values are
lists of octets and the value of a deletion is null.

## Contents
- **Entries.** `Entry`, and the room that an entry takes in its segment.
- **Blobs.** `Blob.write` and `Blob.read?`.
-/

namespace SegmentSync

/-! ## Entries -/

/-- An entry of a segment. -/
structure Entry where
  key : Bytes
  /-- The value that is set; none for a deletion. -/
  value : Option Bytes
  marker : UInt64
  deriving DecidableEq, Repr, Inhabited

namespace Entry

/-- The room that each entry takes beside its key and value. -/
def headerSize : Nat := 18

/-- The room that an entry takes. -/
def size (entry : Entry) : Nat :=
  headerSize + entry.key.length + (entry.value.elim 0 List.length)

/-- The room that some entries take. -/
def sizeOf : List Entry → Nat
  | [] => 0
  | entry :: rest => entry.size + sizeOf rest

@[simp] theorem sizeOf_nil : sizeOf [] = 0 := rfl

@[simp] theorem sizeOf_cons (entry : Entry) (rest : List Entry) :
    sizeOf (entry :: rest) = entry.size + sizeOf rest := rfl

@[simp] theorem sizeOf_append (a b : List Entry) : sizeOf (a ++ b) = sizeOf a + sizeOf b := by
  induction a with
  | nil => simp
  | cons entry rest ih => simp only [List.cons_append, sizeOf_cons, ih]; omega

/-- Every entry takes room. -/
theorem size_pos (entry : Entry) : 0 < entry.size := by
  unfold size headerSize; omega

end Entry

/-! ## Blobs -/

namespace Blob

open Json (Value)

/-- Octets as a list of numbers. -/
def octets (bytes : Bytes) : Value := .array (bytes.map fun byte => .natural byte.toNat)

/-- An entry as a record. -/
def record (entry : Entry) : Value :=
  .record [("key", octets entry.key), ("value", entry.value.elim .null octets),
    ("marker", .natural entry.marker.toNat)]

/-- The blob of some entries. -/
def write (entries : List Entry) : Bytes := Utf8.encodeChars (Value.array (entries.map record)).chars

/-- Reads an entry from a record. -/
def readEntry? : Reader Value Entry := fun node => do
  match ← Node.members? ["key", "value", "marker"] node with
  | [key, value, marker] =>
    return {
      key := ← Reader.required (.each .octet) key
      value := ← Reader.withDefault none (.nullable (.each .octet)) value
      marker := ← Reader.required .word64 marker }
  | _ => none

/-- Reads the entries of a blob. -/
def read? (blob : Bytes) : Option (List Entry) := Json.readAs? (.each readEntry?) blob

end Blob

end SegmentSync
