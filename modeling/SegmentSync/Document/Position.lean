import SegmentSync.Document.Node
import SegmentSync.Json.Value
import SegmentSync.Position

/-!
# `SegmentSync.Document.Position` — cursors and snapshots in documents

## Contents
- **Reading.** `Position.reader`, `Snapshot.reader`: every member has to be there.
- **Writing.** `Position.json`, `Snapshot.json`.
-/

namespace SegmentSync

open Json (Value)

variable {ν : Type} [Node ν]

/-! ## Reading -/

/-- Reads a cursor. -/
def Position.reader : Reader ν Position := fun node => do
  match ← Node.members? ["segment", "offset"] node with
  | [segment, offset] =>
    return ⟨← Reader.required .word32 segment, ← Reader.required .word64 offset⟩
  | _ => none

/-- Reads a snapshot. -/
def Snapshot.reader : Reader ν Snapshot := fun node => do
  match ← Node.members? ["position", "size_bytes"] node with
  | [position, size] =>
    return ⟨← Reader.required Position.reader position, ← Reader.required .word64 size⟩
  | _ => none

/-! ## Writing -/

/-- A cursor with its parts named. -/
def Position.json (position : Position) : Value :=
  .record [("segment", .natural position.segment.toNat), ("offset", .natural position.offset.toNat)]

/-- A snapshot with its parts named. -/
def Snapshot.json (snapshot : Snapshot) : Value :=
  .record [("position", snapshot.position.json), ("size_bytes", .natural snapshot.size.toNat)]

end SegmentSync
