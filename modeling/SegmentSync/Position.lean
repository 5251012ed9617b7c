import SegmentSync.Number.Decimal

/-!
# `SegmentSync.Position` — cursors into a segmented log

A namespace is an append-only log, cut into numbered segments. A `Position` is a cursor into it, a
`Snapshot` a cursor together with the size of the data, and `Snapshot.decide` compares the snapshots of both
sides of a replication.

## Contents
- **Cursors.** `Position`, ordered by segment first and offset second; `next?` is the first position of the
  following segment, which the last segment number does not have.
- **Snapshots.** `Snapshot`, `Decision`, `Snapshot.decide`.
-/

namespace SegmentSync

/-- A replication cursor: a segment and an offset inside of it. -/
structure Position where
  segment : UInt32
  offset : UInt64
  deriving DecidableEq, Repr, Inhabited

namespace Position

/-- The start of the log. -/
def zero : Position := ⟨0, 0⟩

/-- Segments first, then offsets. -/
instance : LT Position :=
  ⟨fun a b => a.segment < b.segment ∨ (a.segment = b.segment ∧ a.offset < b.offset)⟩

instance : LE Position := ⟨fun a b => a < b ∨ a = b⟩

instance (a b : Position) : Decidable (a < b) :=
  inferInstanceAs (Decidable (a.segment < b.segment ∨ (a.segment = b.segment ∧ a.offset < b.offset)))

instance (a b : Position) : Decidable (a ≤ b) := inferInstanceAs (Decidable (a < b ∨ a = b))

/-- The first position of the following segment, if there is a number for it. -/
def next? (p : Position) : Option Position :=
  if p.segment.toNat + 1 < UInt32.size then some ⟨p.segment + 1, 0⟩ else none

/-- Segment and offset with a colon between them. -/
def text (p : Position) : String :=
  Decimal.text p.segment.toNat ++ ":" ++ Decimal.text p.offset.toNat

theorem lt_def {a b : Position} :
    a < b ↔ a.segment < b.segment ∨ (a.segment = b.segment ∧ a.offset < b.offset) := Iff.rfl

theorem le_def {a b : Position} : a ≤ b ↔ a < b ∨ a = b := Iff.rfl

end Position

/-- A point-in-time reading of a namespace: its end cursor and the size of its data in bytes. -/
structure Snapshot where
  position : Position
  size : UInt64
  deriving DecidableEq, Repr, Inhabited

/-- What a replication has to do next. -/
inductive Decision where
  /-- The slave is ahead of the master: the roles are swapped or a store is corrupt. -/
  | fatal
  /-- The slave has caught up. -/
  | wait
  /-- The slave is strictly behind. -/
  | advance
  deriving DecidableEq, Repr

/-- Compares the cursors of both sides; sizes do not matter. -/
def Snapshot.decide (master slave : Snapshot) : Decision :=
  if master.position < slave.position then .fatal
  else if slave.position = master.position then .wait
  else .advance

end SegmentSync
