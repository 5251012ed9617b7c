import SegmentSync.Error
import SegmentSync.Store.Entry

/-!
# `SegmentSync.Store.Namespace` — a log of segments, and what it amounts to

## Contents
- **The log.** A namespace has segments, of which the last one is written to. `append` adds an entry to it,
  `jump` starts a new one. The keys that are set follow from the entries.
- **Cursors.** `position` is the end of the log. `entriesFrom?` finds the entries behind a cursor, which must
  stand at the beginning of an entry or at the end of its segment.
- **Information.** The block that a store hands out about a namespace.
-/

namespace SegmentSync

/-- A namespace of a store. -/
structure Namespace where
  password : Option String := none
  /-- The segments before the current one. -/
  earlier : List (List Entry) := []
  /-- The segment that is written to. -/
  current : List Entry := []
  /-- Sets and deletions are refused. -/
  frozen : Bool := false
  /-- The keys that are set, with their values. -/
  keys : Table Bytes Bytes := .empty

instance : Inhabited Namespace := ⟨{}⟩

namespace Namespace

/-! ## The log -/

/-- All segments, of which there is at least one. -/
def segments (ns : Namespace) : List (List Entry) := ns.earlier ++ [ns.current]

/-- All entries. -/
def entries (ns : Namespace) : List Entry := ns.segments.flatten

/-- What an entry does to the keys. -/
def applyEntry (keys : Table Bytes Bytes) (entry : Entry) : Table Bytes Bytes :=
  match entry.value with
  | some value => keys.insert entry.key value
  | none => keys.erase entry.key

/-- Adds an entry at the end. -/
def append (ns : Namespace) (entry : Entry) : Namespace :=
  { ns with current := ns.current ++ [entry], keys := applyEntry ns.keys entry }

/-- Starts a new segment. -/
def jump (ns : Namespace) : Namespace :=
  { ns with earlier := ns.earlier ++ [ns.current], current := [] }

/-! ## Cursors -/

/-- The end of the log. -/
def position (ns : Namespace) : Position :=
  ⟨ns.earlier.length.toUInt32, (Entry.sizeOf ns.current).toUInt64⟩

/-- The room that all entries take. -/
def size (ns : Namespace) : UInt64 := (Entry.sizeOf ns.entries).toUInt64

/-- The entries behind an offset, which must be the beginning of one or the end of the last. -/
def dropSize? : Nat → List Entry → Option (List Entry)
  | 0, entries => some entries
  | _ + 1, [] => none
  | offset + 1, entry :: rest =>
    if entry.size ≤ offset + 1 then dropSize? (offset + 1 - entry.size) rest else none
termination_by _ entries => entries.length

/-- The entries of a segment behind a cursor. -/
def entriesFrom? (ns : Namespace) (at_ : Position) : Except ProtocolError (List Entry) :=
  match ns.segments[at_.segment.toNat]? with
  | none => .error (.server ("Invalid data id " ++ Decimal.text at_.segment.toNat))
  | some segment =>
    match dropSize? at_.offset.toNat segment with
    | none => .error (.server ("Invalid offset " ++ Decimal.text at_.offset.toNat))
    | some entries => .ok entries

/-! ## Information -/

/-- A line of the information block. -/
def infoLine (field value : String) : String := field ++ ": " ++ value ++ "\n"

/-- The information block of the namespace under its name. -/
def info (ns : Namespace) (name : String) : String :=
  "# namespace\n" ++ infoLine "name" name ++ infoLine "entries" (Decimal.text ns.keys.size) ++
    infoLine "password" (if ns.password.isSome then "yes" else "no") ++
    infoLine Answer.sizeField (Decimal.text ns.size.toNat) ++
    infoLine Answer.segmentField (Decimal.text ns.position.segment.toNat) ++
    infoLine Answer.offsetField (Decimal.text ns.position.offset.toNat)

end Namespace

end SegmentSync
