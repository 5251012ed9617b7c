/-!
# `SegmentSync.Table` — association tables

A table maps keys to values; inserting a key again replaces its value. The view of a table is `find?`, and
each operation has one equation through it.
-/

namespace SegmentSync

/-- A finite map, kept as a list of pairs with distinct keys. -/
structure Table (κ ν : Type) where
  pairs : List (κ × ν) := []

namespace Table

variable {κ ν : Type} [DecidableEq κ]

/-- The table without entries. -/
def empty : Table κ ν := ⟨[]⟩

instance : Inhabited (Table κ ν) := ⟨empty⟩

/-- The value of a key. -/
def find? (t : Table κ ν) (k : κ) : Option ν := t.pairs.lookup k

/-- The key has a value. -/
def contains (t : Table κ ν) (k : κ) : Bool := (t.find? k).isSome

/-- The table without a key. -/
def erase (t : Table κ ν) (k : κ) : Table κ ν := ⟨t.pairs.filter fun (k', _) => k' ≠ k⟩

/-- The table with a value for a key. -/
def insert (t : Table κ ν) (k : κ) (v : ν) : Table κ ν := ⟨(t.erase k).pairs ++ [(k, v)]⟩

/-- The number of keys. -/
def size (t : Table κ ν) : Nat := t.pairs.length

@[simp] theorem find?_empty (k : κ) : (empty : Table κ ν).find? k = none := rfl

theorem lookup_filter (l : List (κ × ν)) (k k' : κ) :
    (l.filter fun p => decide (p.1 ≠ k)).lookup k' = if k' = k then none else l.lookup k' := by
  induction l with
  | nil => simp
  | cons p rest ih =>
    obtain ⟨a, v⟩ := p
    by_cases ha : a = k
    · rw [List.filter_cons_of_neg (by simp [ha]), ih, List.lookup_cons]
      by_cases hk : k' = k
      · simp [hk]
      · have : (k' == a) = false := beq_false_of_ne (by rw [ha]; exact hk)
        simp only [this]
    · rw [List.filter_cons_of_pos (by simp [ha]), List.lookup_cons, List.lookup_cons, ih]
      by_cases hk : k' = a
      · subst hk; simp [ha]
      · have : (k' == a) = false := beq_false_of_ne hk
        simp only [this]

@[simp] theorem find?_erase (t : Table κ ν) (k k' : κ) :
    (t.erase k).find? k' = if k' = k then none else t.find? k' := by
  show (t.pairs.filter fun p => decide (p.1 ≠ k)).lookup k' = _
  exact lookup_filter t.pairs k k'

@[simp] theorem find?_insert (t : Table κ ν) (k : κ) (v : ν) (k' : κ) :
    (t.insert k v).find? k' = if k' = k then some v else t.find? k' := by
  have h := find?_erase t k k'
  unfold find? insert at *
  simp only [List.lookup_append, h]
  by_cases hk : k' = k
  · subst hk; simp
  · have : (k' == k) = false := by simp [hk]
    simp [hk, List.lookup_cons, this]

end Table

end SegmentSync
