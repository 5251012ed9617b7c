import Mathlib.Data.Finset.Card
import Mathlib.Data.List.Nodup
import SegmentSync.Table

/-!
# `SegmentSync.Proofs.Table` — tables made by many steps

## Contents
- **Many insertions.** Of several values under one key the last one counts (`Table.find?_foldl_insert`).
- **Sizes.** No operation leaves two pairs with one key (`Table.Distinct`), so that the size of a table is the number of
  its keys.
-/

namespace SegmentSync.Table

variable {κ ν : Type} [DecidableEq κ]

/-! ## Many insertions -/

/-- The values that some pairs give for a key, in their order. -/
def valuesFor (pairs : List (κ × ν)) (k : κ) : List ν := (pairs.filter fun pair => pair.1 = k).map Prod.snd

/-- **Of several values under one key the last one counts.** -/
theorem find?_foldl_insert (pairs : List (κ × ν)) (t : Table κ ν) (k : κ) :
    (pairs.foldl (fun t pair => t.insert pair.1 pair.2) t).find? k =
      (valuesFor pairs k).getLast?.or (t.find? k) := by
  -- Induction on the pairs: the table that the first one leaves is what the others start from.
  induction pairs generalizing t with
  | nil => rfl
  | cons pair rest ih =>
    rw [List.foldl_cons, ih, find?_insert]
    unfold valuesFor
    by_cases hk : pair.1 = k
    · rw [if_pos hk.symm, List.filter_cons_of_pos (by simpa using hk), List.map_cons, List.getLast?_cons]
      cases ((rest.filter fun pair => pair.1 = k).map Prod.snd).getLast? <;> rfl
    · rw [if_neg (Ne.symm hk), List.filter_cons_of_neg (by simpa using hk)]

/-! ## Sizes -/

/-- There is one pair for each key at most. -/
def Distinct (t : Table κ ν) : Prop := (t.pairs.map Prod.fst).Nodup

omit [DecidableEq κ] in
theorem distinct_empty : (empty : Table κ ν).Distinct := List.nodup_nil

variable {t : Table κ ν}

theorem Distinct.erase (h : t.Distinct) (k : κ) : (t.erase k).Distinct :=
  h.sublist (List.filter_sublist.map _)

theorem notMem_keys_erase (t : Table κ ν) (k : κ) : k ∉ (t.erase k).pairs.map Prod.fst := by
  intro hmem
  obtain ⟨pair, hpair, rfl⟩ := List.mem_map.mp hmem
  have hne := (List.mem_filter.mp hpair).2
  simp at hne

theorem Distinct.insert (h : t.Distinct) (k : κ) (v : ν) : (t.insert k v).Distinct := by
  unfold Distinct Table.insert
  rw [List.map_append]
  refine (h.erase k).append (List.nodup_singleton k) ?_
  rw [List.map_singleton, List.disjoint_singleton]
  exact t.notMem_keys_erase k

/-- A key has a value just where there is a pair for it. -/
theorem mem_keys_iff (t : Table κ ν) (k : κ) : k ∈ t.pairs.map Prod.fst ↔ (t.find? k).isSome = true := by
  constructor
  · intro hmem
    obtain ⟨pair, hpair, rfl⟩ := List.mem_map.mp hmem
    rw [Option.isSome_iff_ne_none]
    intro hnone
    have hne := List.lookup_eq_none_iff.mp hnone pair hpair
    simp at hne
  · intro hsome
    refine Classical.byContradiction fun hmem => ?_
    have hnone : t.find? k = none := by
      refine List.lookup_eq_none_iff.mpr fun pair hpair => ?_
      have hne : k ≠ pair.1 := fun heq => hmem (heq ▸ List.mem_map_of_mem hpair)
      simpa using hne
    rw [hnone] at hsome
    cases hsome

/-- **The size of a table is the number of keys that have a value.** -/
theorem Distinct.size_eq (h : t.Distinct) {keys : Finset κ} (hkeys : ∀ k, k ∈ keys ↔ (t.find? k).isSome = true) :
    t.size = keys.card := by
  have hsame : keys = (t.pairs.map Prod.fst).toFinset := by
    ext k
    rw [hkeys, List.mem_toFinset, mem_keys_iff]
  rw [hsame, List.toFinset_card_of_nodup h, List.length_map]
  rfl

end SegmentSync.Table
