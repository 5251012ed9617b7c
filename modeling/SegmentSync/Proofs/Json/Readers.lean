import SegmentSync.Json.Node
import SegmentSync.Proofs.Number.Decimal

/-!
# `SegmentSync.Proofs.Json.Readers` — readers undo writers

The number that was written is the number that is read, as long as it is within the bounds of the reader; a list whose
items are read back is read back.
-/

namespace SegmentSync.Json

/-! ## Numbers -/

theorem digitsValue_digits (n : Nat) : Number.digitsValue (Decimal.digits n) = n := by
  induction n using Nat.strongRecOn with
  | ind n ih =>
    rw [Decimal.digits]
    split
    · rename_i hn
      clear ih
      revert n; decide
    · rename_i hn
      have hlast : (Nat.digitChar (n % 10)).toNat - '0'.toNat = n % 10 := by
        have hd : n % 10 < 10 := Nat.mod_lt n (by decide)
        revert hd; generalize n % 10 = d; revert d; decide
      have hfirst := ih (n / 10) (by omega)
      unfold Number.digitsValue at hfirst ⊢
      rw [List.foldl_append, hfirst, List.foldl_cons, List.foldl_nil, hlast]
      omega

theorem natural?_natural {bound n : Nat} (h : n < bound) : Node.natural? bound (Value.natural n) = some n := by
  show Number.natural? bound { whole := Decimal.digits n } = some n
  unfold Number.natural?
  simp only [digitsValue_digits, Option.isSome_none, Bool.or_false, Bool.false_eq_true, if_false, if_pos h]

theorem octet_natural (byte : UInt8) : Reader.octet (Value.natural byte.toNat) = some byte := by
  unfold Reader.octet
  rw [natural?_natural byte.toNat_lt_size, Option.map_some, Nat.toUInt8_eq, UInt8.ofNat_toNat]

theorem word32_natural (n : UInt32) : Reader.word32 (Value.natural n.toNat) = some n := by
  unfold Reader.word32
  rw [natural?_natural n.toNat_lt_size, Option.map_some, Nat.toUInt32_eq, UInt32.ofNat_toNat]

theorem word64_natural (n : UInt64) : Reader.word64 (Value.natural n.toNat) = some n := by
  unfold Reader.word64
  rw [natural?_natural n.toNat_lt_size, Option.map_some, Nat.toUInt64_eq, UInt64.ofNat_toNat]

/-! ## Lists -/

/-- A list whose items are read back is read back. -/
theorem each_map {α : Type} {reader : Reader Value α} {write : α → Value} (h : ∀ a, reader (write a) = some a)
    (items : List α) : Reader.each reader (.array (items.map write)) = some items := by
  show (items.map write).mapM reader = some items
  induction items with
  | nil => rfl
  | cons a rest ih =>
    rw [List.map_cons, List.mapM_cons, h a, Option.bind_eq_bind, Option.bind_some, ih]
    rfl

end SegmentSync.Json
