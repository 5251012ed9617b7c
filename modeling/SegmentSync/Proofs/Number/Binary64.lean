import Mathlib
import SegmentSync.Number.Binary64

/-!
# `SegmentSync.Proofs.Number.Binary64` — the order of doubles is that of their values

A comparison of doubles looks at their parts: the signs first, then the exponents, then the mantissas. The parts are
those that the text of a number is made from, so that comparing them means comparing the exact values (`le_iff`). What
is no number compares with nothing, and an infinity lies on one side of everything else; neither lies between two finite
numbers (`between_iff`).

## Contents
- **Parts.** `unpack_eq`: sign, mantissa and exponent of a number.
- **Special numbers.** Which numbers are finite.
- **Values.** `value`, and the comparison of mantissas and exponents.
- **Order.** `le_iff`, `between_iff`.
-/

namespace SegmentSync.Binary64

open Float.Model (UnpackedFloat)
open Float.Model.UnpackedFloat (Sign)

/-! ## Parts -/

/-- The sign of a number, zeros included. -/
def sign (x : Float) : Sign := if isNegative x then .negative else .positive

/-- The bit of the sign. -/
abbrev signBit (x : Float) : BitVec 1 := @UnpackedFloat.unpackSign .binary64 x.toModel.toBits.toBitVec

/-- The bits of the exponent. -/
abbrev exponentBits (x : Float) : BitVec 11 :=
  @UnpackedFloat.unpackExponent .binary64 x.toModel.toBits.toBitVec

/-- The bits of the fraction. -/
abbrev fractionBits (x : Float) : BitVec 52 :=
  @UnpackedFloat.unpackMantissa .binary64 x.toModel.toBits.toBitVec

theorem toNat_exponentBits (x : Float) : (exponentBits x).toNat = exponentField x := by
  rw [exponentBits, UnpackedFloat.unpackExponent, BitVec.toNat_cast, BitVec.extractLsb_toNat,
    Nat.shiftRight_eq_div_pow]
  rfl

theorem toNat_fractionBits (x : Float) : (fractionBits x).toNat = fractionField x := by
  rw [fractionBits, UnpackedFloat.unpackMantissa, BitVec.toNat_cast, BitVec.extractLsb_toNat, Nat.shiftRight_zero]
  rfl

theorem ofBitVec_signBit (x : Float) : Sign.ofBitVec (signBit x) = sign x := by
  have hbit : (signBit x).toNat = x.toBits.toNat / twoTo 63 := by
    rw [signBit, UnpackedFloat.unpackSign, BitVec.toNat_cast, BitVec.extractLsb_toNat, Nat.shiftRight_eq_div_pow]
    exact Nat.mod_eq_of_lt (Nat.div_lt_of_lt_mul x.toBits.toNat_lt)
  unfold sign isNegative Sign.ofBitVec
  rw [← hbit]
  rcases BitVec.eq_zero_or_eq_one (signBit x) with h | h <;> rw [h] <;> rfl

theorem exponentBits_eq_iff (x : Float) (v : BitVec 11) : exponentBits x = v ↔ exponentField x = v.toNat := by
  rw [← BitVec.toNat_inj, toNat_exponentBits]

theorem fractionBits_eq_zero_iff (x : Float) : fractionBits x = 0#52 ↔ fractionField x = 0 := by
  rw [← BitVec.toNat_inj, toNat_fractionBits]
  rfl

/-- The bit that is not written stands before the fraction. -/
theorem toNat_hidden_append (v : BitVec 52) : (1#1 ++ v).toNat = twoTo 52 + v.toNat := by
  rw [BitVec.toNat_append, ← Nat.shiftLeft_add_eq_or_of_lt v.isLt, Nat.shiftLeft_eq]
  rfl

/-- **A number is unpacked into its sign, its mantissa and its exponent.** -/
theorem unpack_eq (x : Float) : x.toModel.unpack =
    if exponentField x = 2047 then
      if fractionField x = 0 then .infinity (sign x) else .notANumber
    else if h : mantissa x = 0 then .zero (sign x)
    else .finite (sign x) (mantissa x) (exponent x) (Nat.pos_of_ne_zero h) := by
  have hleast : (exponentField x : Int) = 0 → (exponentField x : Int) - 1075 + 1 = -1074 := by omega
  unfold Float.Model.unpack UnpackedFloat.unpack
  change (if exponentBits x = -1#11 then
      if fractionBits x = 0#52 then UnpackedFloat.infinity (Sign.ofBitVec (signBit x)) else .notANumber
    else if exponentBits x = 0#11 then
      if h : fractionBits x = 0#52 then UnpackedFloat.zero (Sign.ofBitVec (signBit x))
      else UnpackedFloat.finite (Sign.ofBitVec (signBit x)) (fractionBits x).toNat
        ((exponentBits x).toNat - 1075 + 1) _
    else UnpackedFloat.finite (Sign.ofBitVec (signBit x)) (1#1 ++ fractionBits x).toNat
      ((exponentBits x).toNat - 1075) _) = _
  simp only [exponentBits_eq_iff, fractionBits_eq_zero_iff, ofBitVec_signBit, toNat_fractionBits, toNat_exponentBits,
    toNat_hidden_append]
  show (if exponentField x = 2047 then _ else if exponentField x = 0 then _ else _) = _
  unfold mantissa exponent
  by_cases hspecial : exponentField x = 2047
  · rw [if_pos hspecial, if_pos hspecial]
  · rw [if_neg hspecial, if_neg hspecial]
    by_cases hzero : exponentField x = 0
    · simp only [if_pos hzero, hleast (by omega)]
    · have hne : twoTo 52 + fractionField x ≠ 0 := by
        have : 0 < twoTo 52 := by decide
        omega
      simp only [if_neg hzero, dif_neg hne]

/-! ## Special numbers -/

theorem isFinite_iff (x : Float) : x.isFinite = true ↔ exponentField x ≠ 2047 := by
  show x.toModel.unpack.isFinite = true ↔ _
  rw [unpack_eq]
  by_cases hspecial : exponentField x = 2047
  · by_cases hzero : fractionField x = 0 <;> simp [hspecial, hzero, UnpackedFloat.isFinite]
  · by_cases hzero : mantissa x = 0 <;> simp [hspecial, hzero, UnpackedFloat.isFinite]

/-- Every number that is not finite is infinite, or none. -/
theorem isFinite_iff_not_special (x : Float) : x.isFinite = true ↔ x.isNaN = false ∧ x.isInf = false := by
  show x.toModel.unpack.isFinite = true ↔ x.toModel.unpack.isNaN = false ∧ x.toModel.unpack.isInf = false
  cases x.toModel.unpack <;> simp [UnpackedFloat.isFinite, UnpackedFloat.isNaN, UnpackedFloat.isInf]

/-! ## Values -/

/-- The value of a finite number without its sign. -/
def absValue (x : Float) : ℚ := mantissa x * 2 ^ exponent x

/-- The exact value of a finite number. -/
def value (x : Float) : ℚ := if isNegative x then -absValue x else absValue x

/-- The mantissa has no more than fifty-three bits, and no less unless the exponent is the least one. -/
structure IsNormal (m : Nat) (e : Int) : Prop where
  lt : m < 2 ^ 53
  least : -1074 ≤ e
  ge : 2 ^ 52 ≤ m ∨ e = -1074

theorem isNormal (x : Float) : IsNormal (mantissa x) (exponent x) := by
  have hfraction : fractionField x < 2 ^ 52 := Nat.mod_lt _ (by decide)
  have hbit : twoTo 52 = 2 ^ 52 := rfl
  unfold mantissa exponent
  by_cases hzero : exponentField x = 0
  · rw [if_pos hzero, if_pos hzero]
    exact ⟨by omega, by omega, .inr rfl⟩
  · rw [if_neg hzero, if_neg hzero]
    exact ⟨by omega, by omega, .inl (by omega)⟩

section

variable {m n : Nat} {d e : Int}

/-- The smaller exponent decides, whatever the mantissas are. -/
theorem IsNormal.lt_of_lt (hm : IsNormal m d) (hn : IsNormal n e) (h : d < e) : (m : ℚ) * 2 ^ d < n * 2 ^ e := by
  have hmantissa : 2 ^ 52 ≤ n := by
    apply hn.ge.resolve_right
    have := hm.least
    omega
  calc (m : ℚ) * 2 ^ d < 2 ^ 53 * 2 ^ d := by gcongr; exact_mod_cast hm.lt
    _ = 2 ^ 52 * 2 ^ (d + 1) := by rw [zpow_add_one₀ (by norm_num)]; ring
    _ ≤ 2 ^ 52 * 2 ^ e := by gcongr <;> [norm_num; omega]
    _ ≤ n * 2 ^ e := by gcongr; exact_mod_cast hmantissa

/-- **Comparing exponents first and then mantissas is comparing the values.** -/
theorem IsNormal.compare_eq (hm : IsNormal m d) (hn : IsNormal n e) :
    (compare d e).then (compare m n) = compare ((m : ℚ) * 2 ^ d) (n * 2 ^ e) := by
  rcases lt_trichotomy d e with h | rfl | h
  · rw [compare_lt_iff_lt.mpr h, compare_lt_iff_lt.mpr (hm.lt_of_lt hn h)]
    rfl
  · have hpow : (0 : ℚ) < 2 ^ d := by positivity
    have hcast : StrictMono fun n : Nat => (n : ℚ) := Nat.strictMono_cast
    rw [compare_eq_iff_eq.mpr rfl, ← cmp_eq_compare, ← cmp_eq_compare, cmp_mul_pos_right hpow]
    exact (hcast.cmp_map_eq m n).symm
  · rw [compare_gt_iff_gt.mpr h, compare_gt_iff_gt.mpr (hn.lt_of_lt hm h)]
    rfl

end

theorem compare_neg_neg (p q : ℚ) : compare (-p) (-q) = (compare p q).swap := by
  have hanti : StrictAnti fun q : ℚ => -q := fun _ _ h => neg_lt_neg h
  rw [← cmp_eq_compare, ← cmp_eq_compare, cmp_swap]
  exact hanti.cmp_map_eq p q

/-! ## Order -/

variable {x y low high : Float}

/-- **Finite numbers are compared by their values.** -/
theorem compare_unpack (hx : x.isFinite = true) (hy : y.isFinite = true) :
    x.toModel.unpack.compare y.toModel.unpack = some (compare (value x) (value y)) := by
  have hpos : ∀ {m : Nat} (e : Int), m ≠ 0 → (0 : ℚ) < m * 2 ^ e := by
    intro m e hm
    have : (0 : ℚ) < m := by exact_mod_cast Nat.pos_of_ne_zero hm
    positivity
  have hnormal := (isNormal x).compare_eq (isNormal y)
  rw [unpack_eq x, unpack_eq y, if_neg ((isFinite_iff x).mp hx), if_neg ((isFinite_iff y).mp hy)]
  unfold value absValue sign
  -- A mantissa of zero makes a zero, which has no exponent to compare.
  by_cases hm : mantissa x = 0
  · by_cases hn : mantissa y = 0
    · simp [hm, hn, UnpackedFloat.compare]
    · have hq := hpos (exponent y) hn
      cases isNegative x <;> cases isNegative y <;>
        simp [hm, hn, UnpackedFloat.compare, compare_lt_iff_lt.mpr hq, compare_gt_iff_gt.mpr (neg_neg_of_pos hq)]
  · have hp := hpos (exponent x) hm
    by_cases hn : mantissa y = 0
    · cases isNegative x <;> cases isNegative y <;>
        simp [hm, hn, UnpackedFloat.compare, compare_gt_iff_gt.mpr hp, compare_lt_iff_lt.mpr (neg_neg_of_pos hp)]
    · have hq := hpos (exponent y) hn
      cases isNegative x <;> cases isNegative y <;>
        simp [hm, hn, UnpackedFloat.compare, hnormal, compare_neg_neg,
          compare_lt_iff_lt.mpr ((neg_neg_of_pos hp).trans hq), compare_gt_iff_gt.mpr ((neg_neg_of_pos hq).trans hp)]

theorem le_iff_compare (x y : Float) : x ≤ y ↔ (x.toModel.unpack.compare y.toModel.unpack).any (·.isLE) = true :=
  decide_eq_true_iff

/-- **The order of finite numbers is that of their values.** -/
theorem le_iff (hx : x.isFinite = true) (hy : y.isFinite = true) : x ≤ y ↔ value x ≤ value y := by
  rw [le_iff_compare, compare_unpack hx hy, Option.any_some, Std.LawfulBCmp.isLE_iff_le]

/-- What lies between two finite numbers is finite: an infinity is too large or too small. -/
theorem isFinite_of_between (hlow : low.isFinite = true) (hhigh : high.isFinite = true) (h : low ≤ x) (h' : x ≤ high) :
    x.isFinite = true := by
  rw [le_iff_compare] at h h'
  change low.toModel.unpack.isFinite = true at hlow
  change high.toModel.unpack.isFinite = true at hhigh
  show x.toModel.unpack.isFinite = true
  generalize low.toModel.unpack = l at hlow h
  generalize high.toModel.unpack = u at hhigh h'
  cases hx : x.toModel.unpack with
  | zero _ | finite _ _ _ _ => rfl
  | notANumber =>
    rw [hx] at h
    cases l <;> simp [UnpackedFloat.compare] at h
  | infinity s =>
    rw [hx] at h h'
    cases s with
    | negative => cases l <;> simp_all [UnpackedFloat.compare, UnpackedFloat.isFinite]
    | positive => cases u <;> simp_all [UnpackedFloat.compare, UnpackedFloat.isFinite]

/-- **Between two finite numbers lie those finite numbers whose values do**, and nothing else. -/
theorem between_iff (hlow : low.isFinite = true) (hhigh : high.isFinite = true) :
    low ≤ x ∧ x ≤ high ↔ x.isFinite = true ∧ value low ≤ value x ∧ value x ≤ value high := by
  constructor
  · rintro ⟨h, h'⟩
    have hx := isFinite_of_between hlow hhigh h h'
    exact ⟨hx, (le_iff hlow hx).mp h, (le_iff hx hhigh).mp h'⟩
  · rintro ⟨hx, h, h'⟩
    exact ⟨(le_iff hlow hx).mpr h, (le_iff hx hhigh).mpr h'⟩

end SegmentSync.Binary64
