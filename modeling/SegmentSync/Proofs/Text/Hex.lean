import Mathlib.Algebra.Group.Nat.Defs
import SegmentSync.Bytes

/-!
# `SegmentSync.Proofs.Text.Hex` — hexadecimal text tells octets apart

Octets are written with two digits each, so that their text is the text of no others (`Bytes.hex_injective`). A word of
64 bits is known by its eight octets (`Bytes.ofUInt64_injective`).
-/

namespace SegmentSync.Bytes

/-! ## Digits -/

/-- The digits of hexadecimal text. -/
def hexAlphabet : List Char := "0123456789abcdef".toList

theorem digitChar_injective {m n : Nat} (hm : m < 16) (hn : n < 16) (h : Nat.digitChar m = Nat.digitChar n) :
    m = n := by
  have hall : ∀ m n : Fin 16, Nat.digitChar m.val = Nat.digitChar n.val → m = n := by decide
  exact congrArg Fin.val (hall ⟨m, hm⟩ ⟨n, hn⟩ h)

theorem digitChar_mem_hexAlphabet {n : Nat} (h : n < 16) : Nat.digitChar n ∈ hexAlphabet := by
  have hall : ∀ n : Fin 16, Nat.digitChar n.val ∈ hexAlphabet := by decide
  exact hall ⟨n, h⟩

theorem hexDigits_injective {byte byte' : UInt8} (h : hexDigits byte = hexDigits byte') : byte = byte' := by
  have hbound : byte.toNat < 256 := byte.toNat_lt
  have hbound' : byte'.toNat < 256 := byte'.toNat_lt
  simp only [hexDigits, List.cons.injEq, and_true] at h
  have hhigh : byte.toNat / 16 = byte'.toNat / 16 := digitChar_injective (by omega) (by omega) h.1
  have hlow : byte.toNat % 16 = byte'.toNat % 16 := digitChar_injective (by omega) (by omega) h.2
  apply UInt8.toNat_inj.mp
  omega

/-! ## Octets -/

/-- **Different octets have different texts.** -/
theorem hex_injective {bytes bytes' : Bytes} (h : hex bytes = hex bytes') : bytes = bytes' := by
  replace h : bytes.flatMap hexDigits = bytes'.flatMap hexDigits := String.ofList_injective h
  induction bytes generalizing bytes' with
  | nil =>
    cases bytes' with
    | nil => rfl
    | cons byte' rest' => cases h
  | cons byte rest ih =>
    cases bytes' with
    | nil => cases h
    | cons byte' rest' =>
      rw [List.flatMap_cons, List.flatMap_cons] at h
      obtain ⟨hbyte, hrest⟩ := List.append_inj h rfl
      rw [hexDigits_injective hbyte, ih hrest]

/-- Nothing but digits is written. -/
theorem mem_hexAlphabet_of_mem_hex {bytes : Bytes} {c : Char} (h : c ∈ (hex bytes).toList) : c ∈ hexAlphabet := by
  unfold hex at h
  rw [String.toList_ofList] at h
  obtain ⟨byte, -, hc⟩ := List.mem_flatMap.mp h
  have hbound : byte.toNat < 256 := byte.toNat_lt
  simp only [hexDigits, List.mem_cons, List.not_mem_nil, or_false] at hc
  rcases hc with rfl | rfl
  · exact digitChar_mem_hexAlphabet (by omega)
  · exact digitChar_mem_hexAlphabet (by omega)

/-! ## Words -/

/-- The octet that a shift by `k` brings to the end. -/
theorem octet_shiftRight {n n' : UInt64} (k : Nat) (hk : k < 64)
    (h : (n >>> UInt64.ofNat k).toUInt8 = (n' >>> UInt64.ofNat k).toUInt8) :
    n.toNat / 2 ^ k % 256 = n'.toNat / 2 ^ k % 256 := by
  have hshift : ∀ m : UInt64, (m >>> UInt64.ofNat k).toUInt8.toNat = m.toNat / 2 ^ k % 256 := by
    intro m
    rw [UInt64.toNat_toUInt8, UInt64.toNat_shiftRight, UInt64.toNat_ofNat', Nat.mod_eq_of_lt (by omega : k < 2 ^ 64),
      Nat.mod_eq_of_lt hk, Nat.shiftRight_eq_div_pow]
  rw [← hshift, ← hshift, h]

/-- **Different words have different octets.** -/
theorem ofUInt64_injective {n n' : UInt64} (h : ofUInt64 n = ofUInt64 n') : n = n' := by
  simp only [ofUInt64, List.map_cons, List.cons.injEq, List.map_nil, and_true] at h
  obtain ⟨h56, h48, h40, h32, h24, h16, h8, h0⟩ := h
  have hbyte56 := octet_shiftRight 56 (by decide) h56
  have hbyte48 := octet_shiftRight 48 (by decide) h48
  have hbyte40 := octet_shiftRight 40 (by decide) h40
  have hbyte32 := octet_shiftRight 32 (by decide) h32
  have hbyte24 := octet_shiftRight 24 (by decide) h24
  have hbyte16 := octet_shiftRight 16 (by decide) h16
  have hbyte8 := octet_shiftRight 8 (by decide) h8
  have hbyte0 : n.toNat % 256 = n'.toNat % 256 := congrArg UInt8.toNat h0
  have hbound : n.toNat < 2 ^ 64 := n.toNat_lt
  have hbound' : n'.toNat < 2 ^ 64 := n'.toNat_lt
  apply UInt64.toNat_inj.mp
  omega

end SegmentSync.Bytes
