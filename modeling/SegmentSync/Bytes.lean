/-!
# `SegmentSync.Bytes` — byte strings

Keys, values, markers and wire data are byte strings: lists of octets, so that appending, cutting and
comparing them are facts about lists.
-/

namespace SegmentSync

/-- A string of octets. -/
abbrev Bytes := List UInt8

namespace Bytes

/-- The two lowercase hexadecimal digits of an octet, the high half first. -/
def hexDigits (byte : UInt8) : List Char :=
  [Nat.digitChar (byte.toNat / 16), Nat.digitChar (byte.toNat % 16)]

/-- Lowercase hexadecimal text, two digits per octet. -/
def hex (bytes : Bytes) : String := String.ofList (bytes.flatMap hexDigits)

/-- The eight octets of a word of 64 bits, the highest first. -/
def ofUInt64 (n : UInt64) : Bytes :=
  [n >>> 56, n >>> 48, n >>> 40, n >>> 32, n >>> 24, n >>> 16, n >>> 8, n].map UInt64.toUInt8

@[simp] theorem hexDigits_length (byte : UInt8) : (hexDigits byte).length = 2 := rfl

/-- A byte string takes twice its length in hexadecimal. -/
theorem hex_length (bytes : Bytes) : (hex bytes).toList.length = 2 * bytes.length := by
  unfold hex
  rw [String.toList_ofList]
  induction bytes with
  | nil => rfl
  | cons byte rest ih => simp only [List.flatMap_cons, List.length_append, hexDigits_length,
      List.length_cons, ih]; omega

end Bytes

end SegmentSync
