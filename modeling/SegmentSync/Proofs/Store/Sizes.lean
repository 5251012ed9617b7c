import SegmentSync.Proofs.Store.Log

/-!
# `SegmentSync.Proofs.Store.Sizes` — the further on a log ends, the more room it takes

A cursor tells how much of a log there is before it. So two prefixes of one log compare in size as their ends do, as
long as no size wraps around.

## Contents
- **Room.** What the entries of a prefix take, compared with the log and with another prefix.
- **Sizes.** `Namespace.Measured`, and the same for sizes as stores report them.
-/

namespace SegmentSync.Namespace

variable {a b m s : Namespace}

/-! ## Room -/

theorem sizeOf_entries (ns : Namespace) :
    Entry.sizeOf ns.entries = Entry.sizeOf ns.earlier.flatten + Entry.sizeOf ns.current := by
  simp [entries, segments]

/-- **Of two prefixes of a log, the one that does not end further on takes no more room.** -/
theorem sizeOf_le_of_position_le (hm : m.Fits (2 ^ 64)) (ha : LogPrefix a.segments m.segments)
    (hb : LogPrefix b.segments m.segments) (hle : a.position ≤ b.position) :
    Entry.sizeOf a.entries ≤ Entry.sizeOf b.entries := by
  have hnot : ¬ b.position < a.position := Position.not_lt_of_le hle
  rw [position_lt_iff (hm.of_logPrefix hb) (hm.of_logPrefix ha)] at hnot
  obtain ⟨tail, rest, hsegments⟩ := logPrefix_iff.mp ha
  obtain ⟨tail', rest', hsegments'⟩ := logPrefix_iff.mp hb
  rw [sizeOf_entries, sizeOf_entries]
  have hsame := hsegments.symm.trans hsegments'
  rcases List.append_eq_append_iff.mp hsame with ⟨mid, hearlier, hmid⟩ | ⟨mid, hearlier, hmid⟩
  · rcases List.cons_eq_append_iff.mp hmid with ⟨rfl, hcurrent⟩ | ⟨more, rfl, hrest⟩
    · -- Both end in the same segment, where the offsets decide.
      rw [List.append_nil] at hearlier
      rw [hearlier]
      rw [hearlier] at hnot
      omega
    · -- The one ends in a segment that the other has left behind.
      have hflat : Entry.sizeOf b.earlier.flatten = Entry.sizeOf a.earlier.flatten +
          (Entry.sizeOf a.current + Entry.sizeOf tail + Entry.sizeOf more.flatten) := by
        rw [hearlier]; simp [Nat.add_assoc]
      omega
  · have hlength := congrArg List.length hearlier
    rw [List.length_append] at hlength
    obtain rfl : mid = [] := List.eq_nil_of_length_eq_zero (by omega)
    rw [List.append_nil] at hearlier
    rw [hearlier]
    rw [hearlier] at hnot
    omega

/-! ## Sizes -/

/-- A log whose offsets, markers and size travel as signed words of 64 bits. -/
structure Measured (ns : Namespace) : Prop extends ns.Portable where
  size_lt : Entry.sizeOf ns.entries < 2 ^ 63

theorem Measured.fits₆₄ (h : m.Measured) : m.Fits (2 ^ 64) := h.toPortable.fits₆₄

theorem Measured.sizeOf_le (h : m.Measured) (hs : LogPrefix s.segments m.segments) :
    Entry.sizeOf s.entries ≤ Entry.sizeOf m.entries :=
  sizeOf_le_of_position_le h.fits₆₄ hs (LogPrefix.refl _)
    (Position.le_of_not_lt (not_position_lt h.fits₆₄ hs))

/-- The size that a store reports does not wrap around. -/
theorem Measured.size_toNat (h : m.Measured) (hs : LogPrefix s.segments m.segments) :
    s.size.toNat = Entry.sizeOf s.entries := by
  refine Namespace.size_toNat ?_
  have hle := h.sizeOf_le hs
  have hsize := h.size_lt
  omega

/-- **The sizes of two prefixes of a log compare as their ends do.** -/
theorem Measured.size_le (h : m.Measured) (ha : LogPrefix a.segments m.segments)
    (hb : LogPrefix b.segments m.segments) (hle : a.position ≤ b.position) : a.size ≤ b.size := by
  rw [UInt64.le_iff_toNat_le, h.size_toNat ha, h.size_toNat hb]
  exact sizeOf_le_of_position_le h.fits₆₄ ha hb hle

end SegmentSync.Namespace
