import SegmentSync.Text.Utf8

/-!
# `SegmentSync.Proofs.Text.Utf8` — text survives its octets

Whatever is written as UTF-8 is read back unchanged, by the strict reader and by the one that replaces faults:
both of them take exactly one character off the front of what `encodeChar` wrote (`scan_encodeChar`). The strict reader
reads nothing else: every character has one written form (`encodeChar_of_scan`), so that octets are a text exactly where
they are that text, written (`decode_eq_ok_iff`).
-/

namespace SegmentSync.Utf8

/-! ## One character -/

/-- A code point is no surrogate and not beyond the last one. -/
theorem toNat_valid (c : Char) : c.toNat < 0xD800 ∨ (0xDFFF < c.toNat ∧ c.toNat < 0x110000) := by
  rcases c.valid with h | h
  · exact Or.inl h
  · exact Or.inr h

/-- ASCII is written as it is. -/
theorem encodeChar_ascii {c : Char} (h : c.toNat < 0x80) : encodeChar c = [c.toNat.toUInt8] := by
  simp only [encodeChar, if_pos h]

/-- **A written character is read as itself.** The octets that follow it are left alone. -/
theorem scan_encodeChar (c : Char) (rest : Bytes) :
    ∃ first tail, encodeChar c = first :: tail ∧ scan first (tail ++ rest) = .char c rest := by
  have hvalid := toNat_valid c
  have hback : ∀ m, m = c.toNat → Char.ofNat m = c := fun m hm => by rw [hm]; exact Char.ofNat_toNat c
  have hoctet : ∀ m, m < 256 → m.toUInt8.toNat = m := fun m hm => by
    rw [Nat.toUInt8_eq, UInt8.toNat_ofNat']; exact Nat.mod_eq_of_lt hm
  unfold encodeChar
  generalize c.toNat = n at hvalid hback
  by_cases h1 : n < 0x80
  · simp only [if_pos h1]
    refine ⟨_, _, rfl, ?_⟩
    simp only [scan, hoctet n (by omega), if_pos h1, hback n rfl, List.nil_append]
  by_cases h2 : n < 0x800
  · simp only [if_neg h1, if_pos h2]
    refine ⟨_, _, rfl, ?_⟩
    have ha := hoctet (0xC0 + n / 64) (by omega)
    have hb := hoctet (0x80 + n % 64) (by omega)
    have htail : isTail (0x80 + n % 64).toUInt8 := by simp only [isTail, hb]; grind
    simp only [scan, ha, hb, List.cons_append, List.nil_append, htail, if_true]
    rw [if_neg (by omega), if_neg (by omega), if_pos (by omega), hback _ (by omega)]
  by_cases h3 : n < 0x10000
  · simp only [if_neg h1, if_neg h2, if_pos h3]
    refine ⟨_, _, rfl, ?_⟩
    have ha := hoctet (0xE0 + n / 4096) (by omega)
    have hb := hoctet (0x80 + n / 64 % 64) (by omega)
    have hc := hoctet (0x80 + n % 64) (by omega)
    have htail : isTail (0x80 + n % 64).toUInt8 := by simp only [isTail, hc]; grind
    have hsecond : secondOfThree (0xE0 + n / 4096) (0x80 + n / 64 % 64) := by
      simp only [secondOfThree]; grind
    simp only [scan, ha, hb, hc, List.cons_append, List.nil_append, htail, hsecond, if_true]
    rw [if_neg (by omega), if_neg (by omega), if_neg (by omega), if_pos (by omega), hback _ (by omega)]
  · simp only [if_neg h1, if_neg h2, if_neg h3]
    refine ⟨_, _, rfl, ?_⟩
    have ha := hoctet (0xF0 + n / 262144) (by omega)
    have hb := hoctet (0x80 + n / 4096 % 64) (by omega)
    have hc := hoctet (0x80 + n / 64 % 64) (by omega)
    have hd := hoctet (0x80 + n % 64) (by omega)
    have htail : isTail (0x80 + n / 64 % 64).toUInt8 := by simp only [isTail, hc]; grind
    have htail' : isTail (0x80 + n % 64).toUInt8 := by simp only [isTail, hd]; grind
    have hsecond : secondOfFour (0xF0 + n / 262144) (0x80 + n / 4096 % 64) := by
      simp only [secondOfFour]; grind
    simp only [scan, ha, hb, hc, hd, List.cons_append, List.nil_append, htail, htail', hsecond, if_true]
    rw [if_neg (by omega), if_neg (by omega), if_neg (by omega), if_neg (by omega), if_pos (by omega),
      hback _ (by omega)]

/-- A code point that is no surrogate and not beyond the last one is that of a character. -/
theorem toNat_ofNat {n : Nat} (h : n < 0xD800 ∨ (0xDFFF < n ∧ n < 0x110000)) : (Char.ofNat n).toNat = n := by
  unfold Char.ofNat
  rw [dif_pos h]
  rfl

theorem toUInt8_eq {n : Nat} (byte : UInt8) (h : n = byte.toNat) : n.toUInt8 = byte := by
  rw [h, Nat.toUInt8_eq, UInt8.ofNat_toNat]

theorem encodeChar_two {a b : UInt8} (ha : 0xC2 ≤ a.toNat ∧ a.toNat < 0xE0) (hb : isTail b = true) :
    encodeChar (Char.ofNat ((a.toNat - 0xC0) * 64 + (b.toNat - 0x80))) = [a, b] := by
  simp only [isTail, Bool.and_eq_true, decide_eq_true_eq] at hb
  unfold encodeChar
  rw [toNat_ofNat (by omega)]
  dsimp only
  rw [if_neg (by omega), if_pos (by omega), toUInt8_eq a (by omega), toUInt8_eq b (by omega)]

theorem encodeChar_three {a b c : UInt8} (ha : 0xE0 ≤ a.toNat ∧ a.toNat < 0xF0)
    (hb : secondOfThree a.toNat b.toNat = true) (hc : isTail c = true) :
    encodeChar (Char.ofNat ((a.toNat - 0xE0) * 4096 + (b.toNat - 0x80) * 64 + (c.toNat - 0x80))) = [a, b, c] := by
  simp only [isTail, Bool.and_eq_true, decide_eq_true_eq] at hc
  -- The second octet keeps out surrogates, and what would fit in two octets.
  have hsecond : (0x80 ≤ b.toNat ∧ b.toNat < 0xC0) ∧ (a.toNat = 0xE0 → 0xA0 ≤ b.toNat) ∧
      (a.toNat = 0xED → b.toNat < 0xA0) := by
    unfold secondOfThree at hb
    split at hb
    · simp only [Bool.and_eq_true, decide_eq_true_eq] at hb
      omega
    · split at hb
      · simp only [Bool.and_eq_true, decide_eq_true_eq] at hb
        omega
      · simp only [Bool.and_eq_true, decide_eq_true_eq] at hb
        omega
  unfold encodeChar
  rw [toNat_ofNat (by omega)]
  dsimp only
  rw [if_neg (by omega), if_neg (by omega), if_pos (by omega), toUInt8_eq a (by omega),
    toUInt8_eq b (by omega), toUInt8_eq c (by omega)]

theorem encodeChar_four {a b c d : UInt8} (ha : 0xF0 ≤ a.toNat ∧ a.toNat < 0xF5)
    (hb : secondOfFour a.toNat b.toNat = true) (hc : isTail c = true) (hd : isTail d = true) :
    encodeChar (Char.ofNat ((a.toNat - 0xF0) * 262144 + (b.toNat - 0x80) * 4096 + (c.toNat - 0x80) * 64
      + (d.toNat - 0x80))) = [a, b, c, d] := by
  simp only [isTail, Bool.and_eq_true, decide_eq_true_eq] at hc hd
  -- The second octet keeps out what lies beyond the last code point, and what would fit in three octets.
  have hsecond : (0x80 ≤ b.toNat ∧ b.toNat < 0xC0) ∧ (a.toNat = 0xF0 → 0x90 ≤ b.toNat) ∧
      (a.toNat = 0xF4 → b.toNat < 0x90) := by
    unfold secondOfFour at hb
    split at hb
    · simp only [Bool.and_eq_true, decide_eq_true_eq] at hb
      omega
    · split at hb
      · simp only [Bool.and_eq_true, decide_eq_true_eq] at hb
        omega
      · simp only [Bool.and_eq_true, decide_eq_true_eq] at hb
        omega
  unfold encodeChar
  rw [toNat_ofNat (by omega)]
  dsimp only
  rw [if_neg (by omega), if_neg (by omega), if_neg (by omega), toUInt8_eq a (by omega),
    toUInt8_eq b (by omega), toUInt8_eq c (by omega), toUInt8_eq d (by omega)]

/-- **A character that is read is the one that is written there.** -/
theorem encodeChar_of_scan {first : UInt8} {rest : Bytes} {c : Char} {left : Bytes}
    (h : scan first rest = .char c left) : encodeChar c ++ left = first :: rest := by
  simp only [scan] at h
  -- The first octet announces how many there are.
  by_cases h1 : first.toNat < 0x80
  · rw [if_pos h1] at h
    obtain ⟨rfl, rfl⟩ := Scan.char.inj h
    have hc := toNat_ofNat (n := first.toNat) (.inl (by omega))
    rw [encodeChar_ascii (hc.symm ▸ h1), hc, toUInt8_eq first rfl]
    rfl
  rw [if_neg h1] at h
  by_cases h2 : first.toNat < 0xC2
  · rw [if_pos h2] at h
    cases h
  rw [if_neg h2] at h
  by_cases h3 : first.toNat < 0xE0
  · rw [if_pos h3] at h
    rcases rest with _ | ⟨b, rest⟩
    · cases h
    dsimp only at h
    split at h
    · obtain ⟨rfl, rfl⟩ := Scan.char.inj h
      rw [encodeChar_two ⟨by omega, h3⟩ ‹_›]
      rfl
    · cases h
  rw [if_neg h3] at h
  by_cases h4 : first.toNat < 0xF0
  · rw [if_pos h4] at h
    rcases rest with _ | ⟨b, _ | ⟨d, rest⟩⟩
    · cases h
    · dsimp only at h
      split at h <;> cases h
    · dsimp only at h
      split at h
      · split at h
        · obtain ⟨rfl, rfl⟩ := Scan.char.inj h
          rw [encodeChar_three ⟨by omega, h4⟩ ‹_› ‹_›]
          rfl
        · cases h
      · cases h
  rw [if_neg h4] at h
  by_cases h5 : first.toNat < 0xF5
  · rw [if_pos h5] at h
    rcases rest with _ | ⟨b, _ | ⟨d, _ | ⟨e, rest⟩⟩⟩
    · cases h
    · dsimp only at h
      split at h <;> cases h
    · dsimp only at h
      split at h
      · split at h <;> cases h
      · cases h
    · dsimp only at h
      split at h
      · split at h
        · split at h
          · obtain ⟨rfl, rfl⟩ := Scan.char.inj h
            rw [encodeChar_four ⟨by omega, h5⟩ ‹_› ‹_› ‹_›]
            rfl
          · cases h
        · cases h
      · cases h
  · rw [if_neg h5] at h
    cases h

/-! ## Whole texts -/

theorem encodeChars_cons (c : Char) (rest : List Char) :
    encodeChars (c :: rest) = encodeChar c ++ encodeChars rest := by
  simp only [encodeChars, List.flatMap_cons]

theorem encode_append (a b : String) : encode (a ++ b) = encode a ++ encode b := by
  rw [encode, encode, encode, String.toList_append, encodeChars_append]

/-- ASCII text is written as it is. -/
theorem encodeChars_ascii {chars : List Char} (h : ∀ c ∈ chars, c.toNat < 0x80) :
    encodeChars chars = chars.map fun c => c.toNat.toUInt8 := by
  induction chars with
  | nil => rfl
  | cons c rest ih =>
    rw [encodeChars_cons, encodeChar_ascii (h c (by simp)), ih fun d hd => h d (List.mem_cons_of_mem c hd)]
    rfl

theorem decodeFrom_encodeChars (index : Nat) (chars : List Char) :
    decodeFrom index (encodeChars chars) = .ok chars := by
  induction chars generalizing index with
  | nil => rw [show encodeChars [] = [] from rfl, decodeFrom]
  | cons c rest ih =>
    obtain ⟨first, tail, hc, hscan⟩ := scan_encodeChar c (encodeChars rest)
    rw [encodeChars_cons, hc, List.cons_append, decodeFrom]
    split
    · rename_i c' left h
      rw [hscan] at h
      obtain ⟨rfl, rfl⟩ := Scan.char.inj h
      simp only [ih]; rfl
    · rename_i h; rw [hscan] at h; exact Scan.noConfusion h
    · rename_i h; rw [hscan] at h; exact Scan.noConfusion h

/-- **The strict reader reads back every text.** -/
@[simp] theorem decode_encode (text : String) : decode (encode text) = .ok text := by
  unfold decode encode
  rw [decodeFrom_encodeChars]
  simp only [Except.map, String.ofList_toList]

/-- Different texts are written differently. -/
theorem encode_injective : Function.Injective encode := by
  intro text text' h
  have hread := decode_encode text
  rw [h, decode_encode] at hread
  exact (Except.ok.inj hread).symm

theorem encodeChars_of_decodeFrom {index : Nat} {bytes : Bytes} {chars : List Char}
    (h : decodeFrom index bytes = .ok chars) : encodeChars chars = bytes := by
  induction index, bytes using decodeFrom.induct generalizing chars with
  | case1 index =>
    rw [decodeFrom] at h
    obtain rfl := Except.ok.inj h
    rfl
  | case2 index first rest c left hscan _ ih =>
    rw [decodeFrom] at h
    split at h
    · rename_i c' left' hscan'
      rw [hscan] at hscan'
      obtain ⟨rfl, rfl⟩ := Scan.char.inj hscan'
      cases hleft : decodeFrom (index + (rest.length + 1 - left.length)) left with
      | error fault => rw [hleft] at h; cases h
      | ok more =>
        rw [hleft] at h
        obtain rfl := Except.ok.inj h
        rw [encodeChars_cons, ih hleft, encodeChar_of_scan hscan]
    · cases h
    · cases h
  | case3 index first rest length left hscan =>
    rw [decodeFrom] at h
    split at h
    · rename_i hscan'; rw [hscan] at hscan'; cases hscan'
    · cases h
    · cases h
  | case4 index first rest hscan =>
    rw [decodeFrom] at h
    split at h
    · rename_i hscan'; rw [hscan] at hscan'; cases hscan'
    · cases h
    · cases h

/-- **Octets are read as a text exactly where they are that text, written.** -/
theorem decode_eq_ok_iff {bytes : Bytes} {text : String} : decode bytes = .ok text ↔ bytes = encode text := by
  constructor
  · intro h
    unfold decode at h
    cases hchars : decodeFrom 0 bytes with
    | error fault => rw [hchars] at h; cases h
    | ok chars =>
      rw [hchars] at h
      obtain rfl := Except.ok.inj h
      unfold encode
      rw [String.toList_ofList, encodeChars_of_decodeFrom hchars]
  · rintro rfl
    exact decode_encode text

@[simp] theorem decodeCharsLossy_encodeChars (chars : List Char) :
    decodeCharsLossy (encodeChars chars) = chars := by
  induction chars with
  | nil => rw [show encodeChars [] = [] from rfl, decodeCharsLossy]
  | cons c rest ih =>
    obtain ⟨first, tail, hc, hscan⟩ := scan_encodeChar c (encodeChars rest)
    rw [encodeChars_cons, hc, List.cons_append, decodeCharsLossy]
    split
    · rename_i c' left h
      rw [hscan] at h
      obtain ⟨rfl, rfl⟩ := Scan.char.inj h
      rw [ih]
    · rename_i h; rw [hscan] at h; exact Scan.noConfusion h
    · rename_i h; rw [hscan] at h; exact Scan.noConfusion h

/-- **The forgiving reader reads back every text**: nothing that was written is taken for a fault. -/
@[simp] theorem decodeLossy_encode (text : String) : decodeLossy (encode text) = text := by
  unfold decodeLossy encode
  rw [decodeCharsLossy_encodeChars, String.ofList_toList]

end SegmentSync.Utf8
