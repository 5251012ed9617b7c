import SegmentSync.Json.Reader
import SegmentSync.Proofs.Text.Utf8

/-!
# `SegmentSync.Proofs.Json.Strings` — every text survives JSON

A string is written with escapes for quotes, backslashes and control characters; every other character stands
for itself, in one to four octets. The reader undoes this one character at a time (`readString?_escapeChar`),
so that it gives back any text whatsoever (`read?_text`).
-/

namespace SegmentSync.Json

open Utf8 (encodeChars encodeChar encodeChars_cons encodeChars_append)

/-! ## Octets that stand for themselves -/

/-- An octet that the reader keeps as it is: no control character, no quote, no backslash. -/
def IsLiteral (byte : UInt8) : Prop := 32 ≤ byte.toNat ∧ byte ≠ 34 ∧ byte ≠ 92

/-- The octets of characters beyond the ASCII ones are beyond the ASCII ones. -/
theorem isLiteral_of_high {n : Nat} (hlow : 128 ≤ n) (hhigh : n < 256) : IsLiteral n.toUInt8 := by
  have hn : n.toUInt8.toNat = n := by
    rw [Nat.toUInt8_eq, UInt8.toNat_ofNat']; exact Nat.mod_eq_of_lt hhigh
  refine ⟨by omega, ?_, ?_⟩
  · intro h; rw [h] at hn; change 34 = n at hn; omega
  · intro h; rw [h] at hn; change 92 = n at hn; omega

/-- A character that needs no escape is made of octets that stand for themselves. -/
theorem isLiteral_encodeChar {c : Char} (hlow : 32 ≤ c.toNat) (hquote : c ≠ '"') (hback : c ≠ '\\') :
    ∀ byte ∈ encodeChar c, IsLiteral byte := by
  have hvalid : c.toNat < 0x110000 := by
    rcases c.valid with h | h
    · exact Nat.lt_trans h (by decide)
    · exact h.2
  intro byte hbyte
  unfold encodeChar at hbyte
  by_cases h1 : c.toNat < 0x80
  · simp only [if_pos h1, List.mem_singleton] at hbyte
    have hoctet : byte.toNat = c.toNat := by
      rw [hbyte, Nat.toUInt8_eq, UInt8.toNat_ofNat']; exact Nat.mod_eq_of_lt (by omega)
    refine ⟨by omega, ?_, ?_⟩
    · rintro rfl; exact hquote (Char.toNat_inj.mp hoctet.symm)
    · rintro rfl; exact hback (Char.toNat_inj.mp hoctet.symm)
  by_cases h2 : c.toNat < 0x800
  · simp only [if_neg h1, if_pos h2, List.mem_cons, List.not_mem_nil, or_false] at hbyte
    rcases hbyte with rfl | rfl <;> exact isLiteral_of_high (by omega) (by omega)
  by_cases h3 : c.toNat < 0x10000
  · simp only [if_neg h1, if_neg h2, if_pos h3, List.mem_cons, List.not_mem_nil, or_false] at hbyte
    rcases hbyte with rfl | rfl | rfl <;> exact isLiteral_of_high (by omega) (by omega)
  · simp only [if_neg h1, if_neg h2, if_neg h3, List.mem_cons, List.not_mem_nil, or_false] at hbyte
    rcases hbyte with rfl | rfl | rfl | rfl <;> exact isLiteral_of_high (by omega) (by omega)

theorem readString?_literal {byte : UInt8} (h : IsLiteral byte) (fuel : Nat) (held rest : Bytes) :
    readString? (fuel + 1) (some held) (byte :: rest) = readString? fuel (some (byte :: held)) rest := by
  obtain ⟨hlow, hquote, hback⟩ := h
  rw [readString?.eq_6 _ _ _ _ hquote (fun _ h _ => hback h) (fun _ _ h _ => hback h), if_neg (by omega)]
  rfl

/-- Octets that stand for themselves are kept in their order, one step for each. -/
theorem readString?_literals {bytes : Bytes} (h : ∀ byte ∈ bytes, IsLiteral byte) (fuel : Nat)
    (held rest : Bytes) :
    readString? (fuel + bytes.length) (some held) (bytes ++ rest) =
      readString? fuel (some (bytes.reverse ++ held)) rest := by
  induction bytes generalizing held with
  | nil => rfl
  | cons byte more ih =>
    have hmore := ih (fun b hb => h b (List.mem_cons_of_mem _ hb)) (byte :: held)
    rw [List.length_cons, ← Nat.add_assoc, List.cons_append, readString?_literal (h byte (List.mem_cons_self ..)),
      hmore, List.reverse_cons, List.append_assoc]
    rfl

/-! ## Escapes -/

theorem readString?_short {letter byte : UInt8} (hletter : letter ≠ 117) (h : escaped? letter = some byte)
    (fuel : Nat) (held rest : Bytes) :
    readString? (fuel + 1) (some held) (92 :: letter :: rest) = readString? fuel (some (byte :: held)) rest := by
  rw [readString?.eq_5 _ _ _ _ (fun h => hletter h), h]
  rfl

theorem hexDigit?_digitChar {d : Nat} (h : d < 16) :
    hexDigit? (Nat.digitChar d).toNat.toUInt8 = some d := by
  revert d; decide

/-- The four digits of a control character are read as its code. -/
theorem readHex4?_control {n : Nat} (h : n < 32) (rest : Bytes) :
    readHex4? (48 :: 48 :: (Nat.digitChar (n / 16)).toNat.toUInt8 ::
      (Nat.digitChar (n % 16)).toNat.toUInt8 :: rest) = some (n, rest) := by
  have hzero : hexDigit? 48 = some 0 := by decide
  have hback : ((0 * 16 + 0) * 16 + n / 16) * 16 + n % 16 = n := by omega
  unfold readHex4?
  simp only [hzero, hexDigit?_digitChar (show n / 16 < 16 by omega),
    hexDigit?_digitChar (show n % 16 < 16 by omega), Option.bind_eq_bind, Option.bind_some, Option.pure_def, hback]

theorem readString?_control {c : Char} (h : c.toNat < 32) (fuel : Nat) (held rest : Bytes) :
    readString? (fuel + 1) (some held) (92 :: 117 :: 48 :: 48 :: (Nat.digitChar (c.toNat / 16)).toNat.toUInt8 ::
      (Nat.digitChar (c.toNat % 16)).toNat.toUInt8 :: rest) =
      readString? fuel (some ((encodeChar c).reverse ++ held)) rest := by
  have hsingle : isSurrogate c.toNat = false := by
    simp only [isSurrogate, Bool.and_eq_false_iff, decide_eq_false_iff_not]; omega
  rw [readString?.eq_4, readHex4?_control h]
  simp only [Option.bind_eq_bind, Option.bind_some, hsingle, Bool.false_eq_true, if_false, Char.ofNat_toNat]
  rfl

/-! ## Characters -/

/-- A character that needs no escape is written as itself. -/
theorem escapeChar_self {c : Char} (hlow : 32 ≤ c.toNat) (hquote : c ≠ '"') (hback : c ≠ '\\') :
    escapeChar c = [c] := by
  have hn : ∀ d : Char, d.toNat < 32 → c ≠ d := fun d hd hcd => by rw [hcd] at hlow; omega
  unfold escapeChar
  rw [if_neg hquote, if_neg hback, if_neg (hn '\n' (by decide)), if_neg (hn '\r' (by decide)),
    if_neg (hn '\t' (by decide)), if_neg (by omega), if_neg (by omega), if_neg (by omega)]

/-- The characters that have an escape of one letter, with this letter. -/
def letters : List (Char × UInt8) :=
  [('"', 34), ('\\', 92), ('\n', 110), ('\r', 114), ('\t', 116), ('\x08', 98), ('\x0c', 102)]

/-- What is written with a letter is read from this letter. -/
theorem escaped?_letters : ∀ p ∈ letters, p.2 ≠ 117 ∧ escaped? p.2 = some p.1.toNat.toUInt8 ∧
    encodeChars (escapeChar p.1) = [92, p.2] ∧ encodeChar p.1 = [p.1.toNat.toUInt8] := by
  decide

/-- A character without a letter stands for itself, or is escaped by its code. -/
theorem escapeChar_of_no_letter {c : Char} (h : ∀ letter, (c, letter) ∉ letters) :
    (32 ≤ c.toNat ∧ c ≠ '"' ∧ c ≠ '\\') ∨ c.toNat < 32 ∧ encodeChars (escapeChar c) =
      [92, 117, 48, 48, (Nat.digitChar (c.toNat / 16)).toNat.toUInt8,
        (Nat.digitChar (c.toNat % 16)).toNat.toUInt8] := by
  have hne : ∀ p ∈ letters, c ≠ p.1 := fun p hp hc => h p.2 (hc ▸ hp)
  have hquote : c ≠ '"' := hne ('"', 34) (by decide)
  have hback : c ≠ '\\' := hne ('\\', 92) (by decide)
  by_cases hlow : c.toNat < 32
  · right
    have h8 : c.toNat ≠ 8 := fun hc => hne ('\x08', 98) (by decide) (Char.toNat_inj.mp hc)
    have h12 : c.toNat ≠ 12 := fun hc => hne ('\x0c', 102) (by decide) (Char.toNat_inj.mp hc)
    have hascii : ∀ d < 16, (Nat.digitChar d).toNat < 0x80 := by decide
    have hhigh := hascii (c.toNat / 16) (by omega)
    have hunits := hascii (c.toNat % 16) (by omega)
    unfold escapeChar
    rw [if_neg hquote, if_neg hback, if_neg (hne ('\n', 110) (by decide)),
      if_neg (hne ('\r', 114) (by decide)), if_neg (hne ('\t', 116) (by decide)), if_neg h8, if_neg h12,
      if_pos hlow]
    refine ⟨hlow, ?_⟩
    simp only [encodeChars_cons, Utf8.encodeChar_ascii hhigh, Utf8.encodeChar_ascii hunits]
    rfl
  · exact .inl ⟨by omega, hquote, hback⟩

/-- **The reader undoes the escape of a character**, with no more steps than there are octets. -/
theorem readString?_escapeChar (c : Char) (held rest : Bytes) {fuel : Nat}
    (hfuel : (encodeChars (escapeChar c)).length ≤ fuel) :
    ∃ left, fuel ≤ left + (encodeChars (escapeChar c)).length ∧
      readString? fuel (some held) (encodeChars (escapeChar c) ++ rest) =
        readString? left (some ((encodeChar c).reverse ++ held)) rest := by
  -- What an escape needs besides: one step, where its octets are known.
  have hone : ∀ {octets : Bytes}, encodeChars (escapeChar c) = octets → 0 < octets.length →
      (∀ left, readString? (left + 1) (some held) (octets ++ rest) =
        readString? left (some ((encodeChar c).reverse ++ held)) rest) →
      ∃ left, fuel ≤ left + (encodeChars (escapeChar c)).length ∧
        readString? fuel (some held) (encodeChars (escapeChar c) ++ rest) =
          readString? left (some ((encodeChar c).reverse ++ held)) rest := by
    intro octets hoctets hpositive hread
    rw [hoctets] at hfuel ⊢
    refine ⟨fuel - 1, by omega, ?_⟩
    rw [← hread, show fuel - 1 + 1 = fuel by omega]
  by_cases hletter : ∃ letter, (c, letter) ∈ letters
  · obtain ⟨letter, hmem⟩ := hletter
    obtain ⟨hne, hescaped, hoctets, hbyte⟩ := escaped?_letters _ hmem
    apply hone hoctets (Nat.succ_pos _)
    intro left
    rw [hbyte]
    exact readString?_short hne hescaped left held rest
  rcases escapeChar_of_no_letter fun letter hmem => hletter ⟨letter, hmem⟩ with
    ⟨hlow, hquote, hback⟩ | ⟨hlow, hoctets⟩
  · have hoctets : encodeChars (escapeChar c) = encodeChar c := by
      rw [escapeChar_self hlow hquote hback]
      exact List.append_nil _
    rw [hoctets] at hfuel ⊢
    refine ⟨fuel - (encodeChar c).length, by omega, ?_⟩
    rw [← readString?_literals (isLiteral_encodeChar hlow hquote hback), Nat.sub_add_cancel hfuel]
  · apply hone hoctets (Nat.succ_pos _)
    intro left
    exact readString?_control hlow left held rest

/-! ## Texts -/

/-- **A text with its escapes is read up to the closing quote**, and nothing of it is lost. -/
theorem readString?_flatMap (chars : List Char) (held rest : Bytes) {fuel : Nat}
    (hfuel : (encodeChars (chars.flatMap escapeChar)).length < fuel) :
    readString? fuel (some held) (encodeChars (chars.flatMap escapeChar) ++ 34 :: rest) =
      some ((Utf8.decode (held.reverse ++ encodeChars chars)).toOption, rest) := by
  induction chars generalizing held fuel with
  | nil =>
    obtain ⟨fuel, rfl⟩ := Nat.exists_eq_succ_of_ne_zero (Nat.ne_of_gt hfuel)
    show readString? (fuel + 1) (some held) (34 :: rest) = _
    rw [readString?, show encodeChars [] = [] from rfl, List.append_nil, Option.bind_some]
  | cons c more ih =>
    rw [List.flatMap_cons, encodeChars_append] at hfuel ⊢
    rw [List.length_append] at hfuel
    obtain ⟨left, hleft, hstep⟩ := readString?_escapeChar c held
      (encodeChars (more.flatMap escapeChar) ++ 34 :: rest) (show _ ≤ fuel by omega)
    rw [List.append_assoc, hstep, ih _ (show _ < left by omega), encodeChars_cons]
    simp only [List.reverse_append, List.reverse_reverse, List.append_assoc]

/-- **The compact text of a string is read back**, whatever characters are in it. -/
theorem read?_text (s : String) : read? (Utf8.encode (Value.text s).write) = some (.text s) := by
  have hchars : Utf8.encode (Value.text s).write = 34 :: (encodeChars (s.toList.flatMap escapeChar) ++ [34]) := by
    unfold Utf8.encode Value.write
    rw [String.toList_ofList, Value.text, Value.chars, Option.getD_some, stringChars, encodeChars_append,
      encodeChars_cons]
    rfl
  have hfuel : (encodeChars (s.toList.flatMap escapeChar)).length <
      (encodeChars (s.toList.flatMap escapeChar) ++ [34]).length + 1 := by
    rw [List.length_append]
    omega
  have hstring := readString?_flatMap s.toList [] [] hfuel
  have hdecode : Utf8.decode (encodeChars s.toList) = .ok s := Utf8.decode_encode s
  rw [List.reverse_nil, List.nil_append, hdecode] at hstring
  have hskip : skipSpace (34 :: (encodeChars (s.toList.flatMap escapeChar) ++ [34])) =
      34 :: (encodeChars (s.toList.flatMap escapeChar) ++ [34]) := by
    unfold skipSpace
    rw [List.dropWhile_cons_of_neg (by decide)]
  unfold read?
  rw [hchars, readValue?, hskip]
  simp only [hstring]
  rfl

end SegmentSync.Json
