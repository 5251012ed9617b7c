import SegmentSync.Proofs.Json.Strings
import SegmentSync.Proofs.Number.Decimal

/-!
# `SegmentSync.Proofs.Json.RoundTrip` — JSON is read back, however it is laid out

The reader takes the text of a value off the front of its input and gives the value back (`Reads`). White space between
the parts of a value does not matter to it, so that there is one account of lists and records for all layouts: their
texts are put together from the texts of their parts (`ReadsItems`, `ReadsMembers`), with white space wherever it may
stand. The compact text and the one with a line for each member are two ways to do that.

This is about the values that are exchanged: nothing, whole numbers, lists and records. A number has no end of its own,
so what follows a value must not go on with it (`Stops`). The length of a text is fuel enough: each bracket pays for the
call that opens it.

## Contents
- **White space.** `IsBlank`, `Starts`, `Stops`.
- **Numbers.** Digits are taken up to where they end.
- **Texts.** `Reads`, with the texts of nothing and of numbers.
- **Lists and records.** `Reads.array`, `Reads.record`.
- **Layouts.** `Plain` values in compact text (`read?_chars`) and in lines (`read?_prettyChars`).
-/

namespace SegmentSync.Json

open Utf8 (encodeChars encodeChar encodeChars_cons encodeChars_append)

/-! ## White space -/

/-- What follows a number does not go on with it. -/
def Stops (rest : Bytes) : Prop :=
  ∀ byte ∈ rest.head?, isDigit byte = false ∧ byte ≠ 46 ∧ byte ≠ 101 ∧ byte ≠ 69

theorem stops_nil : Stops [] := fun _ h => absurd h (by simp)

theorem stops_cons {byte : UInt8} (h : isDigit byte = false ∧ byte ≠ 46 ∧ byte ≠ 101 ∧ byte ≠ 69) (rest : Bytes) :
    Stops (byte :: rest) := by
  intro first hfirst
  obtain rfl := Option.some.inj hfirst
  exact h

/-- White space. -/
def IsBlank (space : Bytes) : Prop := ∀ byte ∈ space, isSpace byte = true

theorem isBlank_nil : IsBlank [] := List.forall_mem_nil _

/-- Something stands behind white space that is no bracket at the end of a list. -/
def Starts (text : Bytes) : Prop :=
  ∃ space first tail, text = space ++ first :: tail ∧ IsBlank space ∧ isSpace first = false ∧ first ≠ 93

section

variable {space text bytes rest : Bytes}

theorem skipSpace_cons {byte : UInt8} (h : isSpace byte = false) : skipSpace (byte :: rest) = byte :: rest := by
  unfold skipSpace; rw [List.dropWhile_cons_of_neg (by simp [h])]

theorem skipSpace_append (h : IsBlank space) (rest : Bytes) : skipSpace (space ++ rest) = skipSpace rest :=
  List.dropWhile_append_of_pos h

/-- White space ends a number. -/
theorem Stops.blank (h : Stops rest) (hspace : IsBlank space) : Stops (space ++ rest) := by
  cases space with
  | nil => exact h
  | cons byte more =>
    intro first hfirst
    obtain rfl := Option.some.inj hfirst
    have hblank := hspace byte (List.mem_cons_self ..)
    simp only [isSpace, Bool.or_eq_true, decide_eq_true_eq] at hblank
    rcases hblank with ((rfl | rfl) | rfl) | rfl <;> decide

theorem starts_cons {first : UInt8} (hspace : isSpace first = false) (hclose : first ≠ 93) (tail : Bytes) :
    Starts (first :: tail) :=
  ⟨[], first, tail, rfl, isBlank_nil, hspace, hclose⟩

theorem Starts.blank (h : Starts text) (hspace : IsBlank space) : Starts (space ++ text) := by
  obtain ⟨space', first, tail, rfl, hspace', hfirst⟩ := h
  refine ⟨space ++ space', first, tail, (List.append_assoc ..).symm, ?_, hfirst⟩
  exact List.forall_mem_append.mpr ⟨hspace, hspace'⟩

theorem Starts.append (h : Starts text) (rest : Bytes) : Starts (text ++ rest) := by
  obtain ⟨space, first, tail, rfl, hspace, hfirst⟩ := h
  exact ⟨space, first, tail ++ rest, by simp, hspace, hfirst⟩

end

/-! ## Numbers -/

theorem isDigit_digitChar {d : Nat} (h : d < 10) : isDigit (Nat.digitChar d).toNat.toUInt8 = true := by
  revert d; decide

/-- A digit is none of the octets that are no digits. -/
theorem digitChar_ne {d : Nat} (h : d < 10) {byte : UInt8} (hb : isDigit byte = false) :
    (Nat.digitChar d).toNat.toUInt8 ≠ byte := by
  intro heq
  rw [← heq, isDigit_digitChar h] at hb
  exact absurd hb (by decide)

/-- No digit is white space. -/
theorem isSpace_of_isDigit {byte : UInt8} (h : isDigit byte = true) : isSpace byte = false := by
  cases hs : isSpace byte with
  | false => rfl
  | true =>
    simp only [isSpace, Bool.or_eq_true, decide_eq_true_eq] at hs
    rcases hs with ((rfl | rfl) | rfl) | rfl <;> exact absurd h (by decide)

theorem encodeChars_digits (n : Nat) :
    encodeChars (Decimal.digits n) = (Decimal.digits n).map fun c => c.toNat.toUInt8 :=
  Utf8.encodeChars_ascii (Decimal.forall_mem_digits (by decide) n)

/-- Digits are taken up to where they end. -/
theorem takeDigits_digits (n : Nat) {rest : Bytes} (h : Stops rest) :
    takeDigits (encodeChars (Decimal.digits n) ++ rest) = (Decimal.digits n, rest) := by
  have hall : ∀ b ∈ (Decimal.digits n).map fun c => c.toNat.toUInt8, isDigit b = true := by
    intro b hb
    obtain ⟨c, hc, rfl⟩ := List.mem_map.mp hb
    obtain ⟨d, hd, rfl⟩ := Decimal.mem_digits hc
    exact isDigit_digitChar hd
  have hback : ∀ c ∈ Decimal.digits n, Char.ofNat c.toNat.toUInt8.toNat = c :=
    Decimal.forall_mem_digits (by decide) n
  have hrest : rest.takeWhile isDigit = [] ∧ rest.dropWhile isDigit = rest := by
    cases rest with
    | nil => exact ⟨rfl, rfl⟩
    | cons b tail =>
      have hb := (h b rfl).1
      exact ⟨List.takeWhile_cons_of_neg (by simp [hb]), List.dropWhile_cons_of_neg (by simp [hb])⟩
  unfold takeDigits
  rw [encodeChars_digits, List.takeWhile_append_of_pos hall, List.dropWhile_append_of_pos hall, hrest.1,
    hrest.2, List.append_nil, List.map_map]
  congr 1
  exact (List.map_congr_left hback).trans (List.map_id _)

/-- No number but zero is written with a leading zero. -/
theorem digits_eq_zero_cons {n : Nat} {tail : List Char} (h : Decimal.digits n = '0' :: tail) :
    n = 0 ∧ tail = [] := by
  induction n using Nat.strongRecOn generalizing tail with
  | ind n ih =>
    rw [Decimal.digits] at h
    split at h
    · rename_i hn
      obtain ⟨hd, ht⟩ := List.cons.inj h
      refine ⟨?_, ht.symm⟩
      clear h ih ht
      revert n; decide
    · rename_i hn
      cases hds : Decimal.digits (n / 10) with
      | nil => exact absurd hds (Decimal.digits_ne_nil _)
      | cons c more =>
        rw [hds, List.cons_append] at h
        obtain rfl := (List.cons.inj h).1
        have := (ih (n / 10) (by omega) hds).1
        omega

theorem readNumber?_digits (n : Nat) {rest : Bytes} (h : Stops rest) :
    readNumber? false (encodeChars (Decimal.digits n) ++ rest) =
      some ({ whole := Decimal.digits n }, rest) := by
  have hwhole : readWhole? (encodeChars (Decimal.digits n) ++ rest) = some (Decimal.digits n, rest) := by
    unfold readWhole?
    rw [takeDigits_digits n h]
    split
    · rename_i heq; exact absurd (congrArg Prod.fst heq) (Decimal.digits_ne_nil n)
    · rename_i heq
      exact absurd (digits_eq_zero_cons (congrArg Prod.fst heq)).2 (by simp)
    · rename_i heq; rw [← heq]
  have hfraction : readFraction? rest = some (none, rest) := by
    unfold readFraction?
    split
    · exact absurd rfl (h 46 rfl).2.1
    · rfl
  have hexponent : readExponent? rest = some (none, rest) := by
    unfold readExponent?
    split
    · rename_i byte tail
      obtain ⟨-, -, h101, h69⟩ := h byte rfl
      simp [h101, h69]
    · rfl
  unfold readNumber?
  simp only [hwhole, hfraction, hexponent, Option.bind_eq_bind, Option.bind_some, Option.pure_def]

/-! ## Texts -/

/-- **The reader takes the text off the front of its input and gives the value.** -/
structure Reads (text : Bytes) (v : Value) : Prop where
  starts : Starts text
  read (fuel : Nat) (rest : Bytes) (hfuel : text.length ≤ fuel) (hstops : Stops rest) :
    readValue? fuel (text ++ rest) = some (v, rest)

theorem readValue?_blank {space : Bytes} (hspace : IsBlank space) (fuel : Nat) (bytes : Bytes) :
    readValue? fuel (space ++ bytes) = readValue? fuel bytes := by
  cases fuel with
  | zero => rw [readValue?, readValue?]
  | succ fuel => rw [readValue?, readValue?, skipSpace_append hspace]

theorem Reads.blank {space text : Bytes} {v : Value} (h : Reads text v) (hspace : IsBlank space) :
    Reads (space ++ text) v where
  starts := h.starts.blank hspace
  read fuel rest hfuel hstops := by
    rw [List.append_assoc, readValue?_blank hspace]
    rw [List.length_append] at hfuel
    exact h.read fuel rest (by omega) hstops

theorem reads_null : Reads (encodeChars Value.null.chars) .null where
  starts := starts_cons (show isSpace 110 = false by decide) (by decide) _
  read fuel rest hfuel hstops := by
    obtain ⟨fuel, rfl⟩ := Nat.exists_eq_succ_of_ne_zero (Nat.ne_of_gt (Nat.lt_of_lt_of_le (by decide) hfuel))
    show readValue? _ (110 :: 117 :: 108 :: 108 :: rest) = _
    rw [readValue?, skipSpace_cons (by decide)]
    rfl

/-- No value but a number begins with a digit. -/
theorem readValue?_digit {d : Nat} (hd : d < 10) (fuel : Nat) (bytes : Bytes) :
    readValue? (fuel + 1) ((Nat.digitChar d).toNat.toUInt8 :: bytes) =
      (readNumber? false ((Nat.digitChar d).toNat.toUInt8 :: bytes)).map fun read => (.number read.1, read.2) := by
  rw [readValue?, skipSpace_cons (isSpace_of_isDigit (isDigit_digitChar hd))]
  split
  · rename_i heq; exact absurd (List.cons.inj heq).1 (digitChar_ne hd (by decide))
  · rename_i heq; exact absurd (List.cons.inj heq).1 (digitChar_ne hd (by decide))
  · rename_i heq; exact absurd (List.cons.inj heq).1 (digitChar_ne hd (by decide))
  · rename_i heq; exact absurd (List.cons.inj heq).1 (digitChar_ne hd (by decide))
  · rename_i heq; exact absurd (List.cons.inj heq).1 (digitChar_ne hd (by decide))
  · rename_i heq; exact absurd (List.cons.inj heq).1 (digitChar_ne hd (by decide))
  · rename_i heq; exact absurd (List.cons.inj heq).1 (digitChar_ne hd (by decide))
  · rfl

/-- A number begins with a digit. -/
theorem encodeChars_digits_eq_cons (n : Nat) :
    ∃ d tail, d < 10 ∧ encodeChars (Decimal.digits n) = (Nat.digitChar d).toNat.toUInt8 :: tail := by
  rw [encodeChars_digits]
  cases hdigits : Decimal.digits n with
  | nil => exact absurd hdigits (Decimal.digits_ne_nil n)
  | cons c tail =>
    obtain ⟨d, hd, rfl⟩ := Decimal.mem_digits (hdigits ▸ List.mem_cons_self .. : c ∈ Decimal.digits n)
    exact ⟨d, _, hd, rfl⟩

theorem chars_natural (n : Nat) : (Value.natural n).chars = Decimal.digits n := by
  simp [Value.natural, Value.chars, Number.chars]

theorem reads_natural (n : Nat) : Reads (encodeChars (Value.natural n).chars) (.natural n) := by
  obtain ⟨d, tail, hd, htext⟩ := encodeChars_digits_eq_cons n
  rw [chars_natural]
  constructor
  · rw [htext]
    exact starts_cons (isSpace_of_isDigit (isDigit_digitChar hd)) (digitChar_ne hd (by decide)) tail
  · intro fuel rest hfuel hstops
    have hread := readNumber?_digits n hstops
    rw [htext] at hfuel hread ⊢
    obtain ⟨fuel, rfl⟩ := Nat.exists_eq_succ_of_ne_zero
      (Nat.ne_of_gt (Nat.lt_of_lt_of_le (Nat.succ_pos _) hfuel))
    rw [List.cons_append] at hread ⊢
    rw [readValue?_digit hd, hread]
    rfl

/-! ## Lists -/

/-- The text of items between the brackets of a list: commas between them, and white space around. -/
inductive ReadsItems : Bytes → List Value → Prop where
  | last {text space : Bytes} {item : Value} (h : Reads text item) (hspace : IsBlank space) :
    ReadsItems (text ++ space) [item]
  | more {text later : Bytes} {item : Value} {items : List Value} (h : Reads text item)
    (hlater : ReadsItems later items) : ReadsItems (text ++ 44 :: later) (item :: items)

theorem ReadsItems.starts {text : Bytes} {items : List Value} (h : ReadsItems text items) : Starts text := by
  cases h with
  | last h _ => exact h.starts.append _
  | more h _ => exact h.starts.append _

theorem readItems?_blank {space : Bytes} (hspace : IsBlank space) (fuel : Nat) (before : List Value) (bytes : Bytes) :
    readItems? fuel before (space ++ bytes) = readItems? fuel before bytes := by
  cases fuel with
  | zero => rw [readItems?, readItems?]
  | succ fuel => rw [readItems?, readItems?, readValue?_blank hspace]

/-- Items are read up to the closing bracket. -/
theorem ReadsItems.read {text : Bytes} {items : List Value} (h : ReadsItems text items) (before : List Value)
    (rest : Bytes) {fuel : Nat} (hfuel : text.length < fuel) :
    readItems? fuel before (text ++ 93 :: rest) = some (.array (before.reverse ++ items), rest) := by
  induction h generalizing before fuel with
  | @last text space item h hspace =>
    obtain ⟨fuel, rfl⟩ := Nat.exists_eq_succ_of_ne_zero (Nat.ne_of_gt (Nat.zero_lt_of_lt hfuel))
    rw [List.length_append] at hfuel
    have hitem := h.read fuel (space ++ 93 :: rest) (by omega) ((stops_cons (by decide) rest).blank hspace)
    rw [readItems?, List.append_assoc, hitem]
    simp [skipSpace_append hspace, skipSpace_cons (show isSpace 93 = false by decide)]
  | @more text later item items h _ ih =>
    obtain ⟨fuel, rfl⟩ := Nat.exists_eq_succ_of_ne_zero (Nat.ne_of_gt (Nat.zero_lt_of_lt hfuel))
    rw [List.length_append, List.length_cons] at hfuel
    have hitem := h.read fuel (44 :: (later ++ 93 :: rest)) (by omega) (stops_cons (by decide) _)
    have hrest := ih (item :: before) (show later.length < fuel by omega)
    rw [readItems?, List.append_assoc, List.cons_append, hitem]
    simp [skipSpace_cons (show isSpace 44 = false by decide), hrest]

theorem Reads.emptyArray : Reads [91, 93] (.array []) where
  starts := starts_cons (by decide) (by decide) _
  read fuel rest hfuel hstops := by
    obtain ⟨fuel, rfl⟩ := Nat.exists_eq_succ_of_ne_zero (Nat.ne_of_gt (Nat.lt_of_lt_of_le (by decide) hfuel))
    show readValue? _ (91 :: 93 :: rest) = _
    rw [readValue?, skipSpace_cons (by decide)]
    simp only [skipSpace_cons (show isSpace 93 = false by decide)]

theorem Reads.array {text : Bytes} {items : List Value} (h : ReadsItems text items) :
    Reads (91 :: (text ++ [93])) (.array items) where
  starts := starts_cons (by decide) (by decide) _
  read fuel rest hfuel hstops := by
    obtain ⟨fuel, rfl⟩ := Nat.exists_eq_succ_of_ne_zero (Nat.ne_of_gt (Nat.lt_of_lt_of_le (Nat.succ_pos _) hfuel))
    have hitems := h.read [] rest (show text.length < fuel by simp at hfuel; omega)
    obtain ⟨space, first, tail, rfl, hspace, hfirst, hclose⟩ := h.starts
    rw [List.append_assoc, readItems?_blank hspace] at hitems
    have htext : 91 :: ((space ++ first :: tail) ++ [93]) ++ rest = 91 :: (space ++ (first :: tail ++ 93 :: rest)) := by
      simp
    rw [htext, readValue?, skipSpace_cons (by decide)]
    simp only [skipSpace_append hspace, List.cons_append, skipSpace_cons hfirst]
    -- The first item does not begin with the bracket that closes an empty list.
    split
    · rename_i heq; exact absurd (List.cons.inj heq).1 hclose
    · exact hitems

/-! ## Records -/

/-- The text of a name: what stands for its characters, between quotes. -/
def quoted (name : String) : Bytes := encodeChars (stringChars name)

/-- The members of a record as the members of an object. -/
def named (members : List (String × Value)) : List (Option String × Value) :=
  members.map fun (name, value) => (some name, value)

/-- The text of members between the braces of a record: commas between them, and white space around. -/
inductive ReadsMembers : Bytes → List (String × Value) → Prop where
  | last (name : String) {text space : Bytes} {value : Value} (h : Reads text value) (hspace : IsBlank space) :
    ReadsMembers (quoted name ++ 58 :: (text ++ space)) [(name, value)]
  | more (name : String) {text later : Bytes} {value : Value} {members : List (String × Value)} (h : Reads text value)
    (hlater : ReadsMembers later members) :
    ReadsMembers (quoted name ++ 58 :: (text ++ 44 :: later)) ((name, value) :: members)
  | blank {space text : Bytes} {members : List (String × Value)} (hspace : IsBlank space)
    (h : ReadsMembers text members) : ReadsMembers (space ++ text) members

theorem quoted_append (name : String) (rest : Bytes) :
    quoted name ++ rest = 34 :: (encodeChars (name.toList.flatMap escapeChar) ++ 34 :: rest) := by
  unfold quoted stringChars
  simp only [List.cons_append, encodeChars_cons, encodeChars_append, List.append_assoc]
  rfl

/-- A name is read as itself, whatever characters are in it. -/
theorem readString?_name (name : String) (rest : Bytes) :
    let text := encodeChars (name.toList.flatMap escapeChar) ++ 34 :: rest
    readString? (text.length + 1) (some []) text = some (some name, rest) := by
  intro text
  have hfuel : (encodeChars (name.toList.flatMap escapeChar)).length < text.length + 1 := by
    rw [show text = encodeChars (name.toList.flatMap escapeChar) ++ 34 :: rest from rfl, List.length_append]
    omega
  have hdecode : Utf8.decode (encodeChars name.toList) = .ok name := Utf8.decode_encode name
  rw [readString?_flatMap name.toList [] rest hfuel, List.reverse_nil, List.nil_append, hdecode]
  rfl

/-- Behind white space is the quote of the first name. -/
theorem ReadsMembers.starts {text : Bytes} {members : List (String × Value)} (h : ReadsMembers text members)
    (rest : Bytes) : ∃ space tail, IsBlank space ∧ text ++ rest = space ++ 34 :: tail := by
  induction h with
  | last name h hspace =>
    rw [List.append_assoc, quoted_append]
    exact ⟨[], _, isBlank_nil, rfl⟩
  | more name h hlater _ =>
    rw [List.append_assoc, quoted_append]
    exact ⟨[], _, isBlank_nil, rfl⟩
  | @blank outer text members houter _ ih =>
    obtain ⟨space, tail, hspace, htail⟩ := ih
    refine ⟨outer ++ space, tail, List.forall_mem_append.mpr ⟨houter, hspace⟩, ?_⟩
    rw [List.append_assoc, htail, List.append_assoc]

section

variable {name : String} {value : Value} {fuel : Nat} {bytes rest rest' : Bytes}

theorem readMembers?_last (hvalue : readValue? fuel bytes = some (value, rest)) (hend : skipSpace rest = 125 :: rest')
    (before : List (Option String × Value)) : readMembers? (fuel + 1) before (quoted name ++ 58 :: bytes) =
      some (.object ((some name, value) :: before).reverse, rest') := by
  rw [quoted_append, readMembers?, skipSpace_cons (by decide)]
  simp only [readString?_name, skipSpace_cons (show isSpace 58 = false by decide), hvalue, hend]

theorem readMembers?_more (hvalue : readValue? fuel bytes = some (value, rest)) (hend : skipSpace rest = 44 :: rest')
    (before : List (Option String × Value)) : readMembers? (fuel + 1) before (quoted name ++ 58 :: bytes) =
      readMembers? fuel ((some name, value) :: before) rest' := by
  rw [quoted_append, readMembers?, skipSpace_cons (by decide)]
  simp only [readString?_name, skipSpace_cons (show isSpace 58 = false by decide), hvalue, hend]

end

theorem readMembers?_blank {space : Bytes} (hspace : IsBlank space) (fuel : Nat)
    (before : List (Option String × Value)) (bytes : Bytes) :
    readMembers? fuel before (space ++ bytes) = readMembers? fuel before bytes := by
  cases fuel with
  | zero => rw [readMembers?, readMembers?]
  | succ fuel => rw [readMembers?, readMembers?, skipSpace_append hspace]

/-- Members are read up to the closing brace. -/
theorem ReadsMembers.read {text : Bytes} {members : List (String × Value)} (h : ReadsMembers text members)
    (before : List (Option String × Value)) (rest : Bytes) {fuel : Nat} (hfuel : text.length < fuel) :
    readMembers? fuel before (text ++ 125 :: rest) = some (.object (before.reverse ++ named members), rest) := by
  induction h generalizing before fuel with
  | @last name text space value h hspace =>
    obtain ⟨fuel, rfl⟩ := Nat.exists_eq_succ_of_ne_zero (Nat.ne_of_gt (Nat.zero_lt_of_lt hfuel))
    simp only [List.length_append, List.length_cons] at hfuel
    have hvalue := h.read fuel (space ++ 125 :: rest) (by omega) ((stops_cons (by decide) rest).blank hspace)
    have hend : skipSpace (space ++ 125 :: rest) = 125 :: rest := by
      rw [skipSpace_append hspace, skipSpace_cons (by decide)]
    rw [List.append_assoc, List.cons_append, List.append_assoc, readMembers?_last hvalue hend]
    simp [named]
  | @more name text later value members h _ ih =>
    obtain ⟨fuel, rfl⟩ := Nat.exists_eq_succ_of_ne_zero (Nat.ne_of_gt (Nat.zero_lt_of_lt hfuel))
    simp only [List.length_append, List.length_cons] at hfuel
    have hvalue := h.read fuel (44 :: (later ++ 125 :: rest)) (by omega) (stops_cons (by decide) _)
    have hrest := ih ((some name, value) :: before) (show later.length < fuel by omega)
    have hcomma : skipSpace (44 :: (later ++ 125 :: rest)) = 44 :: (later ++ 125 :: rest) := skipSpace_cons (by decide)
    rw [List.append_assoc, List.cons_append, List.append_assoc, List.cons_append,
      readMembers?_more hvalue hcomma, hrest]
    simp [named]
  | @blank space text members hspace _ ih =>
    rw [List.length_append] at hfuel
    rw [List.append_assoc, readMembers?_blank hspace]
    exact ih before (by omega)

theorem Reads.emptyRecord : Reads [123, 125] (.record []) where
  starts := starts_cons (by decide) (by decide) _
  read fuel rest hfuel hstops := by
    obtain ⟨fuel, rfl⟩ := Nat.exists_eq_succ_of_ne_zero (Nat.ne_of_gt (Nat.lt_of_lt_of_le (by decide) hfuel))
    show readValue? _ (123 :: 125 :: rest) = _
    rw [readValue?, skipSpace_cons (by decide)]
    simp only [skipSpace_cons (show isSpace 125 = false by decide)]
    rfl

theorem Reads.record {text : Bytes} {members : List (String × Value)} (h : ReadsMembers text members) :
    Reads (123 :: (text ++ [125])) (.record members) where
  starts := starts_cons (by decide) (by decide) _
  read fuel rest hfuel hstops := by
    obtain ⟨fuel, rfl⟩ := Nat.exists_eq_succ_of_ne_zero (Nat.ne_of_gt (Nat.lt_of_lt_of_le (Nat.succ_pos _) hfuel))
    have hmembers := h.read [] rest (show text.length < fuel by simp at hfuel; omega)
    obtain ⟨space, tail, hspace, htail⟩ := h.starts (125 :: rest)
    have htext : 123 :: (text ++ [125]) ++ rest = 123 :: (text ++ 125 :: rest) := by simp
    rw [htail, readMembers?_blank hspace] at hmembers
    rw [htext, htail, readValue?, skipSpace_cons (by decide)]
    simp only [skipSpace_append hspace, skipSpace_cons (show isSpace 34 = false by decide)]
    exact hmembers

/-! ## Layouts -/

/-- Values made of nothing, whole numbers, lists, and records. -/
inductive Plain : Value → Prop where
  | null : Plain .null
  | natural (n : Nat) : Plain (.natural n)
  | array {items : List Value} (h : ∀ item ∈ items, Plain item) : Plain (.array items)
  | record {members : List (String × Value)} (h : ∀ m ∈ members, Plain m.2) : Plain (.record members)

theorem encodeChars_comma (rest : List Char) : encodeChars (',' :: rest) = 44 :: encodeChars rest := rfl

theorem encodeChars_colon (rest : List Char) : encodeChars (':' :: rest) = 58 :: encodeChars rest := rfl

theorem encodeChars_blank (rest : List Char) : encodeChars (' ' :: rest) = 32 :: encodeChars rest := rfl

theorem Reads.bracketed {chars : List Char} {items : List Value} (h : ReadsItems (encodeChars chars) items) :
    Reads (encodeChars ('[' :: chars ++ [']'])) (.array items) := by
  have htext : encodeChars ('[' :: chars ++ [']']) = 91 :: (encodeChars chars ++ [93]) := by
    rw [List.cons_append, encodeChars_cons, encodeChars_append]
    rfl
  rw [htext]
  exact .array h

theorem Reads.braced {chars : List Char} {members : List (String × Value)}
    (h : ReadsMembers (encodeChars chars) members) :
    Reads (encodeChars ('\x7b' :: chars ++ ['\x7d'])) (.record members) := by
  have htext : encodeChars ('\x7b' :: chars ++ ['\x7d']) = 123 :: (encodeChars chars ++ [125]) := by
    rw [List.cons_append, encodeChars_cons, encodeChars_append]
    rfl
  rw [htext]
  exact .record h

/-! ### Compact text -/

theorem readsItems_itemChars {items : List Value} (h : ∀ item ∈ items, Reads (encodeChars item.chars) item)
    (hne : items ≠ []) : ReadsItems (encodeChars (itemChars items)) items := by
  induction items with
  | nil => exact absurd rfl hne
  | cons item more ih =>
    have hitem := h item (List.mem_cons_self ..)
    cases more with
    | nil => simpa [itemChars] using ReadsItems.last hitem isBlank_nil
    | cons next more =>
      have hmore := ih (fun v hv => h v (List.mem_cons_of_mem _ hv)) (by simp)
      simpa [itemChars, encodeChars_append, encodeChars_comma] using ReadsItems.more hitem hmore

theorem readsMembers_memberChars {members : List (String × Value)}
    (h : ∀ m ∈ members, Reads (encodeChars m.2.chars) m.2) (hne : members ≠ []) :
    ReadsMembers (encodeChars (memberChars (named members))) members := by
  induction members with
  | nil => exact absurd rfl hne
  | cons member more ih =>
    obtain ⟨name, value⟩ := member
    have hvalue := h (name, value) (List.mem_cons_self ..)
    cases more with
    | nil =>
      simpa [memberChars, named, quoted, encodeChars_append, encodeChars_colon] using
        ReadsMembers.last name hvalue isBlank_nil
    | cons next more =>
      have hmore := ih (fun m hm => h m (List.mem_cons_of_mem _ hm)) (by simp)
      simpa [memberChars, named, quoted, encodeChars_append, encodeChars_comma, encodeChars_colon] using
        ReadsMembers.more name hvalue hmore

/-- **The reader takes the compact text of a plain value off the front of its input.** -/
theorem reads_chars {v : Value} (h : Plain v) : Reads (encodeChars v.chars) v := by
  induction h with
  | null => exact reads_null
  | natural n => exact reads_natural n
  | @array items _ ih =>
    cases items with
    | nil => exact .emptyArray
    | cons item more => exact .bracketed (readsItems_itemChars ih (by simp))
  | @record members _ ih =>
    cases members with
    | nil => exact .emptyRecord
    | cons member more => exact .braced (readsMembers_memberChars ih (by simp))

/-! ### Text in lines -/

theorem isBlank_newLine (depth : Nat) : IsBlank (encodeChars (newLine depth)) := by
  have hline : encodeChars (newLine depth) = 10 :: List.replicate (2 * depth) 32 := by
    rw [Utf8.encodeChars_ascii, newLine, List.map_cons, List.map_replicate]
    · rfl
    · simp [newLine]
  rw [hline]
  simp [IsBlank, isSpace]

theorem readsItems_prettyItems {item : Value} {more : List Value} {depth : Nat}
    (hitem : Reads (encodeChars (item.prettyChars depth)) item)
    (hmore : ∀ v ∈ more, Reads (encodeChars (v.prettyChars depth)) v) {space : List Char}
    (hspace : IsBlank (encodeChars space)) :
    ReadsItems (encodeChars (newLine depth ++ item.prettyChars depth ++ prettyItems depth more ++ space))
      (item :: more) := by
  have hfirst := hitem.blank (isBlank_newLine depth)
  induction more generalizing item with
  | nil => simpa [prettyItems, encodeChars_append] using ReadsItems.last hfirst hspace
  | cons next more ih =>
    have hnext := hmore next (List.mem_cons_self ..)
    have hrest := ih hnext (fun v hv => hmore v (List.mem_cons_of_mem _ hv)) (hnext.blank (isBlank_newLine depth))
    simpa [prettyItems, encodeChars_append, encodeChars_comma] using ReadsItems.more hfirst hrest

theorem readsMembers_prettyMembers (name : String) {value : Value} {more : List (String × Value)} {depth : Nat}
    (hvalue : Reads (encodeChars (value.prettyChars depth)) value)
    (hmore : ∀ m ∈ more, Reads (encodeChars (m.2.prettyChars depth)) m.2) {space : List Char}
    (hspace : IsBlank (encodeChars space)) :
    ReadsMembers (encodeChars (newLine depth ++ stringChars name ++ ':' :: ' ' :: value.prettyChars depth ++
      prettyMembers depth (named more) ++ space)) ((name, value) :: more) := by
  have hblank : IsBlank [32] := by simp [IsBlank, isSpace]
  have hfirst := hvalue.blank hblank
  induction more generalizing name value with
  | nil =>
    have hlast := (ReadsMembers.last name hfirst hspace).blank (isBlank_newLine depth)
    simpa [prettyMembers, named, quoted, encodeChars_append, encodeChars_colon, encodeChars_blank] using hlast
  | cons next more ih =>
    have hnext := hmore next (List.mem_cons_self ..)
    have hrest := ih next.1 hnext (fun m hm => hmore m (List.mem_cons_of_mem _ hm)) (hnext.blank hblank)
    have hall := (ReadsMembers.more name hfirst hrest).blank (isBlank_newLine depth)
    simpa [prettyMembers, named, quoted, encodeChars_append, encodeChars_comma, encodeChars_colon,
      encodeChars_blank] using hall

/-- **The reader takes the text of a plain value in lines off the front of its input.** -/
theorem reads_prettyChars {v : Value} (h : Plain v) (depth : Nat) : Reads (encodeChars (v.prettyChars depth)) v := by
  induction h generalizing depth with
  | null => exact reads_null
  | natural n => exact reads_natural n
  | @array items _ ih =>
    cases items with
    | nil => exact .emptyArray
    | cons item more =>
      have hitems := readsItems_prettyItems (ih item (List.mem_cons_self ..) (depth + 1))
        (fun v hv => ih v (List.mem_cons_of_mem _ hv) (depth + 1)) (isBlank_newLine depth)
      simpa [Value.prettyChars] using Reads.bracketed hitems
  | @record members _ ih =>
    cases members with
    | nil => exact .emptyRecord
    | cons member more =>
      have hmembers := readsMembers_prettyMembers member.1 (ih member (List.mem_cons_self ..) (depth + 1))
        (fun m hm => ih m (List.mem_cons_of_mem _ hm) (depth + 1)) (isBlank_newLine depth)
      simpa [Value.record, named, Value.prettyChars] using Reads.braced hmembers

/-! ### Documents -/

/-- A text that is read as a value is read as that, with white space behind it. -/
theorem Reads.read?_eq {text : Bytes} {v : Value} (h : Reads text v) {space : Bytes} (hspace : IsBlank space) :
    read? (text ++ space) = some v := by
  have hstops : Stops space := by simpa using stops_nil.blank hspace
  have hrest : skipSpace space = [] := by
    have hskip := skipSpace_append hspace []
    rwa [List.append_nil] at hskip
  unfold read?
  rw [h.read _ space (by simp; omega) hstops]
  simp [hrest]

/-- **The compact text of a plain value is read back.** -/
theorem read?_chars {v : Value} (h : Plain v) : read? (encodeChars v.chars) = some v := by
  simpa using (reads_chars h).read?_eq isBlank_nil

/-- **The text of a plain value in lines is read back**, with white space behind it. -/
theorem read?_writePretty {v : Value} (h : Plain v) {space : Bytes} (hspace : IsBlank space) :
    read? (Utf8.encode v.writePretty ++ space) = some v := by
  have htext : Utf8.encode v.writePretty = encodeChars (v.prettyChars 0) := by
    rw [Utf8.encode, Value.writePretty, String.toList_ofList]
  rw [htext]
  exact (reads_prettyChars h 0).read?_eq hspace

end SegmentSync.Json
