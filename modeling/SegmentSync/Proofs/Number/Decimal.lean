import SegmentSync.Number.Decimal

/-!
# `SegmentSync.Proofs.Number.Decimal` — numbers survive their digits

The digits of a number below a bound are read back as the number (`read_digits`), so that cursors, sizes and
markers come through requests and replies unchanged. `Numeral` says which texts stand for a number at all, and these are
the ones that are read (`read_eq_ok_iff`).
-/

namespace SegmentSync.Decimal

/-! ## Digits -/

theorem digit?_digitChar {d : Nat} (h : d < 10) : digit? (Nat.digitChar d) = some d := by
  revert d; decide

/-- Digits are ASCII digits, and nothing else. -/
theorem mem_digits {n : Nat} {c : Char} (h : c ∈ digits n) : ∃ d < 10, c = Nat.digitChar d := by
  induction n using Nat.strongRecOn with
  | ind n ih =>
    rw [digits] at h
    split at h
    · rename_i hn
      exact ⟨n, hn, List.mem_singleton.mp h⟩
    · rename_i hn
      rcases List.mem_append.mp h with h' | h'
      · exact ih (n / 10) (by omega) h'
      · exact ⟨n % 10, by omega, List.mem_singleton.mp h'⟩

/-- What holds of the ten digits holds of all digits of a number. -/
theorem forall_mem_digits {p : Char → Prop} (h : ∀ d < 10, p (Nat.digitChar d)) (n : Nat) :
    ∀ c ∈ digits n, p c := by
  intro c hc
  obtain ⟨d, hd, rfl⟩ := mem_digits hc
  exact h d hd

theorem digits_ne_nil (n : Nat) : digits n ≠ [] := by
  rw [digits]
  split
  · exact List.cons_ne_nil _ _
  · exact List.append_ne_nil_of_right_ne_nil _ (List.cons_ne_nil _ _)

@[simp] theorem toList_text (n : Nat) : (text n).toList = digits n := by
  unfold text; rw [String.toList_ofList]

/-! ## Numerals -/

/-- The character of a digit. -/
def digitChar (d : Fin 10) : Char := Nat.digitChar d.val

/-- The number that becomes of `n` when digits are written behind it. -/
def extend (n : Nat) (ds : List (Fin 10)) : Nat := ds.foldl (fun n d => n * 10 + d.val) n

/-- The text stands for a number: a plus sign or none, then one digit or more. -/
def Numeral (chars : List Char) (n : Nat) : Prop :=
  ∃ sign ds, (sign = [] ∨ sign = ['+']) ∧ ds ≠ [] ∧ chars = sign ++ ds.map digitChar ∧ extend 0 ds = n

theorem digitChar_ne_plus (d : Fin 10) : digitChar d ≠ '+' := by
  revert d; decide

theorem le_extend (n : Nat) (ds : List (Fin 10)) : n ≤ extend n ds := by
  induction ds generalizing n with
  | nil => exact Nat.le_refl n
  | cons d rest ih =>
    have hrest := ih (n * 10 + d.val)
    show n ≤ extend (n * 10 + d.val) rest
    omega

/-- The digits of a number stand for it. -/
theorem exists_digits (n : Nat) : ∃ ds : List (Fin 10), ds ≠ [] ∧ digits n = ds.map digitChar ∧ extend 0 ds = n := by
  induction n using Nat.strongRecOn with
  | ind n ih =>
    rw [digits]
    split
    · rename_i hn
      exact ⟨[⟨n, hn⟩], List.cons_ne_nil _ _, rfl, Nat.zero_add n⟩
    · rename_i hn
      obtain ⟨ds, hne, hds, hvalue⟩ := ih (n / 10) (by omega)
      refine ⟨ds ++ [⟨n % 10, by omega⟩], List.append_ne_nil_of_left_ne_nil hne _, ?_, ?_⟩
      · rw [hds, List.map_append]
        rfl
      · have hlast : extend 0 (ds ++ [⟨n % 10, by omega⟩]) = extend 0 ds * 10 + n % 10 := List.foldl_append
        rw [hlast, hvalue]
        omega

/-! ## Reading -/

theorem digit?_eq_some {c : Char} {n : Nat} (h : digit? c = some n) : ∃ d : Fin 10, c = digitChar d ∧ n = d.val := by
  unfold digit? at h
  split at h
  · rename_i hrange
    simp only [Bool.and_eq_true, decide_eq_true_eq, Char.le_def, UInt32.le_iff_toNat_le] at hrange
    have hlow : 48 ≤ c.toNat := hrange.1
    have hhigh : c.toNat ≤ 57 := hrange.2
    have hn : c.toNat - 48 = n := Option.some.inj h
    have hall : ∀ d : Fin 10, Char.ofNat (48 + d.val) = digitChar d := by decide
    refine ⟨⟨n, by omega⟩, ?_, rfl⟩
    rw [← hall]
    show c = Char.ofNat (48 + n)
    rw [← hn, Nat.add_sub_cancel' hlow, Char.ofNat_toNat]
  · cases h

/-- Digits are read as long as the number stays below the bound. -/
theorem accumulate_map {bound n : Nat} {ds : List (Fin 10)} (h : extend n ds < bound) :
    accumulate bound n (ds.map digitChar) = .ok (extend n ds) := by
  induction ds generalizing n with
  | nil => rfl
  | cons d rest ih =>
    replace h : extend (n * 10 + d.val) rest < bound := h
    have hlt : n * 10 + d.val < bound := Nat.lt_of_le_of_lt (le_extend _ rest) h
    have hd : digit? (digitChar d) = some d.val := digit?_digitChar d.isLt
    simp only [List.map_cons, accumulate, hd, if_pos hlt]
    exact ih h

/-- What is read as a number consists of digits. -/
theorem accumulate_eq_ok {bound n m : Nat} {chars : List Char} (h : accumulate bound n chars = .ok m) :
    ∃ ds : List (Fin 10), chars = ds.map digitChar ∧ extend n ds = m ∧ (chars ≠ [] → m < bound) := by
  induction chars generalizing n with
  | nil =>
    obtain rfl := Except.ok.inj h
    exact ⟨[], rfl, rfl, fun hne => absurd rfl hne⟩
  | cons c rest ih =>
    simp only [accumulate] at h
    cases hc : digit? c with
    | none => simp only [hc] at h; cases h
    | some k =>
      obtain ⟨d, rfl, rfl⟩ := digit?_eq_some hc
      simp only [hc] at h
      split at h
      · rename_i hlt
        obtain ⟨ds, rfl, hm, hbound⟩ := ih h
        refine ⟨d :: ds, rfl, hm, fun _ => ?_⟩
        cases ds with
        | nil => exact hm ▸ hlt
        | cons e more => exact hbound (List.cons_ne_nil _ _)
      · cases h

/-- Digits are neither nothing nor a sign, so the reader goes straight to them. -/
theorem read_map {bound : Nat} {ds : List (Fin 10)} (hds : ds ≠ []) (h : extend 0 ds < bound) :
    read bound (ds.map digitChar) = .ok (extend 0 ds) := by
  have hacc := accumulate_map h
  obtain ⟨d, rest, rfl⟩ := List.exists_cons_of_ne_nil hds
  unfold read
  split
  · rename_i heq; cases heq
  · rename_i heq; exact absurd (List.cons.inj heq).1 (digitChar_ne_plus d)
  · rename_i heq; exact absurd (List.cons.inj heq).1 (digitChar_ne_plus d)
  · exact hacc

/-- **A text is read as the number that it stands for**, if that is below the bound, and no other text is read. -/
theorem read_eq_ok_iff {bound n : Nat} {chars : List Char} :
    read bound chars = .ok n ↔ Numeral chars n ∧ n < bound := by
  constructor
  · intro h
    have hdigits : ∃ sign rest, (sign = [] ∨ sign = ['+']) ∧ chars = sign ++ rest ∧ rest ≠ [] ∧
        accumulate bound 0 rest = .ok n := by
      unfold read at h
      split at h
      · cases h
      · cases h
      · rename_i rest hne
        exact ⟨['+'], rest, .inr rfl, rfl, hne, h⟩
      · rename_i hne _ _
        exact ⟨[], chars, .inl rfl, rfl, hne, h⟩
    obtain ⟨sign, rest, hsign, rfl, hne, h⟩ := hdigits
    obtain ⟨ds, rfl, hn, hbound⟩ := accumulate_eq_ok h
    exact ⟨⟨sign, ds, hsign, fun hnil => hne (hnil ▸ rfl), rfl, hn⟩, hbound hne⟩
  · rintro ⟨⟨sign, ds, hsign, hds, rfl, rfl⟩, hbound⟩
    rcases hsign with rfl | rfl
    · exact read_map hds hbound
    · obtain ⟨d, rest, rfl⟩ := List.exists_cons_of_ne_nil hds
      exact accumulate_map hbound

/-- **A number is read back from its digits** wherever it is below the bound. -/
theorem read_digits {bound n : Nat} (h : n < bound) : read bound (digits n) = .ok n := by
  obtain ⟨ds, hne, hds, rfl⟩ := exists_digits n
  rw [hds]
  exact read_map hne h

@[simp] theorem readUInt16_digits (n : UInt16) : readUInt16 (digits n.toNat) = .ok n := by
  unfold readUInt16
  rw [read_digits n.toNat_lt_size]
  simp only [Except.map, Nat.toUInt16_eq, UInt16.ofNat_toNat]

@[simp] theorem readUInt32_digits (n : UInt32) : readUInt32 (digits n.toNat) = .ok n := by
  unfold readUInt32
  rw [read_digits n.toNat_lt_size]
  simp only [Except.map, Nat.toUInt32_eq, UInt32.ofNat_toNat]

@[simp] theorem readUInt64_digits (n : UInt64) : readUInt64 (digits n.toNat) = .ok n := by
  unfold readUInt64
  rw [read_digits n.toNat_lt_size]
  simp only [Except.map, Nat.toUInt64_eq, UInt64.ofNat_toNat]

end SegmentSync.Decimal
