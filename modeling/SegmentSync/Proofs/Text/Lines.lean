import SegmentSync.Text.Blank

/-!
# `SegmentSync.Proofs.Text.Lines` — how a text is cut, and what white space does not matter

## Contents
- **Lines.** A line feed closes what is before it (`lines_cons`), and what is behind the last one is a line of its own
  (`lines_last`).
- **White space.** Nothing that is put around a text changes what is left of it when it is trimmed (`trim_pad`).
-/

namespace SegmentSync.Text

/-! ## Lines -/

theorem lines_go_append (line a b : List Char) :
    lines.go line (a ++ '\n' :: b) = lines.go line (a ++ ['\n']) ++ lines.go [] b := by
  induction a generalizing line with
  | nil => simp [lines.go]
  | cons c rest ih =>
    simp only [List.cons_append, lines.go]
    split
    · rw [ih, List.cons_append]
    · exact ih _

/-- A line feed closes what is before it. -/
theorem lines_append (a b : List Char) : lines (a ++ '\n' :: b) = lines (a ++ ['\n']) ++ lines b :=
  lines_go_append [] a b

/-- Up to a line feed, all that is read goes to the current line. -/
theorem lines_go_of_notMem {line : List Char} (h : '\n' ∉ line) (before rest : List Char) :
    lines.go before (line ++ rest) = lines.go (before ++ line) rest := by
  induction line generalizing before with
  | nil => rw [List.nil_append, List.append_nil]
  | cons c line ih =>
    have hc : c ≠ '\n' := fun heq => h (heq ▸ List.mem_cons_self ..)
    rw [List.cons_append, lines.go, if_neg hc, ih fun hmem => h (List.mem_cons_of_mem c hmem), List.append_assoc]
    rfl

/-- A text begins with the line up to its first line feed. -/
theorem lines_cons {line : List Char} (h : '\n' ∉ line) (rest : List Char) :
    lines (line ++ '\n' :: rest) = dropReturn line :: lines rest := by
  unfold lines
  rw [lines_go_of_notMem h, List.nil_append, lines.go, if_pos rfl]

/-- Without a line feed, a text is one line at most. -/
theorem lines_last {line : List Char} (h : '\n' ∉ line) : lines line = if line = [] then [] else [line] := by
  have hgo := lines_go_of_notMem h [] []
  rw [List.append_nil, List.nil_append] at hgo
  unfold lines
  rw [hgo, lines.go]

/-- At most a carriage return is dropped. -/
theorem dropReturn_cases (line : List Char) : dropReturn line = line ∨ line = dropReturn line ++ ['\r'] := by
  unfold dropReturn
  split
  · rename_i hlast
    obtain ⟨before, rfl⟩ := List.getLast?_eq_some_iff.mp hlast
    exact .inr (by rw [List.dropLast_concat])
  · exact .inl rfl

/-! ## White space -/

theorem trimStart_blank {blank : List Char} (h : ∀ c ∈ blank, isBlank c = true) (chars : List Char) :
    trimStart (blank ++ chars) = trimStart chars :=
  List.dropWhile_append_of_pos h

theorem trimEnd_blank {blank : List Char} (h : ∀ c ∈ blank, isBlank c = true) (chars : List Char) :
    trimEnd (chars ++ blank) = trimEnd chars := by
  have hreverse : ∀ c ∈ blank.reverse, isBlank c = true := fun c hc => h c (List.mem_reverse.mp hc)
  unfold trimEnd
  rw [List.reverse_append, List.dropWhile_append_of_pos hreverse]

/-- White space at the end is no obstacle at the start, unless there is nothing else. -/
theorem trimStart_append (chars blank : List Char) :
    trimStart (chars ++ blank) = if trimStart chars = [] then trimStart blank else trimStart chars ++ blank := by
  unfold trimStart
  rw [List.dropWhile_append]
  simp only [List.isEmpty_iff]

/-- **White space around a text does not matter when it is trimmed.** -/
theorem trim_pad {left right : List Char} (hleft : ∀ c ∈ left, isBlank c = true)
    (hright : ∀ c ∈ right, isBlank c = true) (chars : List Char) : trim (left ++ chars ++ right) = trim chars := by
  unfold trim
  rw [List.append_assoc, trimStart_blank hleft, trimStart_append]
  split
  · rename_i hnone
    have hright' : trimStart right = [] := by
      rw [← List.append_nil right, trimStart_blank hright]
      rfl
    rw [hnone, hright']
  · exact trimEnd_blank hright _

/-- What begins with another character than white space still does when it is trimmed. -/
theorem head?_trim_cons {c : Char} (h : isBlank c = false) (chars : List Char) : (trim (c :: chars)).head? = some c := by
  have hstart : trimStart (c :: chars) = c :: chars := List.dropWhile_cons_of_neg (by rw [h]; exact Bool.false_ne_true)
  unfold trim
  rw [hstart]
  unfold trimEnd
  rw [List.reverse_cons, List.dropWhile_append]
  -- The end is dropped up to that character at most.
  split
  · rw [List.dropWhile_cons_of_neg (by rw [h]; exact Bool.false_ne_true)]
    rfl
  · rw [List.reverse_append]
    rfl

/-- A text that begins with that character when white space is put around it begins with it anyway. -/
theorem head?_of_pad {c : Char} (hc : isBlank c = false) {left chars right : List Char}
    (hleft : ∀ d ∈ left, isBlank d = true) (hright : ∀ d ∈ right, isBlank d = true)
    (h : (left ++ chars ++ right).head? = some c) : chars.head? = some c := by
  have hnotMem {blank : List Char} (hblank : ∀ d ∈ blank, isBlank d = true) : c ∉ blank := fun hmem => by
    rw [hblank c hmem] at hc
    cases hc
  obtain ⟨rest, hrest⟩ := List.head?_eq_some_iff.mp h
  cases left with
  | cons first more =>
    obtain ⟨rfl, -⟩ := List.cons.inj hrest
    exact absurd List.mem_cons_self (hnotMem hleft)
  | nil =>
    cases chars with
    | cons first more =>
      obtain ⟨rfl, -⟩ := List.cons.inj hrest
      rfl
    | nil =>
      have hright' : right = c :: rest := hrest
      exact absurd (hright' ▸ List.mem_cons_self) (hnotMem hright)

end SegmentSync.Text
