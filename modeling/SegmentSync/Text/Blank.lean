/-!
# `SegmentSync.Text.Blank` — white space and lines

`isBlank` is the Unicode property `White_Space`. `trim` removes it at both ends. `lines` cuts a text at line
feeds; a carriage return directly before the line feed belongs to the line's end.
-/

namespace SegmentSync.Text

/-- The ranges of code points with the property `White_Space`, in order. -/
def blankRanges : List (Nat × Nat) :=
  [(0x09, 0x0D), (0x20, 0x20), (0x85, 0x85), (0xA0, 0xA0), (0x1680, 0x1680), (0x2000, 0x200A),
    (0x2028, 0x2029), (0x202F, 0x202F), (0x205F, 0x205F), (0x3000, 0x3000)]

/-- White space. -/
def isBlank (c : Char) : Bool :=
  blankRanges.any fun (low, high) => low ≤ c.toNat && c.toNat ≤ high

/-- Without white space at the start. -/
def trimStart (chars : List Char) : List Char := chars.dropWhile isBlank

/-- Without white space at the end. -/
def trimEnd (chars : List Char) : List Char := (chars.reverse.dropWhile isBlank).reverse

/-- Without white space at both ends. -/
def trim (chars : List Char) : List Char := trimEnd (trimStart chars)

/-- A line without the carriage return that may close it. -/
def dropReturn (line : List Char) : List Char :=
  if line.getLast? = some '\r' then line.dropLast else line

/-- The lines of a text. Text after the last line feed is a line of its own, kept as it is; there is none
    when the text ends with a line feed. -/
def lines (chars : List Char) : List (List Char) :=
  go [] chars
where
  /-- `line` is what has been read of the current line. -/
  go (line : List Char) : List Char → List (List Char)
    | [] => if line = [] then [] else [line]
    | c :: rest => if c = '\n' then dropReturn line :: go [] rest else go (line ++ [c]) rest

/-- The text before and after the first `c`, if there is one. -/
def splitOnce (c : Char) : List Char → Option (List Char × List Char)
  | [] => none
  | d :: rest =>
    if d = c then some ([], rest) else (splitOnce c rest).map fun (a, b) => (d :: a, b)

/-- The text before and after the last `c`, if there is one. -/
def splitOnceLast (c : Char) (chars : List Char) : Option (List Char × List Char) :=
  (splitOnce c chars.reverse).map fun (b, a) => (a.reverse, b.reverse)

/-- Cutting at the first `c` loses nothing but that `c`. -/
theorem splitOnce_eq_some {c : Char} {s a b : List Char} (h : splitOnce c s = some (a, b)) :
    s = a ++ c :: b ∧ c ∉ a := by
  induction s generalizing a b with
  | nil => simp [splitOnce] at h
  | cons d rest ih =>
    by_cases hd : d = c
    · simp [splitOnce, hd] at h
      obtain ⟨rfl, rfl⟩ := h
      simp [hd]
    · simp only [splitOnce, hd, if_false, Option.map_eq_some_iff, Prod.mk.injEq] at h
      obtain ⟨⟨a', b'⟩, h', rfl, rfl⟩ := h
      obtain ⟨rfl, hn⟩ := ih h'
      simp [hn, Ne.symm hd]

/-- A text without `c` ends at the first `c` behind it. -/
theorem splitOnce_append {c : Char} {a b : List Char} (h : c ∉ a) :
    splitOnce c (a ++ c :: b) = some (a, b) := by
  induction a with
  | nil => simp [splitOnce]
  | cons d rest ih =>
    have hd : d ≠ c := fun heq => h (heq ▸ List.mem_cons_self ..)
    rw [List.cons_append, splitOnce, if_neg hd, ih fun hmem => h (List.mem_cons_of_mem d hmem)]
    rfl

/-- A text without `c` begins at the last `c` before it. -/
theorem splitOnceLast_append {c : Char} {a b : List Char} (h : c ∉ b) :
    splitOnceLast c (a ++ c :: b) = some (a, b) := by
  have hreverse : (a ++ c :: b).reverse = b.reverse ++ c :: a.reverse := by simp
  unfold splitOnceLast
  rw [hreverse, splitOnce_append fun hmem => h (List.mem_reverse.mp hmem)]
  simp

/-- There is no cut exactly when there is no `c`. -/
theorem splitOnce_eq_none_iff {c : Char} {s : List Char} : splitOnce c s = none ↔ c ∉ s := by
  induction s with
  | nil => simp [splitOnce]
  | cons d rest ih =>
    by_cases hd : d = c
    · simp [splitOnce, hd]
    · simp [splitOnce, hd, ih, Ne.symm hd]

end SegmentSync.Text
