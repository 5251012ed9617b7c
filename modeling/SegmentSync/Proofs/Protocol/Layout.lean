import SegmentSync.Proofs.Protocol.Fields

/-!
# `SegmentSync.Proofs.Protocol.Layout` — the layout of an information block does not matter

Stores lay out their information blocks as they like: with comments and further fields, with white space around keys and
values, with either kind of line ending, and with the fields in any order. None of this changes what is read, be it a
snapshot or the reason why there is none.

## Contents
- **Blocks.** `Answer.InfoLine`, and the text of some lines (`Answer.blockText`).
- **Layout.** `Answer.Relaid`: the changes of layout and what they add up to. None of them changes the values that the
  lines give for a cursor field (`Answer.Relaid.valuesOf_eq`).
- **The theorem.** `Answer.info_ignores_layout`.
-/

namespace SegmentSync.Answer

/-! ## Blocks -/

/-- How a line ends. -/
inductive LineEnd where
  | feed
  | returnFeed
  deriving DecidableEq, Repr

/-- The characters that end a line. -/
def LineEnd.chars : LineEnd → List Char
  | .feed => ['\n']
  | .returnFeed => ['\r', '\n']

/-- A line of a block with its end. -/
structure InfoLine where
  chars : List Char
  ending : LineEnd := .feed
  noFeed : '\n' ∉ chars := by decide

/-- The text of some lines, of which the last one may be left open. -/
def blockText (closed : Bool) : List InfoLine → List Char
  | [] => []
  | [line] => line.chars ++ if closed then line.ending.chars else []
  | line :: next :: rest => line.chars ++ line.ending.chars ++ blockText closed (next :: rest)

/-- However a line ends, it gives the field that it gives without its end. -/
theorem filterMap_lines_ended (line : InfoLine) (rest : List Char) :
    (Text.lines (line.chars ++ line.ending.chars ++ rest)).filterMap infoField? =
      (line.chars :: Text.lines rest).filterMap infoField? := by
  cases line.ending with
  | feed =>
    have hlines : Text.lines (line.chars ++ ['\n'] ++ rest) = Text.dropReturn line.chars :: Text.lines rest := by
      rw [List.append_assoc]
      exact Text.lines_cons line.noFeed rest
    show (Text.lines (line.chars ++ ['\n'] ++ rest)).filterMap infoField? = _
    rw [hlines, List.filterMap_cons, infoField?_dropReturn, List.filterMap_cons]
  | returnFeed =>
    have hnoFeed : '\n' ∉ line.chars ++ ['\r'] := by
      simp only [List.mem_append, List.mem_singleton, not_or]
      exact ⟨line.noFeed, by decide⟩
    have hlines : Text.lines (line.chars ++ ['\r', '\n'] ++ rest) =
        Text.dropReturn (line.chars ++ ['\r']) :: Text.lines rest := by
      rw [← Text.lines_cons hnoFeed, List.append_assoc, List.append_assoc]
      rfl
    show (Text.lines (line.chars ++ ['\r', '\n'] ++ rest)).filterMap infoField? = _
    rw [hlines, List.filterMap_cons, infoField?_dropReturn, infoField?_return, List.filterMap_cons]

/-- **The lines of a block give the same fields, however they end.** -/
theorem filterMap_lines_blockText (closed : Bool) (block : List InfoLine) :
    (Text.lines (blockText closed block)).filterMap infoField? =
      (block.map InfoLine.chars).filterMap infoField? := by
  fun_induction blockText with
  | case1 => rfl
  | case2 line =>
    cases closed with
    | true =>
      have hended := filterMap_lines_ended line []
      rw [List.append_nil] at hended
      exact hended
    | false =>
      -- An empty line that is left open is none, and would give no field.
      show (Text.lines (line.chars ++ [])).filterMap infoField? = [line.chars].filterMap infoField?
      rw [List.append_nil, Text.lines_last line.noFeed]
      split
      · rename_i hempty
        rw [hempty]
        rfl
      · rfl
  | case3 line next rest ih =>
    rw [filterMap_lines_ended, List.map_cons, List.filterMap_cons, ih, List.filterMap_cons]

/-! ## Layout -/

/-- The line gives none of the cursor fields. -/
inductive Beside (line : List Char) : Prop where
  | comment (h : line.head? = some '#')
  | noColon (h : ':' ∉ line)
  | otherField {key : List Char} (hkey : keyOf? line = some key) (hother : ∀ field ∈ cursorFields, key ≠ field.toList)

/-- The key of the field that a line gives, if it gives one. -/
def fieldKey? (line : List Char) : Option (List Char) := (infoField? line).map Prod.fst

/-- Two lists of lines differ in layout only. -/
inductive Relaid : List (List Char) → List (List Char) → Prop where
  | inserted (before after : List (List Char)) {line : List Char} (h : Beside line) :
      Relaid (before ++ after) (before ++ line :: after)
  /-- There is white space around the key and around the value of a line. -/
  | padded (before after : List (List Char)) {key value a b c d : List Char} (hkey : ':' ∉ key)
      (hblank : ∀ char ∈ a ++ b ++ c ++ d, Text.isBlank char = true) :
      Relaid (before ++ (key ++ ':' :: value) :: after) (before ++ (a ++ key ++ b ++ ':' :: (c ++ value ++ d)) :: after)
  /-- The lines are in another order, but those with one key are in the same. -/
  | permuted {lines lines' : List (List Char)} (hperm : lines.Perm lines')
      (horder : ∀ key, lines.filter (fieldKey? · = some key) = lines'.filter (fieldKey? · = some key)) :
      Relaid lines lines'
  | symm {lines lines' : List (List Char)} (h : Relaid lines lines') : Relaid lines' lines
  | trans {lines lines' lines'' : List (List Char)} (h : Relaid lines lines') (h' : Relaid lines' lines'') :
      Relaid lines lines''

/-- Two lines next to each other may change places, unless they give the same field. -/
theorem Relaid.swap (before after : List (List Char)) {line line' : List Char} (hne : fieldKey? line ≠ fieldKey? line') :
    Relaid (before ++ line :: line' :: after) (before ++ line' :: line :: after) := by
  refine .permuted ((List.Perm.swap line' line after).append_left before) fun key => ?_
  rw [List.filter_append, List.filter_append]
  by_cases hkey : fieldKey? line = some key
  · have hkey' : fieldKey? line' ≠ some key := fun heq => hne (hkey.trans heq.symm)
    simp [hkey, hkey']
  · simp [List.filter_cons, hkey]

variable {field : String}

/-- No cursor field looks like a comment. -/
theorem head?_cursorField (h : field ∈ cursorFields) : field.toList.head? ≠ some '#' := by
  revert field
  decide

theorem valuesOf_single_eq_nil {line : List Char} {field : List Char} (h : fieldKey? line ≠ some field) :
    valuesOf field [line] = [] := by
  unfold valuesOf Table.valuesFor
  unfold fieldKey? at h
  cases hline : infoField? line with
  | none => simp [hline]
  | some pair =>
    rw [hline] at h
    have hne : pair.1 ≠ field := fun heq => h (congrArg some heq)
    simp [hline, hne]

/-- Lines that give none of the cursor fields have no value for them. -/
theorem Beside.valuesOf_eq {line : List Char} (h : Beside line) (hfield : field ∈ cursorFields) :
    valuesOf field.toList [line] = [] := by
  refine valuesOf_single_eq_nil fun hkey => ?_
  obtain ⟨⟨key, value⟩, hline, rfl⟩ := Option.map_eq_some_iff.mp hkey
  cases h with
  | comment h =>
    rw [infoField?_of_comment h] at hline
    cases hline
  | noColon h =>
    rw [infoField?_of_no_colon h] at hline
    cases hline
  | otherField hkey' hother =>
    rw [keyOf?_of_infoField? hline] at hkey'
    exact hother field hfield (Option.some.inj hkey').symm

/-- A comment stays without a cursor field when white space is put before it: the mark is then a part of the key. -/
theorem fieldKey?_padded_comment {key value a b c d : List Char} (hcomment : key.head? = some '#')
    (hpadded : infoField? (a ++ key ++ b ++ ':' :: (c ++ value ++ d)) =
      if (a ++ key ++ b).head? = some '#' then none else some (Text.trim key, Text.trim value))
    (hfield : field ∈ cursorFields) : fieldKey? (a ++ key ++ b ++ ':' :: (c ++ value ++ d)) ≠ some field.toList := by
  obtain ⟨rest, rfl⟩ := List.head?_eq_some_iff.mp hcomment
  have hmark : (Text.trim ('#' :: rest)).head? = some '#' := Text.head?_trim_cons (by decide) rest
  intro hkey
  unfold fieldKey? at hkey
  rw [hpadded] at hkey
  split at hkey
  · cases hkey
  · have hsame : Text.trim ('#' :: rest) = field.toList := Option.some.inj hkey
    exact head?_cursorField hfield (hsame ▸ hmark)

/-- White space around the key and the value of a line does not matter. -/
theorem valuesOf_padded {key value a b c d : List Char} (hkey : ':' ∉ key)
    (hblank : ∀ char ∈ a ++ b ++ c ++ d, Text.isBlank char = true) (hfield : field ∈ cursorFields) :
    valuesOf field.toList [a ++ key ++ b ++ ':' :: (c ++ value ++ d)] = valuesOf field.toList [key ++ ':' :: value] := by
  simp only [List.mem_append] at hblank
  have ha : ∀ char ∈ a, Text.isBlank char = true := fun char hchar => hblank char (.inl (.inl (.inl hchar)))
  have hb : ∀ char ∈ b, Text.isBlank char = true := fun char hchar => hblank char (.inl (.inl (.inr hchar)))
  have hc : ∀ char ∈ c, Text.isBlank char = true := fun char hchar => hblank char (.inl (.inr hchar))
  have hd : ∀ char ∈ d, Text.isBlank char = true := fun char hchar => hblank char (.inr hchar)
  have hkey' : ':' ∉ a ++ key ++ b := by
    simp only [List.mem_append, not_or]
    exact ⟨⟨fun hmem => absurd (ha _ hmem) (by decide), hkey⟩, fun hmem => absurd (hb _ hmem) (by decide)⟩
  have hpadded := infoField?_keyed hkey' (c ++ value ++ d)
  rw [Text.trim_pad ha hb, Text.trim_pad hc hd] at hpadded
  have hplain := infoField?_keyed hkey value
  by_cases hcomment : key.head? = some '#'
  · rw [if_pos hcomment] at hplain
    have hnone : fieldKey? (key ++ ':' :: value) ≠ some field.toList := by
      unfold fieldKey?
      rw [hplain]
      exact nofun
    rw [valuesOf_single_eq_nil hnone, valuesOf_single_eq_nil (fieldKey?_padded_comment hcomment hpadded hfield)]
  · rw [if_neg hcomment] at hplain
    rw [if_neg fun hhead => hcomment (Text.head?_of_pad (by decide) ha hb hhead)] at hpadded
    unfold valuesOf
    rw [List.filterMap_cons, hpadded, List.filterMap_cons, hplain]

/-- Only the lines with its key count for a field. -/
theorem valuesOf_filter (field : List Char) (lines : List (List Char)) :
    valuesOf field (lines.filter (fieldKey? · = some field)) = valuesOf field lines := by
  induction lines with
  | nil => rfl
  | cons line rest ih =>
    by_cases hkey : fieldKey? line = some field
    · rw [List.filter_cons_of_pos (by simpa using hkey), valuesOf_cons, ih, valuesOf_cons line rest]
    · rw [List.filter_cons_of_neg (by simpa using hkey), ih, valuesOf_cons, valuesOf_single_eq_nil hkey,
        List.nil_append]

/-- **No change of layout changes the values that a block gives for a cursor field.** -/
theorem Relaid.valuesOf_eq {lines lines' : List (List Char)} (h : Relaid lines lines') (hfield : field ∈ cursorFields) :
    valuesOf field.toList lines = valuesOf field.toList lines' := by
  induction h with
  | @inserted before after line h =>
    rw [valuesOf_append, valuesOf_between, h.valuesOf_eq hfield, List.nil_append]
  | @padded before after key value a b c d hkey hblank =>
    rw [valuesOf_between, valuesOf_between, valuesOf_padded hkey hblank hfield]
  | @permuted lines lines' _ horder =>
    rw [← valuesOf_filter _ lines, horder, valuesOf_filter]
  | symm _ ih => exact ih.symm
  | trans _ _ ih ih' => exact ih.trans ih'

/-! ## The theorem -/

/-- **The layout of an information block does not matter.** Whatever replies carry the texts of two blocks whose lines
    differ in layout, and however these lines end: what is read from the one is what is read from the other, be it a
    snapshot or a failure. -/
theorem info_ignores_layout {block block' : List InfoLine} {closed closed' : Bool} {reply reply' : Reply}
    (hlayout : Relaid (block.map InfoLine.chars) (block'.map InfoLine.chars))
    (hreply : reply.asText = .ok (String.ofList (blockText closed block)))
    (hreply' : reply'.asText = .ok (String.ofList (blockText closed' block'))) :
    ofReply .nsInfo reply = ofReply .nsInfo reply' := by
  refine ofReply_nsInfo_congr hreply hreply' fun field hfield => ?_
  have hvalues (closed : Bool) (block : List InfoLine) :
      valuesOf field.toList (Text.lines (blockText closed block)) =
        valuesOf field.toList (block.map InfoLine.chars) := by
    unfold valuesOf
    rw [filterMap_lines_blockText]
  rw [String.toList_ofList, String.toList_ofList, find?_infoFields, find?_infoFields, hvalues, hvalues,
    hlayout.valuesOf_eq hfield]

/-- The three cursor fields. -/
def plainBlock : List InfoLine :=
  [⟨"data_size_bytes".toList ++ ':' :: " 30".toList, .feed, by decide⟩,
    ⟨"data_current_id".toList ++ ':' :: " 1".toList, .feed, by decide⟩,
    ⟨"data_current_offset".toList ++ ':' :: " 20".toList, .feed, by decide⟩]

/-- The same fields in another order, one of them with white space around it, behind a comment that looks like one. -/
def commentedBlock : List InfoLine :=
  [⟨"# data_current_id: 7".toList, .returnFeed, by decide⟩,
    ⟨"data_current_id".toList ++ ':' :: " 1".toList, .returnFeed, by decide⟩,
    ⟨['\t'] ++ "data_size_bytes".toList ++ [' '] ++ ':' :: ([' '] ++ " 30".toList ++ [' ']), .returnFeed, by decide⟩,
    ⟨"data_current_offset".toList ++ ':' :: " 20".toList, .returnFeed, by decide⟩]

/-- A block with carriage returns, a comment and white space reads as the plain one with the same fields. -/
theorem info_ignores_layout_commented :
    Relaid (plainBlock.map InfoLine.chars) (commentedBlock.map InfoLine.chars) ∧
      ofReply .nsInfo (.bulk (Utf8.encode (String.ofList (blockText false commentedBlock)))) =
        .ok (.info ⟨⟨1, 20⟩, 30⟩) := by
  have hblank : ∀ char ∈ ['\t'] ++ [' '] ++ [' '] ++ [' '], Text.isBlank char = true :=
    List.all_eq_true.mp (by decide)
  have hpadded : Relaid (plainBlock.map InfoLine.chars) _ :=
    .padded [] ((plainBlock.drop 1).map InfoLine.chars) (by decide) hblank
  have hne : fieldKey? (['\t'] ++ "data_size_bytes".toList ++ [' '] ++ ':' :: ([' '] ++ " 30".toList ++ [' '])) ≠
      fieldKey? ("data_current_id".toList ++ ':' :: " 1".toList) := by decide
  have hordered : Relaid _ ((commentedBlock.drop 1).map InfoLine.chars) :=
    .swap [] ((plainBlock.drop 2).map InfoLine.chars) hne
  have hcomment : Relaid ((commentedBlock.drop 1).map InfoLine.chars) (commentedBlock.map InfoLine.chars) :=
    .inserted [] _ (.comment (by decide))
  have hlayout := hpadded.trans (hordered.trans hcomment)
  have hplain : ofReply .nsInfo (.simple (String.ofList (blockText true plainBlock))) = .ok (.info ⟨⟨1, 20⟩, 30⟩) := rfl
  have hcommented := asText_encode (String.ofList (blockText false commentedBlock))
  exact ⟨hlayout, (info_ignores_layout hlayout rfl hcommented).symm.trans hplain⟩

end SegmentSync.Answer
