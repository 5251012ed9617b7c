import SegmentSync.Proofs.Table
import SegmentSync.Proofs.Text.Lines
import SegmentSync.Proofs.Text.Utf8
import SegmentSync.Error

/-!
# `SegmentSync.Proofs.Protocol.Fields` — what an information block says

An information block is read line by line. What it says of a field is what the last line with that key says, and a
snapshot is read from three fields, so that blocks which agree on these read alike.

## Contents
- **Lines.** Which lines give a field (`Answer.infoField?_keyed`), and what does not matter for that.
- **Fields.** `Answer.find?_infoFields`: the last of the values that the lines give for a field is what counts.
- **Snapshots.** `Answer.ofReply_nsInfo_congr`: only the cursor fields count.
-/

namespace SegmentSync.Answer

/-! ## Lines -/

/-- What stands before the first colon of a line, without the white space around it. -/
def keyOf? (line : List Char) : Option (List Char) := (Text.splitOnce ':' line).map fun (key, _) => Text.trim key

theorem keyOf?_eq_none_iff {line : List Char} : keyOf? line = none ↔ ':' ∉ line := by
  unfold keyOf?
  rw [Option.map_eq_none_iff, Text.splitOnce_eq_none_iff]

theorem infoField?_of_comment {line : List Char} (h : line.head? = some '#') : infoField? line = none := if_pos h

/-- The key of a field is the key of its line. -/
theorem keyOf?_of_infoField? {line key value : List Char} (h : infoField? line = some (key, value)) :
    keyOf? line = some key := by
  unfold infoField? at h
  split at h
  · cases h
  · obtain ⟨⟨key', value'⟩, hsplit, heq⟩ := Option.map_eq_some_iff.mp h
    unfold keyOf?
    rw [hsplit, ← (Prod.mk.inj heq).1]
    rfl

/-- Without a colon there is no field. -/
theorem infoField?_of_no_colon {line : List Char} (h : ':' ∉ line) : infoField? line = none := by
  cases hfield : infoField? line with
  | none => rfl
  | some field =>
    have hkey := keyOf?_of_infoField? hfield
    rw [keyOf?_eq_none_iff.mpr h] at hkey
    cases hkey

/-- A line with a colon gives a field, unless it is a comment. -/
theorem infoField?_keyed {key : List Char} (h : ':' ∉ key) (value : List Char) :
    infoField? (key ++ ':' :: value) =
      if key.head? = some '#' then none else some (Text.trim key, Text.trim value) := by
  have hhead : (key ++ ':' :: value).head? = some '#' ↔ key.head? = some '#' := by
    cases key with
    | nil => simp
    | cons c rest => simp
  unfold infoField?
  simp only [hhead, Text.splitOnce_append h, Option.map_some]

/-- A carriage return at the end of a line does not matter. -/
theorem infoField?_return (line : List Char) : infoField? (line ++ ['\r']) = infoField? line := by
  by_cases hcolon : ':' ∈ line
  · obtain ⟨⟨key, value⟩, hsplit⟩ : ∃ parts, Text.splitOnce ':' line = some parts := by
      rw [← Option.ne_none_iff_exists', Ne, Text.splitOnce_eq_none_iff]
      exact fun hnot => hnot hcolon
    obtain ⟨rfl, hkey⟩ := Text.splitOnce_eq_some hsplit
    have hreturn : ∀ c ∈ ['\r'], Text.isBlank c = true := List.all_eq_true.mp (by decide)
    have htrim : Text.trim ([] ++ value ++ ['\r']) = Text.trim value := Text.trim_pad (by simp) hreturn value
    rw [List.nil_append] at htrim
    rw [List.append_assoc, List.cons_append, infoField?_keyed hkey, infoField?_keyed hkey, htrim]
  · rw [infoField?_of_no_colon hcolon, infoField?_of_no_colon (by simpa using hcolon)]

theorem infoField?_dropReturn (line : List Char) : infoField? (Text.dropReturn line) = infoField? line := by
  rcases Text.dropReturn_cases line with hsame | hdropped
  · rw [hsame]
  · conv => rhs; rw [hdropped]
    rw [infoField?_return]

/-! ## Fields -/

/-- The values that some lines give for a field, in their order. -/
def valuesOf (field : List Char) (lines : List (List Char)) : List (List Char) :=
  Table.valuesFor (lines.filterMap infoField?) field

variable {field : List Char}

theorem valuesOf_append (a b : List (List Char)) : valuesOf field (a ++ b) = valuesOf field a ++ valuesOf field b := by
  unfold valuesOf Table.valuesFor
  rw [List.filterMap_append, List.filter_append, List.map_append]

theorem valuesOf_cons (line : List Char) (lines : List (List Char)) :
    valuesOf field (line :: lines) = valuesOf field [line] ++ valuesOf field lines :=
  valuesOf_append [line] lines

/-- A line counts for what it says, wherever it stands. -/
theorem valuesOf_between (before after : List (List Char)) (line : List Char) :
    valuesOf field (before ++ line :: after) = valuesOf field before ++ (valuesOf field [line] ++ valuesOf field after) := by
  rw [valuesOf_append, valuesOf_cons]

/-- **What a block says of a field is what its last line with that key says.** -/
theorem find?_infoFields (chars : List Char) :
    (infoFields chars).find? field = (valuesOf field (Text.lines chars)).getLast? := by
  have hfind : (infoFields chars).find? field =
      (valuesOf field (Text.lines chars)).getLast?.or ((.empty : Table _ _).find? field) :=
    Table.find?_foldl_insert _ _ field
  rw [hfind, Table.find?_empty, Option.or_none]

/-! ## Snapshots -/

/-- A text arrives as it was sent. -/
theorem asText_encode (text : String) : (Reply.bulk (Utf8.encode text)).asText = .ok text := by
  show (Utf8.decode (Utf8.encode text)).mapError _ = _
  rw [Utf8.decode_encode]
  rfl

/-- The fields that a snapshot is read from. -/
def cursorFields : List String := [segmentField, offsetField, sizeField]

theorem infoNumber_congr {α : Type} {readNumber : List Char → Except Decimal.Fault α} {field : String}
    {t t' : Table (List Char) (List Char)} (h : t.find? field.toList = t'.find? field.toList) :
    infoNumber t field readNumber = infoNumber t' field readNumber := by
  unfold infoNumber
  rw [h]

/-- Blocks that agree on the cursor fields read alike, whether there is something to read or not. -/
theorem infoSnapshot_congr {t t' : Table (List Char) (List Char)}
    (h : ∀ field ∈ cursorFields, t.find? field.toList = t'.find? field.toList) : infoSnapshot t = infoSnapshot t' := by
  unfold infoSnapshot
  rw [infoNumber_congr (h segmentField (by decide)), infoNumber_congr (h offsetField (by decide)),
    infoNumber_congr (h sizeField (by decide))]

/-- **Only the cursor fields of a block count.** -/
theorem ofReply_nsInfo_congr {reply reply' : Reply} {text text' : String} (hreply : reply.asText = .ok text)
    (hreply' : reply'.asText = .ok text')
    (hsame : ∀ field ∈ cursorFields, (infoFields text.toList).find? field.toList =
      (infoFields text'.toList).find? field.toList) :
    ofReply .nsInfo reply = ofReply .nsInfo reply' := by
  have hread : readInfo reply = readInfo reply' := by
    unfold readInfo
    rw [hreply, hreply']
    show (infoSnapshot (infoFields text.toList) >>= _) = (infoSnapshot (infoFields text'.toList) >>= _)
    rw [infoSnapshot_congr hsame]
  show (readInfo reply).mapError _ = (readInfo reply').mapError _
  rw [hread]

end SegmentSync.Answer
