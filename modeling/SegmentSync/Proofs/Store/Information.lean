import SegmentSync.Proofs.Number.Decimal
import SegmentSync.Proofs.Protocol.Fields
import SegmentSync.Proofs.Store.Commands
import SegmentSync.Proofs.Store.Log
import SegmentSync.Proofs.Text.Utf8

/-!
# `SegmentSync.Proofs.Store.Information` — information blocks tell the truth

A reader of a namespace's information block finds the cursor and the size that the namespace has, under
whatever name. The name is the only part of the block that is not the store's own, and it stands before the
fields that are read: of two lines with one key the later counts.

## Contents
- **Lines.** A line that a store writes gives the field that it is written for (`Answer.infoFields_infoLine`).
- **Blocks.** What a block says of each field (`Namespace.infoFields_info`), so what is read from it
  (`Namespace.readInfo_info`).
- **The theorem.** `Namespace.info_tells_cursor_and_size`: through any name and over any connection, in numbers that have
  not wrapped around.
-/

namespace SegmentSync

/-! ## Lines -/

namespace Text

theorem isBlank_digitChar {d : Nat} (h : d < 10) : isBlank (Nat.digitChar d) = false := by
  revert d; decide

theorem dropWhile_digits {n : Nat} {chars : List Char} (h : ∀ c ∈ chars, c ∈ Decimal.digits n) :
    chars.dropWhile isBlank = chars := by
  cases chars with
  | nil => rfl
  | cons c rest =>
    obtain ⟨d, hd, rfl⟩ := Decimal.mem_digits (h c (List.mem_cons_self ..))
    exact List.dropWhile_cons_of_neg (by simp [isBlank_digitChar hd])

/-- White space before a number is nothing. -/
theorem trim_digits (n : Nat) : trim (' ' :: Decimal.digits n) = Decimal.digits n := by
  have hstart : trimStart (' ' :: Decimal.digits n) = Decimal.digits n := by
    unfold trimStart
    rw [List.dropWhile_cons_of_pos (by decide)]
    exact dropWhile_digits fun c hc => hc
  unfold trim trimEnd
  rw [hstart, dropWhile_digits (n := n) fun c hc => List.mem_reverse.mp hc, List.reverse_reverse]

end Text

namespace Answer

/-- Fields that can be told from their line: the key has no colon, no white space around it, and does not
    begin a comment. -/
structure IsFieldName (field : String) : Prop where
  colon : ':' ∉ field.toList
  feed : '\n' ∉ field.toList
  comment : field.toList.head? ≠ some '#'
  trimmed : Text.trim field.toList = field.toList

/-- Values that can be told from their line: there is no white space around them. -/
structure IsFieldValue (value : String) : Prop where
  feed : '\n' ∉ value.toList
  trimmed : Text.trim (' ' :: value.toList) = value.toList

theorem isFieldValue_text (n : Nat) : IsFieldValue (Decimal.text n) where
  feed := by
    rw [Decimal.toList_text]
    exact fun hmem => Decimal.forall_mem_digits (p := (· ≠ '\n')) (by decide) n _ hmem rfl
  trimmed := by rw [Decimal.toList_text, Text.trim_digits]

/-- A text that ends where a line ends. -/
def EndsLine (chars : List Char) : Prop := ∃ before, chars = before ++ ['\n']

theorem toList_infoLine (field value : String) :
    (Namespace.infoLine field value).toList = (field.toList ++ ':' :: ' ' :: value.toList) ++ ['\n'] := by
  simp [Namespace.infoLine]

theorem endsLine_append_infoLine (chars : List Char) (field value : String) :
    EndsLine (chars ++ (Namespace.infoLine field value).toList) := by
  rw [toList_infoLine, ← List.append_assoc]
  exact ⟨_, rfl⟩

/-- A last line sets its field. -/
theorem infoFields_infoLine {field value : String} (hfield : IsFieldName field) (hvalue : IsFieldValue value)
    {chars : List Char} (hchars : EndsLine chars) :
    infoFields (chars ++ (Namespace.infoLine field value).toList) =
      (infoFields chars).insert field.toList value.toList := by
  obtain ⟨before, rfl⟩ := hchars
  have hfeed : '\n' ∉ field.toList ++ ':' :: ' ' :: value.toList := by
    simp only [List.mem_append, List.mem_cons, not_or]
    exact ⟨hfield.feed, by decide, by decide, hvalue.feed⟩
  have hline : infoField? (field.toList ++ ':' :: ' ' :: value.toList) = some (field.toList, value.toList) := by
    rw [infoField?_keyed hfield.colon, if_neg hfield.comment, hfield.trimmed, hvalue.trimmed]
  unfold infoFields
  rw [List.append_assoc, List.singleton_append, Text.lines_append, toList_infoLine, Text.lines_cons hfeed,
    List.filterMap_append, List.foldl_append, List.filterMap_cons, infoField?_dropReturn, hline]
  rfl

theorem infoNumber_digits {fields : Table (List Char) (List Char)} {field : String} {n : Nat} {α : Type}
    {readNumber : List Char → Except Decimal.Fault α} {a : α}
    (hfind : fields.find? field.toList = some (Decimal.digits n))
    (hread : readNumber (Decimal.digits n) = .ok a) :
    infoNumber fields field readNumber = .ok a := by
  unfold infoNumber
  rw [hfind]
  show (readNumber (Decimal.digits n)).mapError _ = _
  rw [hread]; rfl

end Answer

/-! ## Blocks -/

namespace Namespace

/-- The fields of the block that count are the last ones. What stands before them, the name included, only
    has to end its line. -/
theorem infoFields_info (ns : Namespace) (name : String) :
    ∃ fields : Table (List Char) (List Char), Answer.infoFields (ns.info name).toList =
      ((((fields.insert "entries".toList (Decimal.digits ns.keys.size)).insert
        "password".toList (if ns.password.isSome then "yes" else "no").toList).insert
        Answer.sizeField.toList (Decimal.digits ns.size.toNat)).insert
        Answer.segmentField.toList (Decimal.digits ns.position.segment.toNat)).insert
        Answer.offsetField.toList (Decimal.digits ns.position.offset.toNat) := by
  have hentries : Answer.IsFieldName "entries" := by constructor <;> decide
  have hpassword : Answer.IsFieldName "password" := by constructor <;> decide
  have hsize : Answer.IsFieldName Answer.sizeField := by constructor <;> decide
  have hsegment : Answer.IsFieldName Answer.segmentField := by constructor <;> decide
  have hoffset : Answer.IsFieldName Answer.offsetField := by constructor <;> decide
  have hflag : Answer.IsFieldValue (if ns.password.isSome then "yes" else "no") := by
    cases ns.password.isSome <;> constructor <;> decide
  unfold info
  simp only [String.toList_append]
  rw [Answer.infoFields_infoLine hoffset (Answer.isFieldValue_text _) (Answer.endsLine_append_infoLine _ _ _),
    Answer.infoFields_infoLine hsegment (Answer.isFieldValue_text _) (Answer.endsLine_append_infoLine _ _ _),
    Answer.infoFields_infoLine hsize (Answer.isFieldValue_text _) (Answer.endsLine_append_infoLine _ _ _),
    Answer.infoFields_infoLine hpassword hflag (Answer.endsLine_append_infoLine _ _ _),
    Answer.infoFields_infoLine hentries (Answer.isFieldValue_text _) (Answer.endsLine_append_infoLine _ _ _)]
  simp only [Decimal.toList_text]
  exact ⟨_, rfl⟩

/-- The block tells how many keys are set. -/
theorem find?_entries_info (ns : Namespace) (name : String) :
    (Answer.infoFields (ns.info name).toList).find? "entries".toList = some (Decimal.digits ns.keys.size) := by
  obtain ⟨fields, hfields⟩ := ns.infoFields_info name
  rw [hfields]
  simp [Answer.sizeField, Answer.segmentField, Answer.offsetField]

/-- **Whoever reads the information block of a namespace learns its cursor and its size**, whatever name the
    block carries. -/
theorem readInfo_info (ns : Namespace) (name : String) :
    Answer.readInfo (.bulk (Utf8.encode (ns.info name))) = .ok (.info ns.snapshot) := by
  obtain ⟨fields, hfields⟩ := ns.infoFields_info name
  have hsegment : Answer.infoNumber (Answer.infoFields (ns.info name).toList) Answer.segmentField
      Decimal.readUInt32 = .ok ns.position.segment := by
    refine Answer.infoNumber_digits ?_ (Decimal.readUInt32_digits _)
    rw [hfields]; simp [Answer.segmentField, Answer.offsetField]
  have hoffset : Answer.infoNumber (Answer.infoFields (ns.info name).toList) Answer.offsetField
      Decimal.readUInt64 = .ok ns.position.offset := by
    refine Answer.infoNumber_digits ?_ (Decimal.readUInt64_digits _)
    rw [hfields]; simp
  have hsize : Answer.infoNumber (Answer.infoFields (ns.info name).toList) Answer.sizeField
      Decimal.readUInt64 = .ok ns.size := by
    refine Answer.infoNumber_digits ?_ (Decimal.readUInt64_digits _)
    rw [hfields]; simp [Answer.sizeField, Answer.segmentField, Answer.offsetField]
  unfold Answer.readInfo Answer.infoSnapshot
  simp only [Answer.asText_encode, hsegment, hoffset, hsize, bind, Except.bind, pure, Except.pure, snapshot]

theorem ofReply_info (ns : Namespace) (name : String) :
    Answer.ofReply .nsInfo (.bulk (Utf8.encode (ns.info name))) = .ok (.info ns.snapshot) := by
  show (Answer.readInfo _).mapError _ = _
  rw [ns.readInfo_info name]
  rfl

/-- Every connection that may ask for the block gets it. -/
theorem answer_nsInfo {s : Serving} {ns : Namespace} {name : String} (hfound : s.store.namespaces.find? name = some ns)
    (hpermits : s.Permits .nsInfo) :
    ((Serve.execute (.nsInfo name)).on s).1 = .ok (.bulk (Utf8.encode (ns.info name))) := by
  have hdispatched : (Serve.execute (.nsInfo name)).on s = (Serve.dispatch (.nsInfo name) none).on (s.logged .nsInfo) :=
    Serve.execute_of_permits hpermits
  have hserved : (Serve.dispatch (.nsInfo name) none).on (s.logged .nsInfo) = _ := Serve.on_serveInfo hfound
  exact congrArg Prod.fst (hdispatched.trans hserved)

/-! ## The theorem -/

variable {ns : Namespace}

/-- **The information block of a namespace tells its cursor and its size.** Under every name, whatever lines the name
    itself consists of, the block reads as the number of the last segment, the room that its entries take, and the room
    that all entries take. So does what a store answers over every connection that may ask. -/
theorem info_tells_cursor_and_size (hsegments : ns.segments.length < 2 ^ 32) (hsize : Entry.sizeOf ns.entries < 2 ^ 64)
    (name : String) :
    ∃ snapshot : Snapshot,
      (snapshot.position.segment.toNat + 1 = ns.segments.length ∧
        snapshot.position.offset.toNat = Entry.sizeOf ns.current ∧ snapshot.size.toNat = Entry.sizeOf ns.entries) ∧
      Answer.ofReply .nsInfo (.bulk (Utf8.encode (ns.info name))) = .ok (.info snapshot) ∧
      ∀ s : Serving, s.store.namespaces.find? name = some ns → s.Permits .nsInfo →
        snapshot = ⟨s.store.position name, s.store.size name⟩ ∧
        ((Serve.execute (.nsInfo name)).on s).1.bind (Answer.ofReply .nsInfo) = .ok (.info snapshot) := by
  have hfits := Fits.of_size hsegments hsize
  have hend : ns.position.segment.toNat + 1 = ns.segments.length := by rw [hfits.segment_toNat, length_segments]
  refine ⟨ns.snapshot, ⟨hend, hfits.offset_toNat, size_toNat hsize⟩, ns.ofReply_info name, fun s hfound hpermits => ?_⟩
  constructor
  · rw [Store.position_of_found hfound, Store.size_of_found hfound]
    rfl
  · rw [answer_nsInfo hfound hpermits]
    exact ns.ofReply_info name

/-- A name that would have a reader find other cursors. -/
def disguise : String := "x\r\ndata_current_id: 7\n data_current_offset : 9\n# data_size_bytes: 0"

/-- Two segments under such a name, as a fresh connection reads them. -/
theorem info_tells_cursor_and_size_of_disguise :
    let ns : Namespace := { earlier := [[⟨[97], some [49], 1⟩]], current := [⟨[97], none, 2⟩] }
    let s : Serving := ⟨{ namespaces := Table.empty.insert disguise ns }, {}⟩
    (ns.segments.length < 2 ^ 32 ∧ Entry.sizeOf ns.entries < 2 ^ 64) ∧
      ((Serve.execute (.nsInfo disguise)).on s).1.bind (Answer.ofReply .nsInfo) = .ok (.info ⟨⟨1, 19⟩, 39⟩) := by
  intro ns s
  have hsegments : ns.segments.length < 2 ^ 32 := by decide
  have hsize : Entry.sizeOf ns.entries < 2 ^ 64 := by decide
  have hfound : s.store.namespaces.find? disguise = some ns := by rw [Table.find?_insert, if_pos rfl]
  obtain ⟨snapshot, -, -, hasked⟩ := info_tells_cursor_and_size hsegments hsize disguise
  obtain ⟨rfl, hanswer⟩ := hasked s hfound ⟨rfl, fun _ => List.not_mem_nil, nofun⟩
  exact ⟨⟨hsegments, hsize⟩, hanswer⟩

end Namespace

end SegmentSync
