import SegmentSync.Proofs.Client.Replies
import SegmentSync.Proofs.Number.Decimal
import SegmentSync.Proofs.Text.Utf8

/-!
# `SegmentSync.Proofs.Protocol.Records` — the grammar of an entry

A master hands out an entry of its log as an array. Its elements come from the network, so that each of them may be
anything. `Reply.IsEntry` is the grammar of these arrays; the reader accepts what the grammar derives, and nothing
else (`Answer.ofReply_dataRaw_eq_ok_iff`).

## Contents
- **Elements.** `Reply.IsBytes`, `Reply.IsText` and `Reply.IsNumber`: what has octets, a text or a number. Each is the
  graph of the reader of such elements.
- **Entries.** `Reply.IsEntry`, with one constructor for sets and one for deletions.
- **Reading.** The parts of the reader, and all of it.
-/

namespace SegmentSync

namespace Reply

/-! ## Elements -/

/-- The octets of a reply: those of a string, or the digits of an integer. -/
inductive IsBytes : Reply → Bytes → Prop where
  | bulk (bytes : Bytes) : IsBytes (.bulk bytes) bytes
  | simple (text : String) : IsBytes (.simple text) (Utf8.encode text)
  | int (n : Int) : IsBytes (.int n) (Utf8.encode (Decimal.signedText n))

/-- The text of a reply. Octets are a text if they are that text, written as UTF-8. -/
inductive IsText : Reply → String → Prop where
  | bulk (text : String) : IsText (.bulk (Utf8.encode text)) text
  | simple (text : String) : IsText (.simple text) text
  | verbatim (format text : String) : IsText (.verbatim format text) text
  | okay : IsText .okay "OK"

/-- The number of a reply: an integer that is not negative, or a text that stands for a number of 64 bits, with white
    space around it or not. An integer on the wire has no more than 64 bits itself. -/
inductive IsNumber : Reply → UInt64 → Prop where
  | int {n : Int} (h : 0 ≤ n) : IsNumber (.int n) n.toNat.toUInt64
  | text {reply : Reply} {text : String} {n : UInt64} (htext : reply.IsText text)
      (h : Decimal.Numeral (Text.trim text.toList) n.toNat) : IsNumber reply n

variable {reply : Reply}

theorem asBytes_eq_ok_iff {bytes : Bytes} : reply.asBytes = .ok bytes ↔ reply.IsBytes bytes := by
  constructor
  · intro h
    unfold asBytes at h
    split at h
    · obtain rfl := Except.ok.inj h
      exact .bulk _
    · obtain rfl := Except.ok.inj h
      exact .simple _
    · obtain rfl := Except.ok.inj h
      exact .int _
    · cases h
  · intro h
    cases h <;> rfl

theorem asText_eq_ok_iff {text : String} : reply.asText = .ok text ↔ reply.IsText text := by
  constructor
  · intro h
    unfold asText at h
    split at h
    · rename_i bytes
      cases hdecode : Utf8.decode bytes with
      | error fault => rw [hdecode] at h; cases h
      | ok text' =>
        rw [hdecode] at h
        obtain rfl := Except.ok.inj h
        rw [Utf8.decode_eq_ok_iff.mp hdecode]
        exact .bulk _
    · obtain rfl := Except.ok.inj h
      exact .simple _
    · obtain rfl := Except.ok.inj h
      exact .verbatim _ _
    · obtain rfl := Except.ok.inj h
      exact .okay
    · cases h
  · intro h
    cases h with
    | bulk => simp only [asText, Utf8.decode_encode]; rfl
    | simple | verbatim | okay => rfl

end Reply

/-- A number of 64 bits is read from the texts that stand for it. -/
theorem Decimal.readUInt64_eq_ok_iff {chars : List Char} {n : UInt64} :
    readUInt64 chars = .ok n ↔ Numeral chars n.toNat := by
  constructor
  · intro h
    unfold readUInt64 at h
    cases hread : read UInt64.size chars with
    | error fault => rw [hread] at h; cases h
    | ok m =>
      rw [hread] at h
      obtain rfl := Except.ok.inj h
      obtain ⟨hm, hlt⟩ := read_eq_ok_iff.mp hread
      rwa [Nat.toUInt64_eq, UInt64.toNat_ofNat', Nat.mod_eq_of_lt hlt]
  · intro h
    unfold readUInt64
    rw [read_eq_ok_iff.mpr ⟨h, n.toNat_lt_size⟩]
    simp only [Except.map, Nat.toUInt64_eq, UInt64.ofNat_toNat]

namespace Reply

variable {reply : Reply}

theorem asUInt64_of_ne_int {field : String} (h : ∀ n, reply ≠ .int n) :
    reply.asUInt64 field = reply.asText >>= fun text =>
      (Decimal.readUInt64 (Text.trim text.toList)).mapError (.notNumber field text) := by
  cases reply with
  | int n => exact absurd rfl (h n)
  | _ => rfl

theorem asUInt64_eq_ok_iff {field : String} {n : UInt64} : reply.asUInt64 field = .ok n ↔ reply.IsNumber n := by
  by_cases hint : ∃ m, reply = .int m
  · obtain ⟨m, rfl⟩ := hint
    simp only [asUInt64]
    constructor
    · intro h
      split at h
      · cases h
      · obtain rfl := Except.ok.inj h
        exact .int (Int.not_lt.mp ‹_›)
    · intro h
      cases h with
      | int h => rw [if_neg (Int.not_lt.mpr h)]
      | text htext h => cases htext
  · rw [asUInt64_of_ne_int fun m heq => hint ⟨m, heq⟩]
    constructor
    · intro h
      obtain ⟨text, htext, h⟩ := Answer.exists_of_bind_eq_ok h
      cases hread : Decimal.readUInt64 (Text.trim text.toList) with
      | error fault => rw [hread] at h; cases h
      | ok m =>
        rw [hread] at h
        obtain rfl := Except.ok.inj h
        exact .text (asText_eq_ok_iff.mp htext) (Decimal.readUInt64_eq_ok_iff.mp hread)
    · intro h
      cases h with
      | int _ => exact absurd ⟨_, rfl⟩ hint
      | text htext h =>
        rw [asText_eq_ok_iff.mpr htext]
        show (Decimal.readUInt64 _).mapError _ = _
        rw [Decimal.readUInt64_eq_ok_iff.mpr h]
        rfl

end Reply

/-! ## Entries -/

/-- The value of a deletion may be left out, and may be nil; otherwise it is octets, which do not count. -/
inductive Reply.IsBlank : Option Reply → Prop where
  | absent : IsBlank none
  | nil : IsBlank (some .nil)
  | bytes {value : Reply} {bytes : Bytes} (h : value.IsBytes bytes) : IsBlank (some value)

/-- The reply is an array that hands out an entry: key, segment, offset, flag, marker and value. The flag of a set is
    zero, and that of a deletion is not. What follows the value does not count. -/
inductive Reply.IsEntry : Reply → Record → Prop where
  | set {key segment offset flag marker value : Reply} {rest : List Reply} {k m v : Bytes} {at_ : Position}
      (hkey : key.IsBytes k) (hsegment : segment.IsNumber at_.segment.toUInt64) (hoffset : offset.IsNumber at_.offset)
      (hflag : flag.IsNumber 0) (hmarker : marker.IsBytes m) (hvalue : value.IsBytes v) :
    IsEntry (.array (key :: segment :: offset :: flag :: marker :: value :: rest))
      { key := k, isDelete := false, position := at_, marker := m, value := some v }
  | deletion {key segment offset flag marker : Reply} {rest : List Reply} {k m : Bytes} {at_ : Position} {n : UInt64}
      (hkey : key.IsBytes k) (hsegment : segment.IsNumber at_.segment.toUInt64) (hoffset : offset.IsNumber at_.offset)
      (hflag : flag.IsNumber n) (hn : n ≠ 0) (hmarker : marker.IsBytes m) (hvalue : IsBlank rest.head?) :
    IsEntry (.array (key :: segment :: offset :: flag :: marker :: rest))
      { key := k, isDelete := true, position := at_, marker := m, value := none }

/-- Every set has a value, and no deletion has one. -/
theorem Reply.IsEntry.value_isSome {reply : Reply} {entry : Record} (h : reply.IsEntry entry) :
    entry.value.isSome = !entry.isDelete := by
  cases h <;> rfl

/-- An entry has five elements at least. -/
theorem Reply.IsEntry.exists_elements {reply : Reply} {entry : Record} (h : reply.IsEntry entry) :
    ∃ key segment offset flag marker rest, reply = .array (key :: segment :: offset :: flag :: marker :: rest) := by
  cases h <;> exact ⟨_, _, _, _, _, _, rfl⟩

/-- A reply that hands out a set is an entry. -/
theorem Reply.HandsOut.isEntry {reply : Reply} {entry : Record} (h : reply.HandsOut entry)
    (hset : entry.isDelete = false) : reply.IsEntry entry := by
  obtain ⟨key, segment, offset, flag, marker, rest, number, n, rfl, hkey, hmarker, hsegment, hnumber, hoffset, hflag,
    hdelete, hvalue⟩ := h
  obtain ⟨k, isDelete, at_, m, v⟩ := entry
  obtain rfl : isDelete = false := hset
  obtain ⟨value, bytes, hrest, hbytes, rfl⟩ := hvalue rfl
  obtain ⟨more, rfl⟩ := List.head?_eq_some_iff.mp hrest
  obtain rfl : n = 0 := Decidable.of_not_not fun hn => absurd (hdelete.mpr hn) Bool.false_ne_true
  obtain rfl : number = at_.segment.toUInt64 := UInt64.toNat_inj.mp (hnumber.trans (UInt32.toNat_toUInt64 _).symm)
  simp only [asBytes_eq_ok_iff, asUInt64_eq_ok_iff] at hkey hmarker hsegment hoffset hflag hbytes
  exact .set hkey hsegment hoffset hflag hmarker hbytes

/-! ## Reading -/

namespace Answer

theorem bind_eq_ok_iff {ε α β : Type} {x : Except ε α} {f : α → Except ε β} {b : β} :
    (x >>= f) = .ok b ↔ ∃ a, x = .ok a ∧ f a = .ok b := by
  constructor
  · exact exists_of_bind_eq_ok
  · rintro ⟨a, rfl, h⟩
    exact h

/-- What comes behind a check is read only where the check is passed. -/
theorem checked_eq_ok_iff {ε α : Type} {fails : Prop} [Decidable fails] {fault : ε} {x : Except ε α} {a : α} :
    (if fails then (throw fault >>= fun _ : PUnit => x) else x) = .ok a ↔ ¬ fails ∧ x = .ok a := by
  by_cases hfails : fails
  · rw [if_pos hfails]
    exact ⟨nofun, fun h => absurd hfails h.1⟩
  · rw [if_neg hfails]
    exact ⟨fun h => ⟨hfails, h⟩, fun h => h.2⟩

/-- What the sixth element is read as. -/
def valueOf : Option Reply → Except Mismatch (Option Bytes)
  | none | some .nil => pure none
  | some value => value.asBytes.map some

theorem valueOf_of_isBytes {value : Reply} {bytes : Bytes} (h : value.IsBytes bytes) :
    valueOf (some value) = .ok (some bytes) := by
  cases h <;> rfl

theorem valueOf_eq_ok {value : Option Reply} {v : Option Bytes} (h : valueOf value = .ok v) :
    (v = none ∧ (value = none ∨ value = some .nil)) ∨
      ∃ reply bytes, value = some reply ∧ v = some bytes ∧ reply.IsBytes bytes := by
  unfold valueOf at h
  split at h
  · exact .inl ⟨(Except.ok.inj h).symm, .inl rfl⟩
  · exact .inl ⟨(Except.ok.inj h).symm, .inr rfl⟩
  · rename_i reply _
    cases hbytes : reply.asBytes with
    | error fault => rw [hbytes] at h; cases h
    | ok bytes =>
      rw [hbytes] at h
      exact .inr ⟨reply, bytes, rfl, (Except.ok.inj h).symm, Reply.asBytes_eq_ok_iff.mp hbytes⟩

/-- **The parts of the reader.** It takes the elements one after the other, and asks for the value of a set at last. -/
theorem recordOf_eq (key segment offset flag marker : Reply) (value : Option Reply) :
    recordOf key segment offset flag marker value = (do
      let k ← key.asBytes
      let number ← segment.asUInt64 "segment"
      if UInt32.size ≤ number.toNat then throw (.segmentOutOfRange number.toNat)
      let o ← offset.asUInt64 "offset"
      let n ← flag.asUInt64 "flag"
      let m ← marker.asBytes
      let v ← valueOf value
      if !decide (n ≠ 0) && v.isNone then throw .missingValue
      return ⟨k, n ≠ 0, ⟨number.toUInt32, o⟩, m, if n ≠ 0 then none else v⟩) := by
  rcases value with _ | value
  · rfl
  · cases value <;> rfl

theorem recordOf_eq_ok_iff {key segment offset flag marker : Reply} {rest : List Reply} {entry : Record} :
    recordOf key segment offset flag marker rest.head? = .ok entry ↔
      (Reply.array (key :: segment :: offset :: flag :: marker :: rest)).IsEntry entry := by
  rw [recordOf_eq]
  simp only [bind_eq_ok_iff, checked_eq_ok_iff, Reply.asBytes_eq_ok_iff, Reply.asUInt64_eq_ok_iff]
  constructor
  · rintro ⟨k, hkey, number, hsegment, hnarrow, o, hoffset, n, hflag, m, hmarker, v, hvalue, hvalued, hentry⟩
    obtain rfl := Except.ok.inj hentry
    have hnumber : number.toUInt32.toUInt64 = number := by
      rw [← UInt64.toNat_inj, UInt32.toNat_toUInt64, UInt64.toNat_toUInt32]
      exact Nat.mod_eq_of_lt (Nat.lt_of_not_le hnarrow)
    rw [← hnumber] at hsegment
    by_cases hn : n = 0
    · subst hn
      rcases valueOf_eq_ok hvalue with ⟨rfl, -⟩ | ⟨reply, bytes, hrest, rfl, hbytes⟩
      · exact absurd rfl hvalued
      · obtain ⟨more, rfl⟩ := List.head?_eq_some_iff.mp hrest
        exact .set hkey hsegment hoffset hflag hmarker hbytes
    · simp only [hn, ne_eq, not_false_eq_true, decide_true, if_true]
      refine .deletion hkey hsegment hoffset hflag hn hmarker ?_
      rcases valueOf_eq_ok hvalue with ⟨-, hrest | hrest⟩ | ⟨reply, bytes, hrest, -, hbytes⟩
      · rw [hrest]; exact .absent
      · rw [hrest]; exact .nil
      · rw [hrest]; exact .bytes hbytes
  · have hnarrow : ∀ n : UInt32, ¬ UInt32.size ≤ n.toUInt64.toNat := by
      intro n
      rw [UInt32.toNat_toUInt64]
      exact Nat.not_le.mpr n.toNat_lt_size
    intro h
    cases h with
    | set hkey hsegment hoffset hflag hmarker hvalue =>
      refine ⟨_, hkey, _, hsegment, hnarrow _, _, hoffset, _, hflag, _, hmarker, _, valueOf_of_isBytes hvalue, nofun,
        ?_⟩
      rw [UInt32.toUInt32_toUInt64]
      rfl
    | deletion hkey hsegment hoffset hflag hn hmarker hvalue =>
      have hread : ∃ v, valueOf rest.head? = .ok v := by
        cases hrest : rest.head? with
        | none => exact ⟨none, rfl⟩
        | some value =>
          rw [hrest] at hvalue
          cases hvalue with
          | nil => exact ⟨none, rfl⟩
          | bytes hbytes => exact ⟨_, valueOf_of_isBytes hbytes⟩
      obtain ⟨v, hv⟩ := hread
      refine ⟨_, hkey, _, hsegment, hnarrow _, _, hoffset, _, hflag, _, hmarker, v, hv, ?_, ?_⟩
      · simp [hn]
      · simp [hn]
        rfl

/-- **Entries are read by their grammar**: a reply is read as an entry exactly where it hands that entry out. -/
theorem ofReply_dataRaw_eq_ok_iff {reply : Reply} {answer : Answer} :
    ofReply .dataRaw reply = .ok answer ↔ ∃ entry, answer = .record entry ∧ reply.IsEntry entry := by
  constructor
  · intro h
    replace h : readRecord reply = .ok answer := ofReply_eq_ok h
    unfold readRecord at h
    split at h
    · rename_i key segment offset flag marker rest
      cases hentry : recordOf key segment offset flag marker rest.head? with
      | error fault => rw [hentry] at h; cases h
      | ok entry =>
        rw [hentry] at h
        exact ⟨entry, (Except.ok.inj h).symm, recordOf_eq_ok_iff.mp hentry⟩
    · cases h
    · cases h
  · rintro ⟨entry, rfl, hentry⟩
    obtain ⟨key, segment, offset, flag, marker, rest, rfl⟩ := hentry.exists_elements
    have hread : readRecord (.array (key :: segment :: offset :: flag :: marker :: rest)) = .ok (.record entry) := by
      rw [readRecord, recordOf_eq_ok_iff.mpr hentry]
      rfl
    rw [ofReply, reader_dataRaw, hread]
    rfl

end Answer

end SegmentSync
