import SegmentSync.Proofs.Json.Readers
import SegmentSync.Proofs.Json.RoundTrip
import SegmentSync.Store.Entry

/-!
# `SegmentSync.Proofs.Store.Blob` — entries survive their export

A blob that was written from entries is read as these entries (`read?_write`), so that an import stores what an
export found: deletions stay apart from empty values, and no marker is too large.
-/

namespace SegmentSync.Blob

open Json (Value Plain)

/-! ## Records -/

theorem each_octets (bytes : Bytes) : Reader.each Reader.octet (octets bytes) = some bytes :=
  Json.each_map Json.octet_natural bytes

/-- A value that is null is a deletion; an empty list is an empty value. -/
theorem nullable_octets (value : Option Bytes) :
    Reader.nullable (Reader.each Reader.octet) (value.elim .null octets) = some value := by
  cases value with
  | none => rfl
  | some bytes =>
    show (Reader.each Reader.octet (octets bytes)).bind (fun read => some (some read)) = some (some bytes)
    rw [each_octets bytes, Option.bind_some]

theorem members?_record (entry : Entry) :
    Node.members? ["key", "value", "marker"] (record entry) =
      some [some (octets entry.key), some (entry.value.elim .null octets),
        some (.natural entry.marker.toNat)] := by
  rfl

theorem readEntry?_record (entry : Entry) : readEntry? (record entry) = some entry := by
  unfold readEntry?
  rw [members?_record]
  simp only [Option.bind_eq_bind, Option.bind_some, Reader.required, Reader.withDefault, each_octets,
    nullable_octets, Json.word64_natural, Option.pure_def]

/-! ## Blobs -/

theorem plain_octets (bytes : Bytes) : Plain (octets bytes) := by
  refine Plain.array fun item hitem => ?_
  obtain ⟨byte, -, rfl⟩ := List.mem_map.mp hitem
  exact Plain.natural _

theorem plain_record (entry : Entry) : Plain (record entry) := by
  refine Plain.record ?_
  simp only [List.mem_cons, List.not_mem_nil, or_false]
  rintro m (rfl | rfl | rfl)
  · exact plain_octets _
  · cases entry.value with
    | none => exact Plain.null
    | some bytes => exact plain_octets bytes
  · exact Plain.natural _

/-- **A blob is read as the entries it was written from.** -/
@[simp] theorem read?_write (entries : List Entry) : read? (write entries) = some entries := by
  have hplain : Plain (.array (entries.map record)) := by
    refine Plain.array fun item hitem => ?_
    obtain ⟨entry, -, rfl⟩ := List.mem_map.mp hitem
    exact plain_record entry
  unfold read? write Json.readAs?
  rw [Json.read?_chars hplain, Option.bind_some]
  exact Json.each_map readEntry?_record entries

end SegmentSync.Blob
