import SegmentSync.Proofs.Store.Blob
import SegmentSync.Proofs.Store.Edits

/-!
# `SegmentSync.Proofs.Store.Transfer` — entries on their way between stores

A store hands out the entries behind a cursor as a blob, and another store adds the entries of a blob to the end of a
log. Blobs are written without loss (`Blob.write_injective`), so that the entries arrive as they were, whichever
namespaces of whichever stores they go from and to.
-/

namespace SegmentSync

/-- Different entries make different blobs. -/
theorem Blob.write_injective : Function.Injective Blob.write := by
  intro entries entries' h
  have hread := Blob.read?_write entries
  rw [h, Blob.read?_write] at hread
  exact (Option.some.inj hread).symm

namespace Serve

variable {s : Serving} {at_ : Position} {blob : Bytes}

/-- An export hands out a blob when there is something behind the cursor, and that is what the blob is made of. -/
theorem exported_eq_bulk_iff {ns : Namespace} : exported ns at_ = .ok (.bulk blob) ↔
    ∃ entries, entries ≠ [] ∧ ns.entriesFrom? at_ = .ok entries ∧ blob = Blob.write entries := by
  unfold exported
  constructor
  · intro h
    split at h
    · cases h
    · rename_i entry rest hentries
      cases h
      exact ⟨entry :: rest, List.cons_ne_nil entry rest, hentries, rfl⟩
    · cases h
  · rintro ⟨entries, hne, hentries, rfl⟩
    obtain ⟨entry, rest, rfl⟩ := List.exists_cons_of_ne_nil hne
    rw [hentries]

/-- An export that gets an answer is made on a namespace that exists. -/
theorem on_serveExport_or (at_ : Position) (s : Serving) :
    (∃ name ns, s.Shows name ns ∧ (serveExport (Request.dataExport at_).arguments).on s = (exported ns at_, s)) ∨
      ∃ reason, (serveExport (Request.dataExport at_).arguments).on s = (.error (.server reason), s) := by
  rcases on_selectedNamespace_or s with ⟨name, ns, hshows, -⟩ | ⟨reason, hnone⟩
  · exact .inl ⟨name, ns, hshows, on_serveExport hshows at_⟩
  · have harguments : (Request.dataExport at_).arguments = Request.cursor at_ ++ [] := (List.append_nil _).symm
    refine .inr ⟨reason, ?_⟩
    unfold serveExport
    rw [harguments]
    simp only [on_bind, on_cursorArgument, hnone]

/-- **A blob that an export hands out was written from the entries behind the cursor**, whatever faults there are. -/
theorem entriesFrom?_of_exported (h : ((execute (.dataExport at_)).on s).1 = .ok (.bulk blob)) :
    ∃ name ns entries, s.Shows name ns ∧ entries ≠ [] ∧ ns.entriesFrom? at_ = .ok entries ∧
      blob = Blob.write entries := by
  rcases execute_cases (.dataExport at_) s with
    ⟨r, s', hturned, ⟨failure, rfl, -⟩, -⟩ | ⟨fault, s', hserved, hspaces, hsame⟩
  · rw [hturned] at h
    cases h
  · rw [hserved] at h
    rcases on_serveExport_or at_ s' with ⟨name, ns, hshows, hexport⟩ | ⟨reason, hrefused⟩
    · have hanswer : exported ns at_ = .ok (.bulk blob) := (congrArg Prod.fst hexport).symm.trans h
      have hshows' : s.Shows name ns := ⟨hspaces ▸ hshows.found, hsame ▸ hshows.selected⟩
      obtain ⟨entries, hentries⟩ := exported_eq_bulk_iff.mp hanswer
      exact ⟨name, ns, entries, hshows', hentries⟩
    · cases (congrArg Prod.fst hrefused).symm.trans h

/-- An import at the end of a log stores the entries that the blob was written from. -/
theorem on_import_of_write {t : Serving} {name : String} {ns : Namespace} (hshows : t.Shows name ns)
    (hpermits : t.Permits .dataImport) (entries : List Entry) :
    (execute (.dataImport ns.position (Blob.write entries))).on t =
      (.ok .okay, (t.logged .dataImport).put name (entries.foldl Namespace.append ns)) := by
  have hserved := on_serveImport (hshows.logged .dataImport) ns.position (Blob.write entries)
  rw [if_pos rfl, Blob.read?_write] at hserved
  exact (execute_of_permits hpermits).trans hserved

/-- **What is exported is what an import stores.** A blob is read as the entries it was written from, be they any
entries; no other entries have the same blob. And whatever store handed out a blob, any store that permits the import
of it at the end of a log adds just the entries that the blob was made of. -/
theorem import_stores_export :
    (∀ entries, Blob.read? (Blob.write entries) = some entries) ∧ Function.Injective Blob.write ∧
      ∀ (s : Serving) (at_ : Position) (blob : Bytes), ((execute (.dataExport at_)).on s).1 = .ok (.bulk blob) →
        ∃ name ns entries, s.Shows name ns ∧ entries ≠ [] ∧ ns.entriesFrom? at_ = .ok entries ∧
          blob = Blob.write entries ∧
          ∀ (t : Serving) (name' : String) (ns' : Namespace), t.Shows name' ns' → t.Permits .dataImport →
            (execute (.dataImport ns'.position blob)).on t =
              (.ok .okay, (t.logged .dataImport).put name' (entries.foldl Namespace.append ns')) := by
  refine ⟨Blob.read?_write, Blob.write_injective, fun s at_ blob h => ?_⟩
  obtain ⟨name, ns, entries, hshows, hne, hentries, rfl⟩ := entriesFrom?_of_exported h
  exact ⟨name, ns, entries, hshows, hne, hentries, rfl, fun t name' ns' hshows' hpermits =>
    on_import_of_write hshows' hpermits entries⟩

/-- A key that is set to nothing, with the largest marker there is, and deleted again. -/
def emptiedEntries : List Entry := [⟨[107], some [], 18446744073709551615⟩, ⟨[107], none, 0⟩]

/-- The empty value arrives as one, the deletion as one, and the marker as it was. -/
theorem import_stores_export_of_emptied :
    let s : Serving := ⟨{ namespaces := Table.empty.insert "data" { current := emptiedEntries } },
      { selected := some "data" }⟩
    let t : Serving := ⟨{ namespaces := Table.empty.insert "data" {} }, { selected := some "data" }⟩
    ((execute (.dataExport .zero)).on s).1 = .ok (.bulk (Blob.write emptiedEntries)) ∧
      Blob.read? (Blob.write emptiedEntries) = some emptiedEntries ∧
      (execute (.dataImport .zero (Blob.write emptiedEntries))).on t =
        (.ok .okay, (t.logged .dataImport).put "data" (emptiedEntries.foldl Namespace.append {})) := by
  intro s t
  have hcalm : ∀ ns, (⟨{ namespaces := Table.empty.insert "data" ns }, { selected := some "data" }⟩ : Serving).Calm :=
    fun _ => ⟨rfl, rfl, nofun⟩
  have hexported : ((execute (.dataExport .zero)).on s).1 = .ok (.bulk (Blob.write emptiedEntries)) := by
    have hshows : (s.logged .dataExport).Shows "data" { current := emptiedEntries } := ⟨rfl, rfl⟩
    have hbehind : ({ current := emptiedEntries } : Namespace).entriesFrom? .zero = .ok emptiedEntries := by
      simp [Namespace.entriesFrom?, Namespace.segments, Position.zero, Namespace.dropSize?]
    have hanswer := exported_eq_bulk_iff.mpr ⟨emptiedEntries, List.cons_ne_nil _ _, hbehind, rfl⟩
    have hserved := (execute_of_calm (hcalm _) (.dataExport .zero)).trans (on_serveExport hshows .zero)
    exact (congrArg Prod.fst hserved).trans hanswer
  obtain ⟨hread, hinjective, himport⟩ := import_stores_export
  obtain ⟨name, ns, entries, -, -, -, hwritten, hstores⟩ := himport s .zero _ hexported
  obtain rfl := hinjective hwritten
  have hposition : ({} : Namespace).position = .zero := by decide
  exact ⟨hexported, hread _, hposition ▸ hstores t "data" {} ⟨rfl, rfl⟩ ((hcalm _).permits _)⟩

end Serve

end SegmentSync
