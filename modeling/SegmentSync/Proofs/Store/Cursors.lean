import SegmentSync.Proofs.Client.Calls
import SegmentSync.Proofs.Store.Blob
import SegmentSync.Proofs.Store.Missing
import SegmentSync.Proofs.Store.Site

/-!
# `SegmentSync.Proofs.Store.Cursors` — cursors stay valid

A cursor that a store has reported is used later, when others have written to the store and rolled its segments over.
It still stands at the beginning of an entry or at the end of its segment: every entry takes room, and what is in a log
is never taken out of it.

## Contents
- **Cuts.** What a connection gets for a cursor that cuts a segment in two (`Serving.Yields`).
- **The theorem.** `Site.cursors_stay_valid`: whatever happens at a site, a cursor of an earlier moment cuts its segment
  where the log ended then.
-/

namespace SegmentSync

/-! ## Cuts -/

/-- What the connection gets for a cursor: the first of these entries as a record under that cursor, and all of them in
    a blob; where there are none, the end of the segment is all that it is told. -/
structure Serving.Yields (s : Serving) (at_ : Position) (entries : List Entry) : Prop where
  record : s.Permits .dataRaw →
    match entries with
    | [] => ((Serve.execute (.dataRaw at_)).on s).1 = .error .eof
    | entry :: _ => Client.reading (.dataRaw at_) Client.record? ((Serve.execute (.dataRaw at_)).on s).1 =
        .ok (entry.handedOut at_)
  blob : s.Permits .dataExport →
    match entries with
    | [] => ((Serve.execute (.dataExport at_)).on s).1 = .error .eof
    | entry :: rest => ∃ blob, ((Serve.execute (.dataExport at_)).on s).1 = .ok (.bulk blob) ∧
        Blob.read? blob = some (entry :: rest)

/-- **A cursor that cuts a segment yields what stands behind the cut.** -/
theorem Serving.Shows.yields {s : Serving} {name : String} {ns : Namespace} {at_ : Position}
    {before after : List Entry} (h : s.Shows name ns) (hcut : ns.CutAt at_ before after)
    (hoffset : at_.offset.toNat < 2 ^ 63) : s.Yields at_ after where
  record := by
    intro hpermits
    have hdispatched : (Serve.execute (.dataRaw at_)).on s =
        (Serve.dispatch (.dataRaw at_) none).on (s.logged .dataRaw) := Serve.execute_of_permits hpermits
    have hanswer : ((Serve.execute (.dataRaw at_)).on s).1 = Serve.recorded ns at_ :=
      congrArg Prod.fst (hdispatched.trans (Serve.on_serveRecord (h.logged .dataRaw) at_))
    unfold Serve.recorded at hanswer
    rw [hcut.entriesFrom?] at hanswer
    cases after with
    | nil => exact hanswer
    | cons entry rest =>
      rw [hanswer]
      exact Client.reading_handedOut entry hoffset
  blob := by
    intro hpermits
    have hdispatched : (Serve.execute (.dataExport at_)).on s =
        (Serve.dispatch (.dataExport at_) none).on (s.logged .dataExport) := Serve.execute_of_permits hpermits
    have hanswer : ((Serve.execute (.dataExport at_)).on s).1 = Serve.exported ns at_ :=
      congrArg Prod.fst (hdispatched.trans (Serve.on_serveExport (h.logged .dataExport) at_))
    unfold Serve.exported at hanswer
    rw [hcut.entriesFrom?] at hanswer
    cases after with
    | nil => exact hanswer
    | cons entry rest => exact ⟨_, hanswer, Blob.read?_write _⟩

/-! ## The theorem -/

/-- **Cursors stay valid.** Whatever is done at a site, as long as the namespace is not created anew: its log is only
    added to; its cursor does not go back, and moves on whenever the log has changed. The cursor of the earlier moment
    stands in its segment where that ended then, so that every connection that has selected the namespace gets for it
    just the entries that were added to that segment since. -/
theorem Site.cursors_stay_valid {site : Site} {name : String} {ns : Namespace} {operations : List Operation}
    {earlier later : Store} (hearlier : site.store = earlier) (hlater : (site.run operations).store = later)
    (hfound : earlier.namespaces.find? name = some ns)
    (hkeeps : ∀ operation ∈ operations, ¬ operation.Creates name)
    (hfits : ∀ ns', later.namespaces.find? name = some ns' → ns'.Fits (2 ^ 63)) :
    LogPrefix (earlier.segments name) (later.segments name) ∧
      earlier.position name ≤ later.position name ∧
      (earlier.position name < later.position name ↔ later.segments name ≠ earlier.segments name) ∧
      ∃ before added,
        (earlier.segments name)[(earlier.position name).segment.toNat]? = some before ∧
        (later.segments name)[(earlier.position name).segment.toNat]? = some (before ++ added) ∧
        ∀ connection : Connection, connection.selected = some name →
          (⟨later, connection⟩ : Serving).Yields (earlier.position name) added := by
  subst hearlier hlater
  obtain ⟨ns', hfound', hgrows⟩ := find?_run hkeeps hfound
  have hfits₆₃ := hfits ns' hfound'
  have hfits₆₄ : ns'.Fits (2 ^ 64) := hfits₆₃.mono (by decide)
  have hends := hfits₆₄.of_logPrefix hgrows
  rw [Store.position_of_found hfound, Store.position_of_found hfound', Store.segments_of_found hfound,
    Store.segments_of_found hfound']
  refine ⟨hgrows, Position.le_of_not_lt (Namespace.not_position_lt hfits₆₄ hgrows),
    Namespace.position_lt_iff_ne hfits₆₄ hgrows, ?_⟩
  -- The cursor stands at the end of the log that was, which is a prefix of the one that is.
  obtain ⟨added, rest, hsegments⟩ := Namespace.logPrefix_iff.mp hgrows
  have hsegmentsThen : ns.segments = ns.earlier ++ (ns.current ++ []) :: [] := by
    rw [List.append_nil]
    rfl
  have hcutThen : ns.CutAt ns.position ns.current [] := Namespace.cutAt_position hends hsegmentsThen
  have hcut : ns'.CutAt ns.position ns.current added := Namespace.cutAt_position hends hsegments
  have hoffset : ns.position.offset.toNat < 2 ^ 63 := by
    rw [hends.offset_toNat]
    exact (hfits₆₃.of_logPrefix hgrows).sizeOf_current_lt
  refine ⟨ns.current, added, ?_, hcut.segment, fun connection hselected => ?_⟩
  · rw [hcutThen.segment, List.append_nil]
  · exact Serving.Shows.yields ⟨hfound', hselected⟩ hcut hoffset

/-- A store of two segments with a connection that has selected its namespace. -/
def Site.twoSegments : Site where
  store := { namespaces := Table.empty.insert "data" .twoSegments }
  connections := [{ selected := some "data" }]

/-- A key is set, a connection starts a new segment, and another key is set. -/
def Site.aroundJump : List Operation :=
  [.befall (.set "data" [98] [50]), .request 0 .nsJump, .befall (.set "data" [99] [51])]

/-- The cursor from before a jump yields what was added before it, and nothing else. -/
theorem Site.cursors_stay_valid_over_jump :
    let s : Serving := ⟨(Site.twoSegments.run Site.aroundJump).store, { selected := some "data" }⟩
    s.Calm ∧ s.Yields (Site.twoSegments.store.position "data") [⟨[98], some [50], 1⟩] := by
  intro s
  have hfound : Site.twoSegments.store.namespaces.find? "data" = some .twoSegments := rfl
  have hkeeps : ∀ operation ∈ Site.aroundJump, ¬ operation.Creates "data" := by
    simp [Site.aroundJump, Operation.Creates]
  obtain ⟨-, -, -, before, added, hthen, hnow, hyields⟩ :=
    cursors_stay_valid rfl rfl hfound hkeeps fun ns' hfound' => by
      obtain rfl := Option.some.inj hfound'
      exact ⟨by decide, by decide⟩
  obtain rfl := Option.some.inj hthen
  obtain rfl := List.append_cancel_left (Option.some.inj hnow)
  exact ⟨⟨rfl, rfl, nofun⟩, hyields s.connection rfl⟩

end SegmentSync
