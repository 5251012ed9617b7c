import Mathlib.Data.Finset.Card
import SegmentSync.Proofs.Store.Information
import SegmentSync.Proofs.Store.Missing
import SegmentSync.Proofs.Store.Site
import SegmentSync.Proofs.Table

/-!
# `SegmentSync.Proofs.Store.Keys` — the keys of a store agree with its log

A namespace keeps its log and the table of the keys that are set. Each of them is changed for itself, by local writes,
by requests and by whole blobs of entries. Still the table says no more and no less than the log does.

## Contents
- **Last values.** What the log says of a key (`Entry.lastValue?`), and the keys that it leaves set (`Entry.liveKeys`).
- **Replays.** The table that some entries make of nothing: its values (`Namespace.find?_foldl_applyEntry`) and its size
  (`Namespace.size_foldl_applyEntry`).
- **The theorem.** That the table is a replay of the log is an invariant (`Namespace.invariant_replayed`), so it holds
  after every run of a site (`Site.keys_replay_log`).
-/

namespace SegmentSync

/-! ## Last values -/

namespace Entry

/-- What the last entry of a key sets it to; nothing if that is a deletion, or if there is none. -/
def lastValue? (entries : List Entry) (key : Bytes) : Option Bytes :=
  (entries.filter fun entry => entry.key = key).getLast?.bind Entry.value

theorem lastValue?_concat (entries : List Entry) (entry : Entry) (key : Bytes) :
    lastValue? (entries ++ [entry]) key = if key = entry.key then entry.value else lastValue? entries key := by
  unfold lastValue?
  rw [List.filter_append]
  by_cases hkey : key = entry.key
  · rw [if_pos hkey, List.filter_cons_of_pos (by simpa using hkey.symm), List.filter_nil, List.getLast?_concat,
      Option.bind_some]
  · rw [if_neg hkey, List.filter_cons_of_neg (by simpa using Ne.symm hkey), List.filter_nil, List.append_nil]

/-- The keys that are set after some entries. -/
def liveKeys (entries : List Entry) : Finset Bytes :=
  (entries.map Entry.key).toFinset.filter fun key => (lastValue? entries key).isSome

theorem mem_liveKeys {entries : List Entry} {key : Bytes} :
    key ∈ liveKeys entries ↔ (lastValue? entries key).isSome = true := by
  unfold liveKeys
  rw [Finset.mem_filter, List.mem_toFinset]
  refine and_iff_right_of_imp fun hsome => ?_
  -- A key with a last value has an entry.
  obtain ⟨value, hvalue⟩ := Option.isSome_iff_exists.mp hsome
  obtain ⟨entry, hlast, -⟩ := Option.bind_eq_some_iff.mp hvalue
  obtain ⟨hmem, hkey⟩ := List.mem_filter.mp (List.mem_of_getLast? hlast)
  exact List.mem_map.mpr ⟨entry, hmem, by simpa using hkey⟩

end Entry

/-! ## Replays -/

namespace Namespace

variable {ns ns' : Namespace}

theorem find?_applyEntry (keys : Table Bytes Bytes) (entry : Entry) (key : Bytes) :
    (applyEntry keys entry).find? key = if key = entry.key then entry.value else keys.find? key := by
  unfold applyEntry
  cases entry.value with
  | none => exact Table.find?_erase ..
  | some value => exact Table.find?_insert ..

theorem distinct_applyEntry {keys : Table Bytes Bytes} (h : keys.Distinct) (entry : Entry) :
    (applyEntry keys entry).Distinct := by
  unfold applyEntry
  cases entry.value with
  | none => exact h.erase _
  | some value => exact h.insert _ _

/-- **A replay gives each key its last value.** -/
theorem find?_foldl_applyEntry (entries : List Entry) (key : Bytes) :
    (entries.foldl applyEntry .empty).find? key = Entry.lastValue? entries key := by
  -- Induction from the end of the log, where the entries that count are.
  induction entries using List.reverseRecOn with
  | nil => rfl
  | append_singleton entries entry ih =>
    rw [List.foldl_concat, find?_applyEntry, Entry.lastValue?_concat, ih]

theorem distinct_foldl_applyEntry (entries : List Entry) {keys : Table Bytes Bytes} (h : keys.Distinct) :
    (entries.foldl applyEntry keys).Distinct := by
  induction entries generalizing keys with
  | nil => exact h
  | cons entry entries ih => exact ih (distinct_applyEntry h entry)

/-- **A replay has the size of the keys that it leaves set.** -/
theorem size_foldl_applyEntry (entries : List Entry) :
    (entries.foldl applyEntry .empty).size = (Entry.liveKeys entries).card := by
  refine (distinct_foldl_applyEntry entries Table.distinct_empty).size_eq fun key => ?_
  rw [Entry.mem_liveKeys, find?_foldl_applyEntry]

/-! ## The theorem -/

theorem Replayed.extends (h : ns.Replayed) (hextends : ns.Extends ns') : ns'.Replayed := by
  cases hextends with
  | jump => exact h.jump
  | append entries => exact h.foldl_append entries

/-- **The table of keys stays a replay of the log**, whatever is done to a namespace. -/
theorem invariant_replayed : Invariant Replayed where
  created := fun _ => rfl
  changed := by
    intro ns ns' hchanges h
    cases hchanges with
    | kept | flagged _ => exact h
    | extended hextends => exact h.extends hextends

end Namespace

/-- **The keys of a store are what its logs amount to.** Whatever has been done at a site since there was nothing, every
    namespace has a segment, and a key has the value that the last entry of that key gives it: in the table, and for
    whoever asks the store. The information block, over every connection that may ask for it, counts these keys. -/
theorem Site.keys_replay_log {admin : Option String} {operations : List Operation} {store : Store} {name : String}
    {ns : Namespace} (hstore : ((fresh admin).run operations).store = store)
    (hfound : store.namespaces.find? name = some ns) :
    ns.segments ≠ [] ∧
      (∀ key, ns.keys.find? key = Entry.lastValue? ns.entries key) ∧
      (∀ key, store.get? name key = Entry.lastValue? (store.segments name).flatten key) ∧
      ∀ connection, (⟨store, connection⟩ : Serving).Permits .nsInfo →
        ((Serve.execute (.nsInfo name)).on ⟨store, connection⟩).1 = .ok (.bulk (Utf8.encode (ns.info name))) ∧
        (Answer.infoFields (ns.info name).toList).find? "entries".toList =
          some (Decimal.digits (Entry.liveKeys (store.segments name).flatten).card) := by
  subst hstore
  have hreplayed : ns.Replayed := all_run Namespace.invariant_replayed (all_fresh admin) operations name ns hfound
  have hkeys (key : Bytes) : ns.keys.find? key = Entry.lastValue? ns.entries key := by
    rw [hreplayed, Namespace.find?_foldl_applyEntry]
  have hsize : ns.keys.size = (Entry.liveKeys ns.entries).card := by
    rw [hreplayed, Namespace.size_foldl_applyEntry]
  refine ⟨by simp [Namespace.segments], hkeys, fun key => ?_, fun connection hpermits => ⟨?_, ?_⟩⟩
  · rw [Store.get?_of_found hfound, Store.segments_of_found hfound, hkeys]
    rfl
  · exact Namespace.answer_nsInfo hfound hpermits
  · rw [Namespace.find?_entries_info, hsize, Store.segments_of_found hfound]
    rfl

/-- A key is set beside all connections; one of them starts a new segment, and imports a deletion of that key and
    another entry. -/
def Site.throughImport : List Operation :=
  [.create "data" none, .befall (.set "data" [97] [49]), .connect, .request 0 (.select "data" none), .request 0 .nsJump,
    .request 0 (.dataImport ⟨1, 0⟩ (Blob.write [⟨[97], none, 5⟩, ⟨[98], some [50], 6⟩]))]

/-- What was imported counts, and what was set before does not. -/
theorem Site.keys_replay_log_through_import :
    let store := ((fresh none).run throughImport).store
    (store.segments "data" = [[⟨[97], some [49], 1⟩], [⟨[97], none, 5⟩, ⟨[98], some [50], 6⟩]] ∧
      (⟨store, {}⟩ : Serving).Permits .nsInfo) ∧
      store.get? "data" [97] = none ∧ store.get? "data" [98] = some [50] ∧
      ∃ block, ((Serve.execute (.nsInfo "data")).on ⟨store, {}⟩).1 = .ok (.bulk (Utf8.encode block)) ∧
        (Answer.infoFields block.toList).find? "entries".toList = some (Decimal.digits 1) := by
  intro store
  have hsegments : store.segments "data" = [[⟨[97], some [49], 1⟩], [⟨[97], none, 5⟩, ⟨[98], some [50], 6⟩]] := by
    decide +kernel
  have hpermits : (⟨store, {}⟩ : Serving).Permits .nsInfo := by
    have hfaults : store.faults = [] := by decide +kernel
    have hadmin : store.admin.isSome ≠ true := by decide +kernel
    exact ⟨rfl, Serving.faultless_of_nil hfaults _, fun _ h => absurd h hadmin⟩
  obtain ⟨ns, hfound⟩ : ∃ ns, store.namespaces.find? "data" = some ns :=
    Option.isSome_iff_exists.mp (by decide +kernel)
  obtain ⟨-, -, hget, hasked⟩ := keys_replay_log rfl hfound
  obtain ⟨hanswer, hcount⟩ := hasked {} hpermits
  rw [hsegments] at hcount
  refine ⟨⟨hsegments, hpermits⟩, ?_, ?_, _, hanswer, hcount⟩
  · rw [hget, hsegments]
    decide
  · rw [hget, hsegments]
    decide

end SegmentSync
