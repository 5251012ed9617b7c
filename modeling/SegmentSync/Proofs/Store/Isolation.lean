import SegmentSync.Proofs.Store.Commands

/-!
# `SegmentSync.Proofs.Store.Isolation` — what a request leaves alone

The namespaces of a store share its log of commands, its markers and its challenges. None of these shows in what
replication asks for: on a good connection the answer to a request depends on the selected namespace alone, and no
other namespace is changed by it.

## Contents
- **Requests.** `Request.Reads` and `Request.Writes`: the requests of replication, about one namespace.
- **Changes.** `Store.ChangedAt`: a store after a change of one namespace.
- **Isolation.** `Serve.isolated_of_reads` and `Serve.isolated_of_writes`.
-/

namespace SegmentSync

/-! ## Requests -/

/-- The request reads the namespace of that name, if it comes over a connection that has it selected. -/
inductive Request.Reads (name : String) : Request → Prop where
  | nsInfo : Reads name (.nsInfo name)
  | dataExport (start : Position) : Reads name (.dataExport start)
  | dataRaw (at_ : Position) : Reads name (.dataRaw at_)

/-- The request may change the namespace of that name. A marker that comes with it is a number, so that the store
    need not use one of its own. -/
inductive Request.Writes (name : String) : Request → Prop where
  | nsFreeze (enabled : Bool) : Writes name (.nsFreeze name enabled)
  | nsJump : Writes name .nsJump
  | dataImport (at_ : Position) (blob : Bytes) : Writes name (.dataImport at_ blob)
  | set (key value : Bytes) (marker : UInt64) :
    Writes name (.set key value (Utf8.encodeChars (Decimal.digits marker.toNat)))
  | del (key : Bytes) (marker : UInt64) :
    Writes name (.del key (Utf8.encodeChars (Decimal.digits marker.toNat)))

/-! ## Changes -/

/-- The store has this namespace by now, and is as it was beside its log and its markers. -/
structure Store.ChangedAt (store store' : Store) (name : String) (ns : Namespace) : Prop where
  admin : store'.admin = store.admin
  faults : store'.faults = store.faults
  here : store'.namespaces.find? name = some ns
  elsewhere : ∀ other, other ≠ name → store'.namespaces.find? other = store.namespaces.find? other

namespace Serving

variable {s : Serving} {name : String} {ns : Namespace}

theorem Shows.changedAt_logged (h : s.Shows name ns) (command : Command) :
    s.store.ChangedAt (s.logged command).store name ns :=
  ⟨rfl, rfl, h.found, fun _ _ => rfl⟩

theorem Shows.changedAt_marked (h : s.Shows name ns) : s.store.ChangedAt s.marked.store name ns :=
  ⟨rfl, rfl, h.found, fun _ _ => rfl⟩

theorem changedAt_put (s : Serving) (name : String) (ns : Namespace) :
    s.store.ChangedAt (s.put name ns).store name ns := by
  refine ⟨rfl, rfl, ?_, fun other hne => ?_⟩
  · simp [put]
  · simp [put, hne]

end Serving

theorem Store.ChangedAt.trans {store store' store'' : Store} {name : String} {ns ns' : Namespace}
    (h : store.ChangedAt store' name ns) (h' : store'.ChangedAt store'' name ns') :
    store.ChangedAt store'' name ns' :=
  ⟨h'.admin.trans h.admin, h'.faults.trans h.faults, h'.here,
    fun other hne => (h'.elsewhere other hne).trans (h.elsewhere other hne)⟩

namespace Serving

variable {s : Serving} {store' : Store} {name other : String} {ns ns' : Namespace}

/-- Whatever namespace is changed, a good connection stays one. -/
theorem Calm.changedAt (h : s.Calm) (hchanged : s.store.ChangedAt store' name ns) :
    (⟨store', s.connection⟩ : Serving).Calm := by
  refine ⟨h.isOpen, hchanged.faults.trans h.faults, fun hadmin => h.admin ?_⟩
  rw [← hchanged.admin]
  exact hadmin

theorem Shows.changedAt (h : s.Shows name ns) (hchanged : s.store.ChangedAt store' name ns') :
    (⟨store', s.connection⟩ : Serving).Shows name ns' :=
  ⟨hchanged.here, h.selected⟩

theorem Shows.changedAt_of_ne (h : s.Shows other ns) (hne : other ≠ name)
    (hchanged : s.store.ChangedAt store' name ns') : (⟨store', s.connection⟩ : Serving).Shows other ns :=
  ⟨(hchanged.elsewhere other hne).trans h.found, h.selected⟩

end Serving

/-! ## Isolation -/

namespace Serve

variable {α : Type} {x : Serve α} {name : String} {ns ns' : Namespace} {request : Request}

/-- On every good connection that has this namespace selected there is the same answer, and the same namespace after
    it; nothing else of the store shows in them, or is changed. -/
def Isolated (x : Serve α) (name : String) (ns : Namespace) (answer : Except ProtocolError α)
    (ns' : Namespace) : Prop :=
  ∀ s : Serving, s.Calm → s.Shows name ns →
    ∃ store', x.on s = (answer, ⟨store', s.connection⟩) ∧ s.store.ChangedAt store' name ns'

variable {answer : Except ProtocolError α}

theorem isolated_of_read (h : ∀ s : Serving, s.Shows name ns → x.on s = (answer, s)) : Isolated x name ns answer ns :=
  fun s _ hshows => ⟨s.store, h s hshows, rfl, rfl, hshows.found, fun _ _ => rfl⟩

theorem isolated_of_marked (h : ∀ s : Serving, s.Shows name ns → x.on s = (answer, s.marked)) :
    Isolated x name ns answer ns :=
  fun s _ hshows => ⟨s.marked.store, h s hshows, hshows.changedAt_marked⟩

theorem isolated_of_put (h : ∀ s : Serving, s.Shows name ns → x.on s = (answer, s.put name ns')) :
    Isolated x name ns answer ns' :=
  fun s _ hshows => ⟨(s.put name ns').store, h s hshows, s.changedAt_put name ns'⟩

theorem isolated_of_marked_put (h : ∀ s : Serving, s.Shows name ns → x.on s = (answer, s.marked.put name ns')) :
    Isolated x name ns answer ns' :=
  fun s _ hshows => ⟨(s.marked.put name ns').store, h s hshows,
    hshows.changedAt_marked.trans (s.marked.changedAt_put name ns')⟩

/-- A request adds its command to the log, which nothing depends on. -/
theorem isolated_execute {answer : Except ProtocolError Reply}
    (h : Isolated (dispatch request none) name ns answer ns') : Isolated (execute request) name ns answer ns' := by
  intro s hcalm hshows
  obtain ⟨store', hserved, hchanged⟩ := h _ (hcalm.logged request.command) (hshows.logged request.command)
  exact ⟨store', (execute_of_calm hcalm request).trans hserved, (hshows.changedAt_logged _).trans hchanged⟩

/-- **What a request reads depends on its namespace alone**, and changes nothing. -/
theorem isolated_of_reads (h : request.Reads name) (ns : Namespace) :
    ∃ answer, (request.command = .dataRaw → ∃ at_, answer = recorded ns at_) ∧
      Isolated (execute request) name ns answer ns := by
  cases h with
  | nsInfo => exact ⟨_, nofun, isolated_execute (isolated_of_read fun _ hshows => on_serveInfo hshows.found)⟩
  | dataExport start =>
    exact ⟨_, nofun, isolated_execute (isolated_of_read fun _ hshows => on_serveExport hshows start)⟩
  | dataRaw at_ =>
    exact ⟨_, fun _ => ⟨at_, rfl⟩, isolated_execute (isolated_of_read fun _ hshows => on_serveRecord hshows at_)⟩

/-- An import at the end of the log adds entries, any other one does nothing. -/
theorem isolated_dataImport (ns : Namespace) (at_ : Position) (blob : Bytes) :
    ∃ answer ns', Isolated (dispatch (.dataImport at_ blob) none) name ns answer ns' := by
  have himport := fun (s : Serving) (hshows : s.Shows name ns) => on_serveImport hshows at_ blob
  by_cases hposition : ns.position = at_
  · simp only [if_pos hposition] at himport
    cases hread : Blob.read? blob with
    | none =>
      simp only [hread] at himport
      exact ⟨_, ns, isolated_of_read himport⟩
    | some entries =>
      simp only [hread] at himport
      exact ⟨_, _, isolated_of_put himport⟩
  · simp only [if_neg hposition] at himport
    exact ⟨_, ns, isolated_of_read himport⟩

/-- A set adds its entry, unless the namespace is frozen. -/
theorem isolated_set (ns : Namespace) (key value : Bytes) (marker : UInt64) :
    ∃ answer ns', Isolated (dispatch (.set key value (Utf8.encodeChars (Decimal.digits marker.toNat))) none) name ns
      answer ns' := by
  have hset := fun (s : Serving) (hshows : s.Shows name ns) => on_serveSet hshows key value marker none
  by_cases hfrozen : ns.frozen = true
  · simp only [if_pos hfrozen] at hset
    exact ⟨_, ns, isolated_of_marked hset⟩
  · simp only [if_neg hfrozen] at hset
    exact ⟨_, _, isolated_of_marked_put hset⟩

/-- A deletion adds its entry, unless the namespace is frozen or has no such key. -/
theorem isolated_del (ns : Namespace) (key : Bytes) (marker : UInt64) :
    ∃ answer ns', Isolated (dispatch (.del key (Utf8.encodeChars (Decimal.digits marker.toNat))) none) name ns
      answer ns' := by
  have hdelete := fun (s : Serving) (hshows : s.Shows name ns) => on_serveDelete hshows key marker
  by_cases hfrozen : ns.frozen = true
  · simp only [if_pos hfrozen] at hdelete
    exact ⟨_, ns, isolated_of_marked hdelete⟩
  · simp only [if_neg hfrozen] at hdelete
    by_cases hkey : ns.keys.contains key = true
    · simp only [if_pos hkey] at hdelete
      exact ⟨_, _, isolated_of_marked_put hdelete⟩
    · simp only [if_neg hkey] at hdelete
      exact ⟨_, ns, isolated_of_marked hdelete⟩

/-- **What a request changes is its namespace alone**, in a way that depends on nothing else. -/
theorem isolated_of_writes (h : request.Writes name) (ns : Namespace) :
    ∃ answer ns', Isolated (execute request) name ns answer ns' := by
  have hdispatch : ∃ answer ns', Isolated (dispatch request none) name ns answer ns' := by
    cases h with
    | nsFreeze enabled => exact ⟨_, _, isolated_of_put fun _ hshows => on_serveFreeze hshows.found enabled⟩
    | nsJump => exact ⟨_, _, isolated_of_put fun _ hshows => on_serveJump hshows⟩
    | dataImport at_ blob => exact isolated_dataImport ns at_ blob
    | set key value marker => exact isolated_set ns key value marker
    | del key marker => exact isolated_del ns key marker
  obtain ⟨answer, ns', hisolated⟩ := hdispatch
  exact ⟨answer, ns', isolated_execute hisolated⟩

end Serve

end SegmentSync
