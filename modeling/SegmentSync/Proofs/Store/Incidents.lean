import SegmentSync.Proofs.Store.Log
import SegmentSync.Store.Basic

/-!
# `SegmentSync.Proofs.Store.Incidents` — what happens to a store beside its connections

Those who run a store write to it and roll its segments over, and tests tell it to misbehave. None of this takes a
namespace away or anything out of a log.

## Contents
- **Changes.** `Store.ChangesTo`: there are the same namespaces, and each of them has been changed once at most. So
  they keep every invariant (`Namespace.Invariant`).
- **Incidents.** `Incident`, and `Store.suffer` for the store after one; one lemma for each kind.
- **Many incidents.** A namespace survives them, and orders to misbehave do not touch it.
-/

namespace SegmentSync

/-! ## Changes -/

/-- There are the same namespaces, and each of them has been changed once at most. -/
def Store.ChangesTo (store store' : Store) : Prop :=
  ∀ name, Option.Rel Namespace.Changes (store.namespaces.find? name) (store'.namespaces.find? name)

/-- Every namespace of a store has a property. -/
def Store.All (P : Namespace → Prop) (store : Store) : Prop :=
  ∀ name ns, store.namespaces.find? name = some ns → P ns

/-- A property that every new namespace has, and that no change takes away. -/
structure Namespace.Invariant (P : Namespace → Prop) : Prop where
  created : ∀ password, P { password }
  changed : ∀ {ns ns' : Namespace}, ns.Changes ns' → P ns → P ns'

namespace Store

variable {store store' : Store} {name space : String} {ns ns' : Namespace}

theorem ChangesTo.of_same (h : store'.namespaces = store.namespaces) : store.ChangesTo store' := by
  intro name
  rw [h]
  cases store.namespaces.find? name with
  | none => exact .none
  | some ns => exact .some .kept

theorem ChangesTo.of_insert (hfound : store.namespaces.find? name = some ns) (hchanges : ns.Changes ns')
    (hput : store'.namespaces = store.namespaces.insert name ns') : store.ChangesTo store' := by
  intro other
  rw [hput, Table.find?_insert]
  by_cases hother : other = name
  · rw [if_pos hother, hother, hfound]
    exact .some hchanges
  · rw [if_neg hother]
    exact ChangesTo.of_same rfl other

theorem ChangesTo.found (h : store.ChangesTo store') (hfound : store.namespaces.find? name = some ns) :
    ∃ ns', store'.namespaces.find? name = some ns' ∧ ns.Changes ns' := by
  have hname := h name
  rw [hfound] at hname
  cases hfound' : store'.namespaces.find? name with
  | none => rw [hfound'] at hname; cases hname
  | some ns' =>
    rw [hfound'] at hname
    cases hname with
    | some hchanges => exact ⟨ns', rfl, hchanges⟩

theorem ChangesTo.all {P : Namespace → Prop} (h : store.ChangesTo store') (hP : Namespace.Invariant P)
    (hall : store.All P) : store'.All P := by
  intro name ns' hfound
  have hname := h name
  rw [hfound] at hname
  -- A namespace that is there now has been there before.
  cases hbefore : store.namespaces.find? name with
  | none => rw [hbefore] at hname; cases hname
  | some ns =>
    rw [hbefore] at hname
    cases hname with
    | some hchanges => exact hP.changed hchanges (hall name ns hbefore)

theorem changesTo_update {change : Namespace → Namespace} (hchange : ∀ ns : Namespace, ns.Changes (change ns)) :
    store.ChangesTo (store.update name change) := by
  unfold update
  cases hfound : store.namespaces.find? name with
  | none => exact .of_same rfl
  | some ns => exact .of_insert hfound (hchange ns) rfl

end Store

/-! ## Incidents -/

/-- What can happen to a store beside a session. -/
inductive Incident where
  | set (name : String) (key value : Bytes)
  | delete (name : String) (key : Bytes)
  | rollover (name : String)
  | inject (command : Command) (fault : Fault)
  | refuse (count : Nat)

/-- The incident is an order to misbehave, and no write. -/
def Incident.isOrder : Incident → Bool
  | .inject _ _ | .refuse _ => true
  | .set _ _ _ | .delete _ _ | .rollover _ => false

/-- The store after an incident. -/
def Store.suffer (store : Store) : Incident → Store
  | .set name key value => store.set name key value
  | .delete name key => store.delete name key
  | .rollover name => store.rollover name
  | .inject command fault => store.inject command fault
  | .refuse count => store.refuseReconnects count

namespace Store

variable {store : Store} {space : String} {ns : Namespace}

/-- **An incident changes a namespace at most.** -/
theorem changesTo_suffer (store : Store) (incident : Incident) : store.ChangesTo (store.suffer incident) := by
  -- A set and a deletion are one write each. The marker that it uses up is in no namespace.
  have hwrite (name : String) (key : Bytes) (value : Option Bytes) : store.ChangesTo (store.write name key value) := by
    show ({ store with markers := store.markers + 1 } : Store).ChangesTo _
    exact changesTo_update fun ns => .extended (.append_one ns _)
  cases incident with
  | set name key value => exact hwrite name key (some value)
  | delete name key => exact hwrite name key none
  | rollover name => exact changesTo_update fun ns => .extended .jump
  | inject command fault => exact .of_same rfl
  | refuse count => exact .of_same rfl

/-- An order to misbehave changes no namespace. -/
theorem namespaces_suffer {incident : Incident} (h : incident.isOrder = true) :
    (store.suffer incident).namespaces = store.namespaces := by
  cases incident with
  | inject command fault => rfl
  | refuse count => rfl
  | set _ _ _ | delete _ _ | rollover _ => cases h

/-- A namespace survives an incident, its log grows at most, and an order leaves it as it is. -/
theorem find?_suffer (incident : Incident) (h : store.namespaces.find? space = some ns) :
    ∃ ns', (store.suffer incident).namespaces.find? space = some ns' ∧ LogPrefix ns.segments ns'.segments ∧
      (incident.isOrder = true → ns' = ns) := by
  obtain ⟨ns', hfound, hchanges⟩ := (changesTo_suffer store incident).found h
  refine ⟨ns', hfound, hchanges.logPrefix, fun horder => ?_⟩
  rw [namespaces_suffer horder, h] at hfound
  exact (Option.some.inj hfound).symm

/-! ## Many incidents -/

theorem find?_foldl_suffer (incidents : List Incident) {store : Store} {ns : Namespace}
    (h : store.namespaces.find? space = some ns) :
    ∃ ns', (incidents.foldl suffer store).namespaces.find? space = some ns' ∧
      LogPrefix ns.segments ns'.segments ∧
      ((∀ incident ∈ incidents, incident.isOrder = true) → ns' = ns) := by
  -- Induction on the incidents: each one meets the namespace that those before it have left.
  induction incidents generalizing store ns with
  | nil => exact ⟨ns, h, LogPrefix.refl _, fun _ => rfl⟩
  | cons incident rest ih =>
    obtain ⟨ns₁, hfound, hgrows, horder⟩ := find?_suffer incident h
    obtain ⟨ns₂, hfound₂, hgrows₂, horder₂⟩ := ih hfound
    refine ⟨ns₂, hfound₂, hgrows.trans hgrows₂, fun hall => ?_⟩
    rw [horder₂ fun i hi => hall i (List.mem_cons_of_mem _ hi), horder (hall _ (List.mem_cons_self ..))]

/-- Orders to misbehave change no namespace. -/
theorem namespaces_foldl_suffer (incidents : List Incident) (store : Store)
    (h : ∀ incident ∈ incidents, incident.isOrder = true) :
    (incidents.foldl suffer store).namespaces = store.namespaces := by
  induction incidents generalizing store with
  | nil => rfl
  | cons incident rest ih =>
    have hrest := ih (store.suffer incident) fun i hi => h i (List.mem_cons_of_mem _ hi)
    exact hrest.trans (namespaces_suffer (h incident List.mem_cons_self))

end Store

end SegmentSync
