import SegmentSync.Proofs.Store.Edits
import SegmentSync.Proofs.Store.Incidents

/-!
# `SegmentSync.Proofs.Store.Site` — a store with all of its connections

A store is written to by those who run it and serves any number of connections, one operation after another. A site is
the store with these connections, and a run of it is a list of operations in the order in which the store gets to them.

## Contents
- **Sites.** `Site`, `Site.Operation`, and what an operation makes of a site (`Site.perform`, `Site.run`).
- **One operation.** Unless it creates a namespace, it changes the namespaces as a request or an incident does.
- **Runs.** A namespace that is not created anew survives a run, and its log grows at most.
- **Invariants.** What holds of a new namespace and outlives a change holds of every namespace after every run
  (`Site.all_run`).
-/

namespace SegmentSync

/-- A request changes a namespace at most. -/
theorem Serve.Executed.changesTo {request : Request} {s s' : Serving} {r : Except ProtocolError Reply}
    (h : Executed request s r s') : s.store.ChangesTo s'.store := by
  cases h.edits with
  | kept hkept _ => exact .of_same hkept
  | flagged _ hfound hput => exact .of_insert hfound (.flagged _) hput
  | logged _ hshows hextends hput => exact .of_insert hshows.found (.extended hextends) hput

/-! ## Sites -/

/-- A store with the connections to it, the first one first. -/
structure Site where
  store : Store
  connections : List Connection := []

namespace Site

/-- What can happen at a site. -/
inductive Operation where
  | create (name : String) (password : Option String)
  | befall (incident : Incident)
  | clearLog
  | connect
  /-- A request comes over the connection of that number. -/
  | request (index : Nat) (request : Request)
  | reopen (index : Nat)

/-- A site where nothing has happened. -/
def fresh (admin : Option String) : Site := { store := { admin } }

/-- The operation puts a new namespace in the place of the one of that name. -/
def Operation.Creates (name : String) (operation : Operation) : Prop := ∃ password, operation = .create name password

/-- The site after a part of the service over the connection of that number, if there is one. -/
def serve {α : Type} (site : Site) (index : Nat) (x : Serve α) : Site :=
  match site.connections[index]? with
  | none => site
  | some connection =>
    let s := (x.on ⟨site.store, connection⟩).2
    { store := s.store, connections := site.connections.set index s.connection }

/-- The site after an operation. -/
def perform (site : Site) : Operation → Site
  | .create name password => { site with store := site.store.createNamespace name password }
  | .befall incident => { site with store := site.store.suffer incident }
  | .clearLog => { site with store := { site.store with log := [] } }
  | .connect => { site with connections := site.connections ++ [{}] }
  | .request index request => site.serve index (Serve.execute request)
  | .reopen index => site.serve index Serve.reopen

/-- The site after some operations. -/
def run (site : Site) (operations : List Operation) : Site := operations.foldl perform site

variable {site : Site} {name : String} {ns : Namespace} {operation : Operation} {operations : List Operation}

/-! ## One operation -/

/-- What a part of the service does to the namespaces over every connection, it does at a site. -/
theorem serve_store {α : Type} {x : Serve α} {P : Store → Prop} (hnone : P site.store)
    (hserved : ∀ connection, P (x.on ⟨site.store, connection⟩).2.store) (index : Nat) :
    P (site.serve index x).store := by
  unfold serve
  cases site.connections[index]? with
  | none => exact hnone
  | some connection => exact hserved connection

/-- **An operation that creates no namespace changes each of them once at most.** -/
theorem changesTo_perform (hcreates : ∀ name, ¬ operation.Creates name) :
    site.store.ChangesTo (site.perform operation).store := by
  have hsame : site.store.ChangesTo site.store := .of_same rfl
  cases operation with
  | create name password => exact absurd ⟨password, rfl⟩ (hcreates name)
  | befall incident => exact Store.changesTo_suffer site.store incident
  | clearLog | connect => exact hsame
  | request index request =>
    exact serve_store hsame (fun connection => (Serve.executed request ⟨site.store, connection⟩).changesTo) index
  | reopen index => exact serve_store hsame (fun _ => .of_same (Serve.on_reopen_state _).1) index

/-- **A namespace that is not created anew survives an operation**, and is changed once at most. -/
theorem find?_perform (hkeeps : ¬ operation.Creates name) (hfound : site.store.namespaces.find? name = some ns) :
    ∃ ns', (site.perform operation).store.namespaces.find? name = some ns' ∧ ns.Changes ns' := by
  by_cases hcreates : ∃ other, operation.Creates other
  · obtain ⟨other, password, rfl⟩ := hcreates
    have hne : name ≠ other := fun heq => hkeeps ⟨password, heq ▸ rfl⟩
    refine ⟨ns, ?_, .kept⟩
    show (site.store.namespaces.insert other _).find? name = some ns
    rw [Table.find?_insert, if_neg hne, hfound]
  · exact (changesTo_perform (not_exists.mp hcreates)).found hfound

/-! ## Runs -/

/-- **A namespace that is not created anew survives a run**, and what was in its log stays there. -/
theorem find?_run (hkeeps : ∀ operation ∈ operations, ¬ operation.Creates name)
    (hfound : site.store.namespaces.find? name = some ns) :
    ∃ ns', (site.run operations).store.namespaces.find? name = some ns' ∧ LogPrefix ns.segments ns'.segments := by
  -- Induction on the operations: each one meets the site that those before it have left.
  induction operations generalizing site ns with
  | nil => exact ⟨ns, hfound, LogPrefix.refl _⟩
  | cons operation rest ih =>
    obtain ⟨ns₁, hfound₁, hchanges⟩ := find?_perform (hkeeps operation List.mem_cons_self) hfound
    obtain ⟨ns₂, hfound₂, hgrows⟩ := ih (fun later hlater => hkeeps later (List.mem_cons_of_mem _ hlater)) hfound₁
    exact ⟨ns₂, hfound₂, hchanges.logPrefix.trans hgrows⟩

/-! ## Invariants -/

variable {P : Namespace → Prop}

theorem all_perform (hP : Namespace.Invariant P) (hall : site.store.All P) (operation : Operation) :
    (site.perform operation).store.All P := by
  intro name ns hfound
  by_cases hcreates : ∃ other, operation.Creates other
  · obtain ⟨other, password, rfl⟩ := hcreates
    replace hfound : (site.store.namespaces.insert other { password }).find? name = some ns := hfound
    rw [Table.find?_insert] at hfound
    by_cases hname : name = other
    · rw [if_pos hname, Option.some.injEq] at hfound
      exact hfound ▸ hP.created password
    · rw [if_neg hname] at hfound
      exact hall name ns hfound
  · exact (changesTo_perform (not_exists.mp hcreates)).all hP hall name ns hfound

/-- **An invariant of namespaces holds of all of them after every run.** -/
theorem all_run (hP : Namespace.Invariant P) (hall : site.store.All P) (operations : List Operation) :
    (site.run operations).store.All P := by
  induction operations generalizing site with
  | nil => exact hall
  | cons operation rest ih => exact ih (all_perform hP hall operation)

theorem all_fresh (admin : Option String) : (fresh admin).store.All P := nofun

end Site

end SegmentSync
