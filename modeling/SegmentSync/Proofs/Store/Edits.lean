import SegmentSync.Proofs.Store.Commands
import SegmentSync.Proofs.Store.Log

/-!
# `SegmentSync.Proofs.Store.Edits` — all that a request can change

Whatever a store is like, and whatever a connection has gone through: a request changes one namespace at most, and in
one of two ways. It sets the flag of the namespace that it names, or it changes the log of the one that the connection
has selected. So it is enough to know what is named and what is selected to know what stays as it is.

## Contents
- **Idle parts.** `Serve.Idle`: parts of the service that only look at things.
- **Edits.** `Serve.Edits` is what a request does to the namespaces, `Serve.Executed` with what it does to the
  connection; one lemma for each command, and `Serve.executed` for all of them.
- **What stays.** Namespaces that are neither named nor selected, and all flags but the one that is set.
- **Failures.** `Serve.failure_changes_no_namespace`: what fails has changed nothing.
-/

namespace SegmentSync

/-- What the request sets the flag of that namespace to, if anything. -/
def Request.setsFlag? (name : String) (request : Request) : Option Bool :=
  if request.command = .nsSet ∧ Serve.textArgument request.arguments 0 = name then
    some (request.arguments[2]?.map Utf8.decodeLossy = some "1")
  else none

theorem Request.setsFlag?_of_ne {name : String} {request : Request} (h : request.command ≠ .nsSet) :
    request.setsFlag? name = none :=
  if_neg fun hset => h hset.1

theorem Request.setsFlag?_nsFreeze (name : String) (enabled : Bool) :
    (nsFreeze name enabled).setsFlag? name = some enabled := by
  unfold setsFlag?
  rw [if_pos ⟨rfl, Serve.textArgument_encode name _⟩, Serve.flagArgument_nsFreeze]

namespace Serve

variable {α β : Type} {request : Request} {s s' : Serving} {r : Except ProtocolError Reply}

/-! ## Idle parts -/

/-- A part of the service that changes nothing. -/
def Idle (x : Serve α) : Prop := ∀ s, (x.on s).2 = s

theorem idle_pure (a : α) : Idle (pure a) := fun _ => rfl

theorem idle_throw (failure : ProtocolError) : Idle (throw failure : Serve α) := fun _ => rfl

theorem Idle.bind {x : Serve α} {f : α → Serve β} (hx : Idle x) (hf : ∀ a, Idle (f a)) : Idle (x >>= f) := by
  intro s
  have hsame := hx s
  rw [on_bind]
  rcases hcase : x.on s with ⟨_ | a, s'⟩
  · rw [hcase] at hsame
    exact hsame
  · rw [hcase] at hsame
    exact (hf a s').trans hsame

theorem idle_cursorArgument (arguments : List Bytes) : Idle (cursorArgument arguments) := by
  intro s
  rcases on_cursorArgument_or arguments s with ⟨at_, h⟩ | ⟨reason, h⟩ <;> rw [h]

/-- A namespace is found or not. -/
theorem on_namespaceOf_or (name : String) (s : Serving) :
    (∃ ns, s.store.namespaces.find? name = some ns ∧ (namespaceOf name).on s = (.ok ns, s)) ∨
      ∃ reason, (namespaceOf name).on s = (.error (.server reason), s) := by
  cases hfound : s.store.namespaces.find? name with
  | some ns => exact .inl ⟨ns, rfl, on_namespaceOf hfound⟩
  | none =>
    refine .inr ⟨"Namespace not found", ?_⟩
    unfold namespaceOf
    simp only [on_bind, on_get, hfound, on_refuse]

theorem idle_namespaceOf (name : String) : Idle (namespaceOf name) := by
  intro s
  rcases on_namespaceOf_or name s with ⟨ns, -, h⟩ | ⟨reason, h⟩ <;> rw [h]

/-- A namespace is selected or not. -/
theorem on_selectedNamespace_or (s : Serving) :
    (∃ name ns, s.Shows name ns ∧ selectedNamespace.on s = (.ok (name, ns), s)) ∨
      ∃ reason, selectedNamespace.on s = (.error (.server reason), s) := by
  unfold selectedNamespace
  simp only [on_bind, on_get]
  cases hselected : s.connection.selected with
  | none => exact .inr ⟨_, rfl⟩
  | some name =>
    rcases on_namespaceOf_or name s with ⟨ns, hfound, h⟩ | ⟨reason, h⟩
    · simp only [on_bind, h]
      exact .inl ⟨name, ns, ⟨hfound, hselected⟩, rfl⟩
    · simp only [on_bind, h]
      exact .inr ⟨reason, rfl⟩

theorem idle_selectedNamespace : Idle selectedNamespace := by
  intro s
  rcases on_selectedNamespace_or s with ⟨name, ns, -, h⟩ | ⟨reason, h⟩ <;> rw [h]

theorem idle_liftExcept (x : Except ProtocolError α) : Idle (liftM x : Serve α) := by
  intro s
  rw [on_liftExcept]

/-! ## Edits -/

/-- What a request does to the namespaces of a store, by what came of it: nothing, or it changes one of them. -/
inductive Edits (request : Request) (s : Serving) : Except ProtocolError Reply → Serving → Prop where
  | kept {r : Except ProtocolError Reply} {s' : Serving} (hkept : s'.store.namespaces = s.store.namespaces)
      (hrefused : request.command = .nsSet → Refused r) : Edits request s r s'
  /-- The flag of the namespace that is named has been set. -/
  | flagged {s' : Serving} {ns : Namespace} (hcommand : request.command = .nsSet)
      (hfound : s.store.namespaces.find? (textArgument request.arguments 0) = some ns)
      (hput : s'.store.namespaces = s.store.namespaces.insert (textArgument request.arguments 0)
        { ns with frozen := request.arguments[2]?.map Utf8.decodeLossy = some "1" }) :
      Edits request s (.ok .okay) s'
  /-- The log of the selected namespace has been added to, which never ends in a failure. -/
  | logged {reply : Reply} {s' : Serving} {name : String} {ns ns' : Namespace}
      (hcommand : request.command.changesLog = true) (hshows : s.Shows name ns) (hextends : ns.Extends ns')
      (hput : s'.store.namespaces = s.store.namespaces.insert name ns') : Edits request s (.ok reply) s'

/-- What a request does to the namespaces of a store and to what its connection has selected. -/
structure Executed (request : Request) (s : Serving) (r : Except ProtocolError Reply) (s' : Serving) : Prop where
  edits : Edits request s r s'
  selected : s'.connection.selected = s.connection.selected ∨
    request.command = .select ∧ s'.connection.selected = some (textArgument request.arguments 0)

theorem Executed.of_quiet {x : Serve Reply} (h : Quiet x) (hcommand : request.command ≠ .nsSet) (s : Serving) :
    Executed request s (x.on s).1 (x.on s).2 where
  edits := .kept (h s).1 fun hset => absurd hset hcommand
  selected := .inl (h s).2

theorem Idle.quiet {x : Serve α} (h : Idle x) : Quiet x := by
  intro s
  rw [h s]
  exact ⟨rfl, rfl⟩

/-- What is refused has used up a marker at most. -/
theorem Executed.refused (reason : String) (hspaces : s'.store.namespaces = s.store.namespaces)
    (hconnection : s'.connection = s.connection) : Executed request s (.error (.server reason)) s' :=
  ⟨.kept hspaces fun _ => refused_server reason, .inl (congrArg Connection.selected hconnection)⟩

/-- The log of the selected namespace has been added to. -/
theorem Executed.extended {reply : Reply} {name : String} {ns ns' : Namespace} (hextends : ns.Extends ns')
    (hcommand : request.command.changesLog = true) (hshows : s.Shows name ns)
    (hput : s'.store.namespaces = s.store.namespaces.insert name ns') (hconnection : s'.connection = s.connection) :
    Executed request s (.ok reply) s' :=
  ⟨.logged hcommand hshows hextends hput, .inl (congrArg Connection.selected hconnection)⟩

/-! ### Commands -/

theorem executed_serveFreeze (hcommand : request.command = .nsSet) (s : Serving) :
    Executed request s ((serveFreeze request.arguments).on s).1 ((serveFreeze request.arguments).on s).2 := by
  unfold serveFreeze
  rcases on_namespaceOf_or (textArgument request.arguments 0) s with ⟨ns, hfound, h⟩ | ⟨reason, h⟩
  · simp only [on_bind, h, on_putNamespace, on_pure]
    exact ⟨.flagged hcommand hfound rfl, .inl rfl⟩
  · simp only [on_bind, h]
    exact .refused reason rfl rfl

theorem executed_serveJump (hcommand : request.command.changesLog = true) (s : Serving) :
    Executed request s (serveJump.on s).1 (serveJump.on s).2 := by
  unfold serveJump
  rcases on_selectedNamespace_or s with ⟨name, ns, hshows, h⟩ | ⟨reason, h⟩
  · simp only [on_bind, h, on_putNamespace, on_pure]
    exact .extended .jump hcommand hshows rfl rfl
  · simp only [on_bind, h]
    exact .refused reason rfl rfl

theorem executed_serveImport (hcommand : request.command.changesLog = true) (arguments : List Bytes) (s : Serving) :
    Executed request s ((serveImport arguments).on s).1 ((serveImport arguments).on s).2 := by
  unfold serveImport
  rcases on_cursorArgument_or arguments s with ⟨at_, hcursor⟩ | ⟨reason, hcursor⟩
  case inr =>
    simp only [on_bind, hcursor]
    exact .refused reason rfl rfl
  rcases on_selectedNamespace_or s with ⟨name, ns, hshows, h⟩ | ⟨reason, h⟩
  case inr =>
    simp only [on_bind, hcursor, h]
    exact .refused reason rfl rfl
  simp only [on_bind, hcursor, h]
  split
  · exact .refused _ rfl rfl
  · cases Blob.read? (bytesArgument arguments 2) with
    | none => exact .refused _ rfl rfl
    | some entries => exact .extended (.append entries) hcommand hshows rfl rfl

theorem executed_serveSet (hcommand : request.command.changesLog = true) (arguments : List Bytes)
    (fault : Option Fault) (s : Serving) :
    Executed request s ((serveSet arguments fault).on s).1 ((serveSet arguments fault).on s).2 := by
  unfold serveSet
  rcases on_selectedNamespace_or s.marked with ⟨name, ns, hshows, h⟩ | ⟨reason, h⟩
  case inr =>
    simp only [on_bind, on_nextMarker, h]
    exact .refused reason rfl rfl
  have hshows' : s.Shows name ns := ⟨hshows.found, hshows.selected⟩
  simp only [on_bind, on_nextMarker, h]
  split
  · exact .refused _ rfl rfl
  · -- However the set is acknowledged, it has been done.
    match fault with
    | none | some .disconnect | some (.wrongEcho _) | some .nilEcho | some (.reject _) =>
      exact .extended (.append_one ns _) hcommand hshows' rfl rfl

theorem executed_serveDelete (hcommand : request.command.changesLog = true) (arguments : List Bytes) (s : Serving) :
    Executed request s ((serveDelete arguments).on s).1 ((serveDelete arguments).on s).2 := by
  unfold serveDelete
  rcases on_selectedNamespace_or s.marked with ⟨name, ns, hshows, h⟩ | ⟨reason, h⟩
  case inr =>
    simp only [on_bind, on_nextMarker, h]
    exact .refused reason rfl rfl
  have hshows' : s.Shows name ns := ⟨hshows.found, hshows.selected⟩
  simp only [on_bind, on_nextMarker, h]
  split
  · exact .refused _ rfl rfl
  · split
    · exact .refused _ rfl rfl
    · exact .extended (.append_one ns _) hcommand hshows' rfl rfl

theorem idle_serveInfo (arguments : List Bytes) : Idle (serveInfo arguments) :=
  (idle_namespaceOf _).bind fun _ => idle_pure _

/-- Looking up the entries from a cursor on, and answering with them. -/
theorem idle_entriesFrom {f : Position → List Entry → Serve Reply} (arguments : List Bytes)
    (hf : ∀ at_ entries, Idle (f at_ entries)) :
    Idle (do
      let at_ ← cursorArgument arguments
      let (_, ns) ← selectedNamespace
      f at_ (← ns.entriesFrom? at_)) :=
  (idle_cursorArgument arguments).bind fun at_ =>
    idle_selectedNamespace.bind fun _ => (idle_liftExcept _).bind (hf at_)

theorem idle_serveExport (arguments : List Bytes) : Idle (serveExport arguments) := by
  refine idle_entriesFrom arguments fun _ entries => ?_
  cases entries with
  | nil => exact idle_throw _
  | cons entry rest => exact idle_pure _

theorem idle_serveRecord (arguments : List Bytes) : Idle (serveRecord arguments) := by
  refine idle_entriesFrom arguments fun _ entries => ?_
  cases entries with
  | nil => exact idle_throw _
  | cons entry rest => exact idle_pure _

theorem executed_dispatch (request : Request) (fault : Option Fault) (s : Serving) :
    Executed request s ((dispatch request fault).on s).1 ((dispatch request fault).on s).2 := by
  unfold dispatch
  cases hcommand : request.command with
  | authChallenge => exact .of_quiet quiet_serveChallenge (hcommand ▸ nofun) s
  | authSecure => exact .of_quiet (quiet_serveLogin _) (hcommand ▸ nofun) s
  | select =>
    obtain ⟨hspaces, hselected⟩ := serveSelect_state request.arguments s
    exact ⟨.kept hspaces fun hset => absurd (hcommand.symm.trans hset) nofun,
      hselected.imp_right fun h => ⟨hcommand, h⟩⟩
  | nsInfo => exact .of_quiet (idle_serveInfo _).quiet (hcommand ▸ nofun) s
  | dataExport => exact .of_quiet (idle_serveExport _).quiet (hcommand ▸ nofun) s
  | dataRaw => exact .of_quiet (idle_serveRecord _).quiet (hcommand ▸ nofun) s
  | nsSet => exact executed_serveFreeze hcommand s
  | nsJump => exact executed_serveJump (hcommand ▸ rfl) s
  | dataImport => exact executed_serveImport (hcommand ▸ rfl) _ s
  | set => exact executed_serveSet (hcommand ▸ rfl) _ fault s
  | del => exact executed_serveDelete (hcommand ▸ rfl) _ s

/-- What is done is the same where the namespaces and the connection are. -/
theorem Executed.of_same {s₀ : Serving} (h : Executed request s r s')
    (hspaces : s.store.namespaces = s₀.store.namespaces) (hconnection : s.connection = s₀.connection) :
    Executed request s₀ r s' where
  edits := by
    cases h.edits with
    | kept hkept hrefused => exact .kept (hkept.trans hspaces) hrefused
    | flagged hcommand hfound hput =>
      rw [hspaces] at hfound hput
      exact .flagged hcommand hfound hput
    | logged hcommand hshows hextends hput =>
      rw [hspaces] at hput
      exact .logged hcommand ⟨hspaces ▸ hshows.found, hconnection ▸ hshows.selected⟩ hextends hput
  selected := hconnection ▸ h.selected

/-- **A request changes one namespace at most**: the one that it names, or the one that is selected. -/
theorem executed (request : Request) (s : Serving) :
    Executed request s ((execute request).on s).1 ((execute request).on s).2 := by
  rcases execute_cases request s with ⟨r, s', h, hrefused, hspaces, hselected⟩ | ⟨fault, s', h, hspaces, hconnection⟩
  · rw [h]
    exact ⟨.kept hspaces fun _ => hrefused, .inl hselected⟩
  · rw [h]
    exact (executed_dispatch request fault s').of_same hspaces hconnection

/-- A fresh connection has selected nothing, and the namespaces are as they were. -/
theorem on_reopen_state (s : Serving) :
    (reopen.on s).2.store.namespaces = s.store.namespaces ∧
      ((reopen.on s).2.connection.selected = none ∨
        (reopen.on s).2.connection.selected = s.connection.selected) := by
  unfold reopen
  simp only [on_bind, on_get]
  cases s.store.refused with
  | zero => exact ⟨rfl, .inl rfl⟩
  | succ refused => exact ⟨rfl, .inr rfl⟩

/-! ## What stays -/

namespace Executed

/-- Reading and logging in change no namespace. -/
theorem namespaces_eq (h : Executed request s r s') (hset : request.command ≠ .nsSet)
    (hlog : request.command.changesLog = false) : s'.store.namespaces = s.store.namespaces := by
  cases h.edits with
  | kept hkept _ => exact hkept
  | flagged hcommand _ _ => exact absurd hcommand hset
  | logged hcommand _ _ _ => exact absurd (hcommand.symm.trans hlog) nofun

/-- **A namespace that is neither named nor selected stays as it is.** -/
theorem find?_of_ne (h : Executed request s r s') {other : String}
    (hnamed : request.command = .nsSet → textArgument request.arguments 0 ≠ other)
    (hselected : s.connection.selected ≠ some other) :
    s'.store.namespaces.find? other = s.store.namespaces.find? other := by
  cases h.edits with
  | kept hkept _ => rw [hkept]
  | flagged hcommand _ hput =>
    have hne : other ≠ textArgument request.arguments 0 := Ne.symm (hnamed hcommand)
    rw [hput, Table.find?_insert, if_neg hne]
  | @logged _ _ name _ _ _ hshows _ hput =>
    have hne : other ≠ name := fun heq => hselected (heq ▸ hshows.selected)
    rw [hput, Table.find?_insert, if_neg hne]

/-- The command for the flag sets it and says so, or is refused. -/
theorem granted (h : Executed request s r s') (hset : request.command = .nsSet) : r = .ok .okay ∨ Refused r := by
  cases h.edits with
  | kept _ hrefused => exact .inr (hrefused hset)
  | flagged _ _ _ => exact .inl rfl
  | logged hcommand _ _ _ => rw [hset] at hcommand; cases hcommand

/-- **No flag changes but by the command for it**, where that is granted. -/
theorem isFrozen_eq (h : Executed request s r s') (name : String) :
    s'.store.isFrozen name =
      if r.isOk then (request.setsFlag? name).getD (s.store.isFrozen name) else s.store.isFrozen name := by
  cases h.edits with
  | kept hkept hrefused =>
    have hsame : s'.store.isFrozen name = s.store.isFrozen name := by
      unfold Store.isFrozen
      rw [hkept]
    cases r with
    | error failure => exact hsame
    | ok reply =>
      have hne : request.command ≠ .nsSet := fun hset => by
        obtain ⟨failure, hfailure, -⟩ := hrefused hset
        cases hfailure
      rw [Request.setsFlag?_of_ne hne]
      exact hsame
  | @flagged _ ns hcommand hfound hput =>
    show s'.store.isFrozen name = (request.setsFlag? name).getD (s.store.isFrozen name)
    unfold Store.isFrozen Request.setsFlag?
    rw [hput, Table.find?_insert]
    by_cases hname : textArgument request.arguments 0 = name
    · rw [if_pos hname.symm, if_pos ⟨hcommand, hname⟩]
      rfl
    · rw [if_neg (Ne.symm hname), if_neg fun h => hname h.2]
      rfl
  | @logged _ _ selected ns ns' hcommand hshows hextends hput =>
    have hne : request.command ≠ .nsSet := by
      intro hset
      rw [hset] at hcommand
      cases hcommand
    have hsame : s'.store.isFrozen name = s.store.isFrozen name := by
      unfold Store.isFrozen
      rw [hput, Table.find?_insert]
      by_cases heq : name = selected
      · rw [if_pos heq, heq, hshows.found, Option.any_some, Option.any_some, hextends.frozen_eq]
      · rw [if_neg heq]
    rw [Request.setsFlag?_of_ne hne, hsame]
    rfl

end Executed

/-! ## Failures -/

/-- **A request that fails has changed no namespace.** So it is on every connection to every store, for every command
    with any arguments, and under every fault that has been ordered. Markers, faults and the challenge of the connection
    may have been used up by then, but these are in no namespace. -/
theorem failure_changes_no_namespace {failure : ProtocolError} (h : ((execute request).on s).1 = .error failure) :
    ((execute request).on s).2.store.namespaces = s.store.namespaces := by
  have hedits := (executed request s).edits
  rw [h] at hedits
  -- Setting a flag and adding to a log end in a reply, so that neither has been done.
  cases hedits with
  | kept hkept _ => exact hkept

/-- A blob that goes wrong behind its first record. -/
def brokenBlob : Bytes := (Blob.write [⟨[97], some [49], 1⟩]).dropLast ++ Utf8.encode ",7]"

/-- Not even the first record of such a blob is imported. -/
theorem failure_changes_no_namespace_of_broken_blob :
    let s : Serving := ⟨{ namespaces := Table.empty.insert "data" {} }, { selected := some "data" }⟩
    let served := (execute (.dataImport .zero brokenBlob)).on s
    served.1 = .error (.server "Invalid payload: not a list of entries") ∧
      served.2.store.namespaces = s.store.namespaces := by
  intro s served
  have hcalm : s.Calm := ⟨rfl, rfl, nofun⟩
  have hshows : (s.logged .dataImport).Shows "data" {} := ⟨rfl, rfl⟩
  have hposition : ({} : Namespace).position = .zero := by decide
  have hread : Blob.read? brokenBlob = none := by decide +kernel
  have hserved : served.1 = .error (.server "Invalid payload: not a list of entries") := by
    have himport := on_serveImport hshows .zero brokenBlob
    rw [hread, if_pos hposition] at himport
    exact congrArg Prod.fst ((execute_of_calm hcalm (.dataImport .zero brokenBlob)).trans himport)
  exact ⟨hserved, failure_changes_no_namespace hserved⟩

end Serve

end SegmentSync
