import SegmentSync.Proofs.Store.Commands
import SegmentSync.Proofs.Store.Log

/-!
# `SegmentSync.Proofs.Store.Outcome` — what a request can do, whatever the connection is like

The equations of `Proofs.Store.Commands` hold on a connection that has the namespace selected. A session whose
connections break cannot rely on that. `Serve.Does` is the weaker statement that always holds: a request is
turned away and changes nothing in the namespace, or it does what it is for. One lemma for each request that a
session sends.
-/

namespace SegmentSync

/-- The store has this namespace under that name, and the connection has selected no other. -/
structure Serving.Holds (s : Serving) (name : String) (ns : Namespace) : Prop where
  found : s.store.namespaces.find? name = some ns
  selected : s.connection.selected = none ∨ s.connection.selected = some name

theorem Serving.Shows.holds {s : Serving} {name : String} {ns : Namespace} (h : s.Shows name ns) :
    s.Holds name ns :=
  ⟨h.found, Or.inr h.selected⟩

theorem Serving.Holds.segments {s : Serving} {name : String} {ns : Namespace} (h : s.Holds name ns) :
    s.store.segments name = ns.segments :=
  Store.segments_of_found h.found

namespace Serve

variable {α : Type} {name : String}

/-- From one state of the store and the connection, a part of the service either turns the client away, and
    leaves the namespace as it is, or it does as `P` says of the namespace before, of the answer, and of the
    namespace after. -/
def DoesFrom (x : Serve α) (name : String) (P : Namespace → Except ProtocolError α → Namespace → Prop)
    (s : Serving) (ns : Namespace) : Prop :=
  ∃ r s' ns', x.on s = (r, s') ∧ s'.Holds name ns' ∧ ((Refused r ∧ ns' = ns) ∨ P ns r ns')

/-- The same from every state in which the store has the namespace. -/
def Does (x : Serve α) (name : String) (P : Namespace → Except ProtocolError α → Namespace → Prop) : Prop :=
  ∀ s ns, s.Holds name ns → DoesFrom x name P s ns

/-- A request does what its command does. -/
theorem does_execute {request : Request} {P : Namespace → Except ProtocolError Reply → Namespace → Prop}
    (h : ∀ fault, Does (dispatch request fault) name P) : Does (execute request) name P := by
  intro s ns hs
  rcases execute_cases request s with ⟨r, s', heq, hr, hns, hsel⟩ | ⟨fault, s', heq, hns, hconn⟩
  · exact ⟨r, s', ns, heq, ⟨hns ▸ hs.found, hsel ▸ hs.selected⟩, Or.inl ⟨hr, rfl⟩⟩
  · obtain ⟨r, s'', ns', hdoes, hs'', hr⟩ := h fault s' ns ⟨hns ▸ hs.found, hconn ▸ hs.selected⟩
    exact ⟨r, s'', ns', heq.trans hdoes, hs'', hr⟩

/-- A command that works on the selected namespace does what it does where that one is selected. -/
theorem does_of_selected {request : Request} {fault : Option Fault}
    {P : Namespace → Except ProtocolError Reply → Namespace → Prop}
    (hneeds : needsSelection request.command = true)
    (h : ∀ s ns, s.Shows name ns → DoesFrom (dispatch request fault) name P s ns) :
    Does (dispatch request fault) name P := by
  intro s ns hs
  rcases hs.selected with hnone | hsome
  · obtain ⟨r, s', heq, hr, hns, hsel⟩ := dispatch_of_unselected hneeds hnone fault
    exact ⟨r, s', ns, heq, ⟨hns ▸ hs.found, Or.inl hsel⟩, Or.inl ⟨hr, rfl⟩⟩
  · exact h s ns ⟨hs.found, hsome⟩

/-! ## Readings -/

theorem does_nsInfo : Does (execute (.nsInfo name)) name fun ns r ns' =>
    r = .ok (.bulk (Utf8.encode (ns.info name))) ∧ ns' = ns :=
  does_execute fun _ _ ns hs => ⟨_, _, ns, on_serveInfo hs.found, hs, Or.inr ⟨rfl, rfl⟩⟩

theorem does_dataRaw (at_ : Position) : Does (execute (.dataRaw at_)) name fun ns r ns' =>
    r = recorded ns at_ ∧ ns' = ns :=
  does_execute fun _ => does_of_selected rfl fun _ ns hs =>
    ⟨_, _, ns, on_serveRecord hs at_, hs.holds, Or.inr ⟨rfl, rfl⟩⟩

theorem does_dataExport (at_ : Position) : Does (execute (.dataExport at_)) name fun ns r ns' =>
    r = exported ns at_ ∧ ns' = ns :=
  does_execute fun _ => does_of_selected rfl fun _ ns hs =>
    ⟨_, _, ns, on_serveExport hs at_, hs.holds, Or.inr ⟨rfl, rfl⟩⟩

/-! ## Changes -/

theorem does_nsFreeze (enabled : Bool) : Does (execute (.nsFreeze name enabled)) name fun ns r ns' =>
    r = .ok .okay ∧ ns' = { ns with frozen := enabled } :=
  does_execute fun _ _ ns hs => ⟨_, _, { ns with frozen := enabled }, on_serveFreeze hs.found enabled,
    ⟨by simp [Serving.put], hs.selected⟩, Or.inr ⟨rfl, rfl⟩⟩

theorem does_nsJump : Does (execute .nsJump) name fun ns r ns' => r = .ok .okay ∧ ns' = ns.jump :=
  does_execute fun _ => does_of_selected rfl fun _ ns hs =>
    ⟨_, _, ns.jump, on_serveJump hs, (hs.put ns.jump).holds, Or.inr ⟨rfl, rfl⟩⟩

theorem does_dataImport (at_ : Position) (entries : List Entry) {blob : Bytes}
    (hblob : Blob.read? blob = some entries) :
    Does (execute (.dataImport at_ blob)) name fun ns r ns' =>
      r = .ok .okay ∧ ns.position = at_ ∧ ns' = entries.foldl Namespace.append ns := by
  refine does_execute fun fault => does_of_selected rfl fun s ns hs => ?_
  have himport := on_serveImport hs at_ blob
  rw [hblob] at himport
  by_cases hat : ns.position = at_
  · rw [if_pos hat] at himport
    exact ⟨_, _, _, himport, (hs.put _).holds, Or.inr ⟨rfl, hat, rfl⟩⟩
  · rw [if_neg hat] at himport
    exact ⟨_, _, ns, himport, hs.holds, Or.inl ⟨refused_server _, rfl⟩⟩

theorem does_set (key value : Bytes) (marker : UInt64) :
    Does (execute (.set key value (Utf8.encodeChars (Decimal.digits marker.toNat)))) name fun ns r ns' =>
      (∃ fault, r = .ok (echo key fault)) ∧ ns' = ns.append ⟨key, some value, marker⟩ := by
  refine does_execute fun fault => does_of_selected rfl fun s ns hs => ?_
  have hset := on_serveSet hs key value marker fault
  cases hf : ns.frozen with
  | true =>
    rw [if_pos hf] at hset
    exact ⟨_, _, ns, hset, hs.marked.holds, Or.inl ⟨refused_server _, rfl⟩⟩
  | false =>
    rw [if_neg (by simp [hf])] at hset
    exact ⟨_, _, _, hset, (hs.marked.put _).holds, Or.inr ⟨⟨fault, rfl⟩, rfl⟩⟩

theorem does_del (key : Bytes) (marker : UInt64) :
    Does (execute (.del key (Utf8.encodeChars (Decimal.digits marker.toNat)))) name fun ns r ns' =>
      r = .ok .okay ∧ ns.keys.contains key = true ∧ ns' = ns.append ⟨key, none, marker⟩ := by
  refine does_execute fun fault => does_of_selected rfl fun s ns hs => ?_
  have hdel := on_serveDelete hs key marker
  cases hf : ns.frozen with
  | true =>
    rw [if_pos hf] at hdel
    exact ⟨_, _, ns, hdel, hs.marked.holds, Or.inl ⟨refused_server _, rfl⟩⟩
  | false =>
    rw [if_neg (by simp [hf])] at hdel
    cases hk : ns.keys.contains key with
    | true =>
      rw [if_pos hk] at hdel
      exact ⟨_, _, _, hdel, (hs.marked.put _).holds, Or.inr ⟨rfl, hk, rfl⟩⟩
    | false =>
      rw [if_neg (by simp [hk])] at hdel
      exact ⟨_, _, ns, hdel, hs.marked.holds, Or.inl ⟨refused_server _, rfl⟩⟩

/-! ## Logins and connections -/

theorem does_of_quiet {x : Serve α} (h : Quiet x) : Does x name fun ns _ ns' => ns' = ns := by
  intro s ns hs
  obtain ⟨hns, hsel⟩ := h s
  exact ⟨_, _, ns, rfl, ⟨hns ▸ hs.found, hsel ▸ hs.selected⟩, Or.inr rfl⟩

theorem does_authChallenge : Does (execute .authChallenge) name fun ns _ ns' => ns' = ns :=
  does_execute fun _ => does_of_quiet quiet_serveChallenge

theorem does_authSecure (digest : String) :
    Does (execute (.authSecure digest)) name fun ns _ ns' => ns' = ns :=
  does_execute fun _ => does_of_quiet (quiet_serveLogin _)

theorem does_select (password : Option String) :
    Does (execute (.select name password)) name fun ns _ ns' => ns' = ns := by
  refine does_execute fun fault s ns hs => ?_
  obtain ⟨hns, hsel⟩ := serveSelect_state (Request.select name password).arguments s
  have hnamed : textArgument (Request.select name password).arguments 0 = name := textArgument_encode name _
  rw [hnamed] at hsel
  have hfound := (congrArg (·.find? name) hns).trans hs.found
  rcases hsel with hsame | hname
  · exact ⟨_, _, ns, rfl, ⟨hfound, hs.selected.imp hsame.trans hsame.trans⟩, Or.inr rfl⟩
  · exact ⟨_, _, ns, rfl, ⟨hfound, Or.inr hname⟩, Or.inr rfl⟩

theorem does_reopen : Does reopen name fun ns _ ns' => ns' = ns := by
  intro s ns hs
  unfold DoesFrom reopen
  simp only [on_bind, on_get]
  cases s.store.refused with
  | zero => exact ⟨_, _, ns, rfl, ⟨hs.found, Or.inl rfl⟩, Or.inr rfl⟩
  | succ n => exact ⟨_, _, ns, rfl, ⟨hs.found, hs.selected⟩, Or.inr rfl⟩

end Serve

end SegmentSync
