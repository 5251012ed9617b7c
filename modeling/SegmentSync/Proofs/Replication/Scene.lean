import SegmentSync.Proofs.Program.Ensures
import SegmentSync.Proofs.Store.Incidents
import SegmentSync.Proofs.Store.Outcome
import SegmentSync.Session.Run

/-!
# `SegmentSync.Proofs.Replication.Scene` — two stores, and everything that can go wrong between them

A scene is a master and a slave in memory, each with the connection of a session's client, and the requests
that were sent. It is what the surroundings of a session remember.

## Contents
- **Scenes.** `Role`, `Exchange`, `Scene`, and what it means that a client is logged in to one end and
  that a session is fresh. There is a fresh session between any two namespaces in order
  (`Session.fresh_between`).
- **Trouble.** `Scene.trouble`: before every effect others write to the master, and both stores are told to
  misbehave; a connection fails before a request is served or after it.
- **Calm.** `Scene.calm`: nothing of that, and no stop signal.
-/

namespace SegmentSync

/-! ## Scenes -/

/-- The ends of a replication. -/
inductive Role where
  | master
  | slave
  deriving DecidableEq, Repr

/-- A request, what came of it, and the stores after it. -/
structure Exchange where
  role : Role
  request : Request
  outcome : Except ProtocolError Reply
  master : Store
  slave : Store

/-- Both stores, each with the connection of a client. -/
structure Scene where
  master : Serving
  slave : Serving
  /-- The latest exchange first. -/
  history : List Exchange := []

namespace Scene

/-- One end of a scene. -/
def serving (w : Scene) : Role → Serving
  | .master => w.master
  | .slave => w.slave

/-- A scene with another state of one end. -/
def put (w : Scene) (role : Role) (s : Serving) : Scene :=
  match role with
  | .master => { w with master := s }
  | .slave => { w with slave := s }

/-- A scene that remembers an exchange. -/
def note (w : Scene) (role : Role) (request : Request) (outcome : Except ProtocolError Reply) : Scene :=
  { w with history := ⟨role, request, outcome, w.master.store, w.slave.store⟩ :: w.history }

/-- The requests that change a log, and the ends they were sent to, in order. -/
def changes (w : Scene) : List (Role × Request) :=
  ((w.history.filter fun exchange => exchange.request.command.changesLog).map fun exchange =>
    (exchange.role, exchange.request)).reverse

/-- The latest export. -/
def lastExport (w : Scene) : Option Exchange :=
  w.history.find? fun exchange => exchange.request.command = .dataExport

end Scene

/-- A client is logged in on the connection to one end, which has its namespace, and has selected it. -/
structure Client.Established (client : Client Role) (role : Role) (s : Serving) (ns : Namespace) : Prop where
  link : client.link = role
  authenticated : client.authenticated = true
  isOpen : s.connection.isOpen = true
  admin : s.store.admin.isSome = true → s.connection.admin = true
  selected : s.connection.selected = some client.target.space
  found : s.store.namespaces.find? client.target.space = some ns

theorem Client.Established.holds {client : Client Role} {role : Role} {s : Serving} {ns : Namespace}
    (h : client.Established role s ns) : s.Holds client.target.space ns :=
  ⟨h.found, Or.inr h.selected⟩

/-- A fresh session of two established clients, whose slave is behind; nothing has been sent yet. -/
structure Session.Fresh (session : Session Role) (w : Scene) (m s : Namespace) : Prop where
  made : make session.name session.strategy session.master session.slave session.options = .ok session
  master : session.master.Established .master w.master m
  slave : session.slave.Established .slave w.slave s
  behind : LogPrefix s.segments m.segments
  history : w.history = []

/-- A scene whose ends have these namespaces. The master demands a login, the slave does not. -/
def Scene.between (m s : Namespace) : Scene where
  master := ⟨{ admin := some "secret", namespaces := Table.empty.insert "data" m },
    { admin := true, selected := some "data" }⟩
  slave := ⟨{ namespaces := Table.empty.insert "data" s }, { selected := some "data" }⟩

/-- A session between the ends of such a scene. -/
def Session.between (strategy : Strategy) : Session Role where
  name := "session"
  space := "data"
  strategy
  master := ⟨.master, ⟨.tcp "master" 9900, "data", some "secret", "master"⟩, true⟩
  slave := ⟨.slave, ⟨.tcp "slave" 9900, "data", none, "slave"⟩, true⟩
  options := {}
  backoff := ({} : Options).retry.backoff

theorem Session.fresh_between (strategy : Strategy) {m s : Namespace} (h : LogPrefix s.segments m.segments) :
    (between strategy).Fresh (.between m s) m s where
  made := rfl
  master := ⟨rfl, rfl, rfl, fun _ => rfl, rfl, rfl⟩
  slave := ⟨rfl, rfl, rfl, nofun, rfl, rfl⟩
  behind := h
  history := rfl

/-! ## Trouble -/

/-- The connection is open or not from now on. -/
def Serving.withOpen (s : Serving) (isOpen : Bool) : Serving :=
  { s with connection := { s.connection with isOpen } }

theorem Serving.Shows.withOpen {s : Serving} {name : String} {ns : Namespace} (h : s.Shows name ns) (isOpen : Bool) :
    (s.withOpen isOpen).Shows name ns := ⟨h.found, h.selected⟩

/-- How something fares that is asked of a store over a connection. -/
inductive Serve.Fares {α : Type} (x : Serve α) (s : Serving) : Except ProtocolError α → Serving → Prop where
  /-- The store does it. -/
  | served : Fares x s (x.on s).1 (x.on s).2
  /-- The connection fails before. -/
  | unsent (reason : String) (isOpen : Bool) : Fares x s (.error (.transport reason)) (s.withOpen isOpen)
  /-- The connection fails after. -/
  | unanswered (reason : String) (isOpen : Bool) :
    Fares x s (.error (.transport reason)) ((x.on s).2.withOpen isOpen)

namespace Scene

/-- A scene after incidents at its stores. -/
def suffer (w : Scene) (onMaster onSlave : List Incident) : Scene :=
  { w with
    master := { w.master with store := onMaster.foldl Store.suffer w.master.store }
    slave := { w.slave with store := onSlave.foldl Store.suffer w.slave.store } }

/-- Before an effect there are incidents: the master is written to within its limits, and the slave is not
    written to by others. -/
def Disturbed (space : String) (limit : Namespace → Prop) (w u : Scene) : Prop :=
  ∃ onMaster onSlave, (∀ incident ∈ onSlave, incident.isOrder = true) ∧ u = w.suffer onMaster onSlave ∧
    ∀ ns, u.master.store.namespaces.find? space = some ns → limit ns

/-- The master has this namespace. -/
def Quiet (space : String) (m : Namespace) (w : Scene) : Prop := w.master.store.namespaces.find? space = some m

/-- There may be no incidents at all. -/
theorem Quiet.disturbed {space : String} {limit : Namespace → Prop} {m : Namespace} {w : Scene}
    (h : w.Quiet space m) (hlimit : limit m) : w.Disturbed space limit w :=
  ⟨[], [], nofun, rfl, fun _ hns => Option.some.inj (h.symm.trans hns) ▸ hlimit⟩

/-- **Trouble.** There are incidents before every effect, connections fail before a request is served or after
    it, and the other effects have any answer. -/
def trouble (space : String) (limit : Namespace → Prop) : Environment Role Scene := fun w effect =>
  match effect with
  | .execute role request => fun r w' => ∃ u s', w.Disturbed space limit u ∧
      (Serve.execute request).Fares (u.serving role) r s' ∧ w' = (u.put role s').note role request r
  | .reopen role => fun r w' => ∃ u s', w.Disturbed space limit u ∧
      Serve.reopen.Fares (u.serving role) r s' ∧ w' = u.put role s'
  | .stopRequested | .wait _ | .rest _ | .report _ | .log _ _ | .clock => fun _ w' => w.Disturbed space limit w'

/-! ## Calm -/

/-- **Calm.** The stores serve what they are asked, and there is no stop signal. -/
def calm (time : Scene → Duration) : (effect : Effect Role) → StateM Scene effect.Answer
  | .execute role request => fun w =>
    let (r, s) := (Serve.execute request).on (w.serving role)
    (r, (w.put role s).note role request r)
  | .reopen role => fun w =>
    let (r, s) := Serve.reopen.on (w.serving role)
    (r, w.put role s)
  | .stopRequested => fun w => (false, w)
  | .wait _ => fun w => (.elapsed, w)
  | .rest _ => fun w => ((), w)
  | .report _ => fun w => ((), w)
  | .log _ _ => fun w => ((), w)
  | .clock => fun w => (time w, w)

theorem calm_execute {time : Scene → Duration} {w : Scene} {role : Role} {request : Request}
    {r : Except ProtocolError Reply} {s : Serving} (h : (Serve.execute request).on (w.serving role) = (r, s)) :
    calm time (.execute role request) w = (r, (w.put role s).note role request r) := by
  show ((((Serve.execute request).on (w.serving role)).1,
    (w.put role ((Serve.execute request).on (w.serving role)).2).note role request
      ((Serve.execute request).on (w.serving role)).1) : Except ProtocolError Reply × Scene) = _
  rw [h]

end Scene

end SegmentSync
