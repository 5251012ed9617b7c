import SegmentSync.Action
import SegmentSync.Store.Service
import SegmentSync.Wire.Channel
import SegmentSync.Wire.Reply.Writer

/-!
# `SegmentSync.Simulation.World` — surroundings without real time

A world holds stores, links that lead to them or to replies written down beforehand, stop signals, and a clock
that moves only while somebody waits. It answers every effect of a program.

## Contents
- **The world.** `World`; a name stands for the latest store created under it, while links stay with theirs.
  A link leads to a store, to replies written down beforehand, or over a socket to whoever is behind it.
- **Happenings.** What can happen beside the programs that run: writes by others, faults, stop signals.
- **Hooks.** Happenings that wait for a report, a command, or a moment.
- **Effects.** Requests over a link, in order and recorded; after so many of them every further one fails.
  Waiting lets time pass in whole milliseconds, up to the moment when the stop signal fires or is let go.
-/

namespace SegmentSync.Simulation

/-! ## The world -/

/-- Who is at the other end of a socket. -/
inductive Peer where
  /-- Nobody; why opening a connection fails. -/
  | absent (reason : String)
  /-- Somebody who answers by bytes that are written down beforehand, and hangs up where there are none. -/
  | canned (answers : List (Option Bytes))
  /-- A store. -/
  | store (index : Nat)

/-- A socket on this side. -/
structure Socket where
  endpoint : Endpoint
  peer : Peer
  channel : Wire.Channel := .closed
  /-- The connection as the store knows it. -/
  connection : Connection := {}
  /-- What the peer has received, the latest first. -/
  received : List Request := []

/-- Opens a fresh connection over a socket. -/
def Socket.reopen (socket : Socket) : Except ProtocolError Unit × Socket :=
  match socket.peer with
  | .absent reason => (.error (.transport reason), { socket with channel := .closed })
  | _ => (.ok (), { socket with channel := .opened, connection := {} })

/-- Where a link leads. -/
inductive Link where
  /-- To a store, over a connection. -/
  | store (index : Nat) (connection : Connection)
  /-- To replies and outcomes of connecting that are written down beforehand. -/
  | script (replies : List (Except ProtocolError Reply)) (reopenings : List (Except ProtocolError Unit))
  /-- To somebody at the other end of a socket. -/
  | socket (socket : Socket)

/-- The stop signal of a session. -/
structure Signal where
  fired : Bool := false
  /-- There is still somebody who could fire it. -/
  held : Bool := true
  deriving DecidableEq, Repr

/-- What was sent over a link: a request, or a call for a fresh connection. -/
structure Sent where
  link : String
  request : Option Request
  deriving DecidableEq, Repr

/-! ## Happenings -/

/-- What can happen beside the programs that run. -/
inductive Happening where
  | createStore (store : String) (admin : Option String)
  | createNamespace (store name : String) (password : Option String)
  | set (store name : String) (key value : Bytes)
  | delete (store name : String) (key : Bytes)
  | rollover (store name : String)
  | clearLog (store : String)
  | inject (store : String) (command : Command) (fault : Fault) (count : Nat)
  | refuse (store : String) (count : Nat)
  /-- The stop signal of a session fires, if somebody holds it. -/
  | stop (session : String)
  /-- Nobody holds the stop signal of a session any more. -/
  | release (session : String)
  /-- What was sent is forgotten. -/
  | forget

/-- What a hook waits for. -/
inductive Trigger where
  /-- The report of that number, counted from one, has been handed to the observer. -/
  | report (number : Nat)
  /-- The command of that number is about to be executed over a link. -/
  | command (link : String) (number : Nat)
  deriving DecidableEq, Repr

/-- A world. -/
structure World where
  stores : List Store := []
  /-- The index of the latest store of a name. -/
  names : Table String Nat := .empty
  links : Table String Link := .empty
  signals : Table String Signal := .empty
  /-- The time in milliseconds. -/
  now : Nat := 0
  /-- What was sent, the latest first. -/
  sent : List Sent := []
  /-- How much more may be sent. -/
  allowance : Nat := 400
  /-- How many commands have been executed over a link. -/
  counts : Table String Nat := .empty
  hooks : List (Trigger × List Happening) := []
  /-- Happenings at moments to come, in order of time. -/
  timed : List (Nat × List Happening) := []
  /-- The reports that were handed to the observer, the latest first. -/
  reports : List Report := []
  /-- The lines of the log, the latest first. -/
  lines : List (Level × String) := []

instance : Inhabited World := ⟨{}⟩

namespace World

/-- The store of a name. -/
def store? (world : World) (name : String) : Option Store := do
  world.stores[← world.names.find? name]?

/-- Changes the store of a name. -/
def updateStore (world : World) (name : String) (change : Store → Store) : World :=
  match world.names.find? name with
  | some index => { world with stores := world.stores.modify index change }
  | none => world

/-- Creates a store. -/
def createStore (world : World) (name : String) (admin : Option String) : World :=
  { world with
    stores := world.stores ++ [{ admin }]
    names := world.names.insert name world.stores.length }

/-- Changes the stop signal of a session. -/
def updateSignal (world : World) (session : String) (change : Signal → Signal) : World :=
  match world.signals.find? session with
  | some signal => { world with signals := world.signals.insert session (change signal) }
  | none => world

/-- The stop signal has fired. -/
def isStopped (world : World) (session : Option String) : Bool :=
  (session.bind world.signals.find?).any Signal.fired

/-- Somebody can still fire the stop signal. -/
def isHeld (world : World) (session : Option String) : Bool :=
  (session.bind world.signals.find?).any Signal.held

/-- The world after a happening. -/
def happen (world : World) : Happening → World
  | .createStore store admin => world.createStore store admin
  | .createNamespace store name password =>
    world.updateStore store fun s => s.createNamespace name password
  | .set store name key value => world.updateStore store fun s => s.set name key value
  | .delete store name key => world.updateStore store fun s => s.delete name key
  | .rollover store name => world.updateStore store fun s => s.rollover name
  | .clearLog store => world.updateStore store fun s => { s with log := [] }
  | .inject store command fault count =>
    world.updateStore store fun s => count.repeat (fun s => s.inject command fault) s
  | .refuse store count => world.updateStore store fun s => s.refuseReconnects count
  | .stop session => world.updateSignal session fun s => if s.held then { s with fired := true } else s
  | .release session => world.updateSignal session fun s => { s with held := false }
  | .forget => { world with sent := [] }

/-- The world after some happenings in a row. -/
def happenAll (world : World) (happenings : List Happening) : World := happenings.foldl happen world

/-! ## Hooks -/

/-- Lets happen what waits for a trigger. -/
def fire (world : World) (trigger : Trigger) : World :=
  let (due, hooks) := world.hooks.partition fun (trigger', _) => trigger' = trigger
  { world with hooks }.happenAll (due.flatMap Prod.snd)

/-! ## Effects -/

/-- The failure of everything that is sent beyond the allowance. -/
def overLimit : ProtocolError := .server "command limit"

/-- The failure of a script that has come to its end. -/
def scriptExhausted : ProtocolError := .server "script exhausted"

/-- Records what is sent; whether that is still allowed. -/
def record (link : String) (request : Option Request) : StateM World Bool := do
  let world ← get
  set { world with sent := ⟨link, request⟩ :: world.sent, allowance := world.allowance - 1 }
  return 0 < world.allowance

/-- Makes a link lead somewhere else. -/
def putLink (name : String) (link : Link) : StateM World Unit :=
  modify fun world => { world with links := world.links.insert name link }

/-- Lets a store serve a request over a connection, or do something else over it. -/
def serve {α : Type} (index : Nat) (connection : Connection) (action : Serve α) :
    StateM World (Except ProtocolError α × Connection) := do
  let world ← get
  match world.stores[index]? with
  | none => return (.error Serve.brokenConnection, connection)
  | some store =>
    let (result, serving) := action.run.run ⟨store, connection⟩
    set { world with stores := world.stores.set index serving.store }
    return (result, serving.connection)

/-- The bytes by which the peer of an open socket answers, and the socket after that. -/
def answerOver (socket : Socket) (request : Request) : StateM World (Option Bytes × Socket) := do
  let socket := { socket with received := request :: socket.received }
  match socket.peer with
  | .absent _ => return (none, socket)
  | .canned [] => return (none, socket)
  | .canned (answer :: answers) => return (answer, { socket with peer := .canned answers })
  | .store index =>
    let (outcome, connection) ← serve index socket.connection (Serve.execute request)
    return (Reply.encodeOutcome outcome, { socket with connection })

/-- Sends a request over a socket. -/
def exchange (socket : Socket) (request : Request) :
    StateM World (Except ProtocolError Reply × Socket) := do
  match socket.channel with
  | .closed => return (.error (Wire.Channel.notConnected socket.endpoint), socket)
  | .spent => return (.error Wire.Channel.lost, { socket with channel := .closed })
  | .opened =>
    match ← answerOver socket request with
    | (none, socket) => return (.error Wire.Channel.lost, { socket with channel := .closed })
    | (some bytes, socket) =>
      let (result, channel) := Wire.Channel.conclude (Reply.read bytes)
      return (result, { socket with channel })

/-- Sends a request over a link. -/
def execute (link : String) (request : Request) : StateM World (Except ProtocolError Reply) := do
  if !(← record link (some request)) then return .error overLimit
  -- Hooks run before the command, and what they change it already sees.
  modify fun world =>
    let count := (world.counts.find? link).getD 0 + 1
    { world with counts := world.counts.insert link count }.fire (.command link count)
  match (← get).links.find? link with
  | some (.store index connection) =>
    let (result, connection) ← serve index connection (Serve.execute request)
    putLink link (.store index connection)
    return result
  | some (.script (reply :: replies) reopenings) =>
    putLink link (.script replies reopenings)
    return reply
  | some (.script [] _) => return .error scriptExhausted
  | some (.socket socket) =>
    let (result, socket) ← exchange socket request
    putLink link (.socket socket)
    return result
  | none => return .error Serve.brokenConnection

/-- Opens a fresh connection over a link. -/
def reopen (link : String) : StateM World (Except ProtocolError Unit) := do
  if !(← record link none) then return .error overLimit
  match (← get).links.find? link with
  | some (.store index connection) =>
    let (result, connection) ← serve index connection Serve.reopen
    putLink link (.store index connection)
    return result
  | some (.script replies (outcome :: reopenings)) =>
    putLink link (.script replies reopenings)
    return outcome
  | some (.script _ []) => return .ok ()
  | some (.socket socket) =>
    let (result, socket) := socket.reopen
    putLink link (.socket socket)
    return result
  | none => return .error Serve.brokenConnection

/-- Lets time pass until a moment, but no longer than until the world is as `ends` says. `timed` are the happenings to
    come. -/
def passUntil (ends : World → Bool) (moment : Nat) : (timed : List (Nat × List Happening)) → StateM World Unit
  | [] => modify fun world => { world with now := moment }
  | (time, happenings) :: later =>
    if time ≤ moment then do
      -- What happens at the very end of the wait still happens during it.
      modify fun world =>
        { world with now := max world.now time, timed := later }.happenAll happenings
      if ends (← get) then return ()
      passUntil ends moment later
    else modify fun world => { world with now := moment }

/-- Waits until the time is over, the stop signal fires, or nobody can fire it any more. A signal that fires at the very
    end of the wait is what it ends by. -/
def wait (session : Option String) (time : Duration) : StateM World Wake := do
  let ends (world : World) : Bool := world.isStopped session || !world.isHeld session
  let start ← get
  let moment := start.now + time.millisCeil
  if !ends start then passUntil ends moment start.timed
  let world ← get
  if world.isStopped session then return .signalled
  if world.isHeld session then return .elapsed
  return .abandoned ⟨(moment - world.now) * 1000000⟩

/-- Waits until the time is over. -/
def rest (time : Duration) : StateM World Unit := do
  let world ← get
  passUntil (fun _ => false) (world.now + time.millisCeil) world.timed

/-- Hands a report to the observer. -/
def observe (report : Report) : StateM World Unit :=
  modify fun world =>
    let world := { world with reports := report :: world.reports }
    world.fire (.report world.reports.length)

/-- The answer to an effect of a program that listens to the stop signal of a session. -/
def handle (session : Option String) : (effect : Effect String) → StateM World effect.Answer
  | .execute link request => execute link request
  | .reopen link => reopen link
  | .stopRequested => fun world => (world.isStopped session, world)
  | .wait time => wait session time
  | .rest time => rest time
  | .report report => observe report
  | .log level line => modify fun world => { world with lines := (level, line) :: world.lines }
  | .clock => fun world => (⟨world.now * 1000000⟩, world)

/-- Runs an action in the world. -/
def perform {σ α : Type} (session : Option String) (action : Action σ String α) (state : σ) :
    StateM World (Except SyncError α × σ) :=
  Program.run (handle session) (action state)

end World

end SegmentSync.Simulation
