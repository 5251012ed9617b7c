import SegmentSync.Action

/-!
# `SegmentSync.Client.Basic` — one side's client

A client is a link to a store, the target behind it, and whether the connection is logged in. Its operations
are actions on it.

## Contents
- **Calls.** `call` holds a command back unless the connection is logged in or the command needs no login;
  otherwise it sends the request and reads the reply as the command's answer.
- **Operations.** One for each request, with the type of its answer.
- **Login steps.** `submitDigest` and `selectNamespace` judge by an explicit acknowledgement: whatever else
  the store answers is a refusal.
- **Connections.** `reconnect` forgets the login before it opens the connection again.
-/

namespace SegmentSync

/-- The client of one store. -/
structure Client (ι : Type) where
  link : ι
  target : Target
  /-- The handshake has succeeded on the current connection. -/
  authenticated : Bool := false
  deriving DecidableEq, Repr

namespace Client

variable {ι α : Type}

/-! ## Calls -/

/-- Sends a request and reads its reply. -/
def call (request : Request) : Action (Client ι) ι Answer := do
  let client ← get
  if request.command.requiresAuth && !client.authenticated then
    throw (.auth (.heldBack request.command client.target))
  let reply ← Action.ofRequest (← Action.perform (.execute client.link request))
  Action.ofRequest (Answer.ofReply request.command reply)

/-- Sends a request whose answer has to have a certain shape. -/
def callFor (request : Request) (shape : Answer → Option α) : Action (Client ι) ι α := do
  let answer ← call request
  match shape answer with
  | some value => return value
  | none => throw (.protocol (.unexpectedReply request.command.name (.unsuitable answer)))

/-- The shape of an acknowledgement. -/
def ack? : Answer → Option Unit
  | .ack => some ()
  | _ => none

/-- The shape of a reading of a namespace. -/
def info? : Answer → Option Snapshot
  | .info snapshot => some snapshot
  | _ => none

/-- The shape of octets. -/
def blob? : Answer → Option Bytes
  | .blob bytes => some bytes
  | _ => none

/-- The shape of a text. -/
def text? : Answer → Option String
  | .text words => some words
  | _ => none

/-- The shape of an entry of the log. -/
def record? : Answer → Option Record
  | .record entry => some entry
  | _ => none

/-- A line of the log that names the client. -/
def note (level : Level) (line : String) : Action (Client ι) ι Unit := do
  let client ← get
  Action.log level (client.target.label ++ ": " ++ line)

/-! ## Operations -/

/-- Cursor and size of a namespace. -/
def namespaceInfo (space : String) : Action (Client ι) ι Snapshot := callFor (.nsInfo space) info?

/-- Switches the advisory write-freeze of a namespace. -/
def setFreeze (space : String) (enabled : Bool) : Action (Client ι) ι Unit := do
  note .debug ("freeze " ++ space ++ " = " ++ (if enabled then "true" else "false"))
  callFor (.nsFreeze space enabled) ack?

/-- The entries from a cursor to the end of its segment, as an opaque blob. At the end of a segment there is
    nothing to export. -/
def exportSegment (start : Position) : Action (Client ι) ι Bytes := callFor (.dataExport start) blob?

/-- Loads an exported blob at a cursor; loading it twice stores it twice. -/
def importSegment (at_ : Position) (blob : Bytes) : Action (Client ι) ι Unit :=
  callFor (.dataImport at_ blob) ack?

/-- The single entry at a cursor. -/
def fetchRecord (at_ : Position) : Action (Client ι) ι Record := callFor (.dataRaw at_) record?

/-- Stores a value; the answer is the key as the store repeats it. -/
def applySet (key value marker : Bytes) : Action (Client ι) ι Bytes :=
  callFor (.set key value marker) blob?

/-- Deletes a key. -/
def applyDelete (key marker : Bytes) : Action (Client ι) ι Unit := callFor (.del key marker) ack?

/-- Moves the store's own cursor to the start of its next segment. -/
def jumpSegment : Action (Client ι) ι Unit := do
  note .debug "jumping to next segment"
  callFor .nsJump ack?

/-- Asks for a login challenge. -/
def requestChallenge : Action (Client ι) ι String := callFor .authChallenge text?

/-! ## Login steps -/

/-- Whether the store grants a request. Every answer that is no acknowledgement refuses it; failures of
    the connection remain failures. -/
def granted (request : Request) : Action (Client ι) ι Bool := do
  let refused (reason : String) : Action (Client ι) ι Bool := do
    note .debug (request.command.name ++ " rejected: " ++ reason)
    return false
  match ← Action.attempt (call request) with
  | .ok .ack => return true
  | .ok answer => refused answer.debugText
  | .error (.protocol (.server reason)) => refused reason
  | .error (.protocol (.unexpectedReply _ mismatch)) => refused mismatch.message
  | .error failure => throw failure

/-- Answers a challenge; whether the store accepts the answer. -/
def submitDigest (digest : String) : Action (Client ι) ι Bool := granted (.authSecure digest)

/-- Selects a namespace; whether the store accepts that. -/
def selectNamespace (space : String) (password : Option String) : Action (Client ι) ι Bool :=
  granted (.select space password)

/-! ## Connections -/

/-- Marks the connection as logged in or not. -/
def setAuthenticated (authenticated : Bool) : Action (Client ι) ι Unit :=
  modify fun client => { client with authenticated }

/-- Opens the connection again; it is not logged in afterwards, whether that works or not. -/
def reconnect : Action (Client ι) ι Unit := do
  setAuthenticated false
  Action.ofRequest (← Action.perform (.reopen (← get).link))

end Client

end SegmentSync
