import SegmentSync.Store.Basic

/-!
# `SegmentSync.Store.Service` — how a store serves its connections

## Contents
- **Service.** `Serve`: an action on the store and one connection that may fail; what it has counted or used
  up by then stays so.
- **Arguments.** Missing arguments are empty texts, except numbers, which are invalid.
- **Commands.** One action for each; `handle` is all of them behind the check of the login.
- **The connection.** `execute` serves a request, `reopen` opens a fresh connection.
-/

namespace SegmentSync

/-! ## Service -/

/-- A store and the connection that it serves. -/
structure Serving where
  store : Store
  connection : Connection
  deriving Inhabited

/-- A part of the service. -/
abbrev Serve := ExceptT ProtocolError (StateM Serving)

namespace Serve

/-- Answers with an error. -/
def refuse {α : Type} (reason : String) : Serve α := throw (.server reason)

/-- The namespace of that name. -/
def namespaceOf (name : String) : Serve Namespace := do
  match (← get).store.namespaces.find? name with
  | some ns => return ns
  | none => refuse "Namespace not found"

/-- Puts a namespace in the place of the one of that name. -/
def putNamespace (name : String) (ns : Namespace) : Serve Unit :=
  modify fun s =>
    { s with store := { s.store with namespaces := s.store.namespaces.insert name ns } }

/-- The selected namespace with its name. -/
def selectedNamespace : Serve (String × Namespace) := do
  match (← get).connection.selected with
  | some name => return (name, ← namespaceOf name)
  | none => refuse "No namespace selected"

/-- Uses up a marker. -/
def nextMarker : Serve UInt64 := do
  let s ← get
  let marker := s.store.markers + 1
  set { s with store := { s.store with markers := marker } }
  return marker

/-! ## Arguments -/

/-- An argument as text; empty where it is missing. -/
def textArgument (arguments : List Bytes) (index : Nat) : String :=
  (arguments[index]?.map Utf8.decodeLossy).getD ""

/-- An argument as octets; empty where it is missing. -/
def bytesArgument (arguments : List Bytes) (index : Nat) : Bytes := arguments[index]?.getD []

/-- An argument as a number, if it is one. -/
def numberArgument? {α : Type} (readNumber : List Char → Except Decimal.Fault α)
    (arguments : List Bytes) (index : Nat) : Option α :=
  arguments[index]?.bind fun argument => (readNumber (Utf8.decodeCharsLossy argument)).toOption

/-- The first two arguments as a cursor. -/
def cursorArgument (arguments : List Bytes) : Serve Position := do
  match numberArgument? Decimal.readUInt32 arguments 0, numberArgument? Decimal.readUInt64 arguments 1 with
  | some segment, some offset => return ⟨segment, offset⟩
  | _, _ => refuse "Invalid argument"

/-! ## Commands -/

/-- The challenge that is handed out as the `n`-th: sixteen hexadecimal digits. The factor is odd, so that
    no two of them are alike. -/
def challengeText (n : UInt64) : String :=
  Bytes.hex (Bytes.ofUInt64 (n * 0x9e3779b97f4a7c15))

/-- The password of the login; there must be one. -/
def adminPassword : Serve String := do
  match (← get).store.admin with
  | some password => return password
  | none => refuse "Authentication disabled"

/-- Hands out a challenge. -/
def serveChallenge : Serve Reply := do
  let _ ← adminPassword
  let s ← get
  let count := s.store.challenges + 1
  let challenge := challengeText count
  set { s with
    store := { s.store with challenges := count }
    connection := { s.connection with challenge := some challenge } }
  return .simple challenge

/-- Judges the answer to the challenge, which is used up by that. -/
def serveLogin (arguments : List Bytes) : Serve Reply := do
  let password ← adminPassword
  let s ← get
  match s.connection.challenge with
  | none => refuse "No CHALLENGE requested"
  | some challenge =>
    let connection := { s.connection with challenge := none }
    if textArgument arguments 0 = challengeDigest challenge password then
      set { s with connection := { connection with admin := true } }
      return .okay
    else
      set { s with connection }
      refuse "Access denied"

/-- Selects a namespace, whose password must be given if it has one. -/
def serveSelect (arguments : List Bytes) : Serve Reply := do
  let name := textArgument arguments 0
  let ns ← namespaceOf name
  -- A namespace without a password takes any.
  if ns.password.isSome && ns.password ≠ arguments[1]?.map Utf8.decodeLossy then
    refuse "Access denied"
  modify fun s => { s with connection := { s.connection with selected := some name } }
  return .okay

/-- Hands out the information block of a namespace. -/
def serveInfo (arguments : List Bytes) : Serve Reply := do
  let name := textArgument arguments 0
  let ns ← namespaceOf name
  return .bulk (Utf8.encode (ns.info name))

/-- Freezes a namespace, or ends that. -/
def serveFreeze (arguments : List Bytes) : Serve Reply := do
  let name := textArgument arguments 0
  let ns ← namespaceOf name
  putNamespace name { ns with frozen := arguments[2]?.map Utf8.decodeLossy = some "1" }
  return .okay

/-- Starts a new segment of the selected namespace. -/
def serveJump : Serve Reply := do
  let (name, ns) ← selectedNamespace
  putNamespace name ns.jump
  return .okay

/-- Exports the entries behind a cursor. -/
def serveExport (arguments : List Bytes) : Serve Reply := do
  let at_ ← cursorArgument arguments
  let (_, ns) ← selectedNamespace
  match ← ns.entriesFrom? at_ with
  | [] => throw .eof
  | entries => return .bulk (Blob.write entries)

/-- Imports a blob at the end of the log. Why a payload is invalid is said in words of this library. -/
def serveImport (arguments : List Bytes) : Serve Reply := do
  let at_ ← cursorArgument arguments
  let (name, ns) ← selectedNamespace
  if ns.position ≠ at_ then
    refuse ("Import position " ++ at_.text ++ " does not match " ++ ns.position.text)
  match Blob.read? (bytesArgument arguments 2) with
  | none => refuse "Invalid payload: not a list of entries"
  | some entries =>
    putNamespace name (entries.foldl Namespace.append ns)
    return .okay

/-- Hands out the entry at a cursor. Numbers travel as signed 64-bit words. -/
def serveRecord (arguments : List Bytes) : Serve Reply := do
  let at_ ← cursorArgument arguments
  let (_, ns) ← selectedNamespace
  match ← ns.entriesFrom? at_ with
  | [] => throw .eof
  | entry :: _ =>
    return .array [.bulk entry.key, .int at_.segment.toNat, .int at_.offset.toInt64.toInt,
      .int (if entry.value.isSome then 0 else 1), .int entry.marker.toInt64.toInt,
      entry.value.elim .nil .bulk]

/-- Sets a key of the selected namespace; the fault decides how that is acknowledged. -/
def serveSet (arguments : List Bytes) (fault : Option Fault) : Serve Reply := do
  -- A set uses up a marker even where it brings its own.
  let fallback ← nextMarker
  let marker := (numberArgument? Decimal.readUInt64 arguments 2).getD fallback
  let key := bytesArgument arguments 0
  let (name, ns) ← selectedNamespace
  if ns.frozen then refuse "Namespace is temporarily frozen"
  putNamespace name (ns.append { key, value := some (bytesArgument arguments 1), marker })
  match fault with
  | some (.wrongEcho other) => return .bulk other
  | some .nilEcho => return .nil
  | _ => return .bulk key

/-- Deletes a key of the selected namespace that is set. -/
def serveDelete (arguments : List Bytes) : Serve Reply := do
  let fallback ← nextMarker
  let marker := (numberArgument? Decimal.readUInt64 arguments 1).getD fallback
  let key := bytesArgument arguments 0
  let (name, ns) ← selectedNamespace
  if ns.frozen then refuse "Namespace is temporarily frozen"
  if !ns.keys.contains key then refuse "Key not found"
  putNamespace name (ns.append { key, value := none, marker })
  return .okay

/-- Executes a command. -/
def dispatch (request : Request) (fault : Option Fault) : Serve Reply :=
  match request.command with
  | .authChallenge => serveChallenge
  | .authSecure => serveLogin request.arguments
  | .select => serveSelect request.arguments
  | .nsInfo => serveInfo request.arguments
  | .nsSet => serveFreeze request.arguments
  | .nsJump => serveJump
  | .dataExport => serveExport request.arguments
  | .dataImport => serveImport request.arguments
  | .dataRaw => serveRecord request.arguments
  | .set => serveSet request.arguments fault
  | .del => serveDelete request.arguments

/-- Executes a command, unless it is rejected by order or for want of a login. -/
def handle (request : Request) (fault : Option Fault) : Serve Reply := do
  if let some (.reject reason) := fault then refuse reason
  let s ← get
  if request.command.requiresAuth && s.store.admin.isSome && !s.connection.admin then
    refuse "Permission denied"
  dispatch request fault

/-! ## The connection -/

/-- The failure of a connection that is broken. -/
def brokenConnection : ProtocolError := .transport "connection reset by peer"

/-- Serves a request that comes over a connection. -/
def execute (request : Request) : Serve Reply := do
  let s ← get
  if !s.connection.isOpen then throw brokenConnection
  -- A fault is used up by the first command of its kind, whatever becomes of that command.
  let (fault, faults) := Store.takeFault request.command s.store.faults
  let s := { s with store := { s.store with faults } }
  if fault = some .disconnect then
    set { s with connection := { s.connection with isOpen := false } }
    throw brokenConnection
  set { s with store := { s.store with log := s.store.log ++ [request.command] } }
  handle request fault

/-- Opens a fresh connection, unless it is refused by order. -/
def reopen : Serve Unit := do
  let s ← get
  match s.store.refused with
  | 0 => set { s with connection := {} }
  | refused + 1 =>
    set { s with
      store := { s.store with refused }
      connection := { s.connection with isOpen := false } }
    throw (.transport "connection refused")

end Serve

end SegmentSync
