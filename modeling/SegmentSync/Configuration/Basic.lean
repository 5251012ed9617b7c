import SegmentSync.Session.Options

/-!
# `SegmentSync.Configuration.Basic` — what a replication service is told to do

## Contents
- **Sessions.** `SessionEntry`: two sides that replicate one namespace, and the targets that they come to.
- **Surroundings.** `LogSettings`, `Timeouts`.
- **Configurations.** `Configuration`, with `validate`: the sessions are checked in their order, and the
  options after all of them.
-/

namespace SegmentSync

/-! ## Sessions -/

/-- One side of a session. -/
structure Side where
  endpoint : Endpoint
  password : Option String := none
  deriving DecidableEq, Repr, Inhabited

/-- The side with its parts named and its password masked. -/
def Side.debugText (side : Side) : String :=
  "TargetConfig \x7b endpoint: " ++ side.endpoint.debugText ++ ", password: " ++
    Target.maskedPassword side.password ++ " \x7d"

/-- A session to be run. -/
structure SessionEntry where
  name : String
  strategy : Strategy := .incremental
  space : String
  master : Side
  slave : Side
  deriving DecidableEq, Repr

namespace SessionEntry

/-- The target of a side, labelled by the session and the role of the side. -/
def target (entry : SessionEntry) (side : Side) (role : String) : Target where
  endpoint := side.endpoint
  space := entry.space
  password := side.password
  label := entry.name ++ "/" ++ role

/-- The target that is replicated. -/
def masterTarget (entry : SessionEntry) : Target := entry.target entry.master "master"

/-- The target that receives the replica. -/
def slaveTarget (entry : SessionEntry) : Target := entry.target entry.slave "slave"

/-- The session with its parts named and its passwords masked. -/
def debugText (entry : SessionEntry) : String :=
  let strategy := match entry.strategy with
    | .bulk => "Bulk"
    | .incremental => "Incremental"
  "SessionConfig \x7b name: " ++ Text.quoted entry.name ++ ", strategy: " ++ strategy ++
    ", namespace: " ++ Text.quoted entry.space ++ ", master: " ++ entry.master.debugText ++
    ", slave: " ++ entry.slave.debugText ++ " \x7d"

end SessionEntry

/-! ## Surroundings -/

/-- How log lines are written. -/
inductive LogFormat where
  | text
  | json
  deriving DecidableEq, Repr, Inhabited

/-- What can be set about the log. -/
structure LogSettings where
  /-- The lines to write, as directives. -/
  level : String := "info"
  format : LogFormat := .text
  deriving DecidableEq, Repr, Inhabited

/-- How long a connection may keep a session waiting. -/
structure Timeouts where
  connectMs : UInt64 := 5000
  responseMs : UInt64 := 60000
  deriving DecidableEq, Repr, Inhabited

/-! ## Configurations -/

/-- What the service is told to do. -/
structure Configuration where
  logging : LogSettings := {}
  timeouts : Timeouts := {}
  options : Options := {}
  sessions : List SessionEntry
  deriving DecidableEq, Repr, Inhabited

namespace Configuration

/-- Checks a session; `earlier` holds the names of the sessions before it. -/
def checkSession (earlier : List String) (entry : SessionEntry) : Except ConfigFault Unit := do
  if entry.name.isEmpty then throw .emptyName
  if entry.name ∈ earlier then throw (.duplicateName entry.name)
  if entry.space.isEmpty then throw (.noNamespace entry.name)
  if entry.master.endpoint.sameAddress entry.slave.endpoint then
    throw (.selfReplication entry.name entry.master.endpoint)

/-- Checks sessions in their order. -/
def checkSessions : (earlier : List String) → List SessionEntry → Except ConfigFault Unit
  | _, [] => .ok ()
  | earlier, entry :: rest => do
    checkSession earlier entry
    -- A session's own name counts for the sessions after it.
    checkSessions (entry.name :: earlier) rest

/-- The first thing that is wrong with a configuration, if any. -/
def validate (configuration : Configuration) : Except ConfigFault Unit := do
  if configuration.sessions.isEmpty then throw .noSessions
  checkSessions [] configuration.sessions
  configuration.options.validate

end Configuration

end SegmentSync
