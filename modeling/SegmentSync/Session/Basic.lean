import SegmentSync.Client.Login
import SegmentSync.Session.Options
import SegmentSync.Session.Retry

/-!
# `SegmentSync.Session.Basic` — a master and a slave that share a namespace

## Contents
- **Sessions.** `Session` holds both clients, the latest accepted reading of each side, and what is known
  about failures. `Session.make` refuses two clients of different namespaces.
- **Cursors.** `masterInfo` and `slaveInfo` read a side and remember the reading; a slave that is behind where
  it was before is refused, and not remembered.
- **Failures.** `recover` waits, opens both sides again and logs them in, until that works or the budget is
  spent; `succeeded` forgets past failures.
- **Reports.** `emit` hands the observer a report on the latest readings, if there are any of both sides.
-/

namespace SegmentSync

/-! ## Sessions -/

/-- How a session ends without a failure. -/
inductive Outcome where
  /-- A bulk copy has reached its baseline. -/
  | completed
  /-- The stop signal has fired. -/
  | stopped
  deriving DecidableEq, Repr, Inhabited

/-- The outcome in words. -/
def Outcome.text : Outcome → String
  | .completed => "Completed"
  | .stopped => "Stopped"

/-- The replication of one namespace from a master to a slave. -/
structure Session (ι : Type) where
  name : String
  space : String
  strategy : Strategy
  master : Client ι
  slave : Client ι
  options : Options
  /-- The latest reading of the master. -/
  lastMaster : Option Snapshot := none
  /-- The latest accepted reading of the slave. -/
  lastSlave : Option Snapshot := none
  /-- The readings of the latest report, and when it was made. -/
  reported : Option (PairSnapshot × Duration) := none
  /-- Transport failures since the last success, counted in 32 bits. -/
  failures : Nat := 0
  /-- The delays before connecting again. -/
  backoff : Backoff
  deriving Repr

namespace Session

variable {ι α : Type}

/-- A fresh session of two clients of the same namespace. -/
def make (name : String) (strategy : Strategy) (master slave : Client ι) (options : Options) :
    Except SyncError (Session ι) :=
  let space := master.target.space
  if slave.target.space = space then
    .ok { name, space, strategy, master, slave, options, backoff := options.retry.backoff }
  else .error (.config (.namespaceMismatch space slave.target.space))

/-- The latest readings, if there is one of each side. -/
def snapshots (session : Session ι) : Option PairSnapshot := do
  return ⟨← session.lastMaster, ← session.lastSlave⟩

/-! ## Sides -/

/-- An action of the master's client. -/
def onMaster (x : Action (Client ι) ι α) : Action (Session ι) ι α :=
  Action.focus Session.master (fun session master => { session with master }) x

/-- An action of the slave's client. -/
def onSlave (x : Action (Client ι) ι α) : Action (Session ι) ι α :=
  Action.focus Session.slave (fun session slave => { session with slave }) x

/-- Fails unless the client is logged in. -/
def checkLogin : Action (Client ι) ι Unit := do
  let client ← get
  if !client.authenticated then throw (.auth (.notLoggedIn client.target))

/-- Fails unless both clients are logged in. -/
def ensureAuthenticated : Action (Session ι) ι Unit := do
  onMaster checkLogin
  onSlave checkLogin

/-! ## Cursors -/

/-- Reads the master. -/
def masterInfo : Action (Session ι) ι Snapshot := do
  let snapshot ← onMaster (Client.namespaceInfo (← get).space)
  modify fun session => { session with lastMaster := some snapshot }
  return snapshot

/-- The slave is behind an earlier reading. -/
def movedBackwards (previous : Option Snapshot) (snapshot : Snapshot) : Bool :=
  previous.any fun previous => snapshot.position < previous.position

/-- Reads the slave, which must not have moved backwards. -/
def slaveInfo : Action (Session ι) ι Snapshot := do
  let snapshot ← onSlave (Client.namespaceInfo (← get).space)
  let session ← get
  if movedBackwards session.lastSlave snapshot then
    let master := (session.lastMaster.map Snapshot.position).getD .zero
    throw (.invariantViolation master snapshot.position .movedBackwards)
  set { session with lastSlave := some snapshot }
  return snapshot

/-! ## Failures -/

/-- Forgets past failures. -/
def succeeded : Action (Session ι) ι Unit := do
  let session ← get
  if 0 < session.failures then
    Action.log .info ("Recovered after " ++ Decimal.text session.failures ++ " failed attempt(s)")
  set { session with failures := 0, backoff := session.backoff.reset }

/-- Opens both sides again and logs them in. -/
def reopen : Action (Session ι) ι Unit := do
  onMaster Client.connect
  onSlave Client.connect

/-- The log line about a transport failure. -/
def recoveryLine (failure : ProtocolError) (delay : Duration) (failures : Nat)
    (policy : RetryPolicy) : String :=
  "Transport failure (" ++ failure.message ++ "), reconnecting in " ++ delay.text ++ " [attempt " ++
    Decimal.text failures ++ "/" ++ Decimal.text policy.maxRetries.toNat ++ "]"

/-- Recovers from `last`, with `budget` attempts left; whether it was stopped. Nothing is sent again. -/
def recoverWithin : (budget : Nat) → ProtocolError → Action (Session ι) ι Bool
  | budget, last => do
    let session ← get
    let failures ← Retry.countFailure session.failures
    match budget with
    | 0 =>
      -- The last failure is counted as well, but no attempt follows it.
      set { session with failures }
      throw (.retriesExhausted session.failures last)
    | budget + 1 =>
      let (delay, backoff) := session.backoff.next
      set { session with failures, backoff }
      Action.log .warn (recoveryLine last delay failures session.options.retry)
      if ← Action.sleep delay then return true
      match ← Action.attempt reopen with
      | .ok () =>
        Action.log .info "Reconnected master and slave"
        return false
      | .error failure =>
        match failure.transient? with
        | none => throw failure
        | some last =>
          Action.log .warn ("Reconnect failed: " ++ failure.message)
          recoverWithin budget last

/-- Recovers from a transport failure; whether it was stopped. -/
def recover (failure : ProtocolError) : Action (Session ι) ι Bool := do
  let session ← get
  recoverWithin (session.options.retry.maxRetries.toNat - session.failures) failure

/-- How an action ends whose transport failures are recovered from. -/
inductive Guarded (α : Type) where
  | value (value : α)
  /-- A transport failure has been recovered from. -/
  | recovered
  /-- The session was stopped while it recovered. -/
  | stopped

/-- Runs an action and recovers from a transport failure; any other failure is final, and `atEnd` is done
    before it is passed on. -/
def guarded (atEnd : SyncError → Action (Session ι) ι Unit) (x : Action (Session ι) ι α) :
    Action (Session ι) ι (Guarded α) := do
  match ← Action.attempt x with
  | .ok value => return .value value
  | .error failure =>
    match failure.transient? with
    | some transport => if ← recover transport then return .stopped else return .recovered
    | none =>
      atEnd failure
      throw failure

/-! ## Reports -/

/-- Hands a report on the latest readings to the observer. -/
def emit (phase : Phase) : Action (Session ι) ι Unit := do
  let session ← get
  match session.snapshots with
  | none => return
  | some current =>
    let now ← Action.clock
    let (previous, earlier) := session.reported.getD (current, now)
    Action.perform (.report (Progress.report previous current ⟨now.nanos - earlier.nanos⟩ phase))
    modify fun session => { session with reported := some (current, now) }

/-- The last report of a session that is stopped. -/
def stopped : Action (Session ι) ι Outcome := do
  Action.log .info "Stop requested"
  emit .finished
  return .stopped

end Session

end SegmentSync
