import SegmentSync.Session.Basic

/-!
# `SegmentSync.Session.Incremental` — entry by entry

Each step reads both cursors. A slave that has caught up waits. Otherwise the entry at the slave's cursor is
fetched from the master and replayed by the slave, or the slave is moved to its next segment where the
master's segment ends.

## Contents
- **One entry.** `replay` hands an entry to the slave, which must acknowledge it: a set by repeating the key,
  a deletion by an explicit acknowledgement.
- **One step.** `step`.
- **The run.** `runIncremental`: steps, with pauses while there is nothing to do.
-/

namespace SegmentSync.Session

open SegmentSync.Action (Round)

variable {ι α : Type}

/-! ## One entry -/

/-- What a step has done. -/
inductive Step where
  /-- Nothing: the slave has caught up. -/
  | idle
  /-- An entry has been replayed by the slave. -/
  | applied (at_ : Position) (deleted : Bool)
  /-- The slave has been moved to its next segment. -/
  | jumped (start : Position)
  deriving DecidableEq, Repr

/-- Runs an action of the slave; an answer that does not acknowledge it is an integrity fault. -/
def acknowledged (fault : (reason : String) → IntegrityFault) (x : Action (Client ι) ι α) :
    Action (Session ι) ι α := do
  match ← Action.attempt (onSlave x) with
  | .ok value => return value
  | .error (.protocol (.server reason)) => throw (.integrity (fault reason))
  | .error (.protocol (.unexpectedReply _ mismatch)) => throw (.integrity (fault mismatch.message))
  | .error failure => throw failure

/-- Replays an entry on the slave. -/
def replay (entry : Record) : Action (Session ι) ι Step := do
  let at_ := entry.position
  let key := Utf8.decodeLossy entry.key
  if entry.isDelete then
    acknowledged (.deletionRejected key at_) (Client.applyDelete entry.key entry.marker)
    return .applied at_ true
  let echo ← acknowledged (.notAcknowledged key at_)
    (Client.applySet entry.key (entry.value.getD []) entry.marker)
  if echo ≠ entry.key then throw (.integrity (.wrongEcho (Utf8.decodeLossy echo) key at_))
  return .applied at_ false

/-! ## One step -/

/-- Brings a slave that is behind by one entry or one segment closer. -/
def advance (at_ : Position) : Action (Session ι) ι Step := do
  match ← Action.attempt (onMaster (Client.fetchRecord at_)) with
  | .ok entry =>
    if entry.position ≠ at_ then throw (.integrity (.misplaced at_ entry.position))
    replay entry
  | .error failure =>
    if failure.isEof then
      Action.log .debug ("Master segment " ++ Decimal.text at_.segment.toNat ++ " ended, jumping")
      onSlave Client.jumpSegment
      return .jumped at_
    else throw failure

/-- Reads both cursors and does what they call for. -/
def step : Action (Session ι) ι Step := do
  let master ← masterInfo
  let slave ← slaveInfo
  match Snapshot.decide master slave with
  | .fatal => throw (.invariantViolation master.position slave.position .aheadOfMaster)
  | .wait => return .idle
  | .advance => advance slave.position

/-! ## The run -/

/-- Logs the failure that ends the session. -/
def noteEnd (failure : SyncError) : Action (Session ι) ι Unit :=
  Action.log .error ("Incremental sync stopped: " ++ failure.message)

/-- One round, with the pauses to come; it is the last one when it was stopped. -/
def incrementalRound (poll : Backoff) : Action (Session ι) ι (Round Backoff Unit) := do
  if ← Action.stopRequested then return .last ()
  match ← guarded noteEnd step with
  | .value .idle =>
    succeeded
    emit .waiting
    let (delay, poll) := poll.next
    if ← Action.sleep delay then return .last ()
    return .again poll
  | .value _ =>
    succeeded
    emit .syncing
    -- Progress makes the next pause a short one.
    return .again poll.reset
  | .recovered => return .again poll
  | .stopped => return .last ()

/-- At most `limit` rounds; none when it has not been stopped by then. -/
def runIncremental (limit : Nat) : Action (Session ι) ι (Option Outcome) := do
  let poll := (← get).options.poll.backoff
  match ← Action.rounds incrementalRound limit poll with
  | none => return none
  | some () => return some (← stopped)

end SegmentSync.Session
