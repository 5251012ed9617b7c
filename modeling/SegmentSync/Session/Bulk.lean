import SegmentSync.Session.Basic

/-!
# `SegmentSync.Session.Bulk` — whole segments, up to a fixed baseline

The slave is frozen and the master's cursor read once. Then the rest of a segment at a time is exported from
the master and imported by the slave, until the slave has reached that baseline. What is written to the
master meanwhile may come along, but is not waited for.

## Contents
- **Preparing.** `prepare` freezes the slave and reads the baseline.
- **Copying.** `copyStep` copies the rest of one segment, or moves the slave to its next one.
- **The run.** `runBulk`: rounds of preparing, rounds of copying, and the end of the freeze.
-/

namespace SegmentSync.Session

open SegmentSync.Action (Round)

variable {ι : Type}

/-! ## Preparing -/

/-- Freezes the slave and reads the baseline from the master, which the slave must not be ahead of. -/
def prepare : Action (Session ι) ι Snapshot := do
  onSlave (Client.setFreeze (← get).space true)
  let baseline ← masterInfo
  let slave ← slaveInfo
  match Snapshot.decide baseline slave with
  | .fatal => throw (.invariantViolation baseline.position slave.position .aheadOfBaseline)
  | .wait | .advance => return baseline

/-- One attempt at preparing; without a baseline when stopped. -/
def prepareRound : Action (Session ι) ι (Round Unit (Option Snapshot)) := do
  if ← Action.stopRequested then return .last none
  match ← guarded (fun _ => pure ()) prepare with
  | .value baseline => return .last (some baseline)
  | .recovered => return .again ()
  | .stopped => return .last none

/-! ## Copying -/

/-- What one step of a copy has done. -/
inductive CopyStep where
  /-- The rest of a segment has been copied, in a blob of so many octets. -/
  | imported (size : Nat)
  /-- The slave has been moved to its next segment. -/
  | jumped
  /-- The baseline is reached. -/
  | done
  deriving DecidableEq, Repr

/-- The step in words. -/
def CopyStep.text : CopyStep → String
  | .imported size => "Imported \x7b bytes: " ++ Decimal.text size ++ " \x7d"
  | .jumped => "Jumped"
  | .done => "Done"

/-- The end of a segment: the copy is done at the baseline or beyond it, and goes on with the slave's next
    segment before. -/
def endOfSegment (baseline at_ : Position) : Action (Session ι) ι CopyStep := do
  if baseline ≤ at_ then
    if baseline < at_ then
      Action.log .warn ("Slave " ++ at_.text ++ " went past baseline " ++ baseline.text ++
        ", master kept writing")
    return .done
  -- The next position is worked out for the log line; the store finds it on its own. There being none is no failure
  -- that the run reports: its arithmetic gives up, and the process with it.
  match at_.next? with
  | none => throw .segmentOverflow
  | some next =>
    Action.log .info ("End of segment " ++ Decimal.text at_.segment.toNat ++ ", moving slave to " ++
      next.text)
    onSlave Client.jumpSegment
    return .jumped

/-- Copies the rest of the slave's segment, or goes on to the next one where there is no rest. -/
def copyStep (baseline : Snapshot) : Action (Session ι) ι CopyStep := do
  let at_ := (← slaveInfo).position
  match ← Action.attempt (onMaster (Client.exportSegment at_)) with
  | .ok blob =>
    onSlave (Client.importSegment at_ blob)
    return .imported blob.length
  | .error failure =>
    if failure.isEof then endOfSegment baseline.position at_ else throw failure

/-- One round of copying; whether the baseline is reached or the session stopped. -/
def copyRound (baseline : Snapshot) : Action (Session ι) ι (Round Unit Outcome) := do
  if ← Action.stopRequested then
    Action.log .warn "Bulk sync interrupted, slave stays frozen"
    return .last .stopped
  match ← guarded (fun _ => pure ()) (copyStep baseline) with
  | .value .done => return .last .completed
  | .value step =>
    Action.log .debug ("Bulk step: " ++ step.text)
    succeeded
    emit .syncing
    return .again ()
  | .recovered => return .again ()
  | .stopped => return .last .stopped

/-! ## The run -/

/-- What is done when the baseline is reached: the end of the freeze, if wanted, and the last report. -/
def completeBulk (baseline : Snapshot) : Action (Session ι) ι Outcome := do
  let session ← get
  if session.options.bulk.unfreezeOnCompletion then
    onSlave (Client.setFreeze session.space false)
  emit .finished
  Action.log .info ("Bulk sync reached baseline " ++ baseline.position.text)
  return .completed

/-- A bulk copy of at most `limit` rounds each of preparing and of copying; none when it is not at its end
    by then. -/
def runBulk (limit : Nat) : Action (Session ι) ι (Option Outcome) := do
  match ← Action.rounds (fun _ => prepareRound) limit () with
  | none => return none
  | some none => return some (← stopped)
  | some (some baseline) =>
    Action.log .info ("Bulk baseline " ++ baseline.position.text ++ " (" ++
      Decimal.text baseline.size.toNat ++ " bytes)")
    match ← Action.rounds (fun _ => copyRound baseline) limit () with
    | none => return none
    | some .stopped => return some (← stopped)
    | some .completed => return some (← completeBulk baseline)

end SegmentSync.Session
