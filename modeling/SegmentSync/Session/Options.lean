import SegmentSync.Error
import SegmentSync.Session.Backoff

/-!
# `SegmentSync.Session.Options` — what can be set about a session

Options are checked before a session starts: a wait of no time would spin, and a multiplier must be a number
from one to a hundred.
-/

namespace SegmentSync

/-- The two ways to replicate. -/
inductive Strategy where
  /-- Copies whole segments up to a baseline, once. -/
  | bulk
  /-- Replays the log entry by entry until it is stopped. -/
  | incremental
  deriving DecidableEq, Repr

instance : Inhabited Strategy := ⟨.incremental⟩

/-- The strategy in words. -/
def Strategy.text : Strategy → String
  | .bulk => "bulk"
  | .incremental => "incremental"

/-- What can be set about bulk copies. -/
structure BulkSettings where
  /-- Lift the write-freeze of the slave once the baseline is reached. -/
  unfreezeOnCompletion : Bool := true
  deriving DecidableEq, Repr, Inhabited

/-- What can be set about a session. -/
structure Options where
  poll : PollSettings := {}
  retry : RetryPolicy := {}
  bulk : BulkSettings := {}
  deriving DecidableEq, Repr, Inhabited

namespace Options

/-- A multiplier is a number from one to `maxMultiplier`. -/
def checkMultiplier (field : String) (multiplier : Float) : Except ConfigFault Unit :=
  if 1 ≤ multiplier && multiplier ≤ maxMultiplier then .ok ()
  else .error (.multiplierOutOfRange field multiplier)

/-- The first thing that is wrong with the options, if any. -/
def validate (options : Options) : Except ConfigFault Unit := do
  if options.poll.intervalMs = 0 then throw .zeroPollInterval
  if options.retry.initialDelayMs = 0 then throw .zeroRetryDelay
  checkMultiplier "poll.multiplier" options.poll.multiplier
  checkMultiplier "retry.multiplier" options.retry.multiplier

end Options

end SegmentSync
