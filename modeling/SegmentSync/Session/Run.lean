import SegmentSync.Session.Bulk
import SegmentSync.Session.Incremental

/-!
# `SegmentSync.Session.Run` — a session from start to end

`run` refuses to start with a client that is not logged in, and then follows the strategy of the session. The
number of rounds is limited from outside; `none` means that the session was still running.
-/

namespace SegmentSync.Session

variable {ι : Type}

/-- Follows the strategy of the session. -/
def follow (limit : Nat) : Action (Session ι) ι (Option Outcome) := do
  match (← get).strategy with
  | .bulk => runBulk limit
  | .incremental => runIncremental limit

/-- Runs the session for at most `limit` rounds of each kind. -/
def run (limit : Nat) : Action (Session ι) ι (Option Outcome) := do
  ensureAuthenticated
  Action.log .info ("Starting " ++ (← get).strategy.text ++ " sync")
  match ← Action.attempt (follow limit) with
  | .ok none => return none
  | .ok (some outcome) =>
    Action.log .info ("Session ended: " ++ outcome.text)
    return some outcome
  | .error failure =>
    Action.log .error ("Session aborted: " ++ failure.message)
    throw failure

end SegmentSync.Session
