import SegmentSync.Invocation.Basic
import SegmentSync.Service.Failure
import SegmentSync.Service.Surroundings
import SegmentSync.Session.Run

/-!
# `SegmentSync.Service.Job` — one session, from its targets to its end

## Contents
- **Jobs.** `Job`, of a configured session or of a pair on the command line.
- **Runs.** `Job.run` opens both sides, each under the retry policy, and runs the session.
-/

namespace SegmentSync

/-! ## Jobs -/

/-- A session to be started. -/
structure Job where
  name : String
  strategy : Strategy
  master : Target
  slave : Target
  options : Options
  deriving DecidableEq, Repr

namespace Job

/-- The job of a configured session. -/
def ofEntry (options : Options) (entry : SessionEntry) : Job where
  name := entry.name
  strategy := entry.strategy
  master := entry.masterTarget
  slave := entry.slaveTarget
  options

/-- The job of a pair, named for its namespace. -/
def ofPair (strategy : Strategy) (keepFrozen : Bool) (pair : Invocation.Pair) : Job where
  name := pair.space
  strategy
  master := { endpoint := pair.master, space := pair.space, password := pair.masterPassword, label := "master" }
  slave := { endpoint := pair.slave, space := pair.space, password := pair.slavePassword, label := "slave" }
  options := {
    poll := { intervalMs := pair.pollIntervalMs }
    retry := { maxRetries := pair.maxRetries }
    bulk := { unfreezeOnCompletion := !keepFrozen } }

/-- Checks the options of jobs in their order. -/
def validate : List Job → Except ServiceFailure Unit
  | [] => .ok ()
  | job :: rest =>
    match job.options.validate with
    | .ok () => validate rest
    | .error fault => .error (.badOptions job.name fault)

/-! ## Runs -/

variable {m : Type → Type} [Monad m]

/-- The client of a target that has not been connected to. -/
def freshClient (target : Target) : Client Target := { link := target, target }

/-- Opens a target under a retry policy; no client where the job is stopped meanwhile. -/
def openTarget (handle : (effect : Effect Target) → m effect.Answer) (policy : RetryPolicy)
    (target : Target) : m (Except ServiceFailure (Option (Client Target))) := do
  let (result, client) ← (withRetry policy target.text Client.connect (freshClient target)).run handle
  match result with
  | .ok (some ()) => return .ok (some client)
  | .ok none => return .ok none
  | .error failure => return .error (.notOpened target failure)

/-- Answers an effect of a session; its reports are logged as often as the ticker lets them. -/
def observe (s : Surroundings m) (logging : Logging) (timeouts : Timeouts) (scope : LogScope) :
    (effect : Effect Target) → StateT Ticker m effect.Answer
  | .report report => do
    let now : Duration ← s.answer timeouts .clock
    let (level, ticker) := (← get).observe now report
    set ticker
    s.log logging scope level report.text
  | effect => s.handle logging timeouts scope effect

/-- Answers an effect of a session whose reports go to a progress bar, which is not part of the output. -/
def ignoreReports (s : Surroundings m) (logging : Logging) (timeouts : Timeouts) (scope : LogScope) :
    (effect : Effect Target) → m effect.Answer
  | .report _ => pure ()
  | effect => s.handle logging timeouts scope effect

/-- Runs a session of two open clients; no outcome where it is still running after all its rounds. -/
def runSession (s : Surroundings m) (logging : Logging) (timeouts : Timeouts) (logsProgress : Bool)
    (session : Session Target) : m (Except ServiceFailure (Option Outcome)) := do
  let scope : LogScope := ⟨session.name, session.space⟩
  let program := Session.run s.rounds session
  let (result, _) ←
    if logsProgress then (program.run (observe s logging timeouts scope)).run' {}
    else program.run (ignoreReports s logging timeouts scope)
  return result.mapError .aborted

/-- Opens both sides and runs the session. -/
def run (s : Surroundings m) (logging : Logging) (timeouts : Timeouts) (logsProgress : Bool) (job : Job) :
    m (Except ServiceFailure (Option Outcome)) := do
  let openTarget := openTarget (s.handle logging timeouts none) job.options.retry
  match ← openTarget job.master with
  | .error failure => return .error failure
  | .ok none => return .ok (some .stopped)
  | .ok (some master) =>
    match ← openTarget job.slave with
    | .error failure => return .error failure
    | .ok none => return .ok (some .stopped)
    | .ok (some slave) =>
      match Session.make job.name job.strategy master slave job.options with
      | .error failure => return .error (.aborted failure)
      | .ok session => runSession s logging timeouts logsProgress session

end Job

end SegmentSync
