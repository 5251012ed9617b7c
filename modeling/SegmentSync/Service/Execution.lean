import SegmentSync.Document.Position
import SegmentSync.Service.Job

/-!
# `SegmentSync.Service.Execution` — the program as a whole

## Contents
- **Tasks.** `runJobs` runs sessions side by side and counts those that fail; `look` prints cursor and size of
  a namespace.
- **Invocations.** `carryOut` loads the configuration where there is one, sets up the log, and does the task.
- **The program.** `execute` goes from the words of the command line to the exit code.
-/

namespace SegmentSync.Service

variable {m : Type → Type} [Monad m]

/-- The name and the version of the program. -/
def programName : String := "zdb-sync"

/-- The version of the program. -/
def programVersion : String := "0.1.0"

/-! ## Tasks -/

/-- Runs a job and logs its end; whether it succeeded. -/
def runJob (s : Surroundings m) (logging : Logging) (timeouts : Timeouts) (logsProgress : Bool) (job : Job) :
    m Bool := do
  match ← job.run s logging timeouts logsProgress with
  | .ok outcome =>
    if let some outcome := outcome then
      s.log logging none .info ("Session " ++ job.name ++ " ended: " ++ outcome.text)
    return true
  | .error failure =>
    s.log logging none .error ("Session " ++ job.name ++ " failed: " ++ failure.line)
    return false

/-- Runs jobs side by side, until they end or are interrupted. None of them starts if the options of one are wrong. -/
def runJobs (s : Surroundings m) (logging : Logging) (timeouts : Timeouts) (logsProgress : Bool)
    (jobs : List Job) : m (Except ServiceFailure Unit) := do
  if let .error failure := Job.validate jobs then return .error failure
  let interrupted := s.log logging none .warn "Interrupt received, stopping sessions"
  let results ← s.together interrupted (jobs.map (runJob s logging timeouts logsProgress))
  let failed := results.count false
  return if failed = 0 then .ok () else .error (.sessionsFailed failed)

/-- The lines about a namespace. -/
def lookText (space : String) (snapshot : Snapshot) : String :=
  "namespace: " ++ space ++ "\nposition:  " ++ snapshot.position.text ++ "\nsize:      " ++
    Progress.humanSize snapshot.size ++ " (" ++ Decimal.text snapshot.size.toNat ++ " bytes)\n"

/-- Prints cursor and size of a namespace. -/
def look (s : Surroundings m) (logging : Logging) (look : Invocation.Look) :
    m (Except ServiceFailure Unit) := do
  let target : Target :=
    { endpoint := look.endpoint, space := look.space, password := look.password, label := "target" }
  let handle := s.handle logging {} none
  let (opened, client) ← (Client.connect (Job.freshClient target)).run handle
  match opened with
  | .error failure => return .error (.notOpened target failure)
  | .ok () =>
    let (result, _) ← (Client.namespaceInfo look.space client).run handle
    match result with
    | .error failure => return .error (.notRead look.space failure)
    | .ok snapshot =>
      s.print (if look.json then snapshot.json.writePretty ++ "\n" else lookText look.space snapshot)
      return .ok ()

/-! ## Invocations -/

/-- Loads the configuration of an invocation that has one. -/
def load (s : Surroundings m) (invocation : Invocation) :
    m (Except ServiceFailure (Option Configuration)) := do
  match invocation.task with
  | .run path =>
    match Configuration.ofFile path (← s.readFile path) with
    | .ok configuration => return .ok (some configuration)
    | .error fault => return .error (.notLoaded path fault)
  | _ => return .ok none

/-- The log of an invocation: what is said on the command line comes before what is configured. -/
def logging (s : Surroundings m) (invocation : Invocation) (configured : LogSettings) : m Logging := do
  let level := if invocation.common.verbose then "debug" else configured.level
  let format := if invocation.common.logJson then .json else configured.format
  return { filter := ← s.filter level, format }

/-- Does the task of an invocation with its configuration. -/
def perform (s : Surroundings m) (logging : Logging) (configuration : Option Configuration) :
    Invocation.Task → m (Except ServiceFailure Unit)
  | .bulk pair keepFrozen => runJobs s logging {} pair.noProgress [.ofPair .bulk keepFrozen pair]
  | .incremental pair => runJobs s logging {} pair.noProgress [.ofPair .incremental false pair]
  | .info it => look s logging it
  | .run _ =>
    match configuration with
    | none => return .ok ()
    | some configuration =>
      runJobs s logging configuration.timeouts (logging.format = .json)
        (configuration.sessions.map (Job.ofEntry configuration.options))

/-- Carries out an invocation. -/
def carryOut (s : Surroundings m) (invocation : Invocation) : m (Except ServiceFailure Unit) := do
  match ← load s invocation with
  | .error failure => return .error failure
  | .ok configuration =>
    let logging ← logging s invocation ((configuration.map Configuration.logging).getD {})
    s.log logging none .info (programName ++ " v" ++ programVersion)
    perform s logging configuration invocation.task

/-! ## The program -/

/-- How the program is called. -/
def usage : String :=
  "Usage: " ++ programName ++ " [--verbose] [--log-json] <bulk|incremental|run|info> [options]\n"

/-- Runs the program; its exit code. -/
def execute (s : Surroundings m) (words : List String) : m UInt32 := do
  match Invocation.read words with
  | .error .usage =>
    s.complain usage
    return 2
  | .error .help =>
    s.print usage
    return 0
  | .error .version =>
    s.print (programName ++ " " ++ programVersion ++ "\n")
    return 0
  | .ok invocation =>
    match ← carryOut s invocation with
    | .ok () => return 0
    | .error failure =>
      s.complain (failure.report ++ "\n")
      return 1

end SegmentSync.Service
