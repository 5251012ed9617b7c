import SegmentSync.Endpoint
import SegmentSync.Invocation.Grammar

/-!
# `SegmentSync.Invocation.Basic` — what the program is called to do

## Contents
- **Tasks.** `Task`: a bulk copy or an incremental replication of one pair of stores, the sessions of a
  configuration file, or a look at one namespace.
- **Reading.** `Invocation.read` takes the words of a command line: options for every task, the name of the
  task, and the options of the task.
-/

namespace SegmentSync

namespace Invocation

/-! ## Tasks -/

/-- Where a store is, unless somebody says otherwise. -/
def defaultEndpoint : Endpoint := .tcp "127.0.0.1" 9900

/-- The namespace, unless somebody says otherwise. -/
def defaultSpace : String := "default"

/-- Two stores that replicate one namespace. -/
structure Pair where
  master : Endpoint := defaultEndpoint
  masterPassword : Option String := none
  slave : Endpoint
  slavePassword : Option String := none
  space : String := defaultSpace
  /-- The wait of a slave that has caught up. -/
  pollIntervalMs : UInt64 := 10000
  maxRetries : UInt32 := 5
  /-- Progress is logged. -/
  noProgress : Bool := false
  deriving DecidableEq, Repr

/-- One store and one namespace to look at. -/
structure Look where
  endpoint : Endpoint := defaultEndpoint
  password : Option String := none
  space : String := defaultSpace
  /-- The answer is for programs. -/
  json : Bool := false
  deriving DecidableEq, Repr

/-- What there is to do. -/
inductive Task where
  | bulk (pair : Pair) (keepFrozen : Bool)
  | incremental (pair : Pair)
  /-- Runs the sessions of a configuration file. -/
  | run (config : String)
  | info (look : Look)
  deriving DecidableEq, Repr

/-- What holds for every task. -/
structure Common where
  verbose : Bool := false
  logJson : Bool := false
  deriving DecidableEq, Repr

end Invocation

/-- A task, and how it is to be logged. -/
structure Invocation where
  task : Invocation.Task
  common : Invocation.Common := {}
  deriving DecidableEq, Repr

namespace Invocation

/-! ## Reading -/

/-- The options for every task. -/
def commonRules : List (OptionRule Common) :=
  [flagRule "verbose" (some 'v') fun common => { common with verbose := true },
    flagRule "log-json" none fun common => { common with logJson := true }]

/-- An option whose value is an endpoint. -/
def endpointRule {σ : Type} (long : String) (short : Option Char) (change : Endpoint → σ → σ) :
    OptionRule σ :=
  valueRule long short fun value s => (Endpoint.read value).toOption.map fun endpoint => change endpoint s

/-- An option whose value is any text. -/
def textRule {σ : Type} (long : String) (short : Option Char) (change : String → σ → σ) : OptionRule σ :=
  valueRule long short fun value s => some (change value s)

/-- Reads a number of attempts, with a sign before it or without. -/
def readAttempts? (value : String) : Option UInt32 := do
  let n ← Decimal.readSigned64 value.toList
  if n < 0 || UInt32.size ≤ n then none else some n.toNat.toUInt32

/-- The options that a pair has besides its slave. -/
def pairRules : List (OptionRule Pair) :=
  [endpointRule "master" none fun master pair => { pair with master },
    textRule "master-password" none fun password pair => { pair with masterPassword := some password },
    textRule "slave-password" none fun password pair => { pair with slavePassword := some password },
    textRule "namespace" (some 'n') fun space pair => { pair with space },
    valueRule "poll-interval-ms" none fun value pair =>
      (Decimal.readUInt64 value.toList).toOption.map fun n => { pair with pollIntervalMs := n },
    valueRule "max-retries" none fun value pair =>
      (readAttempts? value).map fun n => { pair with maxRetries := n },
    flagRule "no-progress" none fun pair => { pair with noProgress := true }]

/-- The options of a pair as they are given. -/
structure PairWords where
  slave : Option Endpoint := none
  keepFrozen : Bool := false
  /-- The pair, with any slave. -/
  pair : Pair := { slave := defaultEndpoint }

/-- The options of an incremental replication. -/
def incrementalRules : List (OptionRule PairWords) :=
  endpointRule "slave" none (fun slave words => { words with slave := some slave }) ::
    pairRules.map (OptionRule.focus PairWords.pair fun words pair => { words with pair })

/-- The options of a bulk copy. -/
def bulkRules : List (OptionRule PairWords) :=
  flagRule "keep-frozen" none (fun words => { words with keepFrozen := true }) :: incrementalRules

/-- The options of a run: the path of a configuration file, which is not empty. -/
def runRules : List (OptionRule String) :=
  [valueRule "config" (some 'c') fun value _ => if value.isEmpty then none else some value]

/-- The options of a look. -/
def lookRules : List (OptionRule Look) :=
  [endpointRule "endpoint" (some 'e') fun endpoint look => { look with endpoint },
    textRule "password" (some 'p') fun password look => { look with password := some password },
    textRule "namespace" (some 'n') fun space look => { look with space },
    flagRule "json" none fun look => { look with json := true }]

/-- Reads the options of a task and those for every task; there are no operands. -/
def readTask {σ : Type} (rules : List (OptionRule σ)) (default : σ) (common : Common)
    (words : List String) : Except Refusal (Common × σ) := do
  let all : List (OptionRule (Common × σ)) :=
    commonRules.map (OptionRule.focus Prod.fst fun (_, task) common => (common, task)) ++
      rules.map (OptionRule.focus Prod.snd fun (common, _) task => (common, task)) ++ [helpRule]
  match ← OptionRule.scan all words.length words { settings := (common, default) } with
  | (settings, []) => return settings
  | _ => throw .usage

/-- Reads the options of a pair, which needs a slave. -/
def readPair (rules : List (OptionRule PairWords)) (common : Common) (words : List String) :
    Except Refusal (Common × Pair × Bool) := do
  let (common, given) ← readTask rules {} common words
  match given.slave with
  | some slave => return (common, { given.pair with slave }, given.keepFrozen)
  | none => throw .usage

/-- The names of the tasks. -/
def taskNames : List String := ["bulk", "incremental", "run", "info"]

/-- The words behind a call for help name one task at most. -/
def readHelp : List String → Refusal
  | [] => .help
  | [name] => if name ∈ taskNames || name = "help" then .help else .usage
  | _ => .usage

/-- Reads the words of a command line. -/
def read (words : List String) : Except Refusal Invocation := do
  match ← OptionRule.scan (commonRules ++ [helpRule, versionRule]) words.length words { settings := {} } with
  | (common, "bulk" :: rest) =>
    let (common, pair, keepFrozen) ← readPair bulkRules common rest
    return { task := .bulk pair keepFrozen, common }
  | (common, "incremental" :: rest) =>
    let (common, pair, _) ← readPair incrementalRules common rest
    return { task := .incremental pair, common }
  | (common, "run" :: rest) =>
    let (common, config) ← readTask runRules "zdb-sync.yml" common rest
    return { task := .run config, common }
  | (common, "info" :: rest) =>
    let (common, look) ← readTask lookRules {} common rest
    return { task := .info look, common }
  | (_, "help" :: rest) => throw (readHelp rest)
  | _ => throw .usage

end Invocation

end SegmentSync
