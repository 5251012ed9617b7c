import SegmentSync.Duration
import SegmentSync.Position

/-!
# `SegmentSync.Session.Progress` — progress reports

## Contents
- **Reports.** `Progress.report` derives a report from two readings of both sides and the time between them.
- **Wording.** `humanSize` counts in units of 1024 octets; `Report.text` is the line that is logged.
- **Logging.** `Ticker` decides at which level a report is logged: lines of a running copy at most once per
  interval, all others always.
-/

namespace SegmentSync

/-- How important a log line is. -/
inductive Level where
  | error
  | warn
  | info
  | debug
  | trace
  deriving DecidableEq, Repr, Inhabited

/-- The rank of a level: the more important, the lower. -/
def Level.rank : Level → Nat
  | .error => 1
  | .warn => 2
  | .info => 3
  | .debug => 4
  | .trace => 5

/-- A reading of the master and one of the slave. They are the latest ones, and need not be of the same round. -/
structure PairSnapshot where
  master : Snapshot
  slave : Snapshot
  deriving DecidableEq, Repr, Inhabited

/-- What a session was doing when it reported. -/
inductive Phase where
  | syncing
  | waiting
  | finished
  deriving DecidableEq, Repr, Inhabited

/-- A progress report. -/
structure Report where
  phase : Phase
  synced : UInt64
  total : UInt64
  percent : Float
  /-- Growth of the slave between the two readings, in bytes per second. -/
  bytesPerSecond : Float
  /-- The position that is asked of the master. -/
  slave : Position
  master : Position
  deriving DecidableEq, Repr, Inhabited

namespace Progress

/-- The share of the slave in the master's data, at most a hundred percent; all of it where there is
    nothing. -/
def percent (synced total : UInt64) : Float :=
  if total = 0 then 100
  else
    let share := synced.toFloat / total.toFloat * 100
    if share < 100 then share else 100

/-- Growth per second; none where no time has passed, and none where the data shrank. -/
def throughput (previous current : UInt64) (elapsed : Duration) : Float :=
  let seconds := elapsed.toSeconds
  if 0 < seconds then
    (if previous ≤ current then current - previous else 0).toFloat / seconds
  else 0

/-- The report on two readings, `elapsed` apart. -/
def report (previous current : PairSnapshot) (elapsed : Duration) (phase : Phase) : Report where
  phase
  synced := current.slave.size
  total := current.master.size
  percent := percent current.slave.size current.master.size
  bytesPerSecond := throughput previous.slave.size current.slave.size elapsed
  slave := current.slave.position
  master := current.master.position

/-! ## Wording -/

/-- The units of sizes, each 1024 times the one before. -/
def sizeUnits : List String := ["KB", "MB", "GB", "TB"]

/-- Divides by 1024 while the value is that large and there is a larger unit. -/
def scaleSize (value : Float) : List String → String
  | [] => ""
  | [unit] => Binary64.fixed 2 value ++ " " ++ unit
  | unit :: larger =>
    if 1024 ≤ value then scaleSize (value / 1024) larger else Binary64.fixed 2 value ++ " " ++ unit

/-- A size with two places in its largest suitable unit. -/
def humanSize (bytes : UInt64) : String := scaleSize (bytes.toFloat / 1024) sizeUnits

end Progress

/-- The phase in words. -/
def Phase.text : Phase → String
  | .syncing => "syncing"
  | .waiting => "waiting for changes"
  | .finished => "finished"

/-- The report in one line. -/
def Report.text (report : Report) : String :=
  report.phase.text ++ ": " ++ Progress.humanSize report.synced ++ " / " ++
    Progress.humanSize report.total ++ " (" ++ Binary64.fixed 1 report.percent ++ "%), " ++
    Progress.humanSize report.bytesPerSecond.toUInt64 ++ "/s, requesting " ++ report.slave.text ++
    " [master " ++ report.master.text ++ "]"

/-! ## Logging -/

/-- Keeps the log lines of a running copy apart by an interval. -/
structure Ticker where
  interval : Duration := ⟨1000000000⟩
  /-- When a line was logged last. -/
  last : Option Duration := none
  deriving DecidableEq, Repr, Inhabited

namespace Ticker

/-- The level of a report's line at the time `now`, and the ticker after it. -/
def observe (ticker : Ticker) (now : Duration) (report : Report) : Level × Ticker :=
  let due := match ticker.last with
    | none => true
    | some last => ticker.interval.nanos ≤ now.nanos - last.nanos
  if report.phase ≠ .syncing || due then (.info, { ticker with last := some now })
  else (.debug, ticker)

end Ticker

end SegmentSync
