import SegmentSync.Configuration.Basic
import SegmentSync.Json.Value

/-!
# `SegmentSync.Configuration.Writer` — configurations as JSON

Every part of a configuration is an object with all of its members, those with defaults included. How a double
is written is up to the caller.
-/

namespace SegmentSync

open Json (Value)

/-- How a delay grows. -/
def Growth.text : Growth → String
  | .fixed => "fixed"
  | .exponential => "exponential"

/-- The log format in words. -/
def LogFormat.name : LogFormat → String
  | .text => "text"
  | .json => "json"

/-- A password, or null. -/
def passwordJson : Option String → Value
  | some password => .text password
  | none => .null

/-- The settings of polls as an object. -/
def PollSettings.json (double : Float → Value) (poll : PollSettings) : Value :=
  .record [("strategy", .text poll.growth.text), ("interval_ms", .natural poll.intervalMs.toNat),
    ("max_interval_ms", .natural poll.maxIntervalMs.toNat), ("multiplier", double poll.multiplier)]

/-- A retry policy as an object. -/
def RetryPolicy.json (double : Float → Value) (policy : RetryPolicy) : Value :=
  .record [("max_retries", .natural policy.maxRetries.toNat),
    ("initial_delay_ms", .natural policy.initialDelayMs.toNat),
    ("max_delay_ms", .natural policy.maxDelayMs.toNat), ("multiplier", double policy.multiplier)]

/-- The settings of bulk copies as an object. -/
def BulkSettings.json (bulk : BulkSettings) : Value :=
  .record [("unfreeze_on_completion", .boolean bulk.unfreezeOnCompletion)]

/-- Timeouts as an object. -/
def Timeouts.json (timeouts : Timeouts) : Value :=
  .record [("connect_timeout_ms", .natural timeouts.connectMs.toNat),
    ("response_timeout_ms", .natural timeouts.responseMs.toNat)]

/-- The settings of the log as an object. -/
def LogSettings.json (logging : LogSettings) : Value :=
  .record [("level", .text logging.level), ("format", .text logging.format.name)]

/-- A side of a session as an object. -/
def Side.json (side : Side) : Value :=
  .record [("endpoint", .text side.endpoint.text), ("password", passwordJson side.password)]

/-- A session as an object. -/
def SessionEntry.json (entry : SessionEntry) : Value :=
  .record [("name", .text entry.name), ("strategy", .text entry.strategy.text),
    ("namespace", .text entry.space), ("master", entry.master.json), ("slave", entry.slave.json)]

/-- A configuration as an object. -/
def Configuration.json (double : Float → Value) (configuration : Configuration) : Value :=
  .record [("logging", configuration.logging.json), ("connection", configuration.timeouts.json),
    ("poll", configuration.options.poll.json double), ("retry", configuration.options.retry.json double),
    ("bulk", configuration.options.bulk.json),
    ("sessions", .array (configuration.sessions.map SessionEntry.json))]

end SegmentSync
