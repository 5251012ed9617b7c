import SegmentSync.Configuration.Basic
import SegmentSync.Document.Node

/-!
# `SegmentSync.Configuration.Reader` — the parts of a configuration in documents

Every part is a record. A setting that is missing has its default; a setting that is there has to be of its
kind.

## Contents
- **Choices.** Names of strategies, of growth, of log formats; endpoints, which are texts.
- **Settings.** Records all of whose members may be missing.
- **Sessions and configurations.** Records with members that must be there.
-/

namespace SegmentSync

variable {ν : Type} [Node ν]

/-! ## Choices -/

/-- Reads an endpoint. -/
def Endpoint.reader : Reader ν Endpoint := fun node => do
  (Endpoint.read (← Node.text? node)).toOption

/-- Reads a choice from its name. -/
def Reader.oneOf {α : Type} (choices : List (String × α)) : Reader ν α := fun node => do
  choices.lookup (← Node.choice? node)

/-- Reads a strategy. -/
def Strategy.reader : Reader ν Strategy := .oneOf [("bulk", .bulk), ("incremental", .incremental)]

/-- Reads how a delay grows. -/
def Growth.reader : Reader ν Growth := .oneOf [("fixed", .fixed), ("exponential", .exponential)]

/-- Reads a log format. -/
def LogFormat.reader : Reader ν LogFormat := .oneOf [("text", .text), ("json", .json)]

/-! ## Settings -/

/-- Reads the settings of polls. -/
def PollSettings.reader : Reader ν PollSettings := fun node => do
  let standard : PollSettings := {}
  match ← Node.members? ["strategy", "interval_ms", "max_interval_ms", "multiplier"] node with
  | [growth, interval, maxInterval, multiplier] =>
    return {
      growth := ← Reader.withDefault standard.growth Growth.reader growth
      intervalMs := ← Reader.withDefault standard.intervalMs .word64 interval
      maxIntervalMs := ← Reader.withDefault standard.maxIntervalMs .word64 maxInterval
      multiplier := ← Reader.withDefault standard.multiplier Node.double? multiplier }
  | _ => none

/-- Reads a retry policy. -/
def RetryPolicy.reader : Reader ν RetryPolicy := fun node => do
  let standard : RetryPolicy := {}
  match ← Node.members? ["max_retries", "initial_delay_ms", "max_delay_ms", "multiplier"] node with
  | [maxRetries, initialDelay, maxDelay, multiplier] =>
    return {
      maxRetries := ← Reader.withDefault standard.maxRetries .word32 maxRetries
      initialDelayMs := ← Reader.withDefault standard.initialDelayMs .word64 initialDelay
      maxDelayMs := ← Reader.withDefault standard.maxDelayMs .word64 maxDelay
      multiplier := ← Reader.withDefault standard.multiplier Node.double? multiplier }
  | _ => none

/-- Reads the settings of bulk copies. -/
def BulkSettings.reader : Reader ν BulkSettings := fun node => do
  let standard : BulkSettings := {}
  match ← Node.members? ["unfreeze_on_completion"] node with
  | [unfreeze] =>
    return { unfreezeOnCompletion :=
      ← Reader.withDefault standard.unfreezeOnCompletion Node.boolean? unfreeze }
  | _ => none

/-- Reads timeouts. -/
def Timeouts.reader : Reader ν Timeouts := fun node => do
  let standard : Timeouts := {}
  match ← Node.members? ["connect_timeout_ms", "response_timeout_ms"] node with
  | [connect, response] =>
    return {
      connectMs := ← Reader.withDefault standard.connectMs .word64 connect
      responseMs := ← Reader.withDefault standard.responseMs .word64 response }
  | _ => none

/-- Reads the settings of the log. -/
def LogSettings.reader : Reader ν LogSettings := fun node => do
  let standard : LogSettings := {}
  match ← Node.members? ["level", "format"] node with
  | [level, format] =>
    return {
      level := ← Reader.withDefault standard.level Node.text? level
      format := ← Reader.withDefault standard.format LogFormat.reader format }
  | _ => none

/-! ## Sessions and configurations -/

/-- Reads a side of a session. -/
def Side.reader : Reader ν Side := fun node => do
  match ← Node.members? ["endpoint", "password"] node with
  | [endpoint, password] =>
    return {
      endpoint := ← Reader.required Endpoint.reader endpoint
      password := ← Reader.withDefault none (Reader.nullable Node.text?) password }
  | _ => none

/-- Reads a session. -/
def SessionEntry.reader : Reader ν SessionEntry := fun node => do
  match ← Node.members? ["name", "strategy", "namespace", "master", "slave"] node with
  | [name, strategy, space, master, slave] =>
    return {
      name := ← Reader.required Node.text? name
      strategy := ← Reader.withDefault .incremental Strategy.reader strategy
      space := ← Reader.required Node.text? space
      master := ← Reader.required Side.reader master
      slave := ← Reader.required Side.reader slave }
  | _ => none

/-- Reads a configuration, which need not be valid. -/
def Configuration.reader : Reader ν Configuration := fun node => do
  match ← Node.members? ["logging", "connection", "poll", "retry", "bulk", "sessions"] node with
  | [logging, timeouts, poll, retry, bulk, sessions] =>
    return {
      logging := ← Reader.withDefault {} LogSettings.reader logging
      timeouts := ← Reader.withDefault {} Timeouts.reader timeouts
      options := {
        poll := ← Reader.withDefault {} PollSettings.reader poll
        retry := ← Reader.withDefault {} RetryPolicy.reader retry
        bulk := ← Reader.withDefault {} BulkSettings.reader bulk }
      sessions := ← Reader.required (.each SessionEntry.reader) sessions }
  | _ => none

end SegmentSync
