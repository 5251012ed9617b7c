import SegmentSync.Configuration.File
import SegmentSync.Log.Filter
import SegmentSync.Program
import SegmentSync.Wire.Channel

/-!
# `SegmentSync.Service.Surroundings` — what the service needs of the system

The service is written against what it needs, so that it runs on a real system and on a made-up one alike.

## Contents
- **Needs.** `Surroundings`: files, output, effects, and doing several things at a time.
- **The log.** `Logging`: which lines are written, and how.
- **Effects.** `Surroundings.handle` writes the log lines of programs, and a line before and after every
  connection that is opened.
-/

namespace SegmentSync

/-! ## Needs -/

/-- What the service needs of the system. -/
structure Surroundings (m : Type → Type) where
  readFile : String → m (Except FileFault Bytes)
  /-- The directives for the log that the system asks for, if it does. -/
  directives : m (Option String)
  /-- Answers an effect; connections wait no longer than they may. -/
  answer : Timeouts → (effect : Effect Target) → m effect.Answer
  /-- Writes a line of the log. -/
  writeLine : LogFormat → LogLine → m Unit
  /-- Prints a text. -/
  print : String → m Unit
  /-- Prints a text where complaints go. -/
  complain : String → m Unit
  /-- Does several things, all at a time where the system can. Whoever interrupts the program meanwhile fires the stop
      signal of them all, and `onInterrupt` is done first. -/
  together : (onInterrupt : m Unit) → List (m Bool) → m (List Bool)
  /-- How many rounds a session may take. -/
  rounds : Nat

/-! ## The log -/

/-- Which lines of the log are written, and how. -/
structure Logging where
  filter : LogFilter
  format : LogFormat
  deriving DecidableEq, Repr

namespace Surroundings

variable {m : Type → Type} [Monad m]

/-- Writes a line to the log if it is to be written. -/
def log (s : Surroundings m) (logging : Logging) (scope : Option LogScope) (level : Level)
    (text : String) : m Unit :=
  match logging.filter.apply { level, scope, text } with
  | some line => s.writeLine logging.format line
  | none => pure ()

/-- The filter that the system asks for; where it asks for none that can be read, the one that is
    configured. -/
def filter (s : Surroundings m) (configured : String) : m LogFilter := do
  match (← s.directives).bind LogFilter.read? with
  | some filter => return filter
  | none =>
    let (filter, ignored) := LogFilter.readLenient configured
    ignored.forM fun message => s.complain (message ++ "\n")
    return filter

/-! ## Effects -/

/-- Answers an effect of a program that runs in a scope. -/
def handle (s : Surroundings m) (logging : Logging) (timeouts : Timeouts) (scope : Option LogScope) :
    (effect : Effect Target) → m effect.Answer
  | .log level text => s.log logging scope level text
  | .reopen target => do
    s.log logging scope .debug (Wire.Channel.openingLine target.endpoint)
    let result : Except ProtocolError Unit ← s.answer timeouts (.reopen target)
    if let .ok () := result then
      s.log logging scope .info (Wire.Channel.openedLine target.endpoint)
    return result
  | effect => s.answer timeouts effect

end Surroundings

end SegmentSync
