import SegmentSync.Service.Execution
import SegmentSync.Wire.Frame
import Std.Async.DNS
import Std.Async.Signal
import Std.Async.TCP
import Std.Async.Timer
import Std.Sync.CancellationToken
import Std.Time

/-!
# `SegmentSync.Main` — the program on a real system

Connects the service to files, standard output, the clock, the network, and whoever interrupts the program. A
connection is a TCP connection; sockets with a path are out of reach of this system's library, and opening one fails.
-/

namespace SegmentSync.Main

open Std.Async
open Std.Net (IPAddr SocketAddress)

/-! ## Failures of the system -/

/-- The number of a failure. The network library counts downwards from zero. -/
def failureNumber? (e : IO.Error) : Option Nat :=
  let number : Option UInt32 := match e with
    | .alreadyExists _ n _ | .inappropriateType _ n _ | .invalidArgument _ n _ | .noSuchThing _ n _
    | .permissionDenied _ n _ | .resourceExhausted _ n _ | .noFileOrDirectory _ n _ | .interrupted _ n _
    | .otherError n _ | .resourceBusy n _ | .resourceVanished n _ | .unsupportedOperation n _
    | .hardwareFault n _ | .unsatisfiedConstraints n _ | .illegalOperation n _ | .protocolError n _
    | .timeExpired n _ => some n
    | _ => none
  number.map fun n => if n.toNat < UInt32.size / 2 then n.toNat else UInt32.size - n.toNat

/-- The wording of common failures by their numbers. -/
def failureTexts : List (Nat × String) :=
  [(2, "No such file or directory"), (13, "Permission denied"), (21, "Is a directory"),
    (99, "Cannot assign requested address"), (101, "Network is unreachable"),
    (104, "Connection reset by peer"), (110, "Connection timed out"), (111, "Connection refused"),
    (113, "No route to host")]

/-- A failure in words. -/
def failureText (e : IO.Error) : String :=
  match failureNumber? e with
  | none => toString e
  | some n =>
    match failureTexts.lookup n with
    | some text => text ++ " (os error " ++ Decimal.text n ++ ")"
    | none => toString e

/-! ## Connections -/

/-- The open connections to targets. -/
abbrev Connections := IO.Ref (Table Target TCP.Socket.Client)

/-- The result of an action that ends in time. -/
def within {α : Type} (millis : UInt64) (action : Async α) : IO (Option α) :=
  (Async.race (some <$> action) do
    Std.Async.sleep (.ofNat millis.toNat)
    return none).block

/-- The address of a host and a port. -/
def socketAddress (port : UInt16) : IPAddr → SocketAddress
  | .v4 addr => .v4 ⟨addr, port⟩
  | .v6 addr => .v6 ⟨addr, port⟩

/-- Connects to the first address that can be reached. -/
def connectTo (timeouts : Timeouts) (port : UInt16) :
    List IPAddr → IO (Except ProtocolError TCP.Socket.Client)
  | [] => return .error (.transport "no address")
  | address :: rest => do
    try
      let socket ← TCP.Socket.Client.mk
      match ← within timeouts.connectMs (socket.connect (socketAddress port address)) with
      | some () => return .ok socket
      | none => return .error Wire.Channel.timedOut
    catch e =>
      if rest.isEmpty then return .error (.transport (failureText e)) else connectTo timeouts port rest

/-- Opens a connection to an endpoint. -/
def connect (timeouts : Timeouts) : Endpoint → IO (Except ProtocolError TCP.Socket.Client)
  | .socket _ => return .error (.transport "sockets with a path are not supported")
  | .tcp host port => do
    try
      let addresses ← (DNS.getAddrInfo host (toString port.toNat)).block
      connectTo timeouts port addresses.toList
    catch e => return .error (.transport (failureText e))

/-- Reads a reply; nothing where the connection ends before. -/
def receive (timeouts : Timeouts) (socket : TCP.Socket.Client) :
    (fuel : Nat) → Bytes → IO (Option (Except Wire.Interruption Reply))
  | 0, _ => return none
  | fuel + 1, bytes => do
    match Reply.read bytes with
    | .error .incomplete =>
      match ← within timeouts.responseMs (socket.recv? 65536) with
      | none => return some (.error .incomplete)
      | some none => return none
      | some (some more) => receive timeouts socket fuel (bytes ++ more.toList)
    | result => return some result

/-- Sends a request over the connection to a target. The connection is given up where it is not open
    afterwards. -/
def exchange (connections : Connections) (timeouts : Timeouts) (target : Target) (request : Request) :
    IO (Except ProtocolError Reply) := do
  match (← connections.get).find? target with
  | none => return .error (Wire.Channel.notConnected target.endpoint)
  | some socket =>
    let reply ← try
        (socket.send request.encode.toByteArray).block
        receive timeouts socket UInt64.size []
      catch _ => pure none
    let (result, channel) := match reply with
      | some reply => Wire.Channel.conclude reply
      | none => (.error Wire.Channel.lost, .closed)
    if channel ≠ .opened then connections.modify (Table.erase · target)
    return result

/-- Opens a fresh connection to a target. -/
def reopen (connections : Connections) (timeouts : Timeouts) (target : Target) :
    IO (Except ProtocolError Unit) := do
  connections.modify (Table.erase · target)
  match ← connect timeouts target.endpoint with
  | .error failure => return .error failure
  | .ok socket =>
    connections.modify fun table => table.insert target socket
    return .ok ()

/-! ## The stop signal -/

/-- The stop signal of all sessions. -/
abbrev StopSignal := Std.CancellationToken

/-- Waits until the time is over or the signal fires; where both are the case, either may be the answer. Nobody lets the
    signal go before the sessions end. -/
def wait (signal : StopSignal) (time : Duration) : IO Wake :=
  Async.block do
    let timer ← Selector.sleep (.ofNat time.millisCeil)
    Selectable.one #[.case timer fun _ => return .elapsed, .case signal.selector fun _ => return .signalled]

/-- Does something; whoever interrupts the program meanwhile fires the signal. -/
def interruptible {α : Type} (signal : StopSignal) (onInterrupt : IO Unit) (action : IO α) : IO α := do
  let heed : Except IO.Error Int → IO Unit
    | .ok _ => do
      onInterrupt
      signal.cancel
    | .error _ => pure ()
  let interrupts ← Signal.Waiter.mk .sigint false
  let heeding ← IO.mapTask heed (← interrupts.wait)
  try action
  finally
    interrupts.stop
    IO.cancel heeding

/-! ## The system -/

/-- Answers an effect. -/
def answer (connections : Connections) (signal : StopSignal) (timeouts : Timeouts) :
    (effect : Effect Target) → IO effect.Answer
  | .execute target request => exchange connections timeouts target request
  | .reopen target => reopen connections timeouts target
  | .stopRequested => (signal.isCancelled : IO Bool)
  | .wait time => wait signal time
  | .rest time => ((Std.Async.sleep (.ofNat time.millisCeil)).block : IO Unit)
  | .report _ => (pure () : IO Unit)
  | .log _ _ => (pure () : IO Unit)
  | .clock => do return ⟨← IO.monoNanosNow⟩

/-- The content of a file. -/
def readFile (path : String) : IO (Except FileFault Bytes) := do
  try return .ok (← IO.FS.readBinFile path).toList
  catch e => return .error (.stated (failureText e))

/-- The time of day, to the microsecond. -/
def timestamp : IO String := do
  let now := Std.Time.DateTime.ofTimestampWithZone (← Std.Time.Timestamp.now) .UTC
  return now.format "uuuu-MM-dd'T'HH:mm:ss.SSSSSS'Z'"

/-- Writes a line of the log with the time before it. -/
def writeLine (format : LogFormat) (line : LogLine) : IO Unit := do
  let time ← timestamp
  match format, line.json with
  | .json, .object members =>
    IO.println (Json.Value.object ((some "timestamp", .text time) :: members)).write
  | _, _ => IO.println (time ++ " " ++ line.plain)

/-- Does several things, each in a thread of its own. -/
def together (signal : StopSignal) (onInterrupt : IO Unit) (things : List (IO Bool)) : IO (List Bool) :=
  interruptible signal onInterrupt do
    let tasks ← things.mapM fun thing => IO.asTask thing .dedicated
    tasks.mapM fun task => do IO.ofExcept (← IO.wait task)

/-- This system. -/
def surroundings (connections : Connections) (signal : StopSignal) : Surroundings IO where
  readFile
  directives := IO.getEnv "RUST_LOG"
  answer := answer connections signal
  writeLine
  print := IO.print
  complain := IO.eprint
  together := together signal
  rounds := UInt64.size

end SegmentSync.Main

/-- Runs the program. -/
def main (words : List String) : IO UInt32 := do
  let connections ← IO.mkRef .empty
  let signal ← Std.CancellationToken.new
  SegmentSync.Service.execute (SegmentSync.Main.surroundings connections signal) words
