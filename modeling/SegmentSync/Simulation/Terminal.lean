import SegmentSync.Service.Execution
import SegmentSync.Simulation.World

/-!
# `SegmentSync.Simulation.Terminal` — a system for the whole program

A terminal holds a world, some files, and who listens at which endpoint. It keeps what the program prints, and
does one thing after another.
-/

namespace SegmentSync.Simulation

/-- What the program prints. -/
inductive Output where
  | text (text : String)
  | line (format : LogFormat) (line : LogLine)
  deriving DecidableEq, Repr

/-- A system. -/
structure Terminal where
  world : World
  /-- Who listens at an endpoint. -/
  peers : Endpoint → Peer
  files : String → Except FileFault Bytes
  /-- The directives for the log that the system asks for. -/
  directives : Option String := none
  /-- What was printed, the latest first. -/
  output : List Output := []
  /-- What was complained about, the latest first. -/
  complaints : List String := []

namespace Terminal

/-- How much the program may send, and how many rounds a session may take. -/
def allowance : Nat := 1000000

/-- Lets something happen in the world. -/
def inWorld {α : Type} (x : StateM World α) : StateM Terminal α := fun terminal =>
  let (a, world) := x terminal.world
  (a, { terminal with world })

/-- The link to a target, which is a socket. -/
def link (target : Target) : StateM Terminal String := do
  let terminal ← get
  if !terminal.world.links.contains target.label then
    let socket : Socket := { endpoint := target.endpoint, peer := terminal.peers target.endpoint }
    inWorld (World.putLink target.label (.socket socket))
  return target.label

/-- Answers an effect. Nobody interrupts the program. -/
def answer : (effect : Effect Target) → StateM Terminal effect.Answer
  | .execute target request => do inWorld (World.execute (← link target) request)
  | .reopen target => do inWorld (World.reopen (← link target))
  | .stopRequested => fun terminal => (false, terminal)
  | .wait time => inWorld (World.wait none time)
  | .rest time => inWorld (World.rest time)
  | .report report => inWorld (World.observe report)
  | .log _ _ => pure ()
  | .clock => inWorld (World.handle none .clock)

/-- The terminal as the surroundings of the program. -/
def surroundings : Surroundings (StateM Terminal) where
  readFile path := do return (← get).files path
  directives := do return (← get).directives
  answer _ := answer
  writeLine format line := modify fun t => { t with output := .line format line :: t.output }
  print text := modify fun t => { t with output := .text text :: t.output }
  complain text := modify fun t => { t with complaints := text :: t.complaints }
  together _ things := things.mapM id
  rounds := allowance

/-- Runs the program on a terminal; the exit code, and the terminal after it. -/
def execute (terminal : Terminal) (words : List String) : UInt32 × Terminal :=
  let world := { terminal.world with allowance }
  Service.execute surroundings words { terminal with world }

end Terminal

end SegmentSync.Simulation
