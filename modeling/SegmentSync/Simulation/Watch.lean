import SegmentSync.Simulation.World
import SegmentSync.Session.Run

/-!
# `SegmentSync.Simulation.Watch` — a run that is watched

A watched run starts with a fresh allowance, fresh counts and hooks of its own, and ends with what was seen:
the result, the reports, the lines of the log, and how long it took.
-/

namespace SegmentSync.Simulation

/-- Happenings that wait for something in a run. -/
structure Plan where
  hooks : List (Trigger × List Happening) := []
  /-- Happenings at times after the start of the run, in milliseconds. -/
  timed : List (Nat × List Happening) := []

/-- What was seen of a run. -/
structure Seen (α : Type) where
  result : α
  reports : List Report
  lines : List (Level × String)
  /-- The time that the run took, in milliseconds. -/
  elapsed : Nat

namespace World

/-- How much may be sent in a run. -/
def runAllowance : Nat := 400

/-- Does something in the world while a plan is followed. -/
def watch {α : Type} (plan : Plan) (run : StateM World α) : StateM World (Seen α) := do
  let start := (← get).now
  let timed := (plan.timed.map fun (time, happenings) => (start + time, happenings)).mergeSort
    fun a b => a.1 ≤ b.1
  modify fun world => { world with
    allowance := runAllowance, counts := .empty, hooks := plan.hooks, timed, reports := [], lines := [] }
  let result ← run
  let world ← get
  set { world with hooks := [], timed := [] }
  return {
    result, reports := world.reports.reverse, lines := world.lines.reverse
    elapsed := world.now - start }

/-- Runs a session. Every round sends something, so that the allowance bounds the number of rounds. -/
def runSession (signal : Option String) (plan : Plan) (session : Session String) :
    StateM World (Seen (Except SyncError (Option Outcome)) × Session String) := do
  let seen ← watch plan (perform signal (Session.run (runAllowance + 1)) session)
  return ({ seen with result := seen.result.1 }, seen.result.2)

end World

end SegmentSync.Simulation
