import SegmentSync.Simulation.Watch

/-!
# `SegmentSync.Simulation.Trial` — single mechanisms under test

## Contents
- **Attempts.** `trialRetry` repeats an action whose outcomes are written down beforehand; every attempt counts
  as a command over the link `attemptLink`, so that a hook can wait for it.
- **Pauses.** `trialSleeps` waits several times in a row on one stop signal.
-/

namespace SegmentSync.Simulation

variable {α : Type}

/-! ## Attempts -/

/-- The link over which attempts are announced. -/
def attemptLink : String := "attempt"

/-- The outcome of the attempt with that index; the last one stands for all after it. -/
def outcomeAt (outcomes : List (Except SyncError α)) (index : Nat) : Option (Except SyncError α) :=
  outcomes[min index (outcomes.length - 1)]?

/-- An attempt with the outcome written down for it; the state counts attempts. -/
def attempt (outcomes : List (Except SyncError α)) : Action Nat String α := do
  let index ← get
  set (index + 1)
  let _ ← Action.perform (.execute attemptLink .nsJump)
  match outcomeAt outcomes index with
  | some (.ok value) => return value
  | some (.error failure) => throw failure
  | none => throw (.protocol World.scriptExhausted)

/-- Repeats an action with these outcomes while a plan is followed; the result comes with the number of
    attempts. -/
def trialRetry (signal : Option String) (plan : Plan) (policy : RetryPolicy) (what : String)
    (outcomes : List (Except SyncError α)) :
    StateM World (Seen (Except SyncError (Option α) × Nat)) :=
  World.watch plan (World.perform signal (withRetry policy what (attempt outcomes)) 0)

/-! ## Pauses -/

/-- How a pause ended: what it answered, whether the signal had fired, and at what time. -/
structure Pause where
  answer : Bool
  stopped : Bool
  time : Nat
  deriving DecidableEq, Repr

/-- Waits so many milliseconds after another. -/
def pauses (signal : Option String) : List UInt64 → StateM World (List Pause)
  | [] => return []
  | time :: rest => do
    let answer ← (Program.sleep (.ofMillis time)).run (World.handle signal)
    let world ← get
    let pause : Pause := ⟨answer, world.isStopped signal, world.now⟩
    return pause :: (← pauses signal rest)

/-- Waits several times in a row while a plan is followed. -/
def trialSleeps (signal : Option String) (plan : Plan) (times : List UInt64) :
    StateM World (Seen (List Pause)) :=
  World.watch plan (pauses signal times)

end SegmentSync.Simulation
