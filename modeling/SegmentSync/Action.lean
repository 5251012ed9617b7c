import SegmentSync.Program

/-!
# `SegmentSync.Action` — programs with a state that can fail

An action reads and changes a state while it asks for effects, and either ends with a value or fails. What it
has done to the state stays done when it fails.

## Contents
- **Actions.** `Action`, the effects as actions, and `attempt`, which turns a failure into a value.
- **Parts of a state.** `focus` lets an action on a part work on the whole.
- **Rounds.** `rounds` repeats an action until it is done, at most so many times; `none` says that it was
  not done by then.
-/

namespace SegmentSync

/-- A program that works on a state and can fail. -/
abbrev Action (σ ι : Type) := ExceptT SyncError (StateT σ (Program ι))

namespace Action

variable {σ τ ι α β : Type}

/-- A program as an action, which leaves the state as it is. -/
def ofProgram (p : Program ι α) : Action σ ι α := fun s => p.bind fun a => .done (.ok a, s)

/-- Asks for an effect. -/
def perform (effect : Effect ι) : Action σ ι effect.Answer := ofProgram (.perform effect)

/-- Writes a line to the log. -/
def log (level : Level) (line : String) : Action σ ι Unit := perform (.log level line)

/-- Whether the stop signal has fired. -/
def stopRequested : Action σ ι Bool := perform .stopRequested

/-- Waits unless the stop signal fires; whether it has. -/
def sleep (time : Duration) : Action σ ι Bool := ofProgram (.sleep time)

/-- The time since some fixed moment. -/
def clock : Action σ ι Duration := perform .clock

/-- Runs an action and hands out its failure as a value. -/
def attempt (x : Action σ ι α) : Action σ ι (Except SyncError α) :=
  fun s => (x s).bind fun (result, s) => .done (.ok result, s)

/-- Goes on with the value of a request, or fails with its failure. -/
def ofRequest : Except ProtocolError α → Action σ ι α
  | .ok value => pure value
  | .error failure => throw (.protocol failure)

/-! ## Parts of a state -/

/-- An action on a part of a state, as an action on the whole. -/
def focus (part : τ → σ) (update : τ → σ → τ) (x : Action σ ι α) : Action τ ι α :=
  fun t => (x (part t)).bind fun (result, s) => .done (result, update t s)

/-! ## Rounds -/

/-- How a round ends. -/
inductive Round (β α : Type) where
  /-- There is another round. -/
  | again (carried : β)
  /-- This was the last one. -/
  | last (value : α)

/-- At most `limit` rounds, each with what the one before it carried over. -/
def rounds (body : β → Action σ ι (Round β α)) : Nat → β → Action σ ι (Option α)
  | 0, _ => pure none
  | limit + 1, carried => do
    match ← body carried with
    | .again carried => rounds body limit carried
    | .last value => return some value

end Action

end SegmentSync
