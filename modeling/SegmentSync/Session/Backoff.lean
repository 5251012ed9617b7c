import SegmentSync.Duration

/-!
# `SegmentSync.Session.Backoff` — growing delays

A backoff hands out delays: a fixed one returns its interval for ever, an exponential one multiplies its
delay after every use, up to a cap. A reset brings back the first delay.

## Contents
- **Settings.** `Growth`, `PollSettings`, `RetryPolicy`.
- **Delays.** `Backoff`, with `next` and `reset`. The product is taken in double precision seconds; a product
  that is no duration becomes the cap, and a multiplier below one or not a number counts as one.
-/

namespace SegmentSync

/-! ## Settings -/

/-- How the delay grows between consecutive waits. -/
inductive Growth where
  /-- Not at all. -/
  | fixed
  /-- By a factor, up to a cap. -/
  | exponential
  deriving DecidableEq, Repr, Inhabited

/-- The waits of a slave that has caught up. -/
structure PollSettings where
  growth : Growth := .fixed
  intervalMs : UInt64 := 10000
  maxIntervalMs : UInt64 := 60000
  multiplier : Float := 2
  deriving DecidableEq, Repr, Inhabited

/-- The waits before connecting again. -/
structure RetryPolicy where
  /-- Consecutive failures that are tolerated. -/
  maxRetries : UInt32 := 5
  initialDelayMs : UInt64 := 500
  maxDelayMs : UInt64 := 30000
  multiplier : Float := 2
  deriving DecidableEq, Repr, Inhabited

/-! ## Delays -/

/-- A generator of delays. -/
structure Backoff where
  growth : Growth
  /-- The first delay, and the one after a reset. -/
  initial : Duration
  /-- The cap. -/
  max : Duration
  multiplier : Float
  /-- The next delay. -/
  current : Duration
  deriving Repr, Inhabited

namespace Backoff

/-- A generator whose cap is never below its first delay. -/
def make (growth : Growth) (initial max : Duration) (multiplier : Float) : Backoff where
  growth
  initial
  max := Max.max max initial
  multiplier := if multiplier.isNaN || multiplier < 1 then 1 else multiplier
  current := initial

/-- The same delay every time. -/
def fixed (interval : Duration) : Backoff := make .fixed interval interval 1

/-- Delays that are multiplied up to a cap. -/
def exponential (initial max : Duration) (multiplier : Float) : Backoff :=
  make .exponential initial max multiplier

/-- The delay after `current`. -/
def grown (b : Backoff) : Duration :=
  match Duration.ofSeconds? (b.current.toSeconds * b.multiplier) with
  | some product => min product b.max
  | none => b.max

/-- The delay to wait now, and the generator of the delays after it. -/
def next (b : Backoff) : Duration × Backoff :=
  match b.growth with
  | .fixed => (b.current, b)
  | .exponential => (b.current, { b with current := b.grown })

/-- Back to the first delay. -/
def reset (b : Backoff) : Backoff := { b with current := b.initial }

/-- The delay to wait now is the current one. -/
@[simp] theorem next_fst (b : Backoff) : b.next.1 = b.current := by
  unfold next; split <;> rfl

end Backoff

/-- The delays between polls. -/
def PollSettings.backoff (settings : PollSettings) : Backoff :=
  .make settings.growth (.ofMillis settings.intervalMs) (.ofMillis settings.maxIntervalMs)
    settings.multiplier

/-- The delays before connecting again. -/
def RetryPolicy.backoff (policy : RetryPolicy) : Backoff :=
  .exponential (.ofMillis policy.initialDelayMs) (.ofMillis policy.maxDelayMs) policy.multiplier

end SegmentSync
