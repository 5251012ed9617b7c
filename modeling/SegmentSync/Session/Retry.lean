import SegmentSync.Action
import SegmentSync.Session.Backoff

/-!
# `SegmentSync.Session.Retry` — an action, again and again

`withRetry` repeats an action while its connection fails, with growing pauses and a budget of failures. The
stop signal ends it between two attempts and during a pause. Failures are counted in 32 bits, like the budget.
-/

namespace SegmentSync

/-- A failure that is recovered by connecting again, as the failed request it is. -/
def SyncError.transient? : SyncError → Option ProtocolError
  | .protocol failure => if failure.isTransient then some failure else none
  | _ => none

namespace Retry

variable {σ ι α : Type}

/-- The log line about a failed attempt. -/
def line (what : String) (failure : ProtocolError) (delay : Duration) (failures : Nat)
    (policy : RetryPolicy) : String :=
  what ++ " unavailable (" ++ failure.message ++ "), retrying in " ++ delay.text ++ " [attempt " ++
    Decimal.text failures ++ "/" ++ Decimal.text policy.maxRetries.toNat ++ "]"

/-- One failure more, as long as the count fits its width. -/
def countFailure (failures : Nat) : Action σ ι Nat :=
  if failures + 1 < UInt32.size then return failures + 1 else throw .overflow

/-- Attempts, of which `budget` may still fail, after `failures` that did; none when stopped. -/
def attempts (policy : RetryPolicy) (what : String) (action : Action σ ι α) :
    (budget failures : Nat) → Backoff → Action σ ι (Option α)
  | budget, failures, backoff => do
    if ← Action.stopRequested then return none
    match ← Action.attempt action with
    | .ok value => return some value
    | .error failure =>
      match failure.transient? with
      | none => throw failure
      | some last =>
        let counted ← countFailure failures
        match budget with
        | 0 => throw (.retriesExhausted failures last)
        | budget + 1 =>
          let (delay, backoff) := backoff.next
          Action.log .warn (line what last delay counted policy)
          if ← Action.sleep delay then return none
          attempts policy what action budget counted backoff

end Retry

/-- Repeats an action until it succeeds, fails for good, or has failed too often; none when stopped. -/
def withRetry {σ ι α : Type} (policy : RetryPolicy) (what : String) (action : Action σ ι α) :
    Action σ ι (Option α) :=
  Retry.attempts policy what action policy.maxRetries.toNat 0 policy.backoff

end SegmentSync
