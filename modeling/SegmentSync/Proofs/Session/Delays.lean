import SegmentSync.Session.Backoff

/-!
# `SegmentSync.Proofs.Session.Delays` — delays stay within their cap, and a reset forgets

A generator multiplies its delay in double precision, where a product may be anything: too large, infinite, or not a
number. None of this matters. Whatever the products come to, no delay is longer than the cap, and nothing that has been
going on before a reset can be told from the delays after it.

## Contents
- **Products.** `Backoff.nextBy`: a generator whose products come to what any function says. With those of double
  precision it is `Backoff.next`.
- **Uses.** `Backoff.delaysBy`: the delays that a generator hands out in the course of some uses.
- **What uses keep.** The cap and all that a reset brings back.
- **Generators.** `Backoff.Made`, the ways to make one, and `Backoff.delays_within_cap`.
-/

namespace SegmentSync

namespace Duration

theorem le_max_right (a b : Duration) : b ≤ max a b := by
  show b ≤ if a ≤ b then b else a
  split
  · exact Nat.le_refl _
  · exact Nat.le_of_not_le ‹¬ a ≤ b›

end Duration

namespace Backoff

/-! ## Products -/

/-- A delay in seconds times a multiplier, in double precision. -/
def product (delay : Duration) (multiplier : Float) : Float := delay.toSeconds * multiplier

/-- The delay after `current`, where the product comes to what `times` says. -/
def grownBy (times : Duration → Float → Float) (b : Backoff) : Duration :=
  match Duration.ofSeconds? (times b.current b.multiplier) with
  | some grown => min grown b.max
  | none => b.max

/-- The delay to wait now, and the generator of the delays after it, where products come to what `times` says. -/
def nextBy (times : Duration → Float → Float) (b : Backoff) : Duration × Backoff :=
  match b.growth with
  | .fixed => (b.current, b)
  | .exponential => (b.current, { b with current := b.grownBy times })

variable {times : Duration → Float → Float} {b : Backoff}

theorem nextBy_product (b : Backoff) : b.nextBy product = b.next := rfl

@[simp] theorem nextBy_fst (times : Duration → Float → Float) (b : Backoff) : (b.nextBy times).1 = b.current := by
  unfold nextBy
  split <;> rfl

theorem nextBy_fixed (hfixed : b.growth = .fixed) : (b.nextBy times).2 = b := by
  unfold nextBy
  rw [hfixed]

/-- Whatever the product comes to, it does not get beyond the cap. -/
theorem grownBy_le (times : Duration → Float → Float) (b : Backoff) : b.grownBy times ≤ b.max := by
  unfold grownBy
  split
  · exact Duration.min_le_right _ _
  · exact Nat.le_refl _

/-! ## Uses -/

/-- What is done with a generator. -/
inductive Use where
  | next
  | reset
  deriving DecidableEq, Repr

/-- The generator after some uses. -/
def afterBy (times : Duration → Float → Float) (b : Backoff) : List Use → Backoff
  | [] => b
  | .next :: rest => (b.nextBy times).2.afterBy times rest
  | .reset :: rest => b.reset.afterBy times rest

/-- The delays that are handed out in the course of some uses, the first one first. -/
def delaysBy (times : Duration → Float → Float) (b : Backoff) : List Use → List Duration
  | [] => []
  | .next :: rest => (b.nextBy times).1 :: (b.nextBy times).2.delaysBy times rest
  | .reset :: rest => b.reset.delaysBy times rest

theorem delaysBy_append (times : Duration → Float → Float) (b : Backoff) (before later : List Use) :
    b.delaysBy times (before ++ later) = b.delaysBy times before ++ (b.afterBy times before).delaysBy times later := by
  induction before generalizing b with
  | nil => rfl
  | cons use rest ih =>
    cases use with
    | next => exact congrArg (List.cons _) (ih (b.nextBy times).2)
    | reset => exact ih b.reset

/-! ## What uses keep -/

/-- What a reset brings back is the same after every delay. -/
theorem reset_nextBy (times : Duration → Float → Float) (b : Backoff) : (b.nextBy times).2.reset = b.reset := by
  unfold nextBy
  split <;> rfl

/-- There is nothing to reset about a generator that stands at its first delay. -/
theorem reset_eq_self (hstart : b.current = b.initial) : b.reset = b := by
  cases b
  cases hstart
  rfl

/-- **A reset forgets whatever has been going on before.** -/
theorem reset_afterBy (times : Duration → Float → Float) (b : Backoff) (uses : List Use) :
    (b.afterBy times uses).reset = b.reset := by
  induction uses generalizing b with
  | nil => rfl
  | cons use rest ih =>
    cases use with
    | next => exact (ih (b.nextBy times).2).trans (reset_nextBy times b)
    | reset => exact ih b.reset

/-- Neither the first delay nor the next one is longer than the cap. -/
structure Capped (b : Backoff) : Prop where
  initial : b.initial ≤ b.max
  current : b.current ≤ b.max

theorem max_nextBy (times : Duration → Float → Float) (b : Backoff) : (b.nextBy times).2.max = b.max := by
  unfold nextBy
  split <;> rfl

theorem Capped.nextBy (h : b.Capped) (times : Duration → Float → Float) : (b.nextBy times).2.Capped := by
  unfold Backoff.nextBy
  split
  · exact h
  · exact ⟨h.initial, grownBy_le times b⟩

theorem Capped.reset (h : b.Capped) : b.reset.Capped := ⟨h.initial, h.initial⟩

/-- **No delay is longer than the cap**, whatever has been going on before. -/
theorem Capped.delaysBy_le (h : b.Capped) (uses : List Use) : ∀ delay ∈ b.delaysBy times uses, delay ≤ b.max := by
  induction uses generalizing b with
  | nil => exact fun delay hdelay => absurd hdelay List.not_mem_nil
  | cons use rest ih =>
    cases use with
    | next =>
      have hrest := ih (h.nextBy times)
      rw [max_nextBy] at hrest
      refine List.forall_mem_cons.mpr ⟨?_, hrest⟩
      rw [nextBy_fst]
      exact h.current
    | reset => exact ih h.reset

/-- Delays that do not grow are all alike. -/
theorem delaysBy_fixed (hfixed : b.growth = .fixed) (hstart : b.current = b.initial) (uses : List Use) :
    ∀ delay ∈ b.delaysBy times uses, delay = b.initial := by
  -- Neither use changes such a generator.
  have hreset : b.reset = b := reset_eq_self hstart
  induction uses with
  | nil => exact fun delay hdelay => absurd hdelay List.not_mem_nil
  | cons use rest ih =>
    cases use with
    | next =>
      refine List.forall_mem_cons.mpr ⟨?_, ?_⟩
      · rw [nextBy_fst, hstart]
      · rw [nextBy_fixed hfixed]
        exact ih
    | reset =>
      show ∀ delay ∈ b.reset.delaysBy times rest, delay = b.initial
      rw [hreset]
      exact ih

/-! ## Generators -/

/-- The ways to make a generator, with its growth, its first delay, and the longest delay that is asked for. That one
    may be shorter than the first. -/
inductive Made : Growth → (initial max : Duration) → Backoff → Prop where
  | fixed (interval : Duration) : Made .fixed interval interval (.fixed interval)
  | exponential (initial max : Duration) (multiplier : Float) :
    Made .exponential initial max (.exponential initial max multiplier)
  | polling (settings : PollSettings) :
    Made settings.growth (.ofMillis settings.intervalMs) (.ofMillis settings.maxIntervalMs) settings.backoff
  | retrying (policy : RetryPolicy) :
    Made .exponential (.ofMillis policy.initialDelayMs) (.ofMillis policy.maxDelayMs) policy.backoff

variable {growth : Growth} {initial max : Duration}

theorem Made.eq_make (h : Made growth initial max b) : ∃ multiplier, b = make growth initial max multiplier := by
  cases h with
  | fixed interval => exact ⟨1, rfl⟩
  | exponential initial max multiplier => exact ⟨multiplier, rfl⟩
  | polling settings => exact ⟨settings.multiplier, rfl⟩
  | retrying policy => exact ⟨policy.multiplier, rfl⟩

theorem capped_make (growth : Growth) (initial max : Duration) (multiplier : Float) :
    (make growth initial max multiplier).Capped :=
  ⟨Duration.le_max_right max initial, Duration.le_max_right max initial⟩

/-- **Delays stay within their cap, and a reset forgets.** However a generator has been made, with any durations and any
    multiplier, and whatever its products come to: no delay is longer than the cap, or than the first delay if that is
    longer; the first delay is the one that was asked for; after a reset the delays are those of a generator that has
    just been made, whatever was done before; and a fixed generator has one delay for ever. The delays that are waited
    for are those of double precision, from whatever generator the next one is taken. -/
theorem delays_within_cap (hmade : Made growth initial max b) (times : Duration → Float → Float) (uses : List Use) :
    (∀ delay ∈ b.delaysBy times uses, delay ≤ Max.max max initial) ∧
      (b.delaysBy times (.next :: uses)).head? = some initial ∧
      (∀ before, b.delaysBy times (before ++ .reset :: uses) =
        b.delaysBy times before ++ b.delaysBy times uses) ∧
      (growth = .fixed → ∀ delay ∈ b.delaysBy times uses, delay = initial) ∧
      ∀ generator : Backoff, generator.nextBy product = generator.next := by
  obtain ⟨multiplier, rfl⟩ := hmade.eq_make
  refine ⟨?_, ?_, ?_, ?_, nextBy_product⟩
  · exact (capped_make growth initial max multiplier).delaysBy_le uses
  · show some ((make growth initial max multiplier).nextBy times).1 = some initial
    rw [nextBy_fst]
    rfl
  · intro before
    have hreset := reset_afterBy times (make growth initial max multiplier) before
    rw [delaysBy_append]
    show _ ++ ((make growth initial max multiplier).afterBy times before).reset.delaysBy times uses = _
    rw [hreset]
    rfl
  · intro hfixed
    exact delaysBy_fixed hfixed rfl uses

/-- A cap that is shorter than the first delay, and a multiplier that is not a number: the first delay is the longest,
    and comes again after a reset. -/
theorem delays_within_cap_of_short_cap :
    let b : Backoff := .exponential ⟨5⟩ ⟨3⟩ (0 / 0)
    Made .exponential ⟨5⟩ ⟨3⟩ b ∧ (∀ uses, ∀ delay ∈ b.delaysBy product uses, delay ≤ ⟨5⟩) ∧
      b.delaysBy product [.next, .next, .reset, .next] = b.delaysBy product [.next, .next] ++ [⟨5⟩] := by
  intro b
  have hmade : Made .exponential ⟨5⟩ ⟨3⟩ b := .exponential ⟨5⟩ ⟨3⟩ (0 / 0)
  have hreset := (delays_within_cap hmade product [.next]).2.2.1 [.next, .next]
  exact ⟨hmade, fun uses => (delays_within_cap hmade product uses).1, hreset⟩

end Backoff

end SegmentSync
