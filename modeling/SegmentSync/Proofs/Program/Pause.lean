import SegmentSync.Proofs.Program.Trace

/-!
# `SegmentSync.Proofs.Program.Pause` — what happens in a pause

A pause looks at the stop signal before it waits. The wait ends when the time is over, when the signal fires, or when
nobody can fire it any more; then the rest of the time is waited for without it. A wait whose time is over says so even
where the signal has fired by then.

## Contents
- **Effects.** `Effect.InPause`; what none of these effects breaks, a pause does not break either.
- **Events.** `Slept` says what happens in a pause, and what its answer is. Every run of a pause is one of these
  (`Action.ensures_sleep`), and each of them is a run (`Slept.runs`).
-/

namespace SegmentSync

variable {σ ι α ω : Type}

/-! ## Effects -/

/-- The effects that a pause asks for. -/
inductive Effect.InPause : Effect ι → Prop where
  | look : InPause .stopRequested
  | wait (time : Duration) : InPause (.wait time)
  | rest (time : Duration) : InPause (.rest time)

/-- What no effect of a pause breaks outlasts the pause. -/
theorem Action.ensures_sleep_of_inPause {env : Environment ι ω} {safe : ω → Prop} {inv : σ → ω → Prop}
    {fail : SyncError → σ → ω → Prop}
    (hinv : ∀ s w effect answer w', inv s w → effect.InPause → env w effect answer w' → safe w' ∧ inv s w') {s : σ}
    {w : ω} (h : inv s w) (time : Duration) : Ensures env safe (sleep time) (fun _ => inv) fail s w := by
  intro fired w₁ hlook
  obtain ⟨hsafe₁, h₁⟩ := hinv s w _ fired w₁ h .look hlook
  refine ⟨hsafe₁, ?_⟩
  cases fired with
  | true => exact h₁
  | false =>
    intro wake w₂ hwait
    obtain ⟨hsafe₂, h₂⟩ := hinv s w₁ _ wake w₂ h₁ (.wait time) hwait
    refine ⟨hsafe₂, ?_⟩
    cases wake with
    | elapsed | signalled => exact h₂
    | abandoned left => exact fun answer w₃ hrest => hinv s w₂ _ answer w₃ h₂ (.rest left) hrest

/-! ## Events -/

/-- The events of a pause, and whether it has been cut short by the stop signal. -/
inductive Slept (time : Duration) : (fired : Bool) → Trace ι → Prop where
  /-- The signal has fired before. -/
  | before : Slept time true [⟨.stopRequested, true⟩]
  | signalled : Slept time true [⟨.wait time, .signalled⟩, ⟨.stopRequested, false⟩]
  | elapsed : Slept time false [⟨.wait time, .elapsed⟩, ⟨.stopRequested, false⟩]
  /-- The time was over after nobody could fire the signal any more. -/
  | abandoned (left : Duration) :
    Slept time false [⟨.rest left, ()⟩, ⟨.wait time, .abandoned left⟩, ⟨.stopRequested, false⟩]

/-- **A pause goes in one of these ways.** -/
theorem Action.ensures_sleep {fail : SyncError → σ → Trace ι → Prop} (time : Duration) (s : σ) (w : Trace ι) :
    Ensures recording (fun _ => True) (sleep time)
      (fun fired s' w' => s' = s ∧ ∃ pause, w' = pause ++ w ∧ Slept time fired pause) fail s w := by
  rintro fired _ rfl
  refine ⟨trivial, ?_⟩
  cases fired with
  | true => exact ⟨rfl, _, rfl, .before⟩
  | false =>
    rintro wake _ rfl
    refine ⟨trivial, ?_⟩
    cases wake with
    | elapsed => exact ⟨rfl, _, rfl, .elapsed⟩
    | signalled => exact ⟨rfl, _, rfl, .signalled⟩
    | abandoned left =>
      rintro _ _ rfl
      exact ⟨trivial, rfl, _, rfl, .abandoned left⟩

namespace Slept

variable {time : Duration} {fired : Bool} {pause : Trace ι}

/-- Each of them is a run. -/
theorem runs (h : Slept time fired pause) (s : σ) : (Action.sleep time).Runs s pause (.ok fired) s := by
  cases h with
  | before => exact .answered true (.refl _ _)
  | signalled => exact .answered false (.answered .signalled (.refl _ _))
  | elapsed => exact .answered false (.answered .elapsed (.refl _ _))
  | abandoned left => exact .answered false (.answered (.abandoned left) (.answered () (.refl _ _)))

theorem inPause (h : Slept time fired pause) : ∀ event ∈ pause, event.effect.InPause := by
  cases h with
  | before => exact List.forall_mem_singleton.mpr .look
  | signalled | elapsed => exact List.forall_mem_cons.mpr ⟨.wait time, List.forall_mem_singleton.mpr .look⟩
  | abandoned left =>
    exact List.forall_mem_cons.mpr ⟨.rest left, List.forall_mem_cons.mpr
      ⟨.wait time, List.forall_mem_singleton.mpr .look⟩⟩

end Slept

end SegmentSync
