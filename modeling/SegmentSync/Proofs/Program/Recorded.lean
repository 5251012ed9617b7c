import SegmentSync.Proofs.Program.Trace

/-!
# `SegmentSync.Proofs.Program.Recorded` — surroundings with a record of what has happened

Surroundings that remember states only do not tell what an observer has been handed. `recorded` puts a trace beside
them. A run in both is a run in each of the two, so that what is ensured in one of them is ensured in both.

## Contents
- **Reports.** `Effect.report?`, and the reports of a trace.
- **Both together.** `recorded`, and runs in it.
- **Preconditions.** What is ensured in the surroundings, or of any surroundings, is ensured in both together.
-/

namespace SegmentSync

variable {σ ι α ω : Type}

/-! ## Reports -/

/-- The report that an effect hands to the observer. -/
def Effect.report? : Effect ι → Option Report
  | .report r => some r
  | _ => none

/-- The reports that the observer has been handed, the latest first. -/
def Trace.reports (w : Trace ι) : List Report := w.filterMap fun event => event.effect.report?

theorem Trace.reports_cons_other {effect : Effect ι} (h : effect.report? = none) (answer : effect.Answer)
    (w : Trace ι) : Trace.reports (⟨effect, answer⟩ :: w) = w.reports :=
  List.filterMap_cons_none h

/-! ## Both together -/

/-- Surroundings that remember what has happened beside what they remember anyway. -/
def recorded (env : Environment ι ω) : Environment ι (ω × Trace ι) := fun v effect answer v' =>
  env v.1 effect answer v'.1 ∧ recording v.2 effect answer v'.2

namespace Program

variable {env : Environment ι ω} {safe : ω → Prop} {p q : Program ι α} {v v' : ω × Trace ι} {w w' : ω}

theorem Reaches.of_recorded (h : Reaches (recorded env) p v q v') : Reaches env p v.1 q v'.1 := by
  induction h with
  | refl p v => exact .refl p v.1
  | step henv _ ih => exact .step henv.1 ih

theorem Reaches.trace_of_recorded (h : Reaches (recorded env) p v q v') : Reaches recording p v.2 q v'.2 := by
  induction h with
  | refl p v => exact .refl p v.2
  | step henv _ ih => exact .step henv.2 ih

/-- Every run has a record. -/
theorem Reaches.recorded (h : Reaches env p w q w') (trace : Trace ι) :
    ∃ trace', Reaches (recorded env) p (w, trace) q (w', trace') := by
  induction h generalizing trace with
  | refl p w => exact ⟨trace, .refl p (w, trace)⟩
  | @step effect _ answer _ w₁ _ _ henv _ ih =>
    obtain ⟨trace', hrest⟩ := ih (⟨effect, answer⟩ :: trace)
    have hboth : SegmentSync.recorded env (_, trace) effect answer (w₁, ⟨effect, answer⟩ :: trace) := ⟨henv, rfl⟩
    exact ⟨trace', .step hboth hrest⟩

/-- Surroundings may go from one state to another while this happens. -/
inductive Plays (env : Environment ι ω) : Trace ι → ω → ω → Prop where
  | nil (w : ω) : Plays env [] w w
  | cons {trace : Trace ι} {event : Event ι} {u v w : ω} (h : Plays env trace u v)
    (henv : env v event.effect event.answer w) : Plays env (event :: trace) u w

theorem Plays.of_append {first later : Trace ι} {u w : ω} (h : Plays env (later ++ first) u w) :
    ∃ v, Plays env first u v ∧ Plays env later v w := by
  induction later generalizing w with
  | nil => exact ⟨w, h, .nil w⟩
  | cons event later ih =>
    cases h with
    | cons h henv =>
      obtain ⟨v, hfirst, hlater⟩ := ih h
      exact ⟨v, hfirst, .cons hlater henv⟩

/-- **What may happen anywhere happens in surroundings that may answer like that.** -/
theorem Reaches.played {u u' trace : Trace ι} (h : Reaches recording p u q u') (hu' : u' = trace ++ u)
    (hplays : Plays env trace w w') : Reaches (SegmentSync.recorded env) p (w, u) q (w', u') := by
  induction h generalizing w trace with
  | refl p u =>
    obtain rfl := List.append_left_eq_self.mp hu'.symm
    cases hplays
    exact .refl p (_, u)
  | @step effect _ answer u _ u' _ henv rest ih =>
    subst henv
    obtain ⟨later, hlater, -⟩ := rest.shift
    have happend : trace ++ u = (later ++ [⟨effect, answer⟩]) ++ u := by
      rw [← hu', hlater, List.append_assoc]; rfl
    obtain rfl := List.append_cancel_right happend
    obtain ⟨v, hfirst, hrest⟩ := hplays.of_append
    cases hfirst with
    | cons hnil henv =>
      cases hnil
      have hboth : SegmentSync.recorded env (w, u) effect answer (v, ⟨effect, answer⟩ :: u) := ⟨henv, rfl⟩
      exact .step hboth (ih hlater hrest)

/-! ## Preconditions -/

theorem Ensures.recorded {post : α → ω → Prop} (h : p.Ensures env safe post v.1) :
    p.Ensures (recorded env) (fun v => safe v.1) (fun a v => post a v.1) v := by
  induction p generalizing v with
  | done a => exact h
  | ask effect next ih =>
    intro answer v' henv
    obtain ⟨hsafe, hnext⟩ := h answer v'.1 henv.1
    exact ⟨hsafe, ih answer hnext⟩

theorem Ensures.traced {safe : Trace ι → Prop} {post : α → Trace ι → Prop} (h : p.Ensures recording safe post v.2) :
    p.Ensures (SegmentSync.recorded env) (fun v => safe v.2) (fun a v => post a v.2) v := by
  induction p generalizing v with
  | done a => exact h
  | ask effect next ih =>
    intro answer v' henv
    obtain ⟨hsafe, hnext⟩ := h answer v'.2 henv.2
    exact ⟨hsafe, ih answer hnext⟩

end Program

namespace Action

variable {env : Environment ι ω} {safe : ω → Prop} {x : Action σ ι α} {s : σ} {v : ω × Trace ι}

/-- What is ensured in some surroundings is ensured where a record is kept as well. -/
theorem Ensures.recorded {post : α → σ → ω → Prop} {fail : SyncError → σ → ω → Prop}
    (h : Ensures env safe x post fail s v.1) :
    Ensures (recorded env) (fun v => safe v.1) x (fun a s v => post a s v.1) (fun e s v => fail e s v.1) s v := by
  refine (Program.Ensures.recorded h).mono fun result v' hend => ?_
  rcases result with ⟨e | a, s'⟩ <;> exact hend

/-- What is ensured of any surroundings is ensured of these. -/
theorem Ensures.traced {safe : Trace ι → Prop} {post : α → σ → Trace ι → Prop}
    {fail : SyncError → σ → Trace ι → Prop} (h : Ensures recording safe x post fail s v.2) :
    Ensures (SegmentSync.recorded env) (fun v => safe v.2) x (fun a s v => post a s v.2)
      (fun e s v => fail e s v.2) s v := by
  refine (Program.Ensures.traced h).mono fun result v' hend => ?_
  rcases result with ⟨e | a, s'⟩ <;> exact hend

end Action

end SegmentSync
