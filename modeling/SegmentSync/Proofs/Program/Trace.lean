import SegmentSync.Proofs.Program.Ensures

/-!
# `SegmentSync.Proofs.Program.Trace` — what has happened in a run

Nothing is assumed of the surroundings here: they answer every effect as they like, and only remember what they
were asked and what they have answered. What is ensured of such surroundings holds for any connections, for any
answers in any order, and whenever the stop signal fires.

## Contents
- **Events.** `Event`, `Trace` and the kinds of events; `Trace.Each` judges each of them by what has happened before it.
- **Surroundings.** `recording`, and what a program ensures there.
- **Runs.** `Action.Runs` is a run from start to end. The runs of one action after another are a run of each
  (`Action.Runs.bind`, `Action.Runs.of_bind`), also where the first one is attempted (`Action.Runs.of_bind_attempt`),
  there is a run of every action, and what happens in it decides how it ends (`Action.Runs.unique`).
- **Rounds.** `Action.Loops` takes a run of rounds apart (`Action.Runs.loops`).
-/

namespace SegmentSync

variable {σ τ ι α β ω : Type}

/-! ## Events -/

/-- An effect that was asked for, and its answer. -/
structure Event (ι : Type) where
  effect : Effect ι
  answer : effect.Answer

/-- What has happened, the latest first. -/
abbrev Trace (ι : Type) := List (Event ι)

namespace Event

/-- A request over a link, and what came of it. -/
@[match_pattern] abbrev sent (link : ι) (request : Request) (r : Except ProtocolError Reply) : Event ι :=
  ⟨.execute link request, r⟩

/-- A line of the log. -/
def isLog : Event ι → Bool
  | ⟨.log _ _, _⟩ => true
  | _ => false

/-- Something was handed to a connection, or a connection was opened. -/
def isContact : Event ι → Bool
  | ⟨.execute _ _, _⟩ | ⟨.reopen _, _⟩ => true
  | _ => false

end Event

/-- An event of two traces in a row is one of the first or of the second. -/
theorem Trace.append_eq_append_cons {a b l r : Trace ι} {event : Event ι} (h : a ++ b = l ++ event :: r) :
    (∃ m, a = l ++ event :: m ∧ r = m ++ b) ∨ ∃ m, l = a ++ m ∧ b = m ++ event :: r := by
  rcases List.append_eq_append_iff.mp h with ⟨m, hl, hb⟩ | ⟨m, ha, hr⟩
  · exact Or.inr ⟨m, hl, hb⟩
  · rcases List.cons_eq_append_iff.mp hr with ⟨rfl, hb⟩ | ⟨m, rfl, hr'⟩
    · exact Or.inr ⟨[], by rw [ha, List.append_nil, List.append_nil], hb⟩
    · exact Or.inl ⟨m, ha, hr'⟩

/-- Every event is as it has to be after what has happened before it. -/
def Trace.Each (p : Trace ι → Event ι → Prop) (w : Trace ι) : Prop :=
  ∀ later event earlier, w = later ++ event :: earlier → p earlier event

namespace Trace.Each

variable {p : Trace ι → Event ι → Prop} {w : Trace ι} {event : Event ι}

theorem nil : Each p ([] : Trace ι) := by
  intro later event earlier heq
  exact absurd heq (by simp)

theorem cons (h : Each p w) (hevent : p w event) : Each p (event :: w) := by
  intro later event' earlier heq
  rcases List.cons_eq_append_iff.mp heq with ⟨rfl, heq⟩ | ⟨later, rfl, rfl⟩
  · obtain ⟨rfl, rfl⟩ := List.cons.inj heq
    exact hevent
  · exact h later event' earlier rfl

theorem tail (h : Each p (event :: w)) : Each p w := by
  rintro later event' earlier rfl
  exact h (event :: later) event' earlier rfl

end Trace.Each

/-! ## Surroundings -/

/-- Surroundings that answer as they like, and remember it. -/
def recording : Environment ι (Trace ι) := fun trace effect answer trace' => trace' = ⟨effect, answer⟩ :: trace

namespace Program

/-- What goes on does not depend on what has happened before. -/
theorem Reaches.shift {p q : Program ι α} {w v : Trace ι} (h : Reaches recording p w q v) :
    ∃ trace, v = trace ++ w ∧ ∀ u, Reaches recording p u q (trace ++ u) := by
  induction h with
  | refl p w => exact ⟨[], rfl, fun u => .refl p u⟩
  | @step effect next answer w _ v q henv _ ih =>
    obtain ⟨trace, rfl, hshift⟩ := ih
    refine ⟨trace ++ [⟨effect, answer⟩], ?_, fun u => ?_⟩
    · rw [henv, List.append_assoc]; rfl
    · have hanswered : recording u effect answer (⟨effect, answer⟩ :: u) := rfl
      rw [List.append_assoc]
      exact .step hanswered (hshift _)

/-- Any answer will do for a run to go on. -/
theorem Reaches.answered {effect : Effect ι} {next : effect.Answer → Program ι α} {q : Program ι α}
    {w v : Trace ι} (answer : effect.Answer) (rest : Reaches recording (next answer) (⟨effect, answer⟩ :: w) q v) :
    Reaches recording (.ask effect next) w q v :=
  .step rfl rest

/-- A run of each of two programs in a row is a run of both. -/
theorem Reaches.bind {env : Environment ι ω} {p : Program ι α} {f : α → Program ι β} {a : α} {q : Program ι β}
    {u v w : ω} (h : Reaches env p u (.done a) v) (h' : Reaches env (f a) v q w) : Reaches env (p >>= f) u q w := by
  induction p generalizing u with
  | done a' =>
    cases h
    exact h'
  | ask effect next ih =>
    cases h with
    | step henv rest => exact .step henv (ih _ rest)

/-- What has happened decides how a run ends. -/
theorem Reaches.unique {p : Program ι α} {a b : α} {w v : Trace ι} (h : Reaches recording p w (.done a) v)
    (h' : Reaches recording p w (.done b) v) : a = b := by
  induction p generalizing w with
  | done c =>
    cases h
    cases h'
    rfl
  | ask effect next ih =>
    cases h with
    | step henv rest =>
      cases h' with
      | step henv' rest' =>
        subst henv henv'
        obtain ⟨later, hlater, -⟩ := rest.shift
        obtain ⟨later', hlater', -⟩ := rest'.shift
        -- Both have been told the same at first, as both traces go on from there.
        have hevents := (List.append_inj' (hlater.symm.trans hlater') rfl).2
        obtain ⟨-, hanswer⟩ := Event.mk.inj (List.cons.inj hevents).1
        obtain rfl := eq_of_heq hanswer
        exact ih _ rest rest'

/-- Every run can be brought to an end. -/
theorem exists_end (p : Program ι α) (w : Trace ι) : ∃ a v, Reaches recording p w (.done a) v := by
  induction p generalizing w with
  | done a => exact ⟨a, w, .refl _ _⟩
  | ask effect next ih =>
    have answer : effect.Answer := by
      cases effect with
      | execute _ _ | reopen _ => exact .error .eof
      | stopRequested => exact false
      | wait _ => exact .elapsed
      | rest _ | report _ | log _ _ => exact ()
      | clock => exact ⟨0⟩
    obtain ⟨a, v, h⟩ := ih answer (⟨effect, answer⟩ :: w)
    exact ⟨a, v, .step rfl h⟩

end Program

namespace Action

variable {safe : Trace ι → Prop} {post : α → σ → Trace ι → Prop} {fail : SyncError → σ → Trace ι → Prop}
  {s s' : σ} {w trace : Trace ι}

theorem ensures_recording (effect : Effect ι) {post : effect.Answer → σ → Trace ι → Prop} :
    Ensures recording safe (perform effect) post fail s w ↔
      ∀ answer, safe (⟨effect, answer⟩ :: w) ∧ post answer s (⟨effect, answer⟩ :: w) :=
  ⟨fun h answer => h answer _ rfl, fun h answer _ henv => henv ▸ h answer⟩

/-! ## Runs -/

/-- A run of an action from start to end: what happens, and how it ends. -/
def Runs (x : Action σ ι α) (s : σ) (trace : Trace ι) (result : Except SyncError α) (s' : σ) : Prop :=
  Program.Reaches recording (x s) [] (.done (result, s')) trace

variable {x : Action σ ι α} {result : Except SyncError α}

/-- **What is ensured of surroundings that answer as they like holds of every run.** -/
theorem Runs.ensured (hrun : x.Runs s trace result s') (hsafe : safe [])
    (h : Ensures recording safe x post fail s []) : safe trace ∧ outcome post fail (result, s') trace :=
  Program.Ensures.reaches hsafe h hrun

/-- What goes on after some time is a run of its own. -/
theorem ensures_runs (x : Action σ ι α) (s : σ) (w : Trace ι) :
    Ensures recording (fun _ => True) x (fun a s' w' => ∃ trace, w' = trace ++ w ∧ x.Runs s trace (.ok a) s')
      (fun failure s' w' => ∃ trace, w' = trace ++ w ∧ x.Runs s trace (.error failure) s') s w := by
  have hprogram : ∀ (p : Program ι (Except SyncError α × σ)) w, p.Ensures recording (fun _ => True)
      (fun result w' => ∃ trace, w' = trace ++ w ∧ p.Reaches recording [] (.done result) trace) w := by
    intro p
    induction p with
    | done result => exact fun w => ⟨[], rfl, .refl _ _⟩
    | ask effect next ih =>
      rintro w answer _ rfl
      refine ⟨trivial, (ih answer (⟨effect, answer⟩ :: w)).mono ?_⟩
      rintro result _ ⟨later, rfl, hrun⟩
      obtain ⟨trace, rfl, hshift⟩ := hrun.shift
      refine ⟨trace ++ [⟨effect, answer⟩], by simp, .answered answer (hshift _)⟩
  refine (hprogram (x s) w).mono fun result w' h => ?_
  obtain ⟨failure | a, s'⟩ := result <;> exact h

/-- There is a run of every action. -/
theorem exists_runs (x : Action σ ι α) (s : σ) : ∃ trace result s', x.Runs s trace result s' := by
  obtain ⟨⟨result, s'⟩, trace, h⟩ := (x s).exists_end []
  exact ⟨trace, result, s', h⟩

/-- A run of one action after another is a run of both. -/
theorem Runs.bind {x : Action σ ι β} {f : β → Action σ ι α} {b : β} {s₁ : σ} {first later : Trace ι}
    (hx : x.Runs s first (.ok b) s₁) (hf : (f b).Runs s₁ later result s') :
    (x >>= f).Runs s (later ++ first) result s' := by
  obtain ⟨trace, hlater, hshift⟩ := Program.Reaches.shift hf
  rw [List.append_nil] at hlater
  subst hlater
  exact Program.Reaches.bind hx (hshift first)

/-- A run of one action after another is one of the first that fails, or a run of both. -/
theorem Runs.of_bind {x : Action σ ι β} {f : β → Action σ ι α} (h : (x >>= f).Runs s trace result s') :
    (∃ failure, x.Runs s trace (.error failure) s' ∧ result = .error failure) ∨
      ∃ b s₁ first later, x.Runs s first (.ok b) s₁ ∧ (f b).Runs s₁ later result s' ∧ trace = later ++ first := by
  have hparts : Ensures recording (fun _ => True) (x >>= f)
      (fun a s' w => ∃ b s₁ first later, x.Runs s first (.ok b) s₁ ∧ (f b).Runs s₁ later (.ok a) s' ∧
        w = later ++ first)
      (fun failure s' w => x.Runs s w (.error failure) s' ∨
        ∃ b s₁ first later, x.Runs s first (.ok b) s₁ ∧ (f b).Runs s₁ later (.error failure) s' ∧ w = later ++ first)
      s [] := by
    refine (ensures_bind x f).mpr ((ensures_runs x s []).mono ?_ ?_)
    · rintro b s₁ _ ⟨first, rfl, hx⟩
      rw [List.append_nil]
      refine (ensures_runs (f b) s₁ first).mono ?_ ?_
      · rintro a s₂ _ ⟨later, rfl, hf⟩
        exact ⟨b, s₁, first, later, hx, hf, rfl⟩
      · rintro failure s₂ _ ⟨later, rfl, hf⟩
        exact .inr ⟨b, s₁, first, later, hx, hf, rfl⟩
    · rintro failure s₁ _ ⟨first, rfl, hx⟩
      rw [List.append_nil]
      exact .inl hx
  have hend := (h.ensured trivial hparts).2
  cases result with
  | ok a => exact .inr hend
  | error failure => exact hend.imp_left fun hx => ⟨failure, hx, rfl⟩

/-- What happens in a run decides how it ends. -/
theorem Runs.unique {result' : Except SyncError α} {s'' : σ} (h : x.Runs s trace result s')
    (h' : x.Runs s trace result' s'') : result = result' ∧ s' = s'' :=
  Prod.mk.inj (Program.Reaches.unique h h')

theorem Runs.bind_get {f : σ → Action σ ι α} (h : (f s).Runs s trace result s') :
    (get >>= f).Runs s trace result s' := h

theorem Runs.of_bind_get {f : σ → Action σ ι α} (h : (get >>= f).Runs s trace result s') :
    (f s).Runs s trace result s' := h

/-- What asks for nothing adds nothing to a run. -/
theorem Runs.finish {x : Action σ ι β} {f : β → Action σ ι α} {b : β} {s₁ : σ} (hx : x.Runs s trace (.ok b) s₁)
    (hf : f b s₁ = .done (result, s')) : (x >>= f).Runs s trace result s' := by
  have hlast : (f b).Runs s₁ [] result s' := by
    unfold Runs
    rw [hf]
    exact .refl _ _
  exact hx.bind hlast

/-- Nothing follows a failure. -/
theorem Runs.bind_error {x : Action σ ι β} {f : β → Action σ ι α} {failure : SyncError}
    (hx : x.Runs s trace (.error failure) s') : (x >>= f).Runs s trace (.error failure) s' :=
  Program.Reaches.bind hx (.refl _ _)

theorem Runs.attempt (hx : x.Runs s trace result s') : (Action.attempt x).Runs s trace (.ok result) s' :=
  Program.Reaches.bind hx (.refl _ _)

theorem Runs.focus {part : τ → σ} {update : τ → σ → τ} {t : τ} (hx : x.Runs (part t) trace result s') :
    (focus part update x).Runs t trace result (update t s') :=
  Program.Reaches.bind hx (.refl _ _)

/-- An effect may have any answer. -/
theorem runs_perform (effect : Effect ι) (answer : effect.Answer) (s : σ) :
    (perform effect).Runs s [⟨effect, answer⟩] (.ok answer) s :=
  .step rfl (.refl _ _)

/-- A run of an effect is that effect with some answer. -/
theorem Runs.of_perform {effect : Effect ι} {result : Except SyncError effect.Answer}
    (h : (perform effect).Runs s trace result s') :
    ∃ answer, result = .ok answer ∧ s' = s ∧ trace = [⟨effect, answer⟩] := by
  cases h with
  | step henv rest =>
    subst henv
    cases rest
    exact ⟨_, rfl, rfl, rfl⟩

/-- A run that begins with an effect goes on with its answer. -/
theorem Runs.of_bind_perform {effect : Effect ι} {f : effect.Answer → Action σ ι α}
    (h : (perform effect >>= f).Runs s trace result s') :
    ∃ answer later, (f answer).Runs s later result s' ∧ trace = later ++ [⟨effect, answer⟩] := by
  rcases h.of_bind with ⟨_, heffect, -⟩ | ⟨answer, _, _, later, heffect, hrest, rfl⟩
  · obtain ⟨_, hok, -⟩ := heffect.of_perform
    cases hok
  · obtain ⟨_, hok, rfl, rfl⟩ := heffect.of_perform
    cases hok
    exact ⟨answer, later, hrest, rfl⟩

theorem runs_ofRequest (r : Except ProtocolError α) (s : σ) :
    Runs (ofRequest r : Action σ ι α) s [] (r.mapError .protocol) s := by
  cases r <;> exact .refl _ _

/-! ## Rounds -/

/-- A run of rounds, one after the other, each of which begins in a state with that property. It may be broken off
    between two of them. -/
inductive Loops (begins : σ → Prop) (body : β → Action σ ι (Round β α)) :
    β → σ → Trace ι → Except SyncError (Option α) → σ → Prop where
  | brokenOff {carried : β} {s : σ} (h : begins s) : Loops begins body carried s [] (.ok none) s
  | again {carried carried' : β} {s s₁ s' : σ} {first later : Trace ι} {result : Except SyncError (Option α)}
      (h : begins s) (hround : (body carried).Runs s first (.ok (.again carried')) s₁)
      (hrest : Loops begins body carried' s₁ later result s') : Loops begins body carried s (later ++ first) result s'
  | last {carried : β} {s s' : σ} {trace : Trace ι} {value : α} (h : begins s)
      (hround : (body carried).Runs s trace (.ok (.last value)) s') :
      Loops begins body carried s trace (.ok (some value)) s'
  | failed {carried : β} {s s' : σ} {trace : Trace ι} {failure : SyncError} (h : begins s)
      (hround : (body carried).Runs s trace (.error failure) s') : Loops begins body carried s trace (.error failure) s'

/-- **A run of rounds is one round after the other.** What each of them leaves for the next one holds whenever one
    begins. -/
theorem Runs.loops {begins : σ → Prop} {body : β → Action σ ι (Round β α)} {carried : β}
    {result : Except SyncError (Option α)} (limit : Nat)
    (hagain : ∀ carried s trace carried' s', begins s → (body carried).Runs s trace (.ok (.again carried')) s' →
      begins s')
    (h : begins s) (hrun : (rounds body limit carried).Runs s trace result s') :
    Loops begins body carried s trace result s' := by
  induction limit generalizing carried s trace with
  | zero =>
    cases hrun
    exact .brokenOff h
  | succ limit ih =>
    rcases hrun.of_bind with ⟨failure, hround, rfl⟩ | ⟨round, s₁, first, later, hround, hrest, rfl⟩
    · exact .failed h hround
    · cases round with
      | again carried' => exact .again h hround (ih (hagain _ _ _ _ _ h hround) hrest)
      | last value =>
        cases hrest
        exact .last h hround

end Action

end SegmentSync
