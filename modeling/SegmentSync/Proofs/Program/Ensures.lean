import SegmentSync.Action

/-!
# `SegmentSync.Proofs.Program.Ensures` — what holds of every run of a program

A program is a tree of effects, and its surroundings decide along which branch a run goes. `Environment` says
what the surroundings may do, as a relation: they may answer one effect in many ways, and remember what they
like.

## Contents
- **Runs.** `Program.Reaches`: what is left of a program, and the state of the surroundings, after some
  effects.
- **Preconditions.** `Program.Ensures`: every state on the way is safe, and every end is as wanted. It is the
  weakest precondition, so that each way to put programs together has an equation: `Ensures` of the whole in
  terms of the parts. `Ensures.reaches` gives back the statement about runs.
- **Actions.** The same for actions, whose failures have a postcondition of their own.
- **Invariants.** `Maintains`: what an action keeps however it ends, piece by piece.
- **Rounds.** What each round keeps, all of them keep.
- **Fixed answers.** Surroundings that are a function, and the run in them; others may allow for the same run
  (`Program.reaches_run`).
-/

namespace SegmentSync

/-- What surroundings in the state `w` may do when they are asked for an effect: answer it, and be in another
    state. -/
abbrev Environment (ι ω : Type) := (w : ω) → (effect : Effect ι) → effect.Answer → (w' : ω) → Prop

namespace Program

variable {ι α β ω : Type} {env : Environment ι ω} {safe : ω → Prop}

/-! ## Runs -/

/-- A run of a program that starts in `w` can get to where `q` is left of it and the surroundings are in
    `v`. -/
inductive Reaches (env : Environment ι ω) : Program ι α → ω → Program ι α → ω → Prop where
  | refl (p : Program ι α) (w : ω) : Reaches env p w p w
  | step {effect : Effect ι} {next : effect.Answer → Program ι α} {answer : effect.Answer} {w w' v : ω}
      {q : Program ι α} (h : env w effect answer w') (rest : Reaches env (next answer) w' q v) :
      Reaches env (.ask effect next) w q v

theorem Reaches.trans {p q r : Program ι α} {u v w : ω} (h : Reaches env p u q v) (h' : Reaches env q v r w) :
    Reaches env p u r w := by
  induction h with
  | refl => exact h'
  | step henv _ ih => exact .step henv (ih h')

/-! ## Preconditions -/

/-- Every run from `w` passes only through safe states, and ends only as `post` says. -/
def Ensures (env : Environment ι ω) (safe : ω → Prop) : Program ι α → (α → ω → Prop) → ω → Prop
  | .done a, post, w => post a w
  | .ask effect next, post, w =>
    ∀ answer w', env w effect answer w' → safe w' ∧ (next answer).Ensures env safe post w'

/-- **What is ensured holds of every run.** -/
theorem Ensures.reaches {p q : Program ι α} {post : α → ω → Prop} {w v : ω} (hsafe : safe w)
    (h : p.Ensures env safe post w) (hrun : p.Reaches env w q v) :
    safe v ∧ q.Ensures env safe post v := by
  induction hrun with
  | refl p w => exact ⟨hsafe, h⟩
  | step henv _ ih =>
    obtain ⟨hsafe', h'⟩ := h _ _ henv
    exact ih hsafe' h'

theorem Ensures.mono {p : Program ι α} {post post' : α → ω → Prop} {w : ω}
    (h : p.Ensures env safe post w) (himp : ∀ a w, post a w → post' a w) :
    p.Ensures env safe post' w := by
  induction p generalizing w with
  | done a => exact himp a w h
  | ask effect next ih =>
    intro answer w' henv
    obtain ⟨hsafe, h'⟩ := h answer w' henv
    exact ⟨hsafe, ih answer h'⟩

/-- Less may be asked of the states on the way. -/
theorem Ensures.relax {safe' : ω → Prop} {p : Program ι α} {post : α → ω → Prop} {w : ω}
    (h : p.Ensures env safe post w) (himp : ∀ w, safe w → safe' w) : p.Ensures env safe' post w := by
  induction p generalizing w with
  | done a => exact h
  | ask effect next ih =>
    intro answer w' henv
    obtain ⟨hsafe, hnext⟩ := h answer w' henv
    exact ⟨himp w' hsafe, ih answer hnext⟩

/-- Two conditions may be ensured one at a time. -/
theorem Ensures.and {p : Program ι α} {post post' : α → ω → Prop} {w : ω} (h : p.Ensures env safe post w)
    (h' : p.Ensures env (fun _ => True) post' w) : p.Ensures env safe (fun a w => post a w ∧ post' a w) w := by
  induction p generalizing w with
  | done a => exact ⟨h, h'⟩
  | ask effect next ih =>
    intro answer w' henv
    obtain ⟨hsafe, hnext⟩ := h answer w' henv
    exact ⟨hsafe, ih answer hnext (h' answer w' henv).2⟩

theorem ensures_congr (p : Program ι α) {post post' : α → ω → Prop} {w : ω}
    (h : ∀ a w, post a w ↔ post' a w) : p.Ensures env safe post w ↔ p.Ensures env safe post' w :=
  ⟨fun hp => hp.mono fun a w => (h a w).mp, fun hp => hp.mono fun a w => (h a w).mpr⟩

theorem ensures_bind (p : Program ι α) (f : α → Program ι β) (post : β → ω → Prop) (w : ω) :
    (p >>= f).Ensures env safe post w ↔
      p.Ensures env safe (fun a w' => (f a).Ensures env safe post w') w := by
  induction p generalizing w with
  | done a => exact Iff.rfl
  | ask effect next ih =>
    exact forall_congr' fun answer => forall_congr' fun w' => imp_congr_right fun _ =>
      and_congr_right fun _ => ih answer w'

end Program

namespace Action

variable {σ τ ι α β ω : Type}

/-! ## Actions -/

/-- How an action may end: with a value or a failure, each of which has its own condition. -/
def outcome (post : α → σ → ω → Prop) (fail : SyncError → σ → ω → Prop) :
    Except SyncError α × σ → ω → Prop
  | (.ok a, s), w => post a s w
  | (.error e, s), w => fail e s w

/-- Every run of an action from `s` and `w` passes only through safe states; it ends with a value as `post`
    says, or with a failure as `fail` says. -/
def Ensures (env : Environment ι ω) (safe : ω → Prop) (x : Action σ ι α) (post : α → σ → ω → Prop)
    (fail : SyncError → σ → ω → Prop) (s : σ) (w : ω) : Prop :=
  Program.Ensures env safe (x s) (outcome post fail) w

variable {env : Environment ι ω} {safe : ω → Prop} {post : α → σ → ω → Prop}
  {fail : SyncError → σ → ω → Prop} {s : σ} {w : ω}

theorem Ensures.mono {x : Action σ ι α} {post' : α → σ → ω → Prop} {fail' : SyncError → σ → ω → Prop}
    (h : Ensures env safe x post fail s w) (hpost : ∀ a s w, post a s w → post' a s w)
    (hfail : ∀ e s w, fail e s w → fail' e s w) : Ensures env safe x post' fail' s w := by
  refine Program.Ensures.mono h fun result w' => ?_
  rcases result with ⟨e | a, s'⟩
  · exact hfail e s' w'
  · exact hpost a s' w'

theorem Ensures.relax {safe' : ω → Prop} {x : Action σ ι α} (h : Ensures env safe x post fail s w)
    (himp : ∀ w, safe w → safe' w) : Ensures env safe' x post fail s w :=
  Program.Ensures.relax h himp

theorem Ensures.and {x : Action σ ι α} {post' : α → σ → ω → Prop} {fail' : SyncError → σ → ω → Prop}
    (h : Ensures env safe x post fail s w) (h' : Ensures env (fun _ => True) x post' fail' s w) :
    Ensures env safe x (fun a s w => post a s w ∧ post' a s w) (fun e s w => fail e s w ∧ fail' e s w) s w := by
  refine (Program.Ensures.and h h').mono fun result w' => ?_
  rcases result with ⟨e | a, s'⟩ <;> exact id

@[simp] theorem ensures_pure (a : α) :
    Ensures env safe (pure a : Action σ ι α) post fail s w ↔ post a s w := Iff.rfl

@[simp] theorem ensures_throw (e : SyncError) :
    Ensures env safe (throw e : Action σ ι α) post fail s w ↔ fail e s w := Iff.rfl

@[simp] theorem ensures_get {post : σ → σ → ω → Prop} :
    Ensures env safe (get : Action σ ι σ) post fail s w ↔ post s s w := Iff.rfl

@[simp] theorem ensures_set (s' : σ) {post : Unit → σ → ω → Prop} :
    Ensures env safe (set s' : Action σ ι Unit) post fail s w ↔ post () s' w := Iff.rfl

@[simp] theorem ensures_modify (f : σ → σ) {post : Unit → σ → ω → Prop} :
    Ensures env safe (modify f : Action σ ι Unit) post fail s w ↔ post () (f s) w := Iff.rfl

theorem ensures_perform (effect : Effect ι) {post : effect.Answer → σ → ω → Prop} :
    Ensures env safe (perform effect : Action σ ι effect.Answer) post fail s w ↔
      ∀ answer w', env w effect answer w' → safe w' ∧ post answer s w' := Iff.rfl

@[simp] theorem ensures_bind (x : Action σ ι β) (f : β → Action σ ι α) :
    Ensures env safe (x >>= f) post fail s w ↔
      Ensures env safe x (fun b s w => Ensures env safe (f b) post fail s w) fail s w := by
  refine (Program.ensures_bind (x s) _ _ w).trans (Program.ensures_congr _ fun result w' => ?_)
  rcases result with ⟨e | b, s'⟩ <;> exact Iff.rfl

/-- What follows an action may rely on what the action ensures. -/
theorem Ensures.andThen {x : Action σ ι β} {f : β → Action σ ι α} {mid : β → σ → ω → Prop}
    (hx : Ensures env safe x mid fail s w)
    (hf : ∀ b s' w', mid b s' w' → Ensures env safe (f b) post fail s' w') :
    Ensures env safe (x >>= f) post fail s w :=
  (ensures_bind x f).mpr (hx.mono hf fun _ _ _ hfail => hfail)

@[simp] theorem ensures_attempt (x : Action σ ι α) {post : Except SyncError α → σ → ω → Prop} :
    Ensures env safe (attempt x) post fail s w ↔
      Ensures env safe x (fun a => post (.ok a)) (fun e => post (.error e)) s w := by
  refine (Program.ensures_bind (x s) _ _ w).trans (Program.ensures_congr _ fun result w' => ?_)
  rcases result with ⟨e | b, s'⟩ <;> exact Iff.rfl

@[simp] theorem ensures_ofRequest (r : Except ProtocolError α) :
    Ensures env safe (ofRequest r : Action σ ι α) post fail s w ↔
      match r with
      | .ok a => post a s w
      | .error failure => fail (.protocol failure) s w := by
  cases r <;> exact Iff.rfl

/-- An action on a part changes that part only. -/
@[simp] theorem ensures_focus (part : τ → σ) (update : τ → σ → τ) (x : Action σ ι α) (t : τ)
    {post : α → τ → ω → Prop} {fail : SyncError → τ → ω → Prop} :
    Ensures env safe (focus part update x) post fail t w ↔
      Ensures env safe x (fun a s => post a (update t s)) (fun e s => fail e (update t s)) (part t) w := by
  refine (Program.ensures_bind (x (part t)) _ _ w).trans (Program.ensures_congr _ fun result w' => ?_)
  rcases result with ⟨e | b, s'⟩ <;> exact Iff.rfl

/-! ## Invariants -/

/-- An action keeps an invariant, whether it ends with a value or fails, and fails in certain ways only. -/
def Maintains (env : Environment ι ω) (safe : ω → Prop) (inv : σ → ω → Prop) (may : SyncError → Prop)
    (x : Action σ ι α) : Prop :=
  ∀ s w, inv s w → Ensures env safe x (fun _ => inv) (fun e s w => inv s w ∧ may e) s w

namespace Maintains

variable {inv : σ → ω → Prop} {may : SyncError → Prop}

theorem pure (a : α) : Maintains env safe inv may (pure a) := fun _ _ h => h

theorem throw {e : SyncError} (h : may e) : Maintains env safe inv may (throw e : Action σ ι α) :=
  fun _ _ hinv => ⟨hinv, h⟩

theorem bind {x : Action σ ι β} {f : β → Action σ ι α} (hx : Maintains env safe inv may x)
    (hf : ∀ b, Maintains env safe inv may (f b)) : Maintains env safe inv may (x >>= f) :=
  fun s w h => (hx s w h).andThen hf

/-- What goes on with a failure knows in which ways there can be one. -/
theorem bind_attempt {x : Action σ ι β} {f : Except SyncError β → Action σ ι α}
    (hx : Maintains env safe inv may x)
    (hf : ∀ r, (∀ e, r = .error e → may e) → Maintains env safe inv may (f r)) :
    Maintains env safe inv may (attempt x >>= f) := by
  intro s w h
  rw [ensures_bind, ensures_attempt]
  refine (hx s w h).mono (fun b s' w' h' => hf (.ok b) nofun s' w' h') fun e s' w' h' => ?_
  refine hf (.error e) (fun e' heq => ?_) s' w' h'.1
  exact Except.error.inj heq ▸ h'.2

/-- What goes on with the state knows that the invariant holds of it. -/
theorem bind_get {f : σ → Action σ ι α} (hf : ∀ s w, inv s w → Maintains env safe inv may (f s)) :
    Maintains env safe inv may (get >>= f) := by
  intro s w h
  rw [ensures_bind, ensures_get]
  exact hf s w h s w h

theorem modify {f : σ → σ} (hf : ∀ s w, inv s w → inv (f s) w) :
    Maintains env safe inv may (modify f : Action σ ι Unit) :=
  fun s w h => hf s w h

theorem perform {effect : Effect ι} (h : ∀ s w answer w', inv s w → env w effect answer w' → safe w' ∧ inv s w') :
    Maintains env safe inv may (perform effect : Action σ ι effect.Answer) :=
  fun s w hinv answer w' henv => h s w answer w' hinv henv

theorem focus {part : τ → σ} {update : τ → σ → τ} {x : Action σ ι α} {inv : τ → ω → Prop}
    (hpart : ∀ t, update t (part t) = t) (hx : ∀ t, Maintains env safe (fun s => inv (update t s)) may x) :
    Maintains env safe inv may (focus part update x) := by
  intro t w h
  rw [ensures_focus]
  refine hx t (part t) w ?_
  show inv (update t (part t)) w
  rw [hpart]
  exact h

end Maintains

/-! ## Rounds -/

/-- **What each round keeps, all of them keep.** Rounds end as their last one does, or are still going on. -/
theorem ensures_rounds {body : β → Action σ ι (Round β α)} {inv : β → σ → ω → Prop}
    {post : Option α → σ → ω → Prop}
    (hround : ∀ b s w, inv b s w → Ensures env safe (body b) (fun
      | .again b => inv b
      | .last a => post (some a)) fail s w)
    (hlimit : ∀ b s w, inv b s w → post none s w) (limit : Nat) {b : β} (h : inv b s w) :
    Ensures env safe (rounds body limit b) post fail s w := by
  induction limit generalizing b s w with
  | zero => exact hlimit b s w h
  | succ limit ih =>
    rw [rounds, ensures_bind]
    refine (hround b s w h).mono (fun r s' w' h' => ?_) fun _ _ _ h' => h'
    cases r with
    | again b' => exact ih h'
    | last a => exact h'

end Action

/-! ## Fixed answers -/

namespace Program

variable {ι α ω : Type}

/-- Surroundings that can answer in one way only. -/
def answering (handle : (effect : Effect ι) → StateM ω effect.Answer) : Environment ι ω :=
  fun w effect answer w' => handle effect w = (answer, w')

/-- **Where every answer is fixed, what is ensured holds of the run.** -/
theorem Ensures.run {handle : (effect : Effect ι) → StateM ω effect.Answer} {safe : ω → Prop}
    {p : Program ι α} {post : α → ω → Prop} {w : ω} (h : p.Ensures (answering handle) safe post w) :
    post (p.run handle w).1 (p.run handle w).2 := by
  induction p generalizing w with
  | done a => exact h
  | ask effect next ih => exact ih _ (h _ _ rfl).2

/-- **Where other surroundings may answer in the same way**, they allow for the same run. -/
theorem reaches_run {ω' : Type} {handle : (effect : Effect ι) → StateM ω effect.Answer} {env : Environment ι ω'}
    {related : ω → ω' → Prop}
    (hanswer : ∀ w v effect, related w v →
      ∃ v', env v effect (handle effect w).1 v' ∧ related (handle effect w).2 v')
    (p : Program ι α) {w : ω} {v : ω'} (h : related w v) :
    ∃ v', p.Reaches env v (.done (p.run handle w).1) v' ∧ related (p.run handle w).2 v' := by
  induction p generalizing w v with
  | done a => exact ⟨v, .refl _ _, h⟩
  | ask effect next ih =>
    obtain ⟨v₁, henv, hrelated⟩ := hanswer w v effect h
    obtain ⟨v', hrest, hend⟩ := ih _ hrelated
    exact ⟨v', .step henv hrest, hend⟩

end Program

end SegmentSync
