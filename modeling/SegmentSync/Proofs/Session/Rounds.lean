import SegmentSync.Proofs.Session.Logins

/-!
# `SegmentSync.Proofs.Session.Rounds` — a run that is broken off has gone through all of its rounds

A run is given a number of rounds, and is broken off when it has gone through them without an end. Each round begins at
a look at the stop signal, and so does each pause; but a pause goes on to wait. So the looks at which the signal has not
shown, less the waits, tell how many rounds there have been.

## Contents
- **Looks and waits.** `Trace.looks` and `Trace.waits` count them. In a round there are more looks than waits
  (`Trace.Paid`).
- **Stages.** That holds at each stage of a round.
- **Rounds.** There are as many more looks than waits as there have been rounds.
- **The run.** `run_brokenOff`.
-/

namespace SegmentSync

variable {ι : Type}

/-! ## Looks and waits -/

/-- What a look at the stop signal shows, if there is one. A wait shows the signal only where it ends by that. -/
def Event.look? : Event ι → Option Bool
  | ⟨.stopRequested, fired⟩ => some fired
  | ⟨.wait _, .signalled⟩ => some true
  | _ => none

/-- The event is a wait. -/
def Event.isWait : Event ι → Bool
  | ⟨.wait _, _⟩ => true
  | _ => false

namespace Trace

/-- How many looks there were at which the signal has not shown. -/
def looks (w : Trace ι) : Nat := w.countP fun event => event.look? = some false

/-- How many waits there were. -/
def waits (w : Trace ι) : Nat := w.countP Event.isWait

theorem looks_append (later earlier : Trace ι) : looks (later ++ earlier) = later.looks + earlier.looks :=
  List.countP_append ..

theorem waits_append (later earlier : Trace ι) : waits (later ++ earlier) = later.waits + earlier.waits :=
  List.countP_append ..

/-- Nothing waits to write to the log. -/
theorem waits_of_isLog {w : Trace ι} (h : ∀ event ∈ w, event.isLog = true) : w.waits = 0 := by
  refine List.countP_eq_zero.mpr fun event hmem hwait => ?_
  have hlog := h event hmem
  obtain ⟨effect, answer⟩ := event
  cases effect with
  | log level line => exact absurd hwait nofun
  | execute | reopen | stopRequested | wait | rest | report | clock => exact absurd hlog nofun

/-- Rounds are paid for by what happens in them, if what happens before them pays for itself. -/
theorem add_waits_le_looks_append {limit : Nat} {later earlier : Trace ι} (hlater : limit + later.waits ≤ later.looks)
    (hearlier : earlier.waits ≤ earlier.looks) : limit + waits (later ++ earlier) ≤ looks (later ++ earlier) := by
  rw [waits_append, looks_append]
  omega

/-- There were more such looks than waits. -/
def Paid (w : Trace ι) : Prop := w.waits < w.looks

variable {event : Event ι} {w : Trace ι}

theorem looks_le_cons (event : Event ι) (w : Trace ι) : w.looks ≤ looks (event :: w) :=
  List.Sublist.countP_le (List.sublist_cons_self event w)

theorem waits_cons (hevent : event.isWait = false) : waits (event :: w) = w.waits :=
  List.countP_cons_of_neg (by rw [hevent]; exact nofun)

theorem Paid.cons (h : Paid w) (hevent : event.isWait = false) : Paid (event :: w) := by
  unfold Paid
  rw [waits_cons hevent]
  exact Nat.lt_of_lt_of_le h (looks_le_cons event w)

/-- A look that does not show the signal pays for a round. -/
theorem paid_look (h : w.waits ≤ w.looks) : Paid (⟨.stopRequested, false⟩ :: w) := by
  have hlooks : looks (⟨.stopRequested, false⟩ :: w) = w.looks + 1 := List.countP_cons_of_pos rfl
  unfold Paid
  rw [waits_cons rfl, hlooks]
  exact Nat.lt_succ_of_le h

/-- A pause pays for its wait. -/
theorem Paid.pause {time : Duration} {fired : Bool} {pause : Trace ι} (h : Paid w) (hslept : Slept time fired pause) :
    Paid (pause ++ w) := by
  have hpause : pause.waits ≤ pause.looks := by
    cases hslept with
    | before => exact Nat.zero_le _
    | signalled | elapsed | abandoned _ => exact Nat.le_refl 1
  unfold Paid at h ⊢
  rw [waits_append, looks_append]
  omega

end Trace

namespace Session

open SegmentSync.Action (Round Maintains)
open SegmentSync.Trace (Paid)

variable {α : Type} {s s' : Session ι} {w : Trace ι}

/-! ## Stages -/

theorem steady_paid : Steady recording (fun _ => True) (fun (_ : Session ι) w => Paid w) fun _ => True where
  lastMaster := fun _ _ _ h => h
  lastSlave := fun _ _ _ h => h
  effect := by
    rintro s w effect answer _ h hasks rfl
    cases hasks <;> exact ⟨trivial, h.cons rfl⟩
  fails := fun _ _ => trivial
  heldMaster := fun _ _ _ _ _ => trivial
  heldSlave := fun _ _ _ _ _ => trivial

theorem reportable_paid : Reportable recording (fun _ => True) fun (_ : Session ι) w => Paid w where
  failures := fun _ _ _ _ h => h
  reported := fun _ _ _ h => h
  reporting := by
    rintro s w effect answer _ h hasks rfl
    cases hasks <;> exact ⟨trivial, h.cons rfl⟩

theorem reopen_paid :
    Maintains recording (fun _ => True) (fun (_ : Session ι) w => Paid w) Client.LoginFailure reopen := by
  have hconnect : Client.Undisturbed recording (fun _ => True) fun (_ : Client ι) w => Paid w :=
    { authenticated := fun _ _ _ h => h
      effect := by
        rintro c w effect answer _ h hasks rfl
        cases hasks <;> exact ⟨trivial, h.cons rfl⟩ }
  refine .bind (.focus (fun _ => rfl) fun _ => ?_) fun _ => .focus (fun _ => rfl) fun _ => ?_
  · exact Client.maintains_connect hconnect
  · exact Client.maintains_connect hconnect

theorem recoverWithin_paid (budget : Nat) (last : ProtocolError) :
    Follows recording (fun _ => True) (fun (_ : Session ι) w => Paid w) (fun _ _ => Paid) (recoverWithin budget last)
      fun _ _ => Paid := by
  induction budget generalizing last with
  | zero => exact fun s w h => ensures_recoverWithin_zero (fun _ => h) fun _ => h
  | succ budget ih =>
    intro s w h
    refine ensures_recoverWithin_succ (fun _ => h) ?_
    rintro - line _ rfl
    refine ⟨trivial, (Action.ensures_sleep _ _ _).mono ?_ fun _ _ _ hended => hended⟩
    rintro fired s₂ _ ⟨-, pause, rfl, hslept⟩
    have hlogged : Paid (⟨.log .warn line, ()⟩ :: w) := h.cons rfl
    have hpaused := hlogged.pause hslept
    cases fired with
    | true => exact hpaused
    | false =>
      refine (reopen_paid s₂ _ hpaused).mono (fun _ s₃ w₃ h₃ line _ hlog => ?_) fun failure s₃ w₃ hfailed => ?_
      · exact ⟨trivial, hlog ▸ h₃.cons rfl⟩
      · unfold Failing
        cases failure.transient? with
        | none => exact hfailed.1
        | some last => exact fun line _ hlog => ⟨trivial, ih last s₃ _ (hlog ▸ hfailed.1.cons rfl)⟩

/-- **The stages of a run, round by round.** Only at the start there has been no look yet. -/
theorem stages_paid :
    Stages recording (fun _ => True) (fun (_ : Session ι) w => w = [] ∨ Paid w) (fun _ => Paid) (fun _ _ => Paid)
      (fun _ _ => Paid) fun _ w => w.waits ≤ w.looks where
  look := by
    rintro s w isStopped _ h rfl
    have hle : w.waits ≤ w.looks := by
      rcases h with rfl | h
      · exact Nat.le_refl 0
      · exact Nat.le_of_lt h
    refine ⟨trivial, ?_⟩
    cases isStopped with
    | true => exact (Trace.waits_cons rfl).trans_le (hle.trans (Trace.looks_le_cons _ w))
    | false => exact Trace.paid_look hle
  haltedLog := by
    rintro s w level line _ h rfl
    exact ⟨trivial, (Trace.waits_cons rfl).trans_le (h.trans (Trace.looks_le_cons _ w))⟩
  endedLog := by
    rintro failure s w level line _ h rfl
    exact ⟨trivial, Trace.Paid.cons h rfl⟩
  recover := fun last s w h => by
    have hrecovered : Action.Ensures recording (fun _ => True) (recover last) (fun _ _ => Paid) (fun _ _ => Paid) s w :=
      recoverWithin_paid _ last s w h
    refine hrecovered.mono (fun isStopped _ _ hpaid => ?_) fun _ _ _ hpaid => hpaid
    cases isStopped with
    | true => exact Nat.le_of_lt hpaid
    | false => exact .inr hpaid

/-! ## Rounds -/

/-- What a round that is followed by another one has paid for, and one that is the last. -/
abbrev PaysFor {β : Type} (x : Action (Session ι) ι (Round β α)) : Prop :=
  Follows recording (fun _ => True) (fun (_ : Session ι) w => w = [] ∨ Paid w) (fun _ _ => Paid) x
    (Stages.Rounded (fun _ w => w = [] ∨ Paid w) fun _ _ w => w.waits ≤ w.looks)

theorem progresses_paid (phase : Phase) :
    Progresses recording (fun _ => True) (fun (_ : Session ι) w => Paid w) (fun _ _ => Paid) phase fun _ w =>
      w = [] ∨ Paid w := by
  intro s w h
  refine (reportable_paid.progresses phase s w h).mono (fun _ s₁ w₁ h₁ => ?_) fun _ _ _ hended => hended
  exact h₁.mono (fun _ _ _ h₂ => .inr h₂) fun _ _ _ hended => hended

/-- An attempt waits for nothing. -/
theorem attempt_paid {x : Action (Session ι) ι α}
    (hx : Maintains recording (fun _ => True) (fun (_ : Session ι) w => Paid w) (fun _ => True) x) :
    Follows recording (fun _ => True) (fun (_ : Session ι) w => Paid w)
      (Failing (fun _ _ => Paid) fun _ _ => Paid) x fun _ _ => Paid := by
  intro s w h
  refine (hx s w h).mono (fun _ _ _ h' => h') fun failure _ _ hfailed => ?_
  unfold Failing
  cases failure.transient? <;> exact hfailed.1

theorem incrementalRound_paid (poll : Backoff) : PaysFor (incrementalRound poll : Action (Session ι) ι _) := by
  have hstep : Follows recording (fun _ => True) (fun (_ : Session ι) w => Paid w)
      (Failing (fun _ _ => Paid) fun _ _ => Paid) step (Stages.Stepped (fun _ => Paid) fun _ => Paid) := by
    intro s w h
    refine (attempt_paid steady_paid.step s w h).mono (fun result _ _ h' => ?_) fun _ _ _ h' => h'
    cases result <;> exact h'
  refine stages_paid.incrementalRound hstep (reportable_paid.progresses .waiting) (fun time s w h => ?_)
    (progresses_paid .syncing) poll
  refine (Action.ensures_sleep time s w).mono ?_ fun _ _ _ hended => hended
  rintro fired _ _ ⟨-, pause, rfl, hslept⟩
  cases fired with
  | true => exact Nat.le_of_lt (h.pause hslept)
  | false => exact .inr (h.pause hslept)

theorem prepareRound_paid : PaysFor (prepareRound : Action (Session ι) ι _) := by
  have hround : Follows recording (fun _ => True) (fun (_ : Session ι) w => w = [] ∨ Paid w) (fun _ _ => Paid)
      prepareRound (Stages.Rounded (fun _ w => w = [] ∨ Paid w)
        (Stages.Prepared (fun _ w => w.waits ≤ w.looks) fun _ _ => Paid)) :=
    stages_paid.prepareRound (attempt_paid steady_paid.preparable.prepare)
  intro s w h
  refine (hround s w h).mono ?_ fun _ _ _ hended => hended
  rintro (_ | _ | _) _ w' h'
  case again => exact h'
  case last.none => exact h'
  case last.some => exact Nat.le_of_lt h'

theorem copyRound_paid (baseline : Snapshot) : PaysFor (copyRound baseline : Action (Session ι) ι _) := by
  have hcopy : Follows recording (fun _ => True) (fun (_ : Session ι) w => Paid w)
      (Failing (fun _ _ => Paid) fun _ _ => Paid) (copyStep baseline)
      (Stages.Copied (fun _ => Paid) fun _ => Paid) := by
    intro s w h
    refine (attempt_paid (steady_paid.copyStep baseline) s w h).mono (fun result _ _ h' => ?_) fun _ _ _ h' => h'
    cases result <;> exact h'
  intro s w h
  have hlog : OutlastsLog recording (fun _ => True) fun (_ : Session ι) w => Paid w :=
    fun s w level line w' h henv => ⟨trivial, henv ▸ h.cons rfl⟩
  refine (stages_paid.copyRound hcopy hlog (progresses_paid .syncing) s w h).mono ?_ fun _ _ _ hended => hended
  rintro (_ | _ | _) _ w' h'
  case again => exact h'
  case last.completed => exact Nat.le_of_lt h'
  case last.stopped => exact h'

/-- A round looks at the signal first. -/
theorem ne_nil_of_look {f : Bool → Action (Session ι) ι α} {result : Except SyncError α}
    (hrun : (Action.stopRequested >>= f).Runs s w result s') : w ≠ [] := by
  obtain ⟨_, rest, -, rfl⟩ := hrun.of_bind_perform
  exact List.append_ne_nil_of_right_ne_nil rest (List.cons_ne_nil _ _)

/-- **Rounds are paid for one by one.** -/
theorem waits_le_looks {β : Type} {body : β → Action (Session ι) ι (Round β α)} {limit : Nat} {carried : β}
    {result : Option α} (hpays : ∀ b, PaysFor (body b))
    (hlook : ∀ {b s w round s'}, (body b).Runs s w round s' → w ≠ [])
    (hrun : (Action.rounds body limit carried).Runs s w (.ok result) s') :
    w.waits ≤ w.looks ∧ (result = none → limit + w.waits ≤ w.looks) := by
  induction limit generalizing carried s w with
  | zero =>
    cases hrun
    exact ⟨Nat.le_refl 0, fun _ => Nat.le_refl 0⟩
  | succ limit ih =>
    rcases hrun.of_bind with ⟨_, -, hfailed⟩ | ⟨round, s₁, first, later, hfirst, hlater, rfl⟩
    · cases hfailed
    have hpaid := (hfirst.ensured trivial (hpays carried s [] (.inl rfl))).2
    cases round with
    | again carried' =>
      rw [Trace.waits_append, Trace.looks_append]
      have hpaid' : first.waits < first.looks := hpaid.resolve_left (hlook hfirst)
      obtain ⟨hle, hnone⟩ := ih hlater
      exact ⟨by omega, fun hbroken => by have := hnone hbroken; omega⟩
    | last value =>
      cases hlater
      exact ⟨hpaid, nofun⟩

/-! ## The run -/

/-- Nothing that ends with an outcome is broken off. -/
theorem not_runs_brokenOff {x : Action (Session ι) ι α} :
    ¬ (do return some (← x) : Action _ ι _).Runs s w (.ok none) s' := by
  intro h
  rcases h.of_bind with ⟨_, -, hfailed⟩ | ⟨_, _, _, _, -, hrest, -⟩
  · cases hfailed
  · cases hrest

variable {limit : Nat}

theorem runIncremental_brokenOff (hrun : (runIncremental limit).Runs s w (.ok none) s') :
    limit + w.waits ≤ w.looks := by
  unfold runIncremental at hrun
  rcases hrun.of_bind_get.of_bind with ⟨_, -, hfailed⟩ | ⟨ended, s₁, rounds, later, hrounds, hlater, rfl⟩
  · cases hfailed
  cases ended with
  | none =>
    cases hlater
    exact (waits_le_looks incrementalRound_paid ne_nil_of_look hrounds).2 rfl
  | some _ => exact absurd hlater not_runs_brokenOff

theorem runBulk_brokenOff (hrun : (runBulk limit).Runs s w (.ok none) s') : limit + w.waits ≤ w.looks := by
  unfold runBulk at hrun
  rcases hrun.of_bind with ⟨_, -, hfailed⟩ | ⟨prepared, s₁, preparing, later, hprepare, hlater, rfl⟩
  · cases hfailed
  obtain ⟨hprepared, hbroken⟩ := waits_le_looks (fun _ => prepareRound_paid) ne_nil_of_look hprepare
  match prepared with
  | none =>
    cases hlater
    exact hbroken rfl
  | some none => exact absurd hlater not_runs_brokenOff
  | some (some baseline) =>
    obtain ⟨_, copying, hcopying, rfl⟩ := hlater.of_bind_perform
    rcases hcopying.of_bind with ⟨_, -, hfailed⟩ | ⟨copied, s₂, rounds, last, hcopy, hlast, rfl⟩
    · cases hfailed
    match copied with
    | none =>
      cases hlast
      have hcopied := (waits_le_looks (fun _ => copyRound_paid baseline) ne_nil_of_look hcopy).2 rfl
      exact Trace.add_waits_le_looks_append (Trace.add_waits_le_looks_append hcopied (Nat.zero_le _)) hprepared
    | some .stopped => exact absurd hlast not_runs_brokenOff
    | some .completed => exact absurd hlast not_runs_brokenOff

/-- **A run is broken off only when it has gone through all of its rounds.** -/
theorem run_brokenOff (hrun : (run limit).Runs s w (.ok none) s') : limit + w.waits ≤ w.looks := by
  cases runsAs_of_run hrun with
  | @followed ending followed start _ _ _ hstart hending hfollow =>
    have hfollowed : limit + followed.waits ≤ followed.looks := by
      unfold follow at hfollow
      have hstrategy := hfollow.of_bind_get
      cases hs : s.strategy with
      | bulk =>
        rw [hs] at hstrategy
        exact runBulk_brokenOff hstrategy
      | incremental =>
        rw [hs] at hstrategy
        exact runIncremental_brokenOff hstrategy
    have hstarted : Trace.waits [start] = 0 := Trace.waits_of_isLog (List.forall_mem_singleton.mpr hstart)
    have hended : Trace.waits ending = 0 := Trace.waits_of_isLog hending
    have hboth := Trace.add_waits_le_looks_append hfollowed (hstarted ▸ Nat.zero_le _)
    rw [Trace.waits_append, Trace.looks_append, hended]
    omega

end Session

end SegmentSync
