import SegmentSync.Proofs.Session.Reports
import SegmentSync.Proofs.Session.Rounds

/-!
# `SegmentSync.Proofs.Session.Stop` — a session stops promptly

The stop signal may fire at any moment. A session looks at it before every attempt, be it a step or one at connecting
again, and nothing is sent between two attempts. So the attempt that is under way when the signal fires is the last one,
and what comes after it is the end of the run.

An attempt at connecting again follows a pause, and a pause whose time is over ends by that even where the signal has
fired by then. There is no other look before both sides are opened, so such a pause belongs to the attempt that it leads
to.

## Contents
- **The signal.** `Trace.Fires` says at which moment of a run the signal has fired.
- **Attempts.** `Session.Attempt`, and `Session.Ends`: how a run ends after its last one.
- **Stages.** What is known of the latest attempt at each stage of a run.
- **Rounds.** Each kind of round leads from one such stage to another.
- **The run.** `Session.Prompt` says how a run ends during which the signal fires; `stops_promptly`.
-/

namespace SegmentSync

variable {ι : Type}

/-! ## The signal -/

/-- It turns out that nobody can fire the stop signal any more. -/
def Event.abandons : Event ι → Bool
  | ⟨.wait _, .abandoned _⟩ => true
  | _ => false

namespace Trace

/-- The signal has fired between what has happened earlier and what has happened later: no look has shown it before, and
    each one has shown it since. A wait may have been over by the time that anyone noticed. As long as the signal may
    fire, there is somebody who can fire it. -/
structure Fires (later earlier : Trace ι) : Prop where
  notYet : ∀ event ∈ earlier, event.look? ≠ some true
  since : ∀ event ∈ later, event.look? ≠ some false
  held : ∀ event ∈ later ++ earlier, event.abandons = false

variable {later earlier after before : Trace ι}

/-- What had happened when a look did not show the signal yet had happened before it fired. -/
theorem Fires.suffix {look : Event ι} (h : Fires later earlier) (heq : later ++ earlier = after ++ look :: before)
    (hlook : look.look? = some false) : look :: before <:+ earlier := by
  rcases append_eq_append_cons heq with ⟨mid, rfl, -⟩ | ⟨mid, -, rfl⟩
  · exact absurd hlook (h.since look (List.mem_append_right _ (List.mem_cons_self ..)))
  · exact ⟨mid, rfl⟩

/-- It has happened before the signal fired, but for the end of a wait that was over as well. -/
def Past (earlier w : Trace ι) : Prop := w <:+ earlier ∨ ∃ time, w = ⟨.wait time, .elapsed⟩ :: earlier

/-- A pause that has not been cut short was over before the signal fired, or the signal fired while it lasted. -/
theorem Fires.pause {time : Duration} {pause : Trace ι} (h : Fires later earlier) (hslept : Slept time false pause)
    (heq : later ++ earlier = after ++ (pause ++ before)) : Past earlier (pause ++ before) := by
  cases hslept with
  | abandoned left =>
    have hwait : (⟨.wait time, .abandoned left⟩ : Event ι) ∈ later ++ earlier := by
      rw [heq]
      exact List.mem_append_right _ (List.mem_cons_of_mem _ (List.mem_cons_self ..))
    cases h.held _ hwait
  | elapsed =>
    rcases append_eq_append_cons heq with ⟨mid, rfl, hlook⟩ | ⟨mid, -, rfl⟩
    · -- The look before the wait did not show the signal, so nothing lies between the moment it fired and the wait.
      rcases List.cons_eq_append_iff.mp hlook with ⟨rfl, hearlier⟩ | ⟨mid', rfl, -⟩
      · exact .inr ⟨time, congrArg (_ :: ·) hearlier.symm⟩
      · exact absurd rfl (h.since ⟨.stopRequested, false⟩ (by simp))
    · exact .inl ⟨mid, rfl⟩

/-- Since it has fired, it has shown at each look. -/
theorem Fires.looks_eq (h : Fires later earlier) : looks (later ++ earlier) = earlier.looks := by
  have hnone : later.looks = 0 :=
    List.countP_eq_zero.mpr fun event hmem hlook => h.since event hmem (of_decide_eq_true hlook)
  rw [looks_append, hnone, Nat.zero_add]

/-- Nothing is handed to a connection, and none is opened. -/
def Silent (w : Trace ι) : Prop := ∀ event ∈ w, event.isContact = false

theorem Silent.cons {w : Trace ι} {event : Event ι} (h : Silent w) (hevent : event.isContact = false) :
    Silent (event :: w) :=
  List.forall_mem_cons.mpr ⟨hevent, h⟩

theorem Silent.append (hlater : Silent later) (hearlier : Silent earlier) : Silent (later ++ earlier) :=
  List.forall_mem_append.mpr ⟨hlater, hearlier⟩

end Trace

/-- Nothing is sent in a pause. -/
theorem Slept.silent {time : Duration} {fired : Bool} {pause : Trace ι} (h : Slept time fired pause) :
    pause.Silent := by
  rintro ⟨effect, answer⟩ hmem
  have hpause : effect.InPause := h.inPause _ hmem
  cases hpause <;> rfl

namespace Session

open SegmentSync.Action (Round)
open SegmentSync.Trace (Silent Fires Past)

variable {α : Type} {session : Session ι}

/-! ## Attempts -/

/-- The session is for the same namespace, between the same ends. -/
structure Belongs (session s : Session ι) : Prop extends SameEnds session s where
  space : s.space = session.space

/-- It is, and both of its clients are logged in. -/
def Ready (session s : Session ι) : Prop := Belongs session s ∧ s.LoggedIn

/-- An attempt of a session, with what leads to it, what happens in it and how it ends. A look that does not show the
    signal leads to a step, to the preparation of a copy, and to a step of a copy, which may find that the copy is done;
    a pause that is not cut short leads to opening both sides again. -/
inductive Attempt (session : Session ι) : (lead events : Trace ι) → Except SyncError Bool → Prop where
  | step {s s' : Session ι} {events : Trace ι} {result : Except SyncError Step} (h : Belongs session s)
    (hrun : step.Runs s events result s') :
    Attempt session [⟨.stopRequested, false⟩] events (result.map fun _ => false)
  | prepare {s s' : Session ι} {events : Trace ι} {result : Except SyncError Snapshot} (h : Belongs session s)
    (hrun : prepare.Runs s events result s') :
    Attempt session [⟨.stopRequested, false⟩] events (result.map fun _ => false)
  | copyStep {s s' : Session ι} {events : Trace ι} {baseline : Snapshot} {result : Except SyncError CopyStep}
    (h : Belongs session s) (hrun : (copyStep baseline).Runs s events result s') :
    Attempt session [⟨.stopRequested, false⟩] events (result.map fun step => step = .done)
  | reopen {s s' : Session ι} {time : Duration} {pause events : Trace ι} {result : Except SyncError Unit}
    (h : Belongs session s) (hslept : Slept time false pause) (hrun : reopen.Runs s events result s') :
    Attempt session pause events (result.map fun _ => false)

/-- Something leads to every attempt. -/
theorem Attempt.lead_ne_nil {lead events : Trace ι} {verdict : Except SyncError Bool}
    (h : Attempt session lead events verdict) : lead ≠ [] := by
  cases h with
  | step | prepare | copyStep => exact nofun
  | reopen _ hslept => cases hslept <;> exact nofun

/-- The latest attempt, after what has led to it; or there has been none, and nothing before it. -/
inductive Latest (session : Session ι) : (before events : Trace ι) → Option (Except SyncError Bool) → Prop where
  | none : Latest session [] [] none
  | some {lead events before : Trace ι} {verdict : Except SyncError Bool} (h : Attempt session lead events verdict) :
    Latest session (lead ++ before) events (some verdict)

/-- What comes of the request to end the freeze after a copy. -/
def liftedAs (session : Session ι) (r : Except ProtocolError Reply) : Except SyncError (Option Outcome) :=
  match Client.reading (.nsFreeze session.space false) Client.ack? r with
  | .ok _ => .ok (some .completed)
  | .error failure => .error (.protocol failure)

/-- How a run ends after its latest attempt, if it has made one. -/
inductive Ends (session : Session ι) : Option (Except SyncError Bool) → (after : Trace ι) →
    Except SyncError (Option Outcome) → Prop where
  | stopped {verdict : Option (Except SyncError Bool)} {after : Trace ι} (h : Silent after) :
    Ends session verdict after (.ok (some .stopped))
  /-- It has gone through all of its rounds. -/
  | brokenOff {verdict : Option (Except SyncError Bool)} {after : Trace ι} (h : Silent after) :
    Ends session verdict after (.ok none)
  /-- The attempt has failed for good. -/
  | failed {failure : SyncError} {after : Trace ι} (hfinal : failure.transient? = none) (h : Silent after) :
    Ends session (some (.error failure)) after (.error failure)
  /-- The attempt has failed with its connection, and there are none left. -/
  | exhausted {failure : SyncError} {attempts : Nat} {last : ProtocolError} {after : Trace ι}
    (htransient : failure.transient? = some last) (h : Silent after) :
    Ends session (some (.error failure)) after (.error (.retriesExhausted attempts last))
  /-- It has, and there have been too many to count them. -/
  | overflow {failure : SyncError} {last : ProtocolError} {after : Trace ι}
    (htransient : failure.transient? = some last) (h : Silent after) :
    Ends session (some (.error failure)) after (.error .overflow)
  /-- The attempt has found that the copy is done. -/
  | completed {after : Trace ι} (h : Silent after) : Ends session (some (.ok true)) after (.ok (some .completed))
  /-- It has, and the end of the freeze has been requested. -/
  | lifted {later earlier : Trace ι} (r : Except ProtocolError Reply) (hlater : Silent later)
    (hearlier : Silent earlier) :
    Ends session (some (.ok true))
      (later ++ .sent session.slave.link (.nsFreeze session.space false) r :: earlier) (session.liftedAs r)

variable {s s' : Session ι} {w : Trace ι}

theorem Ends.cons {verdict : Option (Except SyncError Bool)} {after : Trace ι}
    {result : Except SyncError (Option Outcome)} {event : Event ι} (h : Ends session verdict after result)
    (hevent : event.isContact = false) : Ends session verdict (event :: after) result := by
  cases h with
  | stopped h => exact .stopped (h.cons hevent)
  | brokenOff h => exact .brokenOff (h.cons hevent)
  | failed hfinal h => exact .failed hfinal (h.cons hevent)
  | exhausted htransient h => exact .exhausted htransient (h.cons hevent)
  | overflow htransient h => exact .overflow htransient (h.cons hevent)
  | completed h => exact .completed (h.cons hevent)
  | lifted r hlater hearlier => exact .lifted r (hlater.cons hevent) hearlier

/-! ## Stages -/

/-- Nothing has been sent since the latest attempt has ended. -/
def Resting (session : Session ι) (verdict : Option (Except SyncError Bool)) (w : Trace ι) : Prop :=
  ∃ after events before, w = after ++ (events ++ before) ∧ Latest session before events verdict ∧ Silent after

/-- The run has ended, after its latest attempt. -/
def Closed (session : Session ι) (result : Except SyncError (Option Outcome)) (w : Trace ι) : Prop :=
  ∃ after events before verdict, w = after ++ (events ++ before) ∧ Latest session before events verdict ∧
    Ends session verdict after result

theorem Resting.append {verdict : Option (Except SyncError Bool)} {later : Trace ι} (h : Resting session verdict w)
    (hlater : Silent later) : Resting session verdict (later ++ w) := by
  obtain ⟨after, events, before, rfl, hlatest, hsilent⟩ := h
  exact ⟨later ++ after, events, before, (List.append_assoc ..).symm, hlatest, hlater.append hsilent⟩

theorem Resting.cons {verdict : Option (Except SyncError Bool)} {event : Event ι} (h : Resting session verdict w)
    (hevent : event.isContact = false) : Resting session verdict (event :: w) :=
  h.append (List.forall_mem_singleton.mpr hevent)

theorem Closed.cons {result : Except SyncError (Option Outcome)} {event : Event ι} (h : Closed session result w)
    (hevent : event.isContact = false) : Closed session result (event :: w) := by
  obtain ⟨after, events, before, verdict, rfl, hlatest, hends⟩ := h
  exact ⟨event :: after, events, before, verdict, rfl, hlatest, hends.cons hevent⟩

theorem Resting.closed {verdict : Option (Except SyncError Bool)} {result : Except SyncError (Option Outcome)}
    (h : Resting session verdict w) (hends : ∀ after, Silent after → Ends session verdict after result) :
    Closed session result w := by
  obtain ⟨after, events, before, rfl, hlatest, hsilent⟩ := h
  exact ⟨after, events, before, verdict, rfl, hlatest, hends after hsilent⟩

/-- An attempt is over. -/
theorem Attempt.resting {lead events : Trace ι} {verdict : Except SyncError Bool}
    (h : Attempt session lead events verdict) (before : Trace ι) :
    Resting session (some verdict) (events ++ (lead ++ before)) :=
  ⟨[], events, lead ++ before, rfl, .some h, List.forall_mem_nil _⟩

/-- What holds between two attempts. -/
def BetweenAttempts (session s : Session ι) (w : Trace ι) : Prop :=
  Ready session s ∧ ∃ verdict, Resting session verdict w

/-- What holds when the signal has been looked at and has not shown. -/
def Begun (session s : Session ι) (w : Trace ι) : Prop :=
  Ready session s ∧ ∃ before, w = ⟨.stopRequested, false⟩ :: before

/-- What holds after an attempt whose connection has failed. -/
def Broken (session : Session ι) (last : ProtocolError) (s : Session ι) (w : Trace ι) : Prop :=
  Belongs session s ∧ ∃ failure, failure.transient? = some last ∧ Resting session (some (.error failure)) w

/-- What holds when the signal has shown. -/
def Halted (session _ : Session ι) (w : Trace ι) : Prop := ∃ verdict, Resting session verdict w

/-- What holds when a failure has ended the run. -/
def Aborted (session : Session ι) (failure : SyncError) (_ : Session ι) (w : Trace ι) : Prop :=
  Closed session (.error failure) w

theorem Resting.failing {failure : SyncError} (h : Resting session (some (.error failure)) w)
    (hbelongs : Belongs session s) : Failing (Broken session) (Aborted session) failure s w := by
  unfold Failing
  cases htransient : failure.transient? with
  | none => exact h.closed fun _ => .failed htransient
  | some last => exact ⟨hbelongs, failure, htransient, h⟩

/-- A step changes neither ends nor logins. -/
theorem steady_ready (session : Session ι) :
    Steady recording (fun _ => True) (fun s _ => Ready session s) fun _ => True where
  lastMaster := fun _ _ _ h => ⟨⟨{ h.1.toSameEnds with }, h.1.space⟩, h.2⟩
  lastSlave := fun _ _ _ h => ⟨⟨{ h.1.toSameEnds with }, h.1.space⟩, h.2⟩
  effect := fun _ _ _ _ _ h _ _ => ⟨trivial, h⟩
  fails := fun _ _ => trivial
  heldMaster := fun _ _ _ _ _ => trivial
  heldSlave := fun _ _ _ _ _ => trivial

/-- **An attempt** begins at a look that has not shown the signal, and nothing is sent when it is over. -/
theorem follows_attempt {x : Action (Session ι) ι α} {verdict : α → Bool}
    (hx : Action.Maintains recording (fun _ => True) (fun s _ => Ready session s) (fun _ => True) x)
    (hattempt : ∀ {s s' : Session ι} {events result}, Belongs session s → x.Runs s events result s' →
      Attempt session [⟨.stopRequested, false⟩] events (result.map verdict)) :
    Follows recording (fun _ => True) (Begun session) (Failing (Broken session) (Aborted session)) x
      fun a s w => Ready session s ∧ Resting session (some (.ok (verdict a))) w := by
  rintro s _ ⟨hready, before, rfl⟩
  refine ((hx s _ hready).and (Action.ensures_runs x s _)).mono ?_ ?_
  · rintro a s' _ ⟨hready', events, rfl, hrun⟩
    exact ⟨hready', (hattempt hready.1 hrun).resting before⟩
  · rintro failure s' _ ⟨⟨hready', -⟩, events, rfl, hrun⟩
    exact ((hattempt hready.1 hrun).resting before).failing hready'.1

theorem ensures_reopen_ready (h : Belongs session s) (w : Trace ι) :
    Action.Ensures recording (fun _ => True) reopen (fun _ s' _ => Ready session s') (fun _ s' _ => Belongs session s')
      s w := by
  have hspace : Recoverable recording (fun _ => True) fun (s : Session ι) _ => s.space = session.space :=
    ⟨fun _ _ _ h => h, fun _ _ _ h => h, fun _ _ _ _ h => h, fun _ _ _ _ _ h _ _ => ⟨trivial, h⟩⟩
  refine ((ensures_reopen h.toSameEnds w).and (hspace.reopen s w h.space)).mono ?_ ?_
  · exact fun _ _ _ h' => ⟨⟨h'.1.1, h'.2⟩, h'.1.2.1⟩
  · exact fun _ _ _ h' => ⟨h'.1.1, h'.2.1⟩

/-- **Recovering** pauses before each of its attempts. -/
theorem ensures_recoverWithin_attempts {budget : Nat} {last : ProtocolError} (h : Broken session last s w) :
    Action.Ensures recording (fun _ => True) (recoverWithin budget last)
      (Seen (Halted session) (BetweenAttempts session)) (Aborted session) s w := by
  -- Induction on the attempts that are left: the latest one is the one before, until the pause is over.
  induction budget generalizing last s w with
  | zero =>
    obtain ⟨-, failure, htransient, hresting⟩ := h
    exact ensures_recoverWithin_zero (fun _ => hresting.closed fun _ => .exhausted htransient)
      fun _ => hresting.closed fun _ => .overflow htransient
  | succ budget ih =>
    obtain ⟨hbelongs, failure, htransient, hresting⟩ := h
    have hpaused : Belongs session { s with failures := s.failures + 1, backoff := s.backoff.next.2 } :=
      ⟨{ hbelongs.toSameEnds with }, hbelongs.space⟩
    refine ensures_recoverWithin_succ (fun _ => hresting.closed fun _ => .overflow htransient) ?_
    rintro - warning _ rfl
    refine ⟨trivial, (Action.ensures_sleep _ _ _).mono ?_ fun _ _ _ haborted => haborted⟩
    rintro isStopped _ _ ⟨rfl, pause, rfl, hslept⟩
    cases isStopped with
    | true => exact ⟨_, (hresting.cons rfl).append hslept.silent⟩
    | false =>
      refine ((ensures_reopen_ready hpaused _).and (Action.ensures_runs reopen _ _)).mono ?_ ?_
      · rintro _ s₃ _ ⟨hready, events, rfl, hrun⟩ line _ rfl
        have hover := (Attempt.reopen hpaused hslept hrun).resting (⟨.log .warn warning, ()⟩ :: w)
        exact ⟨trivial, hready, _, hover.cons rfl⟩
      · rintro failure s₃ _ ⟨hbelongs', events, rfl, hrun⟩
        have hover := (Attempt.reopen hpaused hslept hrun).resting (⟨.log .warn warning, ()⟩ :: w)
        refine (hover.failing hbelongs').imp ?_ fun _ haborted => haborted
        rintro last - ⟨-, failure, htransient, hresting⟩ line _ rfl
        exact ⟨trivial, ih ⟨hbelongs', failure, htransient, hresting.cons rfl⟩⟩

/-- **The stages of a run, with its latest attempt.** -/
theorem stages_attempts (session : Session ι) :
    Stages recording (fun _ => True) (BetweenAttempts session) (Begun session) (Broken session) (Aborted session)
      (Halted session) where
  look := by
    rintro s w isStopped _ ⟨hready, verdict, hresting⟩ rfl
    refine ⟨trivial, ?_⟩
    cases isStopped with
    | true => exact ⟨verdict, hresting.cons rfl⟩
    | false => exact ⟨hready, w, rfl⟩
  haltedLog := by
    rintro s w level line _ ⟨verdict, hresting⟩ rfl
    exact ⟨trivial, verdict, hresting.cons rfl⟩
  endedLog := by
    rintro failure s w level line _ hclosed rfl
    exact ⟨trivial, Closed.cons hclosed rfl⟩
  recover := fun last s w h => by
    unfold recover
    rw [Action.ensures_bind, Action.ensures_get]
    exact ensures_recoverWithin_attempts h

theorem not_contact_of_asksToReport {effect : Effect ι} (h : s.AsksToReport effect) (answer : effect.Answer) :
    Event.isContact ⟨effect, answer⟩ = false := by
  cases h <;> rfl

/-- Neither reports nor pauses are attempts. -/
theorem reportable_betweenAttempts (session : Session ι) :
    Reportable recording (fun _ => True) (BetweenAttempts session) where
  failures := fun _ _ _ _ h => ⟨⟨⟨{ h.1.1.toSameEnds with }, h.1.1.space⟩, h.1.2⟩, h.2⟩
  reported := fun _ _ _ h => ⟨⟨⟨{ h.1.1.toSameEnds with }, h.1.1.space⟩, h.1.2⟩, h.2⟩
  reporting := by
    rintro s w effect answer _ ⟨hready, verdict, hresting⟩ hasks rfl
    exact ⟨trivial, hready, verdict, hresting.cons (not_contact_of_asksToReport hasks answer)⟩

/-- What holds when an attempt has found that the copy is done. -/
def CopyDone (session s : Session ι) (w : Trace ι) : Prop := Ready session s ∧ Resting session (some (.ok true)) w

theorem around_copyDone (session : Session ι) : Around recording (fun _ => True) (CopyDone session) where
  around := by
    rintro s w effect answer _ ⟨hready, hresting⟩ hasks rfl
    exact ⟨trivial, hready, hresting.cons (not_contact_of_asksAround hasks answer)⟩
  reported := fun _ _ _ h => ⟨⟨⟨{ h.1.1.toSameEnds with }, h.1.1.space⟩, h.1.2⟩, h.2⟩

theorem around_halted (session : Session ι) : Around recording (fun _ => True) (Halted session) :=
  around_of_cons fun _ _ ⟨verdict, h⟩ hevent => ⟨verdict, h.cons hevent⟩

theorem around_closed (session : Session ι) (result : Except SyncError (Option Outcome)) :
    Around recording (fun _ => True) fun (_ : Session ι) => Closed session result :=
  around_of_cons fun _ _ h hevent => h.cons hevent

/-! ## Rounds -/

/-- What an attempt leads to that neither fails nor is the last one. -/
theorem BetweenAttempts.of_resting {verdict : Except SyncError Bool}
    (h : Ready session s ∧ Resting session (some verdict) w) : BetweenAttempts session s w :=
  ⟨h.1, _, h.2⟩

theorem follows_incrementalRound (session : Session ι) (poll : Backoff) :
    Follows recording (fun _ => True) (BetweenAttempts session) (Aborted session) (incrementalRound poll)
      (Stages.Rounded (BetweenAttempts session) fun _ => Halted session) := by
  have hstep : Follows recording (fun _ => True) (Begun session) (Failing (Broken session) (Aborted session)) step
      (Stages.Stepped (BetweenAttempts session) (BetweenAttempts session)) := by
    intro s w h
    refine (follows_attempt (steady_ready session).step (fun hs hrun => .step hs hrun) s w h).mono ?_ fun _ _ _ h' => h'
    rintro (_ | _ | _) s' w' h' <;> exact .of_resting h'
  have hprogress : ∀ phase, Progresses recording (fun _ => True) (BetweenAttempts session) (Aborted session) phase
      (BetweenAttempts session) := (reportable_betweenAttempts session).progresses
  refine (stages_attempts session).incrementalRound hstep (hprogress .waiting) ?_ (hprogress .syncing) poll
  rintro time s w ⟨hready, verdict, hresting⟩
  refine (Action.ensures_sleep time s w).mono ?_ fun _ _ _ haborted => haborted
  rintro isStopped _ _ ⟨rfl, pause, rfl, hslept⟩
  have hpaused : Resting session verdict (pause ++ w) := hresting.append hslept.silent
  cases isStopped with
  | true => exact ⟨verdict, hpaused⟩
  | false => exact ⟨hready, verdict, hpaused⟩

theorem follows_prepareRound (session : Session ι) :
    Follows recording (fun _ => True) (BetweenAttempts session) (Aborted session) prepareRound
      (Stages.Rounded (BetweenAttempts session)
        (Stages.Prepared (Halted session) fun _ => BetweenAttempts session)) := by
  refine (stages_attempts session).prepareRound fun s w h => ?_
  have hprepare := (steady_ready session).preparable.prepare
  exact (follows_attempt hprepare (fun hs hrun => .prepare hs hrun) s w h).mono
    (fun _ _ _ h' => .of_resting h') fun _ _ _ h' => h'

theorem follows_copyRound (session : Session ι) (baseline : Snapshot) :
    Follows recording (fun _ => True) (BetweenAttempts session) (Aborted session) (copyRound baseline)
      (Stages.Rounded (BetweenAttempts session) (Stages.Finished (Halted session) (CopyDone session))) := by
  have hcopy : Follows recording (fun _ => True) (Begun session) (Failing (Broken session) (Aborted session))
      (copyStep baseline) (Stages.Copied (CopyDone session) (BetweenAttempts session)) := by
    intro s w h
    have hsteady := (steady_ready session).copyStep baseline
    refine (follows_attempt hsteady (fun hs hrun => .copyStep hs hrun) s w h).mono ?_ fun _ _ _ h' => h'
    rintro (_ | _ | _) s' w' h'
    case done => exact h'
    case imported | jumped => exact .of_resting h'
  have hreportable := reportable_betweenAttempts session
  refine (stages_attempts session).copyRound hcopy ?_ (hreportable.progresses .syncing)
  exact fun s w level line w' h henv => hreportable.reporting s w _ _ w' h (.log level line) henv

/-- A copy that is done ends the run, after at most one more request. -/
theorem follows_completeBulk_closed (session : Session ι) (baseline : Snapshot) :
    Follows recording (fun _ => True) (CopyDone session) (Aborted session) (completeBulk baseline)
      fun outcome _ w => Closed session (.ok (some outcome)) w := by
  have hunfreeze : ∀ s w, CopyDone session s w → s.options.bulk.unfreezeOnCompletion = true →
      Action.Ensures recording (fun _ => True) (onSlave (Client.setFreeze s.space false))
        (fun _ _ w' => Closed session (.ok (some .completed)) w') (Aborted session) s w := by
    rintro s w ⟨⟨hbelongs, hlogin⟩, after, events, before, rfl, hlatest, hsilent⟩ -
    refine ensures_setFreeze hlogin.2 ?_
    rintro line _ rfl
    refine ⟨trivial, ?_⟩
    rintro r _ rfl
    have hnoted : Silent (⟨.log .debug line, ()⟩ :: after) := hsilent.cons rfl
    have hclosed : Closed session (session.liftedAs r) (.sent session.slave.link (.nsFreeze session.space false) r ::
        ⟨.log .debug line, ()⟩ :: (after ++ (events ++ before))) :=
      ⟨[] ++ .sent session.slave.link (.nsFreeze session.space false) r :: ⟨.log .debug line, ()⟩ :: after, events,
        before, _, rfl, hlatest, .lifted r (List.forall_mem_nil _) hnoted⟩
    unfold liftedAs at hclosed
    rw [← hbelongs.slave.link, ← hbelongs.space] at hclosed
    refine ⟨trivial, ?_⟩
    cases hreading : Client.reading (.nsFreeze s.space false) Client.ack? r with
    | ok _ =>
      rw [hreading] at hclosed
      exact hclosed
    | error _ =>
      rw [hreading] at hclosed
      exact hclosed
  intro s w h
  refine ((around_copyDone session).completeBulk (around_closed session _) hunfreeze baseline s w h).mono ?_
    fun _ _ _ h' => h'
  rintro outcome s' w' ⟨rfl, hlifted | ⟨-, -, hresting⟩⟩
  · exact hlifted
  · exact hresting.closed fun _ => .completed

/-! ## The run -/

theorem follows_stopped_closed (session : Session ι) :
    Follows recording (fun _ => True) (Halted session) (Aborted session) stopped
      fun outcome _ w => Closed session (.ok (some outcome)) w := by
  intro s w h
  refine ((around_halted session).stopped s w h).mono ?_ fun _ _ _ h' => h'
  rintro outcome s' w' ⟨rfl, verdict, hresting⟩
  exact hresting.closed fun _ => .stopped

/-- **A run that begins ends after its latest attempt.** -/
theorem ensures_run_closed (hlogin : session.LoggedIn) (limit : Nat) :
    Action.Ensures recording (fun _ => True) (run limit) (fun outcome _ w => Closed session (.ok outcome) w)
      (Aborted session) session [] := by
  have hbroken : ∀ s w, BetweenAttempts session s w → Closed session (.ok none) w :=
    fun _ _ ⟨_, _, hresting⟩ => hresting.closed fun _ => .brokenOff
  refine Stages.run (fun client hend hout => ?_) ?_ (fun outcome => (around_closed session _).outlastsLog)
    fun failure => (around_closed session _).outlastsLog
  · exact absurd ((hlogin.of_isEnd hend).symm.trans hout) nofun
  rintro - level line _ rfl
  have hstart : BetweenAttempts session session [⟨.log level line, ()⟩] :=
    ⟨⟨⟨.refl session, rfl⟩, hlogin⟩, none, [_], [], [], rfl, .none, List.forall_mem_singleton.mpr rfl⟩
  refine ⟨trivial, fun _ => ?_, fun _ => ?_⟩
  · refine Stages.runBulk (follows_prepareRound session) ?_ (follows_copyRound session)
      (follows_stopped_closed session) (follows_completeBulk_closed session) hbroken (fun _ => hbroken) limit session _
      hstart
    exact fun _ s w level line w' h henv =>
      (reportable_betweenAttempts session).reporting s w _ _ w' h (.log level line) henv
  · exact Stages.runIncremental (follows_incrementalRound session) (follows_stopped_closed session) hbroken limit
      session _ hstart

/-- How a run ends during which the signal fires. -/
structure Prompt (session s' : Session ι) (limit : Nat) (later earlier : Trace ι)
    (result : Except SyncError (Option Outcome)) : Prop where
  /-- What led to the latest attempt had happened before the signal fired, but for the end of a pause that was over as
      well, and what comes after the attempt is the end of the run. -/
  last : ∃ after attempt before verdict, later ++ earlier = after ++ (attempt ++ before) ∧ Past earlier before ∧
    Latest session before attempt verdict ∧ Ends session verdict after result
  /-- A run that is broken off has gone through all of its rounds before. -/
  rounds : result = .ok none → limit + Trace.waits (later ++ earlier) ≤ Trace.looks earlier
  /-- Where it comes to `stopped` and both sides have been read, the last report says that it is finished. -/
  finished : result = .ok (some .stopped) → ∀ current, s'.snapshots = some current →
    ∃ report others, Trace.reports (later ++ earlier) = report :: others ∧ report.phase = .finished

/-- What leads to an attempt has happened before the signal fired, but for the end of a pause that is over as well. -/
theorem Attempt.began {lead events later earlier after before : Trace ι} {verdict : Except SyncError Bool}
    (h : Attempt session lead events verdict) (hfires : Fires later earlier)
    (heq : later ++ earlier = after ++ (events ++ (lead ++ before))) : Past earlier (lead ++ before) := by
  rw [← List.append_assoc] at heq
  cases h with
  | step | prepare | copyStep => exact .inl (hfires.suffix heq rfl)
  | reopen _ hslept => exact hfires.pause hslept heq

theorem prompt_of_run {limit : Nat} {later earlier : Trace ι} {result : Except SyncError (Option Outcome)}
    (hlogin : session.LoggedIn) (hrun : (run limit).Runs session (later ++ earlier) result s')
    (hfires : Fires later earlier) : Prompt session s' limit later earlier result where
  last := by
    have hclosed : Closed session result (later ++ earlier) := by
      have hend := (hrun.ensured trivial (ensures_run_closed hlogin limit)).2
      cases result <;> exact hend
    obtain ⟨after, attempt, before, verdict, heq, hlatest, hends⟩ := hclosed
    refine ⟨after, attempt, before, verdict, heq, ?_, hlatest, hends⟩
    cases hlatest with
    | none => exact .inl List.nil_suffix
    | some hattempt => exact hattempt.began hfires heq
  rounds := by
    rintro rfl
    exact hfires.looks_eq ▸ run_brokenOff hrun
  finished := by
    rintro rfl current hcurrent
    have hsigned := (hrun.ensured trivial (ensures_signedOff session limit)).2
    obtain ⟨previous, elapsed, others, hreports, -⟩ := hsigned current hcurrent
    exact ⟨_, others, hreports, rfl⟩

/-- **A session stops promptly.** At whatever moment of a run the signal fires, the attempt that is under way then, be
    it a step or one at connecting again, is the last one: it has begun at a look which did not show the signal, and so
    has the pause which leads to it, if there is one. Nothing is sent after it, and the run comes to `stopped`, with a
    last report that says it is finished, unless the attempt itself has ended the run: it has failed, or it has found a
    copy to be done, after which at most the end of the freeze is requested. A session that is not logged in does not
    begin, whenever the signal fires, and sends nothing. -/
theorem stops_promptly {limit : Nat} {later earlier : Trace ι} {result : Except SyncError (Option Outcome)}
    (hrun : (run limit).Runs session (later ++ earlier) result s') (hfires : Fires later earlier) :
    session.LoggedIn ∧ Prompt session s' limit later earlier result ∨
    ¬ session.LoggedIn ∧ later ++ earlier = [] ∧ ∃ client, session.IsEnd client ∧ client.authenticated = false ∧
      result = .error (.auth (.notLoggedIn client.target)) := by
  by_cases hlogin : session.LoggedIn
  · exact .inl ⟨hlogin, prompt_of_run hlogin hrun hfires⟩
  · refine .inr ⟨hlogin, ?_⟩
    generalize later ++ earlier = trace at hrun ⊢
    cases runsAs_of_run hrun with
    | refused hend hout => exact ⟨rfl, _, hend, hout, rfl⟩
    | followed hbegun => exact absurd hbegun hlogin

/-- A signal that fires while an incremental run between equal sides pauses: the step before was the last one, and the
    last report says that the run is finished. -/
theorem stops_promptly_in_pause :
    ∃ (later earlier : Trace Role) (s' : Session Role),
      (run 1).Runs (between .incremental) (later ++ earlier) (.ok (some .stopped)) s' ∧ Fires later earlier ∧
      Prompt (between .incremental) s' 1 later earlier (.ok (some .stopped)) ∧ s'.snapshots.isSome := by
  let session := between .incremental
  have hlogin : session.LoggedIn := ⟨rfl, rfl⟩
  obtain ⟨waiting, finished, delay, s', -, -, hsnapshots, hrun⟩ :=
    exists_runs_paused (s := session) hlogin rfl rfl rfl .twoSegments
  have hfires : Fires (fromPause delay finished) (upToPause session .twoSegments waiting) := by
    refine ⟨?_, ?_, ?_⟩ <;> simp [fromPause, upToPause, readBy, Event.look?, Event.abandons]
  rcases stops_promptly hrun hfires with ⟨-, hprompt⟩ | ⟨hout, -⟩
  · exact ⟨_, _, s', hrun, hfires, hprompt, Option.isSome_iff_exists.mpr ⟨_, hsnapshots⟩⟩
  · exact absurd hlogin hout

/-- Once its pause is over, a session opens both of its sides again, which accept it. -/
theorem exists_runs_recover_reopening :
    ∃ (warning : String) (time : Duration) (reopening : Trace Role) (s : Session Role),
      (recover (.transport "reset")).Runs (between .incremental)
        ((reopening ++ [⟨.wait time, .elapsed⟩]) ++ [⟨.stopRequested, false⟩, ⟨.log .warn warning, ()⟩]) (.ok false) s ∧
      (∀ event ∈ reopening, event.look? = none ∧ event.abandons = false) ∧ (∃ event ∈ reopening, event.isContact) ∧
      s.snapshots = none := by
  refine ⟨_, _, [_, _, _, _, _, _, _, _], _, .answered () (.answered false (.answered .elapsed (.answered (.ok ())
    (.answered (.ok (.simple "a1b2")) (.answered (.ok .okay) (.answered (.ok .okay) (.answered () (.answered (.ok ())
      (.answered (.ok .okay) (.answered () (.refl _ _))))))))))), ?_, ⟨_, .tail _ (.head _), rfl⟩, rfl⟩
  simp only [List.forall_mem_cons]
  exact ⟨⟨rfl, rfl⟩, ⟨rfl, rfl⟩, ⟨rfl, rfl⟩, ⟨rfl, rfl⟩, ⟨rfl, rfl⟩, ⟨rfl, rfl⟩, ⟨rfl, rfl⟩, ⟨rfl, rfl⟩,
    List.forall_mem_nil _⟩

/-- The master could not be read. -/
def lost (s : Session Role) : Event Role := .sent s.master.link (.nsInfo s.space) (.error (.transport "reset"))

/-- A run whose first step loses its connection, up to the look with which the pause begins. -/
def upToReopening (s : Session Role) (warning : String) : Trace Role :=
  [⟨.stopRequested, false⟩, ⟨.log .warn warning, ()⟩, lost s, ⟨.stopRequested, false⟩,
    ⟨.log .info "Starting incremental sync", ()⟩]

/-- The rest of it, where the pause is over and the signal shows at the next look. -/
def fromReopening (time : Duration) (reopening : Trace Role) : Trace Role :=
  [⟨.log .info "Session ended: Stopped", ()⟩, ⟨.log .info "Stop requested", ()⟩, ⟨.stopRequested, true⟩] ++
    (reopening ++ [⟨.wait time, .elapsed⟩])

theorem runs_step_lost :
    step.Runs (between .incremental) [lost (between .incremental)] (.error (.protocol (.transport "reset")))
      (between .incremental) :=
  .answered (.error (.transport "reset")) (.refl _ _)

theorem exists_runs_reopening :
    ∃ (warning : String) (time : Duration) (reopening : Trace Role) (s : Session Role),
      (run 2).Runs (between .incremental)
        (fromReopening time reopening ++ upToReopening (between .incremental) warning) (.ok (some .stopped)) s ∧
      (∀ event ∈ reopening, event.look? = none ∧ event.abandons = false) ∧ ∃ event ∈ reopening, event.isContact := by
  let session := between .incremental
  let poll := session.options.poll.backoff
  obtain ⟨warning, time, reopening, s, hrecover, hquiet, hcontact, hsnapshots⟩ := exists_runs_recover_reopening
  have hfirst : (incrementalRound poll).Runs session _ (.ok (.again poll)) s :=
    (Action.runs_perform .stopRequested false session).bind
      ((runs_step_lost.attempt.bind (hrecover.finish rfl)).finish rfl)
  have hsecond : (incrementalRound poll).Runs s _ (.ok (.last ())) s :=
    (Action.runs_perform .stopRequested true s).bind (.refl _ _)
  have hrounds : (Action.rounds incrementalRound 2 poll).Runs session _ (.ok (some ())) s :=
    hfirst.bind (hsecond.finish rfl)
  have hemit : (emit .finished).Runs s [] (.ok ()) s := .bind_get (by rw [hsnapshots]; exact .refl _ _)
  have hstopped : stopped.Runs s _ (.ok .stopped) s :=
    (Action.runs_perform (.log .info "Stop requested") () s).bind (hemit.finish rfl)
  have hfollow : (follow 2).Runs session _ (.ok (some .stopped)) s := hrounds.bind (hstopped.finish rfl)
  have hrun : (run 2).Runs session _ (.ok (some .stopped)) s :=
    (Action.runs_perform (.log .info _) () session).bind
      (hfollow.attempt.bind ((Action.runs_perform (.log .info _) () s).finish rfl))
  refine ⟨warning, time, reopening, s, ?_, hquiet, hcontact⟩
  simp only [fromReopening, upToReopening, List.append_assoc, List.cons_append, List.nil_append] at hrun ⊢
  exact hrun

/-- Two runs during which the signal fires and that do not end promptly. A session whose master is not logged in does
    not come to `stopped`, though the signal has fired before the run, and though there is no attempt that could have
    ended it. And where the signal fires while a session pauses before it connects again, but the time is over as well,
    both sides are opened, though the attempt that was the latest one then is over. -/
theorem not_prompt :
    (∃ (session : Session Role) (result : Except SyncError (Option Outcome)),
      session.master.authenticated = false ∧ (run 1).Runs session ([] ++ []) result session ∧
      Fires ([] : Trace Role) [] ∧ result ≠ .ok (some .stopped) ∧ ¬ Prompt session session 1 [] [] result) ∧
    ∃ (later earlier : Trace Role) (s' : Session Role),
      (run 2).Runs (between .incremental) (later ++ earlier) (.ok (some .stopped)) s' ∧ Fires later earlier ∧
      Resting (between .incremental) (some (.error (.protocol (.transport "reset")))) earlier ∧
      ∃ event ∈ later, event.isContact := by
  refine ⟨?_, ?_⟩
  · let session : Session Role :=
      { between .incremental with master := { (between .incremental).master with authenticated := false } }
    have hrun : (run 1).Runs session ([] ++ []) (.error (.auth (.notLoggedIn session.master.target))) session :=
      .refl _ _
    have hfires : Fires ([] : Trace Role) [] := ⟨List.forall_mem_nil _, List.forall_mem_nil _, List.forall_mem_nil _⟩
    refine ⟨session, _, rfl, hrun, hfires, nofun, fun hprompt => ?_⟩
    obtain ⟨after, attempt, before, verdict, heq, -, hlatest, hends⟩ := hprompt.last
    obtain ⟨-, hnothing⟩ := List.append_eq_nil_iff.mp heq.symm
    cases hlatest with
    | none => cases hends
    | some hattempt =>
      obtain ⟨-, hbefore⟩ := List.append_eq_nil_iff.mp hnothing
      exact hattempt.lead_ne_nil (List.append_eq_nil_iff.mp hbefore).1
  · obtain ⟨warning, time, reopening, s, hrun, hquiet, event, hmem, hcontact⟩ := exists_runs_reopening
    have hfires : Fires (fromReopening time reopening) (upToReopening (between .incremental) warning) := by
      refine ⟨by simp [upToReopening, lost, Event.look?], ?_, ?_⟩
      · simp only [fromReopening, List.forall_mem_append]
        exact ⟨by simp [Event.look?], fun event hmem => by rw [(hquiet event hmem).1]; exact nofun,
          by simp [Event.look?]⟩
      · simp only [fromReopening, List.forall_mem_append]
        exact ⟨⟨by simp [Event.abandons], fun event hmem => (hquiet event hmem).2, by simp [Event.abandons]⟩,
          by simp [upToReopening, lost, Event.abandons]⟩
    have hattempt : Attempt (between .incremental) _ _ _ := .step ⟨.refl _, rfl⟩ runs_step_lost
    exact ⟨_, _, s, hrun, hfires, ((hattempt.resting [_]).cons rfl).cons rfl, event,
      List.mem_append_right _ (List.mem_append_left _ hmem), hcontact⟩

end Session

end SegmentSync
