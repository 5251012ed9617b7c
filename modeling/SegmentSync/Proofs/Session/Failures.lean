import SegmentSync.Proofs.Replication.Scene
import SegmentSync.Proofs.Session.Tally
import SegmentSync.Proofs.Session.Upkeep

/-!
# `SegmentSync.Proofs.Session.Failures` — what becomes of the failures of a connection

A failure of the connection during an attempt is handed to `recover`, which ends with both sides opened again and
logged in, with the session stopped, or with a failure that is not one of the connection and ends the run. The only
request of a run that is not part of an attempt is the one that ends the freeze, and so the only one whose failure
comes out of a run as it is.

## Contents
- **Recovering.** `RecoveredAs` is what recovering comes to.
- **Handling.** `Handled` says that each failure of a trace is recovered from. That goes for the failures met while
  recovering as well.
- **The run.** `Session.failures_handled`.
-/

namespace SegmentSync.Session

open Trace (FailedAt append_eq_append_cons)

variable {ι α : Type} {final : SyncError → Prop} {last : ProtocolError} {w : Trace ι}

/-! ## Recovering -/

/-- What recovering has come to, by the events until then. -/
inductive RecoveredAs : Except SyncError Bool → Trace ι → Prop where
  | reopened {s s' : Session ι} {opening earlier : Trace ι} {line : String}
    (hrun : reopen.Runs s opening (.ok ()) s') :
    RecoveredAs (.ok false) (⟨.log .info line, ()⟩ :: (opening ++ earlier))
  | stopped {delay : Duration} {pause earlier : Trace ι} (h : Slept delay true pause) :
    RecoveredAs (.ok true) (pause ++ earlier)
  | failed {failure : SyncError} {events : Trace ι} (h : RecoveryFailure failure) :
    RecoveredAs (.error failure) events

theorem recoverable_any : Recoverable recording (fun _ => True) fun (_ : Session ι) _ => True :=
  ⟨fun _ _ _ _ => trivial, fun _ _ _ _ => trivial, fun _ _ _ _ _ => trivial, fun _ _ _ _ _ _ _ _ => ⟨trivial, trivial⟩⟩

/-- **Recovering comes to an end in one of three ways.** -/
theorem ensures_recoveredAs (budget : Nat) (last : ProtocolError) (s : Session ι) (w : Trace ι) :
    Action.Ensures recording (fun _ => True) (recoverWithin budget last)
      (fun isStopped _ w => RecoveredAs (.ok isStopped) w) (fun failure _ w => RecoveredAs (.error failure) w) s w := by
  induction budget generalizing last s w with
  | zero => exact ensures_recoverWithin_zero (fun _ => .failed (.exhausted _ _)) fun _ => .failed .overflow
  | succ budget ih =>
    refine ensures_recoverWithin_succ (fun _ => .failed .overflow) fun _ _ w₁ _ => ⟨trivial, ?_⟩
    refine (Action.ensures_sleep _ _ w₁).mono ?_ fun _ _ _ hended => hended
    rintro isStopped s₂ w₂ ⟨-, pause, rfl, hslept⟩
    cases isStopped with
    | true => exact .stopped hslept
    | false =>
      refine ((Action.ensures_runs reopen _ _).and (recoverable_any.reopen _ _ trivial)).mono ?_ ?_
      · rintro _ s₃ _ ⟨⟨opening, rfl, hrun⟩, -⟩ line _ rfl
        exact ⟨trivial, .reopened hrun⟩
      · rintro failure s₃ w₃ ⟨-, -, hlogin⟩
        unfold Failing
        cases htransient : failure.transient? with
        | none => exact .failed (.login hlogin htransient)
        | some last => exact fun _ w₄ _ => ⟨trivial, ih last s₃ w₄⟩

/-- How the session has gone on after a failure of the connection, log lines aside: it has begun to recover from it.
    Where that has failed, the run has ended with that failure. -/
def Recovers (final : SyncError → Prop) (last : ProtocolError) (later : Trace ι) : Prop :=
  ∃ rest events logs budget outcome, ∃ s s' : Session ι, later = rest ++ (events ++ logs) ∧
    (∀ event ∈ logs, event.isLog = true) ∧ (recoverWithin budget last).Runs s events outcome s' ∧
    RecoveredAs outcome events ∧
    ∀ failure, outcome = .error failure → final failure ∧ ∀ event ∈ rest, event.isLog = true

theorem Recovers.append {later : Trace ι} (h : Recovers final last later) (more : Trace ι)
    (hmore : ∀ failure, final failure → ∀ event ∈ more, event.isLog = true) : Recovers final last (more ++ later) := by
  obtain ⟨rest, events, logs, budget, outcome, s, s', rfl, hlogs, hrun, hrecovered, hfinal⟩ := h
  refine ⟨more ++ rest, events, logs, budget, outcome, s, s', ?_, hlogs, hrun, hrecovered, fun failure heq => ?_⟩
  · rw [List.append_assoc]
  · obtain ⟨hfailure, hrest⟩ := hfinal failure heq
    exact ⟨hfailure, List.forall_mem_append.mpr ⟨hmore failure hfailure, hrest⟩⟩

theorem Recovers.mono {final' : SyncError → Prop} {later : Trace ι} (h : Recovers final last later)
    (himp : ∀ failure, final failure → final' failure) : Recovers final' last later := by
  obtain ⟨rest, events, logs, budget, outcome, s, s', heq, hlogs, hrun, hrecovered, hfinal⟩ := h
  refine ⟨rest, events, logs, budget, outcome, s, s', heq, hlogs, hrun, hrecovered, fun failure heq => ?_⟩
  exact (hfinal failure heq).imp_left (himp failure)

/-! ## Handling -/

/-- Each failure of the connection is recovered from. -/
def Handled (final : SyncError → Prop) (w : Trace ι) : Prop :=
  ∀ later event earlier last, w = later ++ event :: earlier → event.failure? = some last → Recovers final last later

namespace Handled

theorem nil : Handled final ([] : Trace ι) := by
  intro later event earlier last h
  exact absurd h (by simp)

theorem mono {final' : SyncError → Prop} (h : Handled final w) (himp : ∀ failure, final failure → final' failure) :
    Handled final' w :=
  fun later event earlier last heq hevent => (h later event earlier last heq hevent).mono himp

/-- Where nothing has ended the run, something still may. -/
theorem any (h : Handled (fun _ => False) w) : Handled final w :=
  h.mono fun _ => False.elim

theorem cons {event : Event ι} (h : Handled final w) (hfailure : event.failure? = none)
    (hlog : ∀ failure, final failure → event.isLog = true) : Handled final (event :: w) := by
  intro later e earlier last heq he
  rcases List.cons_eq_append_iff.mp heq with ⟨rfl, heq⟩ | ⟨later, rfl, rfl⟩
  · obtain ⟨rfl, rfl⟩ := List.cons.inj heq
    rw [hfailure] at he
    cases he
  · refine (h later e earlier last rfl he).append [event] fun failure hfinal => ?_
    exact List.forall_mem_singleton.mpr (hlog failure hfinal)

/-- Nothing has ended so far. -/
theorem quiet {event : Event ι} (h : Handled (fun _ => False) w) (hfailure : event.failure? = none) :
    Handled (fun _ => False) (event :: w) :=
  h.cons hfailure fun _ hfinal => hfinal.elim

/-- **What is handled while recovering is handled altogether.** -/
theorem recovery {logs earlier events : Trace ι} {event : Event ι} {budget : Nat} {s s' : Session ι}
    {outcome : Except SyncError Bool} (h : Handled (fun _ => False) earlier)
    (hfailed : FailedAt last w logs event earlier) (hrun : (recoverWithin budget last).Runs s events outcome s')
    (hevents : Handled (fun failure => outcome = .error failure) events) :
    Handled (fun failure => outcome = .error failure) (events ++ w) := by
  have hrecovered : RecoveredAs outcome events := by
    have hend := (hrun.ensured trivial (ensures_recoveredAs budget last s [])).2
    cases outcome <;> exact hend
  obtain ⟨rfl, hlogged, hevent⟩ := hfailed
  intro later e r last' heq he
  rcases append_eq_append_cons heq with ⟨m, rfl, -⟩ | ⟨m, rfl, hm⟩
  · exact hevents later e m last' rfl he
  rcases append_eq_append_cons hm with ⟨l, rfl, -⟩ | ⟨l, rfl, hl⟩
  · have hquiet := Event.quiet_of_isLog (hlogged e (by simp))
    rw [hquiet.1] at he
    cases he
  rcases List.cons_eq_append_iff.mp hl with ⟨rfl, hl⟩ | ⟨l, rfl, rfl⟩
  · obtain ⟨rfl, rfl⟩ := List.cons.inj hl
    obtain rfl := Option.some.inj (hevent.symm.trans he)
    refine ⟨[], events, logs, budget, outcome, s, s', by simp, hlogged, hrun, hrecovered, fun failure heq => ?_⟩
    exact ⟨heq, List.forall_mem_nil _⟩
  · have hbefore := (h l e r last' rfl he).append (events ++ logs ++ [event]) fun _ hfinal => hfinal.elim
    simpa using hbefore.mono fun _ hfinal => hfinal.elim

theorem around : Around recording (fun _ => True) fun (_ : Session ι) w => Handled (fun _ => False) w where
  around := by
    rintro s w effect answer _ h hasks rfl
    exact ⟨trivial, h.quiet (quiet_of_asksAround hasks answer).2.1⟩
  reported := fun _ _ _ h => h

theorem undeterred : Undeterred fun (_ : Session ι) w => Handled (fun _ => False) w where
  master := fun _ _ _ h => h
  slave := fun _ _ _ h => h
  quiet := fun _ _ _ h hfailure _ => h.quiet hfailure

end Handled

/-- **The failures met while recovering are recovered from in turn.** -/
theorem ensures_handled (budget : Nat) (last : ProtocolError) (s : Session ι) :
    Action.Ensures recording (fun _ => True) (recoverWithin budget last)
      (fun isStopped _ => Handled fun failure => (.ok isStopped : Except SyncError Bool) = .error failure)
      (fun failure _ => Handled fun failure' => (.error failure : Except SyncError Bool) = .error failure') s [] := by
  induction budget generalizing last s with
  | zero => exact ensures_recoverWithin_zero (fun _ => .nil) fun _ => .nil
  | succ budget ih =>
    refine ensures_recoverWithin_succ (fun _ => .nil) ?_
    rintro - line _ rfl
    have hlogged : Handled (fun _ => False) [(⟨.log .warn line, ()⟩ : Event ι)] := Handled.nil.quiet rfl
    refine ⟨trivial, (Handled.around.sleep _ _ _ hlogged).mono ?_ fun _ _ _ hended => hended⟩
    intro isStopped s₂ w₂ hpaused
    cases isStopped with
    | true => exact hpaused.any
    | false =>
      refine (attempts_reopen Handled.undeterred _ w₂ hpaused).mono ?_ ?_
      · rintro _ s₃ w₃ hreopened _ _ rfl
        exact ⟨trivial, (hreopened.quiet rfl).any⟩
      · intro failure s₃ w₃ hfell
        unfold Failing
        rcases hfell.cases with ⟨htransient, hkept, -⟩ | ⟨last, event, earlier, htransient, rfl, hevent, hearlier⟩
        · rw [htransient]
          exact hkept.any
        · rw [htransient]
          rintro line _ rfl
          have hfailed : FailedAt last (event :: earlier) [] event earlier := .now hevent
          refine ⟨trivial, (Action.ensures_runs (recoverWithin budget last) s₃ _).mono ?_ ?_⟩
          · rintro isStopped s₄ _ ⟨events, rfl, hrun⟩
            exact hearlier.recovery (hfailed.log rfl) hrun (hrun.ensured trivial (ih last s₃)).2
          · rintro failure s₄ _ ⟨events, rfl, hrun⟩
            exact hearlier.recovery (hfailed.log rfl) hrun (hrun.ensured trivial (ih last s₃)).2

/-! ## The run -/

/-- What the end of the freeze depends on stays as it was. -/
structure Kept (session s : Session ι) : Prop where
  link : s.slave.link = session.slave.link
  space : s.space = session.space
  options : s.options = session.options

theorem unaffected_kept {session : Session ι} :
    Unaffected recording (fun _ => True) fun (s : Session ι) _ => Kept session s where
  master := fun _ _ _ h => { h with }
  slave := fun _ _ _ h => { h with }
  failures := fun _ _ _ _ h => { h with }
  reported := fun _ _ _ h => { h with }
  effect := fun _ _ _ _ _ h _ _ => ⟨trivial, h⟩
  reporting := fun _ _ _ _ _ h _ _ => ⟨trivial, h⟩

/-- All failures have been handled so far. -/
structure Untroubled (session s : Session ι) (w : Trace ι) : Prop where
  kept : Kept session s
  handled : Handled (fun _ => False) w

/-- A failure of the connection of the slave has come out of a bulk run, for it was told to end the freeze. -/
structure Surfaced (session : Session ι) (last : ProtocolError) (w : Trace ι) : Prop where
  bulk : session.strategy = .bulk
  unfreeze : session.options.bulk.unfreezeOnCompletion = true
  sent : ∃ logs earlier, w = logs ++ .sent session.slave.link (.nsFreeze session.space false) (.error last) :: earlier ∧
    ∀ event ∈ logs, event.isLog = true

/-- A failure of the connection has not been handled. -/
def Unhandled (session : Session ι) (last : ProtocolError) (s : Session ι) (w : Trace ι) : Prop :=
  ∃ logs event earlier, FailedAt last w logs event earlier ∧ Untroubled session s earlier

/-- A failure ends the run. -/
structure Final (session : Session ι) (failure : SyncError) (w : Trace ι) : Prop where
  handled : Handled (· = failure) w
  surfaced : ∀ last, failure.transient? = some last → Surfaced session last w

variable {session s : Session ι}

theorem Untroubled.quiet {event : Event ι} (h : Untroubled session s w) (hfailure : event.failure? = none) :
    Untroubled session s (event :: w) :=
  { h with handled := h.handled.quiet hfailure }

theorem Untroubled.ends {failure : SyncError} (h : Untroubled session s w) (hfinal : failure.transient? = none) :
    Final session failure w where
  handled := h.handled.any
  surfaced := fun last htransient => by
    rw [hfinal] at htransient
    cases htransient

theorem undeterred_untroubled : Undeterred (Untroubled session) where
  master := fun s w authenticated h => { h with kept := unaffected_kept.master s w authenticated h.kept }
  slave := fun s w authenticated h => { h with kept := unaffected_kept.slave s w authenticated h.kept }
  quiet := fun _ _ _ h hfailure _ => h.quiet hfailure

theorem reportable_untroubled : Reportable recording (fun _ => True) (Untroubled session) where
  failures := fun s w failures backoff h => { h with kept := unaffected_kept.failures s w failures backoff h.kept }
  reported := fun s w reported h => { h with kept := unaffected_kept.reported s w reported h.kept }
  reporting := by
    rintro s w effect answer _ h hasks rfl
    cases hasks <;> exact ⟨trivial, h.quiet rfl⟩

theorem Final.log {failure : SyncError} {level : Level} {line : String} (h : Final session failure w) :
    Final session failure (⟨.log level line, ()⟩ :: w) where
  handled := h.handled.cons rfl fun _ _ => rfl
  surfaced := fun last htransient => by
    obtain ⟨hbulk, hunfreeze, logs, earlier, rfl, hlogs⟩ := h.surfaced last htransient
    exact ⟨hbulk, hunfreeze, _ :: logs, earlier, rfl, List.forall_mem_cons.mpr ⟨rfl, hlogs⟩⟩

/-- **Recovering handles the failure**, and those that it meets. -/
theorem ensures_recover_handled (h : Unhandled session last s w) :
    Action.Ensures recording (fun _ => True) (recover last) (fun _ => Untroubled session)
      (fun failure _ => Final session failure) s w := by
  obtain ⟨logs, event, earlier, hfailed, hearlier⟩ := h
  have hkept := unaffected_kept.toRecoverable.recover last s w hearlier.kept
  refine ((Action.ensures_runs (recover last) s w).and hkept).mono ?_ ?_
  · rintro isStopped s' _ ⟨⟨events, rfl, hrun⟩, hkept'⟩
    have hevents := (Action.Runs.ensured hrun trivial (ensures_handled _ last s)).2
    refine ⟨hkept', (hearlier.handled.recovery hfailed hrun hevents).mono fun failure heq => ?_⟩
    cases heq
  · rintro failure s' _ ⟨⟨events, rfl, hrun⟩, hkept', hrecovery⟩
    have hevents := (Action.Runs.ensured hrun trivial (ensures_handled _ last s)).2
    refine ⟨(hearlier.handled.recovery hfailed hrun hevents).mono fun _ heq => (Except.error.inj heq).symm, ?_⟩
    intro last' htransient
    cases hrecovery with
    | login _ hfinal =>
      rw [hfinal] at htransient
      cases htransient
    | exhausted | overflow => cases htransient

theorem around_untroubled : Around recording (fun _ => True) (Untroubled session) where
  around := fun s w effect answer w' h hasks henv =>
    have hnext := Handled.around.around s w effect answer w' h.handled hasks henv
    ⟨hnext.1, h.kept, hnext.2⟩
  reported := reportable_untroubled.reported

/-- **The course of a run whose failures are handled.** -/
theorem course_untroubled : Course recording (fun _ => True) (Untroubled session) (Untroubled session)
    (Unhandled session) (fun failure _ => Final session failure) (Untroubled session) where
  toAround := around_untroubled
  halts := fun _ _ h => h
  haltedAround := around_untroubled
  readyLog := fun s w level line w' h henv => ⟨trivial, henv ▸ h.quiet rfl⟩
  endedLog := fun failure s w level line w' h henv => ⟨trivial, henv ▸ h.log⟩
  recover := fun last s w h =>
    (ensures_recover_handled h).mono (fun isStopped _ _ h' => by cases isStopped <;> exact h') fun _ _ _ h' => h'
  progress := fun phase _ s w h => by
    have hnever : ∀ (failure : SyncError) (s : Session ι) w, Untroubled session s w ∧ False →
        Final session failure w := fun _ _ _ hfail => hfail.2.elim
    refine (reportable_untroubled.succeeded s w h).mono (fun _ s' w' h' => ?_) hnever
    exact (reportable_untroubled.emit phase s' w' h').mono (fun _ _ _ h'' => h'') hnever

/-- An attempt in such a course. -/
theorem follows_untroubled {x : Action (Session ι) ι α}
    (hleads : Leads (Untroubled session) (Untroubled session) x) :
    Follows recording (fun _ => True) (Untroubled session)
      (Failing (Unhandled session) fun failure _ => Final session failure) x fun _ => Untroubled session := by
  intro s w h
  refine (hleads s w h).mono (fun _ _ _ h' => h') fun failure s' w' hfell => ?_
  unfold Failing
  rcases hfell.cases with ⟨htransient, h', -⟩ | ⟨last, event, earlier, htransient, rfl, hevent, h'⟩
  · rw [htransient]
    exact h'.ends htransient
  · rw [htransient]
    exact ⟨[], event, earlier, .now hevent, h'⟩

/-- **A run handles its failures**, but for that of the end of the freeze. -/
theorem ensures_run_handled (h : Untroubled session session w) (limit : Nat) :
    Action.Ensures recording (fun _ => True) (run limit) (fun _ => Untroubled session)
      (fun failure _ => Final session failure) session w := by
  have hmaster : MasterRead (Untroubled session) (Untroubled session) := fun s w snapshot h =>
    { h with kept := { h.kept with } }
  have hslave : SlaveRead (Untroubled session) (Untroubled session) := fun s w snapshot h =>
    { h with kept := { h.kept with } }
  have hsame : ∀ s w, Untroubled session s w → Untroubled session s w := fun _ _ h => h
  have hundeterred : Undeterred (Untroubled session) := undeterred_untroubled
  refine course_untroubled.run (fun _ => h) (fun _ => h.ends rfl) (fun hbulk => ?_) fun _ => ?_
  · refine course_untroubled.runBulk (fun _ => course_untroubled) ?_ ?_ ?_ limit
    · exact follows_untroubled (leads_prepare hundeterred hundeterred hmaster hslave hsame)
    · intro baseline s w hs
      refine (follows_untroubled (leads_copyStep hundeterred hundeterred hslave hsame baseline) s w hs).mono ?_ ?_
      · rintro (_ | _ | _) _ _ h' <;> exact h'
      · exact fun _ _ _ h' => h'
    · intro s w hs hunfreeze
      refine (ensures_liftFreeze hs (fun _ _ _ h' => h'.quiet rfl) fun r w h' => ?_).mono (fun _ _ _ h' => h') ?_
      · exact h'.quiet (Event.failure?_of_liftsFreeze rfl)
      · intro failure s' w' h'
        refine ⟨h'.kept.handled.any, fun last htransient => ?_⟩
        obtain ⟨earlier, rfl, -⟩ := h'.transient last htransient
        rw [hs.kept.link, hs.kept.space]
        exact ⟨hbulk, hs.kept.options ▸ hunfreeze, [], earlier, rfl, List.forall_mem_nil _⟩
  · exact course_untroubled.runIncremental
      (follows_untroubled (leads_step hundeterred hundeterred hundeterred hmaster hslave hsame hsame)) limit

/-- **Each failure of the connection is handled.** However a run goes, a failure during an attempt is recovered from:
    both sides are opened again and logged in, or the session is stopped, or the run ends at once with a failure that
    is not one of the connection. A failure of the connection comes out of a bulk run only, where the request to end
    the freeze was the last thing it did. -/
theorem failures_handled {session' : Session ι} {limit : Nat} {trace : Trace ι}
    {result : Except SyncError (Option Outcome)} (hrun : (run limit).Runs session trace result session') :
    (∀ failure last, result = .error failure → failure.transient? = some last → Surfaced session last trace) ∧
      Handled (fun failure => result = .error failure) trace := by
  have hstart : Untroubled session session [] := ⟨⟨rfl, rfl, rfl⟩, .nil⟩
  have hend := (hrun.ensured trivial (ensures_run_handled hstart limit)).2
  cases result with
  | ok outcome =>
    have huntroubled : Untroubled session session' trace := hend
    refine ⟨?_, huntroubled.handled.any⟩
    intro failure last heq
    cases heq
  | error failure =>
    have hfinal : Final session failure trace := hend
    refine ⟨?_, hfinal.handled.mono fun _ heq => congrArg _ heq.symm⟩
    rintro _ last ⟨⟩ htransient
    exact hfinal.surfaced last htransient

/-- A bulk run between namespaces that have nothing in them, whose connection is reset at the end of the freeze, fails
    as the connection does. -/
theorem failures_handled_of_reset :
    ∃ (trace : Trace Role) (session' : Session Role),
      (run 1).Runs (between .bulk) trace (.error (.protocol (.transport "reset"))) session' ∧
      Surfaced (between .bulk) (.transport "reset") trace := by
  let session : Session Role := between .bulk
  let ns : Namespace := {}
  let session₁ : Session Role := { session with lastMaster := some ns.snapshot }
  let session₂ : Session Role := { session₁ with lastSlave := some ns.snapshot }
  have hfreeze : ∃ trace, (onSlave (Client.setFreeze "data" true)).Runs session trace (.ok ()) session :=
    ⟨_, .answered () (.answered (.ok .okay) (.refl _ _))⟩
  have hexport : ∃ trace,
      (onMaster (Client.exportSegment .zero)).Runs session₂ trace (.error (.protocol .eof)) session₂ :=
    ⟨_, .answered (.error .eof) (.refl _ _)⟩
  have hcomplete : ∃ trace, (completeBulk ns.snapshot).Runs session₂ trace
      (.error (.protocol (.transport "reset"))) session₂ :=
    ⟨_, .answered () (.answered (.error (.transport "reset")) (.refl _ _))⟩
  have hmaster : masterInfo.Runs session _ (.ok ns.snapshot) session₁ := runs_masterInfo rfl ns
  have hslave₁ : slaveInfo.Runs session₁ _ (.ok ns.snapshot) session₂ := runs_slaveInfo rfl ns rfl
  have hslave₂ : slaveInfo.Runs session₂ _ (.ok ns.snapshot) session₂ := runs_slaveInfo rfl ns rfl
  obtain ⟨_, hfreeze⟩ := hfreeze
  obtain ⟨_, hexport⟩ := hexport
  obtain ⟨_, hcomplete⟩ := hcomplete
  have hprepare : prepare.Runs session _ (.ok ns.snapshot) session₂ :=
    hfreeze.bind (hmaster.bind (hslave₁.finish rfl))
  have hprepared : (Action.rounds (fun _ => prepareRound) 1 ()).Runs session _ (.ok (some (some ns.snapshot)))
      session₂ :=
    Action.Runs.finish ((Action.runs_perform .stopRequested false session).bind
      ((hprepare.attempt.finish rfl).finish rfl)) rfl
  have hstep : (copyStep ns.snapshot).Runs session₂ _ (.ok .done) session₂ := hslave₂.bind (hexport.attempt.finish rfl)
  have hcopied : (Action.rounds (fun _ => copyRound ns.snapshot) 1 ()).Runs session₂ _ (.ok (some .completed))
      session₂ :=
    Action.Runs.finish ((Action.runs_perform .stopRequested false session₂).bind
      ((hstep.attempt.finish rfl).finish rfl)) rfl
  have hbulk : (runBulk 1).Runs session _ (.error (.protocol (.transport "reset"))) session₂ :=
    hprepared.bind ((Action.runs_perform (.log .info _) () session₂).bind (hcopied.bind hcomplete.bind_error))
  have hrun : (run 1).Runs session _ (.error (.protocol (.transport "reset"))) session₂ :=
    (Action.runs_perform (.log .info _) () session).bind (hbulk.attempt.bind (.answered () (.refl _ _)))
  exact ⟨_, session₂, hrun, (failures_handled hrun).1 _ _ rfl rfl⟩

end SegmentSync.Session
