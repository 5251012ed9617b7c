import SegmentSync.Proofs.Replication.Scene
import SegmentSync.Proofs.Session.Tally

/-!
# `SegmentSync.Proofs.Session.Retries` — the budget of a whole run

A session counts the failures of its connections, and its delays grow with them; progress starts both again. The two
are kept in the session, but what has happened in a run determines them: `Settled` says so, and every step of a run
keeps it. So the budget is one of the run, however its failures are spread over steps, preparation and reconnects.

## Contents
- **Knowing.** `Settled` holds in the midst of an attempt as well; `Tallied` is what holds around attempts.
- **Recovering.** From a failure that is `Pending`, `recover` either goes on or is at the end of the budget.
- **Progress.** A report of progress starts the count again.
- **The run.** `Session.retries_budgeted`.
-/

namespace SegmentSync.Session

open Trace (FailedAt Paced Within)

/-- What is known of the readings of both sides. -/
abbrev Readings := Option Snapshot → Option Snapshot → Prop

/-- Nothing has been read, or it does not matter. -/
abbrev AnyRead : Readings := fun _ _ => True

/-- The master has been read. -/
abbrev MasterWasRead : Readings := fun master _ => master.isSome = true

/-- Both sides have been read. -/
abbrev BothRead : Readings := fun master slave => master.isSome = true ∧ slave.isSome = true

variable {ι α : Type} {policy : RetryPolicy} {known known' : Readings} {n : Nat} {session s : Session ι} {w : Trace ι}

/-! ## Knowing -/

/-- What a session knows about its failures is what has happened, and the budget has lasted so far. -/
structure Settled (policy : RetryPolicy) (known : Readings) (n : Nat) (s : Session ι) (w : Trace ι) : Prop where
  retry : s.options.retry = policy
  /-- The failures can be counted. -/
  width : policy.maxRetries.toNat < UInt32.size - 1
  failures : s.failures = n
  backoff : s.backoff = policy.backoff.after n
  count : Trace.failures w = n
  within : Within policy.maxRetries.toNat w
  paced : Paced policy w
  known : known s.lastMaster s.lastSlave

namespace Settled

theorem le (h : Settled policy known n s w) : n ≤ policy.maxRetries.toNat := h.count ▸ h.within [] w rfl

theorem weaken (h : Settled policy known n s w) (hknown : known' s.lastMaster s.lastSlave) :
    Settled policy known' n s w :=
  { h with known := hknown }

theorem quiet {event : Event ι} (h : Settled policy known n s w) (hfailure : event.failure? = none)
    (hprogress : event.isProgress = false) : Settled policy known n s (event :: w) :=
  have hcount : Trace.failures (event :: w) = n := (Trace.failures_quiet hfailure hprogress).trans h.count
  { h with
    count := hcount
    within := h.within.cons (hcount ▸ h.le)
    paced := h.paced.quiet hfailure }

theorem undeterred : Undeterred (Settled policy known n : Session ι → Trace ι → Prop) where
  master := fun _ _ _ h => { h with }
  slave := fun _ _ _ h => { h with }
  quiet := fun _ _ _ h hfailure hprogress => h.quiet hfailure hprogress

theorem masterRead {snapshot : Snapshot} (h : Settled policy known n s w)
    (hknown : known' (some snapshot) s.lastSlave) : Settled policy known' n { s with lastMaster := some snapshot } w :=
  { h with known := hknown }

theorem slaveRead {snapshot : Snapshot} (h : Settled policy known n s w)
    (hknown : known' s.lastMaster (some snapshot)) : Settled policy known' n { s with lastSlave := some snapshot } w :=
  { h with known := hknown }

end Settled

/-- What is known around attempts: the count is that of the attempts since `session` was fresh. -/
structure Tallied (session : Session ι) (known : Readings) (n : Nat) (s : Session ι) (w : Trace ι) : Prop
    extends Settled session.options.retry known n s w where
  tally : Tally session s w n

/-- An attempt has brought the session forward, and that is not reported yet. -/
structure Forward (session : Session ι) (known : Readings) (n : Nat) (s : Session ι) (w : Trace ι) : Prop
    extends Settled session.options.retry known n s w where
  tally : Tally session s w 0

/-- The connection has failed, and that has not been recovered from. -/
structure Pending (session : Session ι) (known : Readings) (n : Nat) (last : ProtocolError) (s : Session ι)
    (w : Trace ι) : Prop where
  failed : ∃ logs event earlier, FailedAt last w logs event earlier ∧
    Settled session.options.retry known n s earlier
  tally : Tally session s w (n + 1)

/-- A failure ends the run: the one that is beyond the budget, or one that does not count. -/
inductive Concluded (session : Session ι) : SyncError → Session ι → Trace ι → Prop where
  | exhausted {last : ProtocolError} {s : Session ι} {w logs earlier : Trace ι} {event : Event ι}
    (hfailed : FailedAt last w logs event earlier)
    (hcount : Trace.failures earlier = session.options.retry.maxRetries.toNat)
    (hwithin : Within session.options.retry.maxRetries.toNat earlier) (hpaced : Paced session.options.retry w)
    (hfailures : s.failures = session.options.retry.maxRetries.toNat + 1)
    (htally : Tally session s w (session.options.retry.maxRetries.toNat + 1)) :
    Concluded session (.retriesExhausted session.options.retry.maxRetries.toNat last) s w
  | otherwise {failure : SyncError} {n : Nat} {s : Session ι} {w : Trace ι}
    (hfailure : ∀ attempts last, failure ≠ .retriesExhausted attempts last)
    (htallied : Tallied session AnyRead n s w) : Concluded session failure s w

theorem Tallied.weaken (h : Tallied session known n s w) (hknown : known' s.lastMaster s.lastSlave) :
    Tallied session known' n s w :=
  { h with known := hknown }

theorem Tallied.reported (h : Tallied session known n s w) (reported : Option (PairSnapshot × Duration)) :
    Tallied session known n { s with reported } w :=
  { h with tally := h.tally.noted s.failures s.backoff reported }

theorem Tallied.quiet {event : Event ι} (h : Tallied session known n s w) (hbetween : event.isBetween = true)
    (hfailure : event.failure? = none) (hprogress : event.isProgress = false) :
    Tallied session known n s (event :: w) :=
  { h.toSettled.quiet hfailure hprogress with tally := h.tally.between hbetween }

/-- **What comes of an attempt**: it is counted as the failure it ends with, if that is one of the connection. -/
theorem ensures_attempted {x : Action (Session ι) ι α} {forward : α → Bool}
    (hx : IsAttempt session.strategy x forward)
    (hleads : ∀ policy, Leads (Settled policy known n : Session ι → Trace ι → Prop) (Settled policy known' n) x)
    (h : Tallied session known n s w) :
    Action.Ensures recording (fun _ => True) x
      (fun value => if forward value then Forward session known' n else Tallied session known' n)
      (Failing (Pending session known n) (Concluded session)) s w := by
  refine ((hleads _ s w h.toSettled).and (Action.ensures_runs x s w)).mono ?_ ?_
  · rintro value s' _ ⟨hsettled, events, rfl, hrun⟩
    have htally : Tally session s' _ (if forward value then 0 else n) := h.tally.attempt h.count hx hrun
    cases hforward : forward value with
    | true =>
      rw [hforward] at htally
      exact { hsettled with tally := htally }
    | false =>
      rw [hforward] at htally
      exact { hsettled with tally := htally }
  · rintro failure s' _ ⟨hfell, events, rfl, hrun⟩
    have htally : Tally session s' _ (if failure.transient?.isSome then n + 1 else n) := h.tally.attempt h.count hx hrun
    unfold Failing
    rcases hfell.cases with ⟨htransient, h', hexhausted⟩ | ⟨last, event, earlier, htransient, heq, hevent, h'⟩
    · rw [htransient] at htally ⊢
      have hsettled : Settled _ AnyRead n s' _ := h'.weaken trivial
      exact .otherwise hexhausted { hsettled with tally := htally }
    · rw [htransient, heq] at htally ⊢
      exact ⟨⟨[], event, earlier, .now hevent, h'⟩, htally⟩

/-! ## Recovering -/

/-- **After its pause a failure has been counted**, and the next delay will be longer. -/
theorem Settled.pause {last : ProtocolError} {logs earlier pause : Trace ι} {event : Event ι} {fired : Bool}
    (h : Settled policy known n s earlier) (hfailed : FailedAt last w logs event earlier)
    (hbudget : n < policy.maxRetries.toNat) (hslept : Slept s.backoff.next.1 fired pause) :
    Settled policy known (n + 1) { s with failures := s.failures + 1, backoff := s.backoff.next.2 } (pause ++ w) := by
  have hquiet : ∀ event ∈ pause, event.failure? = none ∧ event.isProgress = false :=
    fun event hmem => (Event.quiet_of_inPause (hslept.inPause event hmem)).2
  have hcount : Trace.failures (pause ++ w) = n + 1 := by
    rw [Trace.failures_append hquiet, hfailed.failures, h.count]
  have hdelay : s.backoff.next.1 = policy.backoff.delayAfter (Trace.failures earlier) := by
    rw [h.count, h.backoff]; rfl
  refine ⟨h.retry, h.width, congrArg (· + 1) h.failures, congrArg (·.next.2) h.backoff, hcount, ?_, ?_, h.known⟩
  · exact (hfailed.within h.within (h.count ▸ hbudget)).append hquiet
  · obtain ⟨rfl, hlogged, -⟩ := hfailed
    rw [← List.append_assoc]
    refine h.paced.pause ?_ ⟨[], fired, pause, logs, rfl, hdelay ▸ hslept, hlogged⟩
    refine List.forall_mem_append.mpr ⟨fun event hmem => (hquiet event hmem).1, fun log hlog => ?_⟩
    exact (Event.quiet_of_isLog (hlogged log hlog)).1

theorem Pending.log {last : ProtocolError} {level : Level} {line : String} (h : Pending session known n last s w) :
    Pending session known n last s (⟨.log level line, ()⟩ :: w) := by
  obtain ⟨⟨logs, event, earlier, hfailed, hsettled⟩, htally⟩ := h
  exact ⟨⟨_, event, earlier, hfailed.log rfl, hsettled⟩, htally.between rfl⟩

/-- It can be counted. -/
theorem Pending.fits {last : ProtocolError} (h : Pending session known n last s w) : s.failures + 1 < UInt32.size := by
  obtain ⟨logs, event, earlier, -, hsettled⟩ := h.failed
  have hle := hsettled.le
  have hwidth := hsettled.width
  rw [hsettled.failures]
  omega

/-- A failure that is within the budget is followed by its pause. -/
theorem Pending.pause {last : ProtocolError} {pause : Trace ι} {fired : Bool} (h : Pending session known n last s w)
    (hbudget : n < session.options.retry.maxRetries.toNat) (hslept : Slept s.backoff.next.1 fired pause) :
    Tallied session known (n + 1) { s with failures := s.failures + 1, backoff := s.backoff.next.2 } (pause ++ w) := by
  obtain ⟨⟨logs, event, earlier, hfailed, hsettled⟩, htally⟩ := h
  have hnoted := htally.noted (s.failures + 1) s.backoff.next.2 s.reported
  have hbetween := hnoted.append fun event hmem => (Event.quiet_of_inPause (hslept.inPause event hmem)).1
  exact { hsettled.pause hfailed hbudget hslept with tally := hbetween }

/-- A failure beyond the budget ends the run. -/
theorem Pending.exhausted {last : ProtocolError}
    (h : Pending session known session.options.retry.maxRetries.toNat last s w) :
    Concluded session (.retriesExhausted s.failures last) { s with failures := s.failures + 1 } w := by
  obtain ⟨⟨logs, event, earlier, hfailed, hsettled⟩, htally⟩ := h
  rw [hsettled.failures]
  refine .exhausted hfailed hsettled.count hsettled.within ?_ rfl (htally.noted _ s.backoff s.reported)
  refine hfailed.logsInduction (motive := Paced session.options.retry) ?_ ?_
  · exact hsettled.paced.cons fun _ => Nat.le_of_eq hsettled.count.symm
  · exact fun _ _ hfailure _ h => h.quiet hfailure

/-- **Recovering goes on after as many attempts as it takes**, or spends the budget. -/
theorem ensures_recoverWithin (budget : Nat) {last : ProtocolError} (hpending : Pending session known n last s w)
    (hbudget : budget + n = session.options.retry.maxRetries.toNat) :
    Action.Ensures recording (fun _ => True) (recoverWithin budget last) (fun _ s w => ∃ n, Tallied session known n s w)
      (Concluded session) s w := by
  induction budget generalizing n last s w with
  | zero =>
    obtain rfl : n = session.options.retry.maxRetries.toNat := (Nat.zero_add n).symm.trans hbudget
    exact ensures_recoverWithin_zero (fun _ => hpending.exhausted) fun hover => absurd hpending.fits hover.not_gt
  | succ budget ih =>
    refine ensures_recoverWithin_succ (fun hover => absurd hpending.fits hover.not_gt) ?_
    rintro - line _ rfl
    refine ⟨trivial, (Action.ensures_sleep _ _ _).mono ?_ fun _ _ _ hended => hended⟩
    rintro isStopped _ _ ⟨rfl, pause, rfl, hslept⟩
    have hlogged : Pending session known n last s (⟨.log .warn line, ()⟩ :: w) := hpending.log
    have hpaused := hlogged.pause (by omega) hslept
    cases isStopped with
    | true => exact ⟨_, hpaused⟩
    | false =>
      have hreopened := ensures_attempted .reopen (fun _ => attempts_reopen Settled.undeterred) hpaused
      refine hreopened.mono (fun _ s₃ w₃ h₃ => ?_) fun failure s₃ w₃ hfailing => ?_
      · rintro line _ rfl
        exact ⟨trivial, _, h₃.quiet rfl rfl rfl⟩
      · refine hfailing.imp (fun last _ hagain => ?_) fun _ hended => hended
        rintro line _ rfl
        exact ⟨trivial, ih hagain.log (by omega)⟩

theorem ensures_recover {last : ProtocolError} (hpending : Pending session known n last s w) :
    Action.Ensures recording (fun _ => True) (recover last) (fun _ s w => ∃ n, Tallied session known n s w)
      (Concluded session) s w := by
  unfold recover
  rw [Action.ensures_bind, Action.ensures_get]
  refine ensures_recoverWithin _ hpending ?_
  obtain ⟨logs, event, earlier, -, hsettled⟩ := hpending.failed
  rw [hsettled.retry, hsettled.failures]
  exact Nat.sub_add_cancel hsettled.le

/-! ## Progress -/

/-- Past failures have been forgotten, and a report of that is about to be made. -/
structure Refreshed (session s : Session ι) (w : Trace ι) : Prop where
  retry : s.options.retry = session.options.retry
  width : session.options.retry.maxRetries.toNat < UInt32.size - 1
  failures : s.failures = 0
  backoff : s.backoff = session.options.retry.backoff
  within : Within session.options.retry.maxRetries.toNat w
  paced : Paced session.options.retry w
  known : BothRead s.lastMaster s.lastSlave
  tally : Tally session s w 0

theorem Forward.log {level : Level} {line : String} (h : Forward session known n s w) :
    Forward session known n s (⟨.log level line, ()⟩ :: w) :=
  { h.toSettled.quiet rfl rfl with tally := h.tally.between rfl }

theorem Forward.refreshed (h : Forward session BothRead n s w) :
    Refreshed session { s with failures := 0, backoff := s.backoff.reset } w :=
  { h with
    failures := rfl
    tally := h.tally.noted 0 s.backoff.reset s.reported
    backoff := by
      show s.backoff.reset = _
      rw [h.backoff, Backoff.reset_after, RetryPolicy.reset_backoff] }

theorem Refreshed.clock {now : Duration} (h : Refreshed session s w) : Refreshed session s (⟨.clock, now⟩ :: w) :=
  { h with
    within := h.within.cons (h.within [] w rfl)
    paced := h.paced.quiet rfl
    tally := h.tally.between rfl }

/-- **The report of progress starts the count again.** -/
theorem Refreshed.tallied {report : Report} (h : Refreshed session s w) (hphase : report.phase ≠ .finished) :
    Tallied session BothRead 0 s (⟨.report report, ()⟩ :: w) := by
  have hcount : Trace.failures (⟨.report report, ()⟩ :: w) = 0 := Trace.failures_progress (decide_eq_true hphase)
  exact { h with
    count := hcount
    within := h.within.cons (hcount ▸ Nat.zero_le _)
    paced := h.paced.quiet rfl
    tally := h.tally.between rfl }

theorem ensures_succeeded {fail : SyncError → Session ι → Trace ι → Prop} (h : Forward session BothRead n s w) :
    Action.Ensures recording (fun _ => True) succeeded (fun _ => Refreshed session) fail s w := by
  unfold succeeded
  rw [Action.ensures_bind, Action.ensures_get]
  dsimp only
  split
  · rw [Action.ensures_bind]
    rintro _ _ rfl
    exact ⟨trivial, h.log.refreshed⟩
  · exact h.refreshed

theorem ensures_emit {phase : Phase} {fail : SyncError → Session ι → Trace ι → Prop} (hphase : phase ≠ .finished)
    (h : Refreshed session s w) :
    Action.Ensures recording (fun _ => True) (emit phase) (fun _ => Tallied session BothRead 0) fail s w := by
  obtain ⟨master, hmaster⟩ := Option.isSome_iff_exists.mp h.known.1
  obtain ⟨slave, hslave⟩ := Option.isSome_iff_exists.mp h.known.2
  have hsnapshots : s.snapshots = some ⟨master, slave⟩ := by simp [snapshots, hmaster, hslave]
  unfold emit
  rw [Action.ensures_bind, Action.ensures_get, hsnapshots]
  dsimp only
  rw [Action.ensures_bind]
  rintro now _ rfl
  refine ⟨trivial, (Action.ensures_bind _ _).mpr ?_⟩
  rintro _ _ rfl
  refine ⟨trivial, Tallied.reported ?_ _⟩
  exact h.clock.tallied hphase

/-! ## The run -/

theorem Concluded.log {failure : SyncError} {level : Level} {line : String} (h : Concluded session failure s w) :
    Concluded session failure s (⟨.log level line, ()⟩ :: w) := by
  cases h with
  | exhausted hfailed hcount hwithin hpaced hfailures htally =>
    exact .exhausted (hfailed.log rfl) hcount hwithin (hpaced.quiet rfl) hfailures (htally.between rfl)
  | otherwise hother htallied => exact .otherwise hother (htallied.quiet rfl rfl rfl)

theorem around_tallied (session : Session ι) (known : Readings) :
    Around recording (fun _ => True) (fun (s : Session ι) w => ∃ n, Tallied session known n s w) where
  around := by
    rintro s w effect answer _ ⟨n, h⟩ hasks rfl
    obtain ⟨hbetween, hfailure, hprogress⟩ := quiet_of_asksAround hasks answer
    exact ⟨trivial, n, h.quiet hbetween hfailure hprogress⟩
  reported := fun s w reported ⟨n, h⟩ => ⟨n, h.reported reported⟩

/-- **The course of a run within the budget.** -/
theorem course_tallied (session : Session ι) (known : Readings)
    (hknown : ∀ master slave, BothRead master slave → known master slave) :
    Course recording (fun _ => True) (fun (s : Session ι) w => ∃ n, Tallied session known n s w)
      (fun s w => ∃ n, Forward session BothRead n s w) (fun last s w => ∃ n, Pending session known n last s w)
      (Concluded session) (fun (s : Session ι) w => ∃ n, Tallied session AnyRead n s w) where
  toAround := around_tallied session known
  halts := fun s w ⟨n, h⟩ => ⟨n, h.weaken trivial⟩
  haltedAround := around_tallied session AnyRead
  readyLog := fun s w level line w' ⟨n, h⟩ henv => ⟨trivial, n, henv ▸ h.log⟩
  endedLog := fun failure s w level line w' h henv => ⟨trivial, henv ▸ h.log⟩
  recover := fun last s w ⟨n, h⟩ => by
    refine (ensures_recover h).mono (fun isStopped s' w' h' => ?_) fun _ _ _ h' => h'
    obtain ⟨n', h'⟩ := h'
    cases isStopped with
    | true => exact ⟨n', h'.weaken trivial⟩
    | false => exact ⟨n', h'⟩
  progress := fun phase hphase s w ⟨n, h⟩ => by
    refine (ensures_succeeded h).mono (fun _ s' w' h' => ?_) fun _ _ _ hfail => hfail
    refine (ensures_emit hphase h').mono (fun _ s'' w'' h'' => ?_) fun _ _ _ hfail => hfail
    exact ⟨0, h''.weaken (hknown _ _ h''.known)⟩

/-- An attempt in the course of a run. -/
theorem follows_attempted {x : Action (Session ι) ι α} {forward : α → Bool} (hx : IsAttempt session.strategy x forward)
    (hleads : ∀ n policy, Leads (Settled policy known n : Session ι → Trace ι → Prop) (Settled policy known' n) x) :
    Follows recording (fun _ => True) (fun s w => ∃ n, Tallied session known n s w)
      (Failing (fun last s w => ∃ n, Pending session known n last s w) (Concluded session)) x
      fun value s w => ∃ n, (if forward value then Forward session known' n else Tallied session known' n) s w := by
  rintro s w ⟨n, h⟩
  refine (ensures_attempted hx (hleads n) h).mono (fun _ _ _ h' => ⟨n, h'⟩) fun _ _ _ h' => ?_
  exact h'.imp (fun _ _ hpending => ⟨n, hpending⟩) fun _ hended => hended

theorem leads_step_settled :
    Leads (Settled policy AnyRead n : Session ι → Trace ι → Prop) (Settled policy BothRead n) step :=
  have hread : Undeterred (Settled policy MasterWasRead n : Session ι → Trace ι → Prop) := Settled.undeterred
  leads_step Settled.undeterred hread Settled.undeterred (fun _ _ _ h => h.masterRead rfl)
    (fun _ _ _ h => h.slaveRead ⟨h.known, rfl⟩) (fun _ _ h => h.weaken trivial) fun _ _ h => h.weaken trivial

theorem leads_prepare_settled :
    Leads (Settled policy AnyRead n : Session ι → Trace ι → Prop) (Settled policy MasterWasRead n) prepare :=
  leads_prepare Settled.undeterred Settled.undeterred (fun _ _ _ h => h.masterRead rfl)
    (fun _ _ _ h => h.slaveRead h.known) fun _ _ h => h.weaken trivial

theorem leads_copyStep_settled (baseline : Snapshot) :
    Leads (Settled policy MasterWasRead n : Session ι → Trace ι → Prop) (Settled policy BothRead n)
      (copyStep baseline) :=
  leads_copyStep Settled.undeterred Settled.undeterred (fun _ _ _ h => h.slaveRead ⟨h.known, rfl⟩)
    (fun _ _ h => h.weaken h.known.1) baseline

/-- **A run keeps within its budget.** -/
theorem ensures_run (h : Tallied session AnyRead n session w) (limit : Nat) :
    Action.Ensures recording (fun _ => True) (run limit) (fun _ s w => ∃ n, Tallied session AnyRead n s w)
      (Concluded session) session w := by
  have hcourse : Course recording _ (fun (s : Session ι) w => ∃ n, Tallied session AnyRead n s w) _ _ _ _ :=
    course_tallied session AnyRead fun _ _ _ => trivial
  have hcopying : Course recording _ (fun (s : Session ι) w => ∃ n, Tallied session MasterWasRead n s w) _ _ _ _ :=
    course_tallied session MasterWasRead fun _ _ h => h.1
  have hlift : ∀ (s : Session ι) w, (∃ n, Tallied session AnyRead n s w) → s.options.bulk.unfreezeOnCompletion = true →
      Action.Ensures recording (fun _ => True) (onSlave (Client.setFreeze s.space false))
        (fun _ s w => ∃ n, Tallied session AnyRead n s w) (Concluded session) s w := by
    rintro s w ⟨n, h⟩ _
    have hsent : ∀ r w, Tallied session AnyRead n s w →
        Tallied session AnyRead n s (.sent s.slave.link (.nsFreeze s.space false) r :: w) := fun r w h =>
      h.quiet rfl (Event.failure?_of_liftsFreeze rfl) rfl
    refine (ensures_liftFreeze h (fun _ _ _ h => h.quiet rfl rfl rfl) hsent).mono ?_ ?_
    · exact fun _ _ _ h' => ⟨n, h'⟩
    · exact fun _ _ _ h' => .otherwise h'.notExhausted h'.kept
  refine hcourse.run (fun _ => ⟨n, h⟩) (fun _ => .otherwise nofun h) (fun hbulk => ?_) fun hincremental => ?_
  · refine hcourse.runBulk (fun _ => hcopying) ?_ ?_ hlift limit
    · exact follows_attempted (.prepare hbulk) fun n policy => leads_prepare_settled
    · intro baseline s w hs
      have hcopy := follows_attempted (.copyStep hbulk baseline) fun n policy => leads_copyStep_settled baseline
      refine (hcopy s w hs).mono ?_ ?_
      · rintro result s' w' ⟨n, h⟩
        cases result with
        | imported _ | jumped => exact ⟨n, h⟩
        | done =>
          have hdone : Tallied session BothRead n s' w' := h
          exact ⟨n, hdone.weaken hdone.known.1⟩
      · exact fun _ _ _ h => h
  · exact hcourse.runIncremental (follows_attempted (.step hincremental) fun n policy => leads_step_settled) limit

/-- What a run of a fresh session has to do with the budget of its policy. -/
structure Budgeted (session : Session ι) (trace : Trace ι) (result : Except SyncError α) (s : Session ι) : Prop where
  /-- The run is made of attempts, and its events tell how many failures of them there are in a row. -/
  tally : Tally session s trace (Trace.failures trace)
  /-- The run gives up exactly if there are more failures in a row than are tolerated. -/
  exhausted_iff : (∃ attempts last, result = .error (.retriesExhausted attempts last)) ↔
    ∃ later reached, trace = later ++ reached ∧
      Trace.failures reached = session.options.retry.maxRetries.toNat + 1
  /-- It gives up at once. -/
  atOnce : ∀ later reached, trace = later ++ reached →
    session.options.retry.maxRetries.toNat < Trace.failures reached → ∀ event ∈ later, event.isLog = true
  /-- It gives up with the failure of its last attempt. -/
  last : ∀ attempts last, result = .error (.retriesExhausted attempts last) →
    attempts = session.options.retry.maxRetries.toNat ∧
      ∃ logs event earlier, FailedAt last trace logs event earlier ∧ Trace.failures earlier = attempts
  /-- Each failure that is tolerated is followed by the delay of its number. -/
  paced : Paced session.options.retry trace
  /-- The session has the same count. -/
  failures : s.failures = Trace.failures trace
  failures_le : s.failures ≤ session.options.retry.maxRetries.toNat + 1

theorem Tallied.budgeted {result : Except SyncError α} (h : Tallied session known n s w)
    (hresult : ∀ attempts last, result ≠ .error (.retriesExhausted attempts last)) : Budgeted session w result s where
  tally := by
    rw [h.count]
    exact h.tally
  exhausted_iff := by
    refine ⟨fun ⟨attempts, last, heq⟩ => absurd heq (hresult attempts last), ?_⟩
    rintro ⟨later, reached, heq, hreached⟩
    have hle := h.within later reached heq
    omega
  atOnce := fun later reached heq hreached => absurd (h.within later reached heq) (Nat.not_le.mpr hreached)
  last := fun attempts last heq => absurd heq (hresult attempts last)
  paced := h.paced
  failures := h.failures.trans h.count.symm
  failures_le := h.failures ▸ Nat.le_succ_of_le h.le

theorem Concluded.budgeted {failure : SyncError} (h : Concluded session failure s w) :
    Budgeted session w (.error failure : Except SyncError α) s := by
  cases h with
  | otherwise hfailure htallied =>
    exact htallied.budgeted fun attempts last heq => hfailure attempts last (Except.error.inj heq)
  | @exhausted last _ _ logs earlier event hfailed hcount hwithin hpaced hfailures htally =>
    have hfinal : Trace.failures w = session.options.retry.maxRetries.toNat + 1 :=
      hfailed.failures.trans (congrArg (· + 1) hcount)
    refine ⟨hfinal ▸ htally, ⟨fun _ => ⟨[], w, rfl, hfinal⟩, fun _ => ⟨_, _, rfl⟩⟩, ?_, ?_, hpaced,
      hfailures.trans hfinal.symm, Nat.le_of_eq hfailures⟩
    · exact fun later reached heq hreached => hfailed.logged_of_reached hwithin heq hreached
    · rintro _ _ ⟨⟩
      exact ⟨rfl, logs, event, earlier, hfailed, hcount⟩

theorem tallied_of_make {name : String} {strategy : Strategy} {master slave : Client ι} {options : Options}
    (h : Session.make name strategy master slave options = .ok session)
    (hwidth : session.options.retry.maxRetries.toNat < UInt32.size - 1) : Tallied session AnyRead 0 session [] := by
  unfold make at h
  dsimp only at h
  split at h
  · cases h
    exact ⟨⟨rfl, hwidth, rfl, rfl, rfl, .nil _, .nil, trivial⟩, .start⟩
  · cases h

/-- **The budget of a whole run.** A fresh session counts its failures in a row over the whole run, attempt by attempt,
    and gives up exactly when there is one more than its policy tolerates. The count fits the width of the setting. -/
theorem retries_budgeted {name : String} {strategy : Strategy} {master slave : Client ι} {options : Options}
    {session session' : Session ι} (hfresh : Session.make name strategy master slave options = .ok session)
    (hwidth : session.options.retry.maxRetries.toNat < UInt32.size - 1) {limit : Nat} {trace : Trace ι}
    {result : Except SyncError (Option Outcome)} (hrun : (run limit).Runs session trace result session') :
    Budgeted session trace result session' ∧ session'.failures < UInt32.size := by
  have hbudgeted : Budgeted session trace result session' := by
    have hend := (hrun.ensured trivial (ensures_run (tallied_of_make hfresh hwidth) limit)).2
    cases result with
    | ok outcome =>
      obtain ⟨n, htallied⟩ := hend
      exact htallied.budgeted nofun
    | error failure =>
      have hconcluded : Concluded session failure session' trace := hend
      exact hconcluded.budgeted
  have hle := hbudgeted.failures_le
  exact ⟨hbudgeted, by omega⟩

/-- A master that resets the connection and refuses the next one spends a budget of one. -/
theorem retries_budgeted_of_refused :
    ∃ (options : Options) (session session' : Session Role) (trace : Trace Role),
      Session.make "session" .incremental (between .incremental).master (between .incremental).slave options =
        .ok session ∧
      (run 1).Runs session trace (.error (.retriesExhausted 1 (.transport "refused"))) session' ∧
      Trace.failures trace = 2 ∧ Paced options.retry trace ∧ session'.failures < UInt32.size := by
  let options : Options := { retry := { maxRetries := 1 } }
  let session : Session Role := { between .incremental with options, backoff := options.retry.backoff }
  have hstep : ∃ trace, step.Runs session trace (.error (.protocol (.transport "reset"))) session :=
    ⟨_, .answered (.error (.transport "reset")) (.refl _ _)⟩
  have hrecover : ∃ trace session', (recover (.transport "reset")).Runs session trace
      (.error (.retriesExhausted 1 (.transport "refused"))) session' :=
    ⟨_, _, .answered () (.answered false (.answered .elapsed (.answered (.error (.transport "refused"))
      (.answered () (.refl _ _)))))⟩
  obtain ⟨_, hstep⟩ := hstep
  obtain ⟨_, session', hrecover⟩ := hrecover
  have hround : ∃ trace, (incrementalRound session.options.poll.backoff).Runs session trace
      (.error (.retriesExhausted 1 (.transport "refused"))) session' :=
    ⟨_, (Action.runs_perform .stopRequested false session).bind (hstep.attempt.bind hrecover.bind_error).bind_error⟩
  obtain ⟨_, hround⟩ := hround
  have hrun : ∃ trace, (run 1).Runs session trace (.error (.retriesExhausted 1 (.transport "refused"))) session' :=
    ⟨_, (Action.runs_perform (.log .info _) () session).bind
      (hround.bind_error.bind_error.attempt.bind (.answered () (.refl _ _)))⟩
  obtain ⟨trace, hrun⟩ := hrun
  have hfresh : Session.make "session" .incremental session.master session.slave options = .ok session := rfl
  obtain ⟨hbudgeted, hwidth⟩ := retries_budgeted hfresh (by decide) hrun
  obtain ⟨-, logs, event, earlier, hfailed, hcount⟩ := hbudgeted.last _ _ rfl
  have htwo : Trace.failures trace = 2 := by rw [hfailed.failures, hcount]
  exact ⟨options, session, session', trace, hfresh, hrun, htwo, hbudgeted.paced, hwidth⟩

end SegmentSync.Session
