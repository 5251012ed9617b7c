import SegmentSync.Proofs.Session.Attempts
import SegmentSync.Proofs.Session.Course

/-!
# `SegmentSync.Proofs.Session.Tally` — counting the failures of a run

The failures in a row are counted attempt by attempt: one more for an attempt that its connection ends, none any more
after one that brings the session forward. The events of a run tell the same count, as an attempt that its connection
ends has that failure for its last event, and progress is reported.

## Contents
- **Delays.** `Backoff.delayAfter` is the delay after so many others.
- **Events.** `Trace.failures` counts event by event.
- **Attempts.** `Session.Tally` counts attempt by attempt.
- **Pauses.** `Trace.Paced` says that each failure is followed by the pause that the policy wants.
-/

namespace SegmentSync

variable {ι α : Type}

/-! ## Delays -/

namespace Backoff

/-- The generator after `n` delays. -/
def after (b : Backoff) : (n : Nat) → Backoff
  | 0 => b
  | n + 1 => (b.after n).next.2

/-- The delay that comes after `n` others. -/
def delayAfter (b : Backoff) (n : Nat) : Duration := (b.after n).next.1

theorem reset_next (b : Backoff) : b.next.2.reset = b.reset := by
  unfold next
  split <;> rfl

theorem reset_after (b : Backoff) (n : Nat) : (b.after n).reset = b.reset := by
  induction n with
  | zero => rfl
  | succ n ih => exact (reset_next _).trans ih

end Backoff

theorem RetryPolicy.reset_backoff (policy : RetryPolicy) : policy.backoff.reset = policy.backoff := rfl

/-! ## Events -/

theorem Event.not_isProgress {event : Event ι} (h : event.failure?.isSome = true) : event.isProgress = false := by
  obtain ⟨effect, answer⟩ := event
  cases effect <;> first | rfl | exact absurd h nofun

theorem Event.quiet_of_isLog {event : Event ι} (h : event.isLog = true) :
    event.failure? = none ∧ event.isProgress = false := by
  obtain ⟨effect, answer⟩ := event
  cases effect <;> first | exact ⟨rfl, rfl⟩ | exact absurd h nofun

namespace Trace

/-- The failures since the latest progress. -/
def failures : Trace ι → Nat
  | [] => 0
  | event :: earlier =>
    if event.isProgress then 0
    else if event.failure?.isSome then failures earlier + 1
    else failures earlier

variable {event : Event ι} {w : Trace ι}

theorem failures_progress (h : event.isProgress = true) : failures (event :: w) = 0 := by
  rw [failures, if_pos h]

theorem failures_quiet (hfailure : event.failure? = none) (hprogress : event.isProgress = false) :
    failures (event :: w) = failures w := by
  simp [failures, hfailure, hprogress]

theorem failures_failed {last : ProtocolError} (h : event.failure? = some last) :
    failures (event :: w) = failures w + 1 := by
  have hsome : event.failure?.isSome = true := h ▸ rfl
  simp [failures, hsome, Event.not_isProgress hsome]

theorem failures_append {later : Trace ι} (h : ∀ event ∈ later, event.failure? = none ∧ event.isProgress = false) :
    failures (later ++ w) = failures w := by
  induction later with
  | nil => rfl
  | cons event later ih =>
    obtain ⟨⟨hfailure, hprogress⟩, hlater⟩ := List.forall_mem_cons.mp h
    exact (failures_quiet hfailure hprogress).trans (ih hlater)

/-- The count never exceeded a limit. -/
def Within (limit : Nat) (w : Trace ι) : Prop := ∀ later earlier, w = later ++ earlier → failures earlier ≤ limit

theorem Within.nil (limit : Nat) : Within limit ([] : Trace ι) := by
  intro later earlier h
  obtain ⟨rfl, rfl⟩ := List.append_eq_nil_iff.mp h.symm
  exact Nat.zero_le _

theorem Within.cons {limit : Nat} (h : Within limit w) (hevent : failures (event :: w) ≤ limit) :
    Within limit (event :: w) := by
  intro later earlier heq
  rcases List.cons_eq_append_iff.mp heq with ⟨rfl, rfl⟩ | ⟨later, rfl, rfl⟩
  · exact hevent
  · exact h later earlier rfl

theorem Within.append {limit : Nat} {later : Trace ι} (h : Within limit w)
    (hlater : ∀ event ∈ later, event.failure? = none ∧ event.isProgress = false) : Within limit (later ++ w) := by
  induction later with
  | nil => exact h
  | cons event later ih =>
    refine (ih (List.forall_mem_cons.mp hlater).2).cons ?_
    rw [← List.cons_append, failures_append hlater]
    exact h [] w rfl

/-- The connection failed, and nothing has happened since but that something was logged about it. -/
structure FailedAt (last : ProtocolError) (w logs : Trace ι) (event : Event ι) (earlier : Trace ι) : Prop where
  split : w = logs ++ event :: earlier
  logged : ∀ event ∈ logs, event.isLog = true
  failed : event.failure? = some last

namespace FailedAt

variable {last : ProtocolError} {logs earlier : Trace ι}

theorem now (h : event.failure? = some last) : FailedAt last (event :: earlier) [] event earlier :=
  ⟨rfl, List.forall_mem_nil _, h⟩

theorem log {log : Event ι} (h : FailedAt last w logs event earlier) (hlog : log.isLog = true) :
    FailedAt last (log :: w) (log :: logs) event earlier where
  split := congrArg (log :: ·) h.split
  logged := List.forall_mem_cons.mpr ⟨hlog, h.logged⟩
  failed := h.failed

/-- What follows can be shown line by line. -/
theorem logsInduction {motive : Trace ι → Prop} (h : FailedAt last w logs event earlier)
    (hevent : motive (event :: earlier))
    (hlog : ∀ log w, log.failure? = none → log.isProgress = false → motive w → motive (log :: w)) : motive w := by
  obtain ⟨rfl, hlogged, -⟩ := h
  induction logs with
  | nil => exact hevent
  | cons log logs ih =>
    obtain ⟨hhead, hlogs⟩ := List.forall_mem_cons.mp hlogged
    obtain ⟨hfailure, hprogress⟩ := Event.quiet_of_isLog hhead
    exact hlog _ _ hfailure hprogress (ih hlogs)

theorem failures (h : FailedAt last w logs event earlier) : Trace.failures w = Trace.failures earlier + 1 := by
  refine h.logsInduction (motive := fun w => Trace.failures w = Trace.failures earlier + 1) ?_ ?_
  · exact failures_failed h.failed
  · intro log w hfailure hprogress ih
    rw [failures_quiet hfailure hprogress, ih]

theorem within {limit : Nat} (h : FailedAt last w logs event earlier) (hearlier : Within limit earlier)
    (hlimit : Trace.failures earlier < limit) : Within limit w := by
  refine h.logsInduction (motive := Within limit) ?_ ?_
  · exact hearlier.cons (by rw [failures_failed h.failed]; exact hlimit)
  · intro log w hfailure hprogress ih
    exact ih.cons (by rw [failures_quiet hfailure hprogress]; exact ih [] w rfl)

/-- The count of that failure is reached with it and not before. -/
theorem logged_of_reached {limit : Nat} {later reached : Trace ι} (h : FailedAt last w logs event earlier)
    (hearlier : Within limit earlier) (heq : w = later ++ reached) (hreached : limit < Trace.failures reached) :
    ∀ event ∈ later, event.isLog = true := by
  rcases List.append_eq_append_iff.mp (h.split.symm.trans heq) with ⟨rest, rfl, hrest⟩ | ⟨rest, hlogs, -⟩
  · rcases List.cons_eq_append_iff.mp hrest with ⟨rfl, -⟩ | ⟨rest, rfl, rfl⟩
    · rw [List.append_nil]
      exact h.logged
    · exact absurd (hearlier rest reached rfl) (Nat.not_le.mpr hreached)
  · exact fun event hevent => h.logged event (hlogs ▸ List.mem_append_left rest hevent)

end FailedAt

end Trace

/-! ## Attempts -/

/-- What a session of a strategy attempts again and again, and whether what comes of it has brought it forward. -/
inductive Session.IsAttempt (strategy : Strategy) : {α : Type} → Action (Session ι) ι α → (α → Bool) → Prop where
  | prepare (h : strategy = .bulk) : IsAttempt strategy Session.prepare fun _ => false
  | copyStep (h : strategy = .bulk) (baseline : Snapshot) :
    IsAttempt strategy (Session.copyStep baseline) fun result => result ≠ .done
  | step (h : strategy = .incremental) : IsAttempt strategy Session.step fun _ => true
  | reopen : IsAttempt strategy Session.reopen fun _ => false

/-- The failures in a row after an attempt, where there were `n` before it. -/
def countAfter (n : Nat) (forward : α → Bool) : Except SyncError α → Nat
  | .ok value => if forward value then 0 else n
  | .error failure => if failure.transient?.isSome then n + 1 else n

/-- Stores are asked for nothing outside of attempts but the end of the freeze. -/
def Event.isBetween : Event ι → Bool
  | .sent _ request _ => request.liftsFreeze
  | .reopened _ _ => false
  | _ => true

/-- What happens in a pause does not count. -/
theorem Event.quiet_of_inPause {event : Event ι} (h : event.effect.InPause) :
    event.isBetween = true ∧ event.failure? = none ∧ event.isProgress = false := by
  obtain ⟨effect, answer⟩ := event
  cases h <;> exact ⟨rfl, rfl, rfl⟩

/-- Nor does what a session asks for around its attempts. -/
theorem Session.quiet_of_asksAround {s : Session ι} {effect : Effect ι} (hasks : s.AsksAround effect)
    (answer : effect.Answer) :
    let event : Event ι := ⟨effect, answer⟩
    event.isBetween = true ∧ event.failure? = none ∧ event.isProgress = false := by
  cases hasks with
  | log | clock => exact ⟨rfl, rfl, rfl⟩
  | pause hpause => exact Event.quiet_of_inPause hpause
  | finished _ => exact ⟨rfl, rfl, rfl⟩

/-- What has happened since `session` was fresh is attempts and what is between them, with `n` failures in a row at the
    end. The events tell the same count whenever an attempt starts. Between attempts a session does nothing to itself
    but to take note of failures and reports. -/
inductive Session.Tally (session : Session ι) : Session ι → Trace ι → Nat → Prop where
  | start : Tally session session [] 0
  | between {s : Session ι} {w : Trace ι} {n : Nat} {event : Event ι} (h : Tally session s w n)
    (hevent : event.isBetween = true) : Tally session s (event :: w) n
  | noted {s : Session ι} {w : Trace ι} {n : Nat} (h : Tally session s w n) (failures : Nat) (backoff : Backoff)
    (reported : Option (PairSnapshot × Duration)) : Tally session { s with failures, backoff, reported } w n
  | attempt {β : Type} {s s' : Session ι} {w events : Trace ι} {n : Nat} {x : Action (Session ι) ι β}
    {forward : β → Bool} {result : Except SyncError β} (h : Tally session s w n)
    (hcount : w.failures = n) (hx : Session.IsAttempt session.strategy x forward) (hrun : x.Runs s events result s') :
    Tally session s' (events ++ w) (countAfter n forward result)

theorem Session.Tally.append {session s : Session ι} {w later : Trace ι} {n : Nat} (h : Tally session s w n)
    (hlater : ∀ event ∈ later, event.isBetween = true) : Tally session s (later ++ w) n := by
  induction later with
  | nil => exact h
  | cons event later ih =>
    obtain ⟨hevent, hlater⟩ := List.forall_mem_cons.mp hlater
    exact (ih hlater).between hevent

/-! ## Pauses -/

namespace Trace

/-- A pause of the length that the policy wants, right after some failure and what was logged about it. -/
def Pauses (delay : Duration) (later : Trace ι) : Prop :=
  ∃ after fired pause logs, later = after ++ (pause ++ logs) ∧ Slept delay fired pause ∧
    ∀ event ∈ logs, event.isLog = true

/-- Every failure within the budget is followed by the pause that the policy wants: the first of them by the first
    delay, and so on. -/
def Paced (policy : RetryPolicy) (w : Trace ι) : Prop :=
  ∀ later event earlier, w = later ++ event :: earlier → event.failure?.isSome = true →
    failures earlier < policy.maxRetries.toNat → Pauses (policy.backoff.delayAfter (failures earlier)) later

variable {policy : RetryPolicy} {event : Event ι} {w : Trace ι}

theorem Paced.nil : Paced policy ([] : Trace ι) := by
  intro later event earlier h
  exact absurd h (by simp)

theorem Pauses.append {delay : Duration} {l : Trace ι} (h : Pauses delay l) (later : Trace ι) :
    Pauses delay (later ++ l) := by
  obtain ⟨after, fired, pause, logs, rfl, hslept, hlogs⟩ := h
  exact ⟨later ++ after, fired, pause, logs, (List.append_assoc _ _ _).symm, hslept, hlogs⟩

/-- Nothing is owed after an event that is no failure, or one beyond the budget. -/
theorem Paced.cons (h : Paced policy w)
    (hevent : event.failure?.isSome = true → policy.maxRetries.toNat ≤ failures w) : Paced policy (event :: w) := by
  intro l e r heq hfailure hbudget
  rcases List.cons_eq_append_iff.mp heq with ⟨rfl, heq⟩ | ⟨l, rfl, rfl⟩
  · obtain ⟨rfl, rfl⟩ := List.cons.inj heq
    exact absurd hbudget (Nat.not_lt.mpr (hevent hfailure))
  · exact (h l e r rfl hfailure hbudget).append [event]

theorem Paced.quiet (h : Paced policy w) (hfailure : event.failure? = none) : Paced policy (event :: w) :=
  h.cons fun hsome => by rw [hfailure] at hsome; cases hsome

/-- A failure has been dealt with after its pause. -/
theorem Paced.pause {later : Trace ι} (h : Paced policy w) (hlater : ∀ e ∈ later, e.failure? = none)
    (hpause : Pauses (policy.backoff.delayAfter (failures w)) later) : Paced policy (later ++ event :: w) := by
  intro l e r heq hfailure hbudget
  rcases append_eq_append_cons heq with ⟨m, rfl, -⟩ | ⟨m, rfl, hm⟩
  · rw [hlater e (by simp)] at hfailure
    cases hfailure
  · rcases List.cons_eq_append_iff.mp hm with ⟨rfl, hm⟩ | ⟨m, rfl, rfl⟩
    · obtain ⟨rfl, rfl⟩ := List.cons.inj hm
      rw [List.append_nil]
      exact hpause
    · rw [List.append_cons]
      exact (h m e r rfl hfailure hbudget).append _

end Trace

end SegmentSync
