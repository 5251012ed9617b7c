import SegmentSync.Proofs.Client.Replies
import SegmentSync.Proofs.Client.Usability
import SegmentSync.Wire.Reply.Reader

/-!
# `SegmentSync.Proofs.Client.Judgement` — how the steps of a login are judged

A step of the handshake is granted by an explicit OK, and by nothing else. What the store answers otherwise is a
refusal, be it a reply of another shape or an error line. There is one error line that is no refusal: the code `EOF` is
the end of a segment wherever it comes from, and the end of a segment is passed on as a failure.

## Contents
- **Steps.** `LoginStep` has both, with the request and the action.
- **Outcomes.** What is acknowledged, and which replies come to an inconclusive outcome.
- **Judgement.** `LoginStep.Judges` is what a reply comes to; `login_step_judged`.
-/

namespace SegmentSync

/-- The reply is an error line with the code for the end of a segment, or has such a line in it before all others. -/
def Reply.EndsSegment (reply : Reply) : Prop := ∃ line, reply.firstError = some line ∧ line.code = "EOF"

namespace Client

variable {ι : Type} {c c' : Client ι} {events : Trace ι} {result : Except SyncError Bool}

/-! ## Steps -/

/-- A step of the handshake that the store grants or refuses. -/
inductive LoginStep where
  | submitDigest (digest : String)
  | selectNamespace (space : String) (password : Option String)

namespace LoginStep

/-- The request of a step. -/
def request : LoginStep → Request
  | .submitDigest digest => .authSecure digest
  | .selectNamespace space password => .select space password

/-- The action that makes the step. -/
def act : LoginStep → Action (Client ι) ι Bool
  | .submitDigest digest => Client.submitDigest digest
  | .selectNamespace space password => Client.selectNamespace space password

theorem act_eq_granted (step : LoginStep) : step.act = granted (ι := ι) step.request := by
  cases step <;> rfl

theorem requiresAuth_request (step : LoginStep) : step.request.command.requiresAuth = false := by
  cases step <;> rfl

theorem reader_request (step : LoginStep) : Answer.reader step.request.command = Answer.readAck := by
  cases step <;> rfl

end LoginStep

/-! ## Outcomes -/

theorem outcome_eq_eof_iff {reply : Reply} : reply.outcome = .error .eof ↔ reply.EndsSegment := by
  unfold Reply.outcome Reply.EndsSegment
  cases reply.firstError with
  | none => exact ⟨nofun, nofun⟩
  | some line =>
    by_cases hcode : line.code = "EOF"
    · simp [ProtocolError.ofErrorLine, hcode]
    · simp [ProtocolError.ofErrorLine, hcode]

theorem outcome_eq_ok {reply reply' : Reply} (h : reply.outcome = .ok reply') : reply' = reply := by
  unfold Reply.outcome at h
  split at h
  · cases h
  · exact (Except.ok.inj h).symm

/-- An explicit OK is no error line. -/
theorem outcome_of_isOkay {reply : Reply} (h : reply.IsOkay) : reply.outcome = .ok reply := by
  cases reply with
  | okay | simple _ => rfl
  | _ => exact h.elim

/-- No reply comes to a failure of the connection. -/
theorem outcome_ne_transport (reply : Reply) (reason : String) : reply.outcome ≠ .error (.transport reason) := by
  unfold Reply.outcome ProtocolError.ofErrorLine
  split
  · split <;> exact nofun
  · exact nofun

/-! ## Judgement -/

variable (step : LoginStep)

/-- **A step is one exchange**, whose outcome it judges, and leaves the client as it is. -/
theorem LoginStep.judges_outcome (hrun : step.act.Runs c events result c') :
    c' = c ∧ ∃ r, Asked c step.request r [] events ∧ result = (granting step.request r).mapError .protocol := by
  rw [step.act_eq_granted] at hrun
  have hend := (hrun.ensured trivial (ensures_granted_exchange step.requiresAuth_request)).2
  cases result with
  | ok accepted =>
    obtain ⟨rfl, r, hasked, hgranting⟩ := hend
    exact ⟨rfl, r, hasked, by rw [hgranting]; rfl⟩
  | error failure =>
    obtain ⟨rfl, fault, hfault, rfl, rfl⟩ := hend
    have hgranting : granting step.request (.error fault) = .error fault := granting_eq_error_iff.mpr ⟨hfault, rfl⟩
    exact ⟨rfl, .error fault, ⟨[], List.forall_mem_nil _, rfl⟩, by rw [hgranting]; rfl⟩

/-- Its request may have any outcome. -/
theorem LoginStep.exists_runs (c : Client ι) (r : Except ProtocolError Reply) :
    ∃ events, Asked c step.request r [] events ∧
      step.act.Runs c events ((granting step.request r).mapError .protocol) c := by
  have hsent : c.holdsBack step.request = false := by rw [holdsBack, step.requiresAuth_request]; rfl
  have hrun : ∃ later result c', step.act.Runs c (later ++ [.sent c.link step.request r]) result c' := by
    rw [step.act_eq_granted]
    obtain ⟨later, result, c', hrest⟩ := Action.exists_runs _ c
    exact ⟨later, result, c', (runs_call hsent r).attempt.bind hrest⟩
  obtain ⟨later, result, c', hrun⟩ := hrun
  obtain ⟨rfl, r', ⟨logs, hlogs, hevents⟩, rfl⟩ := step.judges_outcome hrun
  -- What was sent at first is what was judged.
  obtain ⟨rfl, hsame⟩ := List.append_inj' hevents rfl
  obtain ⟨-, hanswer⟩ := Event.mk.inj (List.cons.inj hsame).1
  obtain rfl := eq_of_heq hanswer
  exact ⟨_, ⟨later, hlogs, rfl⟩, hrun⟩

/-- What a step makes of what the store has answered. -/
inductive LoginStep.Judges (reply : Reply) : Except SyncError Bool → Prop where
  | granted (h : reply.IsOkay) : Judges reply (.ok true)
  | refused (hokay : ¬ reply.IsOkay) (hends : ¬ reply.EndsSegment) : Judges reply (.ok false)
  | passed (hends : reply.EndsSegment) : Judges reply (.error (.protocol .eof))

theorem LoginStep.judges_reply (reply : Reply) :
    Judges reply ((granting step.request reply.outcome).mapError .protocol) := by
  by_cases hends : reply.EndsSegment
  · rw [outcome_eq_eof_iff.mpr hends]
    exact .passed hends
  by_cases hokay : reply.IsOkay
  · have hgranting := (granting_eq_true_iff step.reader_request).mpr ⟨reply, outcome_of_isOkay hokay, hokay⟩
    rw [hgranting]
    exact .granted hokay
  · -- Of all failures only two are passed on, and a reply comes to neither of them here.
    have hrefused : granting step.request reply.outcome = .ok false := by
      cases hgranting : granting step.request reply.outcome with
      | ok accepted =>
        cases accepted with
        | false => rfl
        | true =>
          obtain ⟨reply', houtcome, hokay'⟩ := (granting_eq_true_iff step.reader_request).mp hgranting
          exact absurd (outcome_eq_ok houtcome ▸ hokay') hokay
      | error fault =>
        obtain ⟨hfault, houtcome⟩ := granting_eq_error_iff.mp hgranting
        cases hfault with
        | eof => exact absurd (outcome_eq_eof_iff.mp houtcome) hends
        | transport reason => exact absurd houtcome (outcome_ne_transport reply reason)
    rw [hrefused]
    exact .refused hokay hends

/-- **The steps of a login are judged by an explicit OK.** Whatever else the store answers, it is a refusal, but for the
    end of a segment, which is passed on. There is no other failure but those of the connection, and each step is one
    exchange that leaves the client as it is. -/
theorem login_step_judged (step : LoginStep) (c : Client ι) :
    (∀ reply : Reply, ∃ events result, Asked c step.request reply.outcome [] events ∧
      step.act.Runs c events result c ∧ LoginStep.Judges reply result) ∧
    ∀ events result c', step.act.Runs c events result c' → c' = c ∧ ∃ r, Asked c step.request r [] events ∧
      (∀ reply : Reply, r = reply.outcome → LoginStep.Judges reply result) ∧
      ∀ failure, result = .error failure → ∃ fault, r = .error fault ∧ failure = .protocol fault ∧
        (fault = .eof ∨ ∃ reason, fault = .transport reason) := by
  constructor
  · intro reply
    obtain ⟨events, hasked, hrun⟩ := step.exists_runs c reply.outcome
    exact ⟨events, _, hasked, hrun, step.judges_reply reply⟩
  · intro events result c' hrun
    obtain ⟨hsame, r, hasked, rfl⟩ := step.judges_outcome hrun
    refine ⟨hsame, r, hasked, ?_, ?_⟩
    · rintro reply rfl
      exact step.judges_reply reply
    · intro failure hfailure
      cases hgranting : granting step.request r with
      | ok accepted =>
        rw [hgranting] at hfailure
        cases hfailure
      | error fault =>
        rw [hgranting] at hfailure
        obtain ⟨hfault, rfl⟩ := granting_eq_error_iff.mp hgranting
        refine ⟨fault, rfl, (Except.error.inj hfailure).symm, ?_⟩
        cases hfault with
        | eof => exact .inl rfl
        | transport reason => exact .inr ⟨reason, rfl⟩

/-- The exception occurs: a store turns a selection down with the code for the end of a segment. -/
theorem login_step_judged_at_end :
    ∃ events, (selectNamespace "data" none).Runs (⟨(), ⟨.tcp "slave" 9900, "data", none, "slave"⟩, false⟩ : Client Unit)
      events (.error (.protocol .eof)) ⟨(), ⟨.tcp "slave" 9900, "data", none, "slave"⟩, false⟩ := by
  let step : LoginStep := .selectNamespace "data" none
  let line : ErrorLine := ⟨"EOF", some "no such namespace"⟩
  obtain ⟨events, result, -, hrun, hjudged⟩ := (login_step_judged step
    (⟨(), ⟨.tcp "slave" 9900, "data", none, "slave"⟩, false⟩ : Client Unit)).1 (.error line)
  have hends : (Reply.error line).EndsSegment := ⟨line, rfl, rfl⟩
  cases hjudged with
  | granted hokay => exact hokay.elim
  | refused _ hno => exact absurd hends hno
  | passed _ => exact ⟨events, hrun⟩

end Client

end SegmentSync
