import SegmentSync.Proofs.Client.Gate

/-!
# `SegmentSync.Proofs.Client.Usability` — what a login leaves behind

After a login a client counts as logged in exactly if the login went well; after one that failed, every command that
needs a login is held back. The handshake sees to that by forgetting an earlier login first.

A target without a password is only asked for its namespace, and nothing is forgotten first. Where the connection
gives out before there is an answer, an earlier login is therefore still there after the failure (`Stranded`). This is
the only exception.

## Contents
- **Refusals.** Which outcomes of a request are no answer to it (`Inconclusive`); `granted` is one exchange, and fails
  with these alone.
- **Logging in.** What the handshake leaves behind, and what logging in does.
- **Usability.** `login_decides_usability`.
-/

namespace SegmentSync.Client

variable {ι : Type} {c c' : Client ι} {w : Trace ι}

/-! ## Refusals -/

/-- A failure that neither grants nor refuses anything. -/
inductive Inconclusive : ProtocolError → Prop where
  | eof : Inconclusive .eof
  | transport (reason : String) : Inconclusive (.transport reason)

/-- An outcome that reads as an inconclusive failure was this failure: no reply reads as one. -/
theorem outcome_of_inconclusive {command : Command} {r : Except ProtocolError Reply} {fault : ProtocolError}
    (hfault : Inconclusive fault) (h : r.bind (Answer.ofReply command) = .error fault) : r = .error fault := by
  cases r with
  | error _ => exact congrArg _ (Except.error.inj h)
  | ok reply =>
    obtain ⟨mismatch, rfl⟩ := ofReply_eq_error h
    cases hfault

/-- A request that is to be granted fails with an inconclusive outcome alone. -/
theorem granting_eq_error_iff {request : Request} {r : Except ProtocolError Reply} {fault : ProtocolError} :
    granting request r = .error fault ↔ Inconclusive fault ∧ r = .error fault := by
  unfold granting
  constructor
  · intro h
    cases hanswer : r.bind (Answer.ofReply request.command) with
    | ok answer => rw [hanswer] at h; cases answer <;> cases h
    | error failure =>
      rw [hanswer] at h
      have hinconclusive : Inconclusive failure ∧ failure = fault := by
        cases failure with
        | server | unexpectedReply => cases h
        | eof => exact ⟨.eof, Except.error.inj h⟩
        | transport reason => exact ⟨.transport reason, Except.error.inj h⟩
      obtain ⟨hfault, rfl⟩ := hinconclusive
      exact ⟨hfault, outcome_of_inconclusive hfault hanswer⟩
  · rintro ⟨hfault, rfl⟩
    cases hfault <;> rfl

/-- The request has been handed to the connection with that outcome, and at most lines of the log have followed. -/
def Asked (c : Client ι) (request : Request) (r : Except ProtocolError Reply) (earlier events : Trace ι) : Prop :=
  ∃ logs, (∀ event ∈ logs, event.isLog = true) ∧ events = logs ++ .sent c.link request r :: earlier

/-- **Asking for something is one exchange**, after which the client is as it was. -/
theorem ensures_granted_exchange {request : Request} (hopen : request.command.requiresAuth = false) :
    Action.Ensures recording (fun _ => True) (granted request)
      (fun accepted c' w' => c' = c ∧ ∃ r, Asked c request r w w' ∧ granting request r = .ok accepted)
      (fun failure c' w' => c' = c ∧ ∃ fault, Inconclusive fault ∧ failure = .protocol fault ∧
        w' = .sent c.link request (.error fault) :: w) c w := by
  refine ensures_granting hopen fun r w' hw' => ⟨trivial, ?_⟩
  subst hw'
  cases hgranting : granting request r with
  | error fault =>
    obtain ⟨hfault, rfl⟩ := granting_eq_error_iff.mp hgranting
    exact ⟨rfl, fault, hfault, rfl, rfl⟩
  | ok accepted =>
    cases accepted with
    | true => exact ⟨rfl, r, ⟨[], List.forall_mem_nil _, rfl⟩, hgranting⟩
    | false =>
      intro line w'' hlog
      exact ⟨trivial, rfl, r, ⟨[⟨.log .debug line, ()⟩], List.forall_mem_singleton.mpr rfl, hlog⟩, hgranting⟩

/-- **Asking for something leaves the client as it is**, and fails only with an inconclusive outcome. -/
theorem ensures_granted_alone {request : Request} (hopen : request.command.requiresAuth = false) :
    Action.Ensures recording (fun _ => True) (granted request) (fun _ c' _ => c' = c)
      (fun failure c' w' => c' = c ∧ ∃ fault, Inconclusive fault ∧ failure = .protocol fault ∧
        w' = .sent c.link request (.error fault) :: w) c w :=
  (ensures_granted_exchange hopen).mono (fun _ _ _ h => h.1) fun _ _ _ h => h

/-! ## Logging in -/

/-- **After a handshake the client counts as logged in exactly if the store accepted it.** -/
theorem ensures_authenticate_decides (password : String) :
    Action.Ensures recording (fun _ => True) (authenticate password)
      (fun accepted c' _ => c'.authenticated = accepted) (fun _ c' _ => c'.authenticated = false) c w := by
  have hrejected : ∀ (level : Level) (line : String) (c' : Client ι) (w' : Trace ι), c'.authenticated = false →
      Action.Ensures recording (fun _ => True) (do note level line; return false : Action (Client ι) ι Bool)
        (fun accepted c' _ => c'.authenticated = accepted) (fun _ c' _ => c'.authenticated = false) c' w' := by
    intro level line c' w' hlogin
    rw [Action.ensures_bind]
    exact ensures_note fun _ _ _ => ⟨trivial, hlogin⟩
  unfold authenticate setAuthenticated
  rw [Action.ensures_bind, Action.ensures_modify, Action.ensures_bind, Action.ensures_attempt]
  unfold requestChallenge
  refine ensures_callFor (fun h => ?_) fun r w' _ => ⟨trivial, ?_⟩
  · cases h
  cases reading .authChallenge text? r with
  | error failure =>
    dsimp only
    split
    · exact hrejected _ _ _ _ rfl
    · rfl
    · contradiction
  | ok challenge =>
    dsimp only
    rw [Action.ensures_bind]
    refine (ensures_granted_alone rfl).mono ?_ fun _ _ _ h => h.1 ▸ rfl
    rintro accepted _ w₁ rfl
    cases accepted with
    | false => exact hrejected _ _ _ _ rfl
    | true =>
      refine (Action.ensures_bind _ _).mpr ?_
      rw [Action.ensures_get]
      refine (Action.ensures_bind _ _).mpr ((ensures_granted_alone rfl).mono ?_ fun _ _ _ h => h.1 ▸ rfl)
      rintro selected _ w₂ rfl
      cases selected with
      | false => exact hrejected _ _ _ _ rfl
      | true =>
        refine (Action.ensures_bind _ _).mpr ((Action.ensures_modify _).mpr ?_)
        exact (Action.ensures_bind _ _).mpr (ensures_note fun _ _ _ => ⟨trivial, rfl⟩)

/-- A client is left logged in by a failed login: it was logged in before, it was only to select its namespace, and the
    connection gave out on that. -/
structure Stranded (c : Client ι) (events : Trace ι) (failure : SyncError) (c' : Client ι) : Prop where
  password : c.target.password = none
  login : c.authenticated = true
  unchanged : c' = c
  outcome : ∃ fault, Inconclusive fault ∧ failure = .protocol fault ∧
    events = [.sent c.link (.select c.target.space none) (.error fault)]

/-- **Logging in ends with a client that is logged in, or fails with one that is not**, but for a client that is left
    logged in. -/
theorem ensures_establish_decides :
    Action.Ensures recording (fun _ => True) establish (fun _ c' _ => c'.authenticated = true)
      (fun failure c' events => c'.authenticated = false ∨ Stranded c events failure c') c [] := by
  have hend : ∀ (accepted : Bool) (c' : Client ι) (w' : Trace ι), c'.authenticated = accepted →
      Action.Ensures recording (fun _ => True)
        (if !accepted then throw (.auth (.refused c.target)) else pure () : Action (Client ι) ι Unit)
        (fun _ c' _ => c'.authenticated = true)
        (fun failure c' events => c'.authenticated = false ∨ Stranded c events failure c') c' w' := by
    intro accepted c' w' hlogin
    cases accepted with
    | true => exact hlogin
    | false => exact .inl hlogin
  unfold establish
  rw [Action.ensures_bind, Action.ensures_get]
  dsimp only
  cases hpassword : c.target.password with
  | some password =>
    refine (Action.ensures_bind _ _).mpr ((ensures_authenticate_decides password).mono ?_ ?_)
    · exact fun accepted c' w' hlogin => hend accepted c' w' hlogin
    · exact fun _ _ _ hlogin => .inl hlogin
  | none =>
    refine (Action.ensures_bind _ _).mpr ((ensures_granted_alone rfl).mono ?_ ?_)
    · rintro selected _ w' rfl
      refine (Action.ensures_bind _ _).mpr ((Action.ensures_modify _).mpr ?_)
      exact hend selected _ w' rfl
    · rintro failure c' events ⟨hsame, houtcome⟩
      subst hsame
      cases hlogin : c'.authenticated with
      | false => exact .inl rfl
      | true => exact .inr ⟨hpassword, hlogin, rfl, houtcome⟩

/-! ## Usability -/

/-- Every command that needs a login is held back: its operation ends, fails with that, leaves the client as it is, and
    has handed nothing to the connection at any point. -/
def Locked (c : Client ι) : Prop :=
  ∀ (op : Operation) (request : Request), op.request? = some request →
    (∃ events result c', op.act.Runs c events result c') ∧
    (∀ q events, (op.act c).Reaches recording [] q events → contacts events = []) ∧
    ∀ events result c', op.act.Runs c events result c' →
      result = .error (.auth (.heldBack request.command c.target)) ∧ c' = c

theorem locked_of_logged_out (h : c.authenticated = false) : c.Locked := by
  intro op request hop
  have hout : ¬ c.authenticated = true := by rw [h]; exact Bool.false_ne_true
  have hheld := op.ensures_request (c := c) hop
  refine ⟨Action.exists_runs _ _, ?_, ?_⟩
  · intro q events hrun
    have huntouched := (hheld.reaches (.inr (List.forall_mem_nil _)) hrun).1.resolve_left hout
    refine List.filter_eq_nil_iff.mpr fun event hmem => ?_
    rw [huntouched event hmem]
    exact Bool.false_ne_true
  · intro events result c' hrun
    have hend := (hrun.ensured (.inr (List.forall_mem_nil _)) hheld).2
    cases result with
    | ok _ => exact absurd hend.2 hout
    | error failure => exact ⟨congrArg _ (hend.2.resolve_left hout), hend.1⟩

/-- **Logging in decides whether a client can be used.** A login ends, whatever the client has been through and whatever
    the connection does. Afterwards the client counts as logged in exactly if the login went well, and if it did not,
    everything that needs a login is held back. The one exception is a client without a password that was logged in
    before and whose connection gave out. -/
theorem login_decides_usability (c : Client ι) :
    (∃ events result c', establish.Runs c events result c') ∧
    ∀ events result c', establish.Runs c events result c' →
      ((c'.authenticated = true ↔ result = .ok ()) ∧ (result ≠ .ok () → c'.Locked)) ∨
      ∃ failure, result = .error failure ∧ Stranded c events failure c' := by
  refine ⟨Action.exists_runs _ _, fun events result c' hrun => ?_⟩
  have hend := (hrun.ensured trivial ensures_establish_decides).2
  cases result with
  | ok _ => exact .inl ⟨⟨fun _ => rfl, fun _ => hend⟩, fun hfailed => absurd rfl hfailed⟩
  | error failure =>
    rcases hend with hout | hstranded
    · left
      constructor
      · rw [hout]
        exact ⟨nofun, nofun⟩
      · exact fun _ => locked_of_logged_out hout
    · exact .inr ⟨failure, rfl, hstranded⟩

/-- The exception occurs: the connection is reset while a client that is logged in selects its namespace again. -/
theorem login_strands_on_reset :
    ∃ (target : Target) (events : Trace Unit) (failure : SyncError) (c' : Client Unit),
      establish.Runs ⟨(), target, true⟩ events (.error failure) c' ∧
        Stranded ⟨(), target, true⟩ events failure c' ∧ c'.authenticated = true := by
  let target : Target := ⟨.tcp "master" 9900, "data", none, "master"⟩
  have hrun : establish.Runs (⟨(), target, true⟩ : Client Unit)
      [.sent () (.select "data" none) (.error (.transport "reset"))] (.error (.protocol (.transport "reset")))
      ⟨(), target, true⟩ :=
    .answered (.error (.transport "reset")) (.refl _ _)
  exact ⟨target, _, _, _, hrun, ⟨rfl, rfl, rfl, _, .transport "reset", rfl, rfl⟩, rfl⟩

end SegmentSync.Client
