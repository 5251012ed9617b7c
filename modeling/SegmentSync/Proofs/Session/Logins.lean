import SegmentSync.Proofs.Client.Gate
import SegmentSync.Proofs.Replication.Scene
import SegmentSync.Proofs.Session.Errands
import SegmentSync.Proofs.Session.Verdicts

/-!
# `SegmentSync.Proofs.Session.Logins` — every round begins logged in

A failure of a connection costs both logins, and a session recovers from it side by side: it may lose one side again
while it waits for the other, be stopped, or be refused. Where it goes on after all, both connections have been opened
again and have gone through a complete login since the failure, and so no request is ever held back in a round.

## Contents
- **Connects.** A connect that ends well is a fresh connection with a complete login; one that fails for want of a
  login has been refused it.
- **Recovering.** The same for both sides: `Session.Reconnected` and `Session.RefusedInRecovery`.
- **Steps.** A session that is logged in stays so, and its steps do not fail for want of a login.
- **Rounds.** `Session.Iterates` takes a run apart into its rounds.
- **Runs.** `Session.never_resumes_logged_out`.
-/

namespace SegmentSync

variable {ι α : Type}

/-! ## Connects -/

namespace Client

variable {c c' : Client ι} {w : Trace ι}

/-- The client is the same but for its login. -/
structure Alike (c c' : Client ι) : Prop where
  link : c'.link = c.link
  target : c'.target = c.target

/-- The store has just refused a login to the client, log lines aside. -/
def LoginRefused (client : Client ι) (w : Trace ι) : Prop :=
  ∃ logs request r earlier, w = logs ++ .sent client.link request r :: earlier ∧
    (∀ event ∈ logs, event.isLog = true) ∧ IsLogin client.target.space request ∧
    loginVerdict client.target request r = some (.auth (.refused client.target))

theorem LoginRefused.log {level : Level} {line : String} (h : LoginRefused c w) :
    LoginRefused c (⟨.log level line, ()⟩ :: w) := by
  obtain ⟨logs, request, r, earlier, rfl, hlogs, hrefused⟩ := h
  exact ⟨_ :: logs, request, r, earlier, rfl, List.forall_mem_cons.mpr ⟨rfl, hlogs⟩, hrefused⟩

/-- For want of a login a client fails only where the store has refused it. -/
def Refusal (client : Client ι) (failure : SyncError) (w : Trace ι) : Prop :=
  ∀ fault, failure = .auth fault → fault = .refused client.target ∧ LoginRefused client w

/-- The failure of a request is not one for want of a login. -/
theorem final?_ne_auth {failure : ProtocolError} {fault : AuthFault} : failure.final? ≠ some (.auth fault) := by
  intro h
  unfold ProtocolError.final? at h
  split at h <;> cases h

/-- A login is condemned for want of a login where it is refused, and not otherwise. -/
theorem loginVerdict_eq_auth {target : Target} {request : Request} {r : Except ProtocolError Reply} {fault : AuthFault}
    (h : loginVerdict target request r = some (.auth fault)) : fault = .refused target := by
  unfold loginVerdict at h
  split at h
  · split at h
    · cases h
    · cases h
      rfl
    · exact absurd h final?_ne_auth
  · split at h
    · cases h
    · rename_i failure _
      cases failure with
      | server _ | unexpectedReply _ _ =>
        cases h
        rfl
      | eof | transport _ => exact absurd h final?_ne_auth

/-- A client that connects stays the same but for its login, and fails for want of a login only where that is
    refused. -/
theorem tried_alike (c : Client ι) :
    Tried (fun c' _ => Alike c c') fun failure c' w => Alike c c' ∧ Refusal c failure w where
  login := fun _ _ _ h => { h with }
  event := by
    intro c' w effect answer h hasks
    cases hasks with
    | @request request hlogin =>
      have hverdict :
          connectVerdict c'.target (.sent c'.link request answer) = loginVerdict c.target request answer := by
        rw [h.target]
        rfl
      rw [hverdict]
      cases hcase : loginVerdict c.target request answer with
      | none => exact h
      | some failure =>
        refine ⟨h, fun fault hfault => ?_⟩
        subst hfault
        obtain rfl := loginVerdict_eq_auth hcase
        refine ⟨rfl, [], request, answer, w, ?_, List.forall_mem_nil _, h.target ▸ hlogin, hcase⟩
        rw [h.link]
        rfl
    | reopen =>
      cases answer with
      | ok _ => exact h
      | error failure =>
        have hverdict : connectVerdict c'.target (.reopened c'.link (.error failure)) = failure.final? := rfl
        rw [hverdict]
        cases hfinal : failure.final? with
        | none => exact h
        | some final =>
          refine ⟨h, fun fault hfault => ?_⟩
          subst hfault
          exact absurd hfinal final?_ne_auth
    | log level line => exact h
  doomedLogin := fun _ _ _ _ h => ⟨{ h.1 with }, h.2⟩
  doomedLog := fun _ _ _ _ _ h => ⟨h.1, fun fault hfault => (h.2 fault hfault).imp_right LoginRefused.log⟩

/-- What a connect hands over when it ends well: the connection is opened, and the login is complete. -/
theorem ensures_connect_complete (c : Client ι) (w : Trace ι) :
    Action.Ensures recording (fun _ => True) connect
      (fun _ c' w' => c'.authenticated = true → ∃ login, Handshake c.link c.target .establish login ∧
        contacts w' = login ++ .reopened c.link (.ok ()) :: contacts w) (fun _ _ _ => True) c w := by
  unfold connect reconnect setAuthenticated
  rw [Action.ensures_bind, Action.ensures_bind, Action.ensures_modify, Action.ensures_bind, Action.ensures_get,
    Action.ensures_bind]
  intro r w₁ hw₁
  subst hw₁
  refine ⟨trivial, (Action.ensures_ofRequest _).mpr ?_⟩
  cases r with
  | error failure => trivial
  | ok _ =>
    refine (Action.ensures_runs establish _ _).mono ?_ fun _ _ _ _ => trivial
    rintro _ c' _ ⟨events, rfl, hrun⟩ hlogin
    have hjustified : Justified _ .establish c' events := (hrun.ensured trivial ensures_establish).2
    rcases hjustified hlogin with ⟨hearlier, -⟩ | hhandshake
    · -- The login that there was does not count any more.
      cases hearlier
    · exact ⟨contacts events, hhandshake, List.filter_append ..⟩

/-- **A connect** ends well with a complete login on a fresh connection, or it fails; for want of a login, where the
    store has refused it. -/
theorem ensures_connect (h : Alike c c') (w : Trace ι) :
    Action.Ensures recording (fun _ => True) connect
      (fun _ c' w' => Alike c c' ∧ c'.authenticated = true ∧ ∃ login, Handshake c.link c.target .establish login ∧
        contacts w' = login ++ .reopened c.link (.ok ()) :: contacts w)
      (fun failure c' w' => Alike c c' ∧ Refusal c failure w') c' w := by
  have htried := (tried_alike c).connect (c := c') (w := w) h
  have hcomplete := ensures_connect_complete c' w
  rw [h.link, h.target] at hcomplete
  refine (htried.and hcomplete).mono ?_ ?_
  · rintro _ c' w' ⟨⟨halike, hlogin⟩, hcomplete⟩
    exact ⟨halike, hlogin, hcomplete hlogin⟩
  · rintro failure c' w' ⟨hfailed, -⟩
    unfold Session.Failing at hfailed
    cases htransient : failure.transient? with
    | none =>
      rw [htransient] at hfailed
      exact hfailed
    | some last =>
      rw [htransient] at hfailed
      obtain ⟨reason, rfl, -⟩ := SyncError.transient?_eq_some htransient
      exact ⟨hfailed, nofun⟩

end Client

namespace Session

open SegmentSync.Action (Loops Round)
open SegmentSync.Client (Alike Handshake LoginRefused Refusal contacts)

variable {session s s' : Session ι} {w trace : Trace ι} {failure : SyncError}

/-! ## Recovering -/

/-- Both clients are the same but for their logins. -/
structure SameEnds (session s : Session ι) : Prop where
  master : Alike session.master s.master
  slave : Alike session.slave s.slave

theorem SameEnds.refl (session : Session ι) : SameEnds session session := ⟨⟨rfl, rfl⟩, ⟨rfl, rfl⟩⟩

/-- Both connections have been opened again, the master's first, and each has then gone through a complete login. -/
def Reconnected (session : Session ι) (w : Trace ι) : Prop :=
  ∃ masterLogin slaveLogin earlier,
    Handshake session.master.link session.master.target .establish masterLogin ∧
    Handshake session.slave.link session.slave.target .establish slaveLogin ∧
    contacts w = slaveLogin ++ .reopened session.slave.link (.ok ()) ::
      (masterLogin ++ .reopened session.master.link (.ok ()) :: earlier)

/-- One of the clients has been refused its login. -/
def Rejected (session : Session ι) (failure : SyncError) (w : Trace ι) : Prop :=
  ∀ fault, failure = .auth fault →
    ∃ client, session.IsEnd client ∧ fault = .refused client.target ∧ LoginRefused client w

theorem Reconnected.log {level : Level} {line : String} (h : session.Reconnected w) :
    session.Reconnected (⟨.log level line, ()⟩ :: w) := h

theorem Refusal.rejected {client : Client ι} (h : Refusal client failure w) (hend : session.IsEnd client) :
    session.Rejected failure w := by
  intro fault hfault
  obtain ⟨hrefused, hlatest⟩ := h fault hfault
  exact ⟨client, hend, hrefused, hlatest⟩

/-- **Opening both sides again** ends with two complete logins on fresh connections, or is refused one. -/
theorem ensures_reopen (h : SameEnds session s) (w : Trace ι) :
    Action.Ensures recording (fun _ => True) reopen
      (fun _ s' w' => SameEnds session s' ∧ s'.LoggedIn ∧ session.Reconnected w')
      (fun failure s' w' => SameEnds session s' ∧ session.Rejected failure w') s w := by
  have hmaster := Client.ensures_connect h.master w
  unfold reopen
  refine (Action.ensures_bind _ _).mpr ((Action.ensures_focus _ _ _ _).mpr (hmaster.mono ?_ ?_))
  · rintro _ master w₁ ⟨hmaster, hlogin, masterLogin, hmasterLogin, hmasterContacts⟩
    refine (Action.ensures_focus _ _ _ _).mpr ((Client.ensures_connect h.slave w₁).mono ?_ ?_)
    · rintro _ slave w₂ ⟨hslave, hlogin', slaveLogin, hslaveLogin, hslaveContacts⟩
      rw [hmasterContacts] at hslaveContacts
      exact ⟨⟨hmaster, hslave⟩, ⟨hlogin, hlogin'⟩, masterLogin, slaveLogin, _, hmasterLogin, hslaveLogin,
        hslaveContacts⟩
    · rintro failure slave w₂ ⟨hslave, hrefusal⟩
      exact ⟨⟨hmaster, hslave⟩, Refusal.rejected hrefusal (.inr rfl)⟩
  · rintro failure master w₁ ⟨hmaster, hrefusal⟩
    exact ⟨⟨hmaster, h.slave⟩, Refusal.rejected hrefusal (.inl rfl)⟩

/-- **A session that goes on is logged in again**, however often it has lost a side meanwhile. One that fails for want
    of a login has been refused it. -/
theorem ensures_recovered (budget : Nat) (last : ProtocolError) (h : SameEnds session s) (w : Trace ι) :
    Action.Ensures recording (fun _ => True) (recoverWithin budget last)
      (fun isStopped s' w' => SameEnds session s' ∧ (isStopped = false → s'.LoggedIn ∧ session.Reconnected w'))
      (fun failure s' w' => SameEnds session s' ∧ session.Rejected failure w') s w := by
  -- Induction on the attempts that are left: only the last one counts, and it opens both sides.
  induction budget generalizing last s w with
  | zero => exact ensures_recoverWithin_zero (fun _ => ⟨{ h with }, nofun⟩) fun _ => ⟨h, nofun⟩
  | succ budget ih =>
    refine ensures_recoverWithin_succ (fun _ => ⟨h, nofun⟩) fun _ line w₁ _ => ⟨trivial, ?_⟩
    have hpaused : SameEnds session { s with failures := s.failures + 1, backoff := s.backoff.next.2 } := { h with }
    refine (Action.ensures_sleep _ _ w₁).mono ?_ fun _ _ _ hended => hended
    rintro isStopped _ w₂ ⟨rfl, -⟩
    cases isStopped with
    | true => exact ⟨hpaused, nofun⟩
    | false =>
      refine (ensures_reopen hpaused w₂).mono ?_ ?_
      · rintro _ s₃ w₃ ⟨hends, hlogin, hreconnected⟩ line _ rfl
        exact ⟨trivial, hends, fun _ => ⟨hlogin, hreconnected.log⟩⟩
      · rintro failure s₃ w₃ ⟨hends, hrejected⟩
        unfold Failing
        cases failure.transient? with
        | none => exact ⟨hends, hrejected⟩
        | some last => exact fun line w₄ _ => ⟨trivial, ih last hends w₄⟩

theorem ensures_recover_logins (last : ProtocolError) (h : SameEnds session s) (w : Trace ι) :
    Action.Ensures recording (fun _ => True) (recover last)
      (fun isStopped s' w' => SameEnds session s' ∧ (isStopped = false → s'.LoggedIn ∧ session.Reconnected w'))
      (fun failure s' w' => SameEnds session s' ∧ session.Rejected failure w') s w := by
  have hrecovered := ensures_recovered (s.options.retry.maxRetries.toNat - s.failures) last h w
  exact (Action.ensures_bind _ _).mpr hrecovered

/-- The run has ended because a store refused a login while the session recovered. -/
def RefusedInRecovery (session : Session ι) (fault : AuthFault) (trace : Trace ι) : Prop :=
  ∃ logs recovery before last s s' client, trace = logs ++ (recovery ++ before) ∧
    (∀ event ∈ logs, event.isLog = true) ∧ (recover last).Runs s recovery (.error (.auth fault)) s' ∧
    SameEnds session s ∧ session.IsEnd client ∧ fault = .refused client.target ∧ LoginRefused client recovery

theorem RefusedInRecovery.logged {fault : AuthFault} {more : Trace ι} (h : session.RefusedInRecovery fault trace)
    (hmore : ∀ event ∈ more, event.isLog = true) : session.RefusedInRecovery fault (more ++ trace) := by
  obtain ⟨logs, recovery, before, last, s, s', client, rfl, hlogs, h⟩ := h
  have hlogged := List.forall_mem_append.mpr ⟨hmore, hlogs⟩
  exact ⟨more ++ logs, recovery, before, last, s, s', client, (List.append_assoc ..).symm, hlogged, h⟩

theorem RefusedInRecovery.after {fault : AuthFault} (h : session.RefusedInRecovery fault trace) (earlier : Trace ι) :
    session.RefusedInRecovery fault (trace ++ earlier) := by
  obtain ⟨logs, recovery, before, last, s, s', client, rfl, h⟩ := h
  exact ⟨logs, recovery, before ++ earlier, last, s, s', client, by simp only [List.append_assoc], h⟩

/-! ## Steps -/

/-- The session is logged in, on the same ends as ever. -/
def Connected (session s : Session ι) : Prop := s.LoggedIn ∧ SameEnds session s

/-- A failure is not one for want of a login. -/
def Permitted (failure : SyncError) : Prop := ∀ fault, failure ≠ .auth fault

/-- How a session has ended: for want of a login, only where that was refused. -/
def LoginEnd (session : Session ι) (failure : SyncError) (s : Session ι) (w : Trace ι) : Prop :=
  SameEnds session s ∧ ∀ fault, failure = .auth fault → session.RefusedInRecovery fault w

theorem around_of {inv : Session ι → Prop} (hreported : ∀ s reported, inv s → inv { s with reported }) :
    Around recording (fun _ => True) fun s _ => inv s where
  around := fun _ _ _ _ _ h _ _ => ⟨trivial, h⟩
  reported := fun s _ reported h => hreported s reported h

/-- **No step fails for want of a login** in a session that is logged in. -/
theorem steady_connected (session : Session ι) :
    Steady recording (fun _ => True) (fun s _ => Connected session s) Permitted where
  lastMaster := fun _ _ _ h => ⟨h.1, { h.2 with }⟩
  lastSlave := fun _ _ _ h => ⟨h.1, { h.2 with }⟩
  effect := fun _ _ _ _ _ h _ _ => ⟨trivial, h⟩
  fails := by
    rintro failure (_ | _ | _ | _) fault <;> exact nofun
  heldMaster := by
    intro s w request h hholds
    rw [Client.holdsBack, h.1.1, Bool.not_true, Bool.and_false] at hholds
    cases hholds
  heldSlave := by
    intro s w request h hholds
    rw [Client.holdsBack, h.1.2, Bool.not_true, Bool.and_false] at hholds
    cases hholds

/-- **The course of a run that begins logged in**: between two rounds it is logged in again, and where it ends for want
    of a login it was refused that while it recovered. -/
theorem course_connected (session : Session ι) :
    Course recording (fun _ => True) (fun s _ => Connected session s) (fun s _ => Connected session s)
      (fun _ s _ => SameEnds session s) (LoginEnd session) (fun s _ => SameEnds session s) where
  toAround := around_of fun _ _ h => ⟨h.1, { h.2 with }⟩
  halts := fun _ _ h => h.2
  haltedAround := around_of fun _ _ h => { h with }
  readyLog := fun _ _ _ _ _ h _ => ⟨trivial, h⟩
  endedLog := by
    rintro failure s w level line _ ⟨hends, hrefused⟩ rfl
    exact ⟨trivial, hends, fun fault hfault => (hrefused fault hfault).logged (List.forall_mem_singleton.mpr rfl)⟩
  recover := by
    intro last s w h
    refine ((Action.ensures_runs (recover last) s w).and (ensures_recover_logins last h w)).mono ?_ ?_
    · rintro isStopped s' w' ⟨-, hends, hagain⟩
      cases isStopped with
      | true => exact hends
      | false => exact ⟨(hagain rfl).1, hends⟩
    · rintro failure s' _ ⟨⟨recovery, rfl, hrun⟩, hends, -⟩
      refine ⟨hends, ?_⟩
      rintro fault rfl
      obtain ⟨client, hend, hrefused, hlatest⟩ :=
        (hrun.ensured trivial (ensures_recover_logins last h [])).2.2 fault rfl
      exact ⟨[], recovery, w, last, s, s', client, rfl, List.forall_mem_nil _, hrun, h, hend, hrefused, hlatest⟩
  progress := by
    intro phase _ s w h
    have hunaffected : Reportable recording (fun _ => True) fun (s : Session ι) _ => Connected session s :=
      ⟨fun _ _ _ _ h => ⟨h.1, { h.2 with }⟩, fun _ _ _ h => ⟨h.1, { h.2 with }⟩, fun _ _ _ _ _ h _ _ => ⟨trivial, h⟩⟩
    exact hunaffected.progresses phase s w h

/-- What keeps a session logged in may be a step of such a run. -/
theorem follows_connected {x : Action (Session ι) ι α}
    (hx : Action.Maintains recording (fun _ => True) (fun s _ => Connected session s) Permitted x) :
    Course.Steps recording (fun _ => True) (fun s _ => Connected session s) (fun s _ => Connected session s)
      (fun _ s _ => SameEnds session s) (LoginEnd session) x := by
  intro s w h
  refine (hx s w h).mono (fun _ _ _ h' => h') fun failure s' w' hfailed => ?_
  unfold Failing
  cases failure.transient? with
  | some last => exact hfailed.1.2
  | none => exact ⟨hfailed.1.2, fun fault hfault => absurd hfault (hfailed.2 fault)⟩

/-- So does a preparation, whatever baseline it comes to. -/
theorem prepare_connected :
    Follows recording (fun _ => True) (fun s _ => Connected session s)
      (Failing (fun _ s _ => SameEnds session s) (LoginEnd session)) prepare fun _ s _ => Connected session s :=
  follows_connected (steady_connected session).preparable.prepare

/-- A step of a copy leaves a session logged in, whether the copy is done or not. -/
theorem copyStep_connected (baseline : Snapshot) :
    Follows recording (fun _ => True) (fun s _ => Connected session s)
      (Failing (fun _ s _ => SameEnds session s) (LoginEnd session)) (copyStep baseline)
      (Stages.Copied (fun s _ => Connected session s) fun s _ => Connected session s) := by
  intro s w h
  refine (follows_connected ((steady_connected session).copyStep baseline) s w h).mono ?_ fun _ _ _ h' => h'
  intro result s' w' h'
  cases result <;> exact h'

/-! ## Rounds -/

/-- A round of a session fails, of whichever kind it is. -/
inductive RoundFails (s : Session ι) (trace : Trace ι) (failure : SyncError) (s' : Session ι) : Prop where
  | incremental (poll : Backoff) (hrun : (incrementalRound poll).Runs s trace (.error failure) s')
  | preparing (hrun : prepareRound.Runs s trace (.error failure) s')
  | copying (baseline : Snapshot) (hrun : (copyRound baseline).Runs s trace (.error failure) s')

/-- **No round fails for want of a login**, unless one is refused while it recovers. -/
theorem RoundFails.ended (h : RoundFails s trace failure s') (hlogin : s.LoggedIn) : LoginEnd s failure s' trace := by
  have hcourse := course_connected s
  have hstart : Connected s s := ⟨hlogin, .refl s⟩
  cases h with
  | incremental poll hrun =>
    have hround := hcourse.incrementalRound (follows_connected (steady_connected s).step) poll s [] hstart
    exact (hrun.ensured trivial hround).2
  | preparing hrun =>
    exact (hrun.ensured trivial (hcourse.prepareRound prepare_connected s [] hstart)).2
  | copying baseline hrun =>
    exact (hrun.ensured trivial (hcourse.copyRound (copyStep_connected baseline) s [] hstart)).2

/-- No round has begun: each begins with a look at the stop signal. -/
def NoRound (w : Trace ι) : Prop := ∀ event ∈ w, event.effect ≠ .stopRequested

/-- The rounds of a run, each of which begins logged in, with what happens before and after them. -/
inductive Iterates (session : Session ι) : Trace ι → Prop where
  | incremental {ending rounds : Trace ι} {start : Event ι} {result : Except SyncError (Option Unit)} {s : Session ι}
      (hstrategy : session.strategy = .incremental) (hstart : start.isLog = true) (hending : NoRound ending)
      (hrounds : Loops LoggedIn incrementalRound session.options.poll.backoff session rounds result s) :
      Iterates session (ending ++ (rounds ++ [start]))
  /-- A bulk run that does not get to its copy. -/
  | preparing {ending rounds : Trace ι} {start : Event ι} {result : Except SyncError (Option (Option Snapshot))}
      {s : Session ι} (hstrategy : session.strategy = .bulk) (hstart : start.isLog = true) (hending : NoRound ending)
      (hrounds : Loops LoggedIn (fun _ => prepareRound) () session rounds result s) :
      Iterates session (ending ++ (rounds ++ [start]))
  | copying {ending copying preparing : Trace ι} {start line : Event ι} {baseline : Snapshot}
      {result : Except SyncError (Option Outcome)} {s s' : Session ι} (hstrategy : session.strategy = .bulk)
      (hstart : start.isLog = true) (hline : line.isLog = true) (hending : NoRound ending)
      (hprepared : Loops LoggedIn (fun _ => prepareRound) () session preparing (.ok (some (some baseline))) s)
      (hcopied : Loops LoggedIn (fun _ => copyRound baseline) () s copying result s') :
      Iterates session (ending ++ (copying ++ line :: (preparing ++ [start])))

theorem NoRound.cons {event : Event ι} (h : NoRound w) (hevent : event.effect ≠ .stopRequested) :
    NoRound (event :: w) :=
  List.forall_mem_cons.mpr ⟨hevent, h⟩

/-- An action that begins no round. -/
abbrev BeginsNone (x : Action (Session ι) ι α) : Prop :=
  Action.Maintains recording (fun _ => True) (fun _ w => NoRound w) (fun _ => True) x

theorem beginsNone_perform (effect : Effect ι) (heffect : effect ≠ .stopRequested) :
    BeginsNone (Action.perform effect) := by
  refine .perform fun _ w answer w' h henv => ⟨trivial, ?_⟩
  subst henv
  exact h.cons heffect

theorem beginsNone_emit (phase : Phase) : BeginsNone (emit phase : Action (Session ι) ι Unit) := by
  refine .bind_get fun s _ _ => ?_
  cases s.snapshots with
  | none => exact .pure _
  | some current =>
    refine (beginsNone_perform .clock nofun).bind fun now => ?_
    exact (beginsNone_perform (.report _) nofun).bind fun _ => .modify fun _ _ h => h

theorem beginsNone_stopped : BeginsNone (stopped : Action (Session ι) ι Outcome) :=
  (beginsNone_perform (.log _ _) nofun).bind fun _ => (beginsNone_emit _).bind fun _ => .pure _

theorem beginsNone_setFreeze (space : String) (enabled : Bool) :
    BeginsNone (onSlave (Client.setFreeze space enabled) : Action (Session ι) ι Unit) := by
  intro s w h
  refine (Action.ensures_focus _ _ _ _).mpr ((Action.ensures_bind _ _).mpr ?_)
  refine Client.ensures_note fun line w₁ hw₁ => ⟨trivial, ?_⟩
  have h₁ : NoRound w₁ := hw₁ ▸ h.cons nofun
  have hcall : Action.Maintains recording (fun _ => True) (fun (_ : Client ι) w => NoRound w) (fun _ => True)
      (Client.callFor (.nsFreeze space enabled) Client.ack?) :=
    Client.maintains_callFor fun c w r w' h henv => ⟨trivial, henv ▸ h.cons nofun⟩
  exact hcall _ w₁ h₁

theorem beginsNone_completeBulk (baseline : Snapshot) :
    BeginsNone (completeBulk baseline : Action (Session ι) ι Outcome) := by
  have hend : BeginsNone (do
      emit .finished
      Action.log .info ("Bulk sync reached baseline " ++ baseline.position.text)
      return Outcome.completed : Action (Session ι) ι Outcome) :=
    (beginsNone_emit _).bind fun _ => (beginsNone_perform (.log _ _) nofun).bind fun _ => .pure _
  refine .bind_get fun s _ _ => ?_
  dsimp only
  split
  · exact (beginsNone_setFreeze _ _).bind fun _ => hend
  · exact hend

theorem BeginsNone.run {x : Action (Session ι) ι α} {result : Except SyncError α} (h : BeginsNone x)
    (hrun : x.Runs s trace result s') : NoRound trace := by
  have hend := (hrun.ensured trivial (h s [] (List.forall_mem_nil _))).2
  cases result with
  | ok _ => exact hend
  | error _ => exact hend.1

/-- Rounds begin logged in, if the first one does. -/
theorem loops_loggedIn {β γ : Type} {body : β → Action (Session ι) ι (Round β γ)} {carried : β} {limit : Nat}
    {result : Except SyncError (Option γ)} (hlogin : s.LoggedIn)
    (hrun : (Action.rounds body limit carried).Runs s trace result s')
    (hround : ∀ (session : Session ι) carried, Follows recording (fun _ => True) (fun s _ => Connected session s)
      (LoginEnd session) (body carried) fun
        | .again _ => fun s _ => Connected session s
        | .last _ => fun _ _ => True) :
    Loops LoggedIn body carried s trace result s' := by
  refine hrun.loops limit ?_ hlogin
  intro carried s trace carried' s' hlogin hrun
  exact (hrun.ensured trivial (hround s carried s [] ⟨hlogin, .refl s⟩)).2.1

theorem loops_incremental {poll : Backoff} {limit : Nat} {result : Except SyncError (Option Unit)}
    (hlogin : s.LoggedIn) (hrun : (Action.rounds incrementalRound limit poll).Runs s trace result s') :
    Loops LoggedIn incrementalRound poll s trace result s' := by
  refine loops_loggedIn hlogin hrun fun session poll s w h => ?_
  have hstep := follows_connected (steady_connected session).step
  refine ((course_connected session).incrementalRound hstep poll s w h).mono ?_ fun _ _ _ h' => h'
  rintro (_ | _) s' w' h'
  · exact h'
  · trivial

theorem loops_prepare {limit : Nat} {result : Except SyncError (Option (Option Snapshot))} (hlogin : s.LoggedIn)
    (hrun : (Action.rounds (fun _ => prepareRound) limit ()).Runs s trace result s') :
    Loops LoggedIn (fun _ => prepareRound) () s trace result s' ∧
      ∀ baseline, result = .ok (some (some baseline)) → s'.LoggedIn := by
  constructor
  · refine loops_loggedIn hlogin hrun fun session _ s w h => ?_
    refine ((course_connected session).prepareRound prepare_connected s w h).mono ?_ fun _ _ _ h' => h'
    rintro (_ | _) s' w' h'
    · exact h'
    · trivial
  · rintro baseline rfl
    have hprepared := (course_connected s).prepares prepare_connected limit s [] ⟨hlogin, .refl s⟩
    exact (hrun.ensured trivial hprepared).2.1

theorem loops_copy {baseline : Snapshot} {limit : Nat} {result : Except SyncError (Option Outcome)}
    (hlogin : s.LoggedIn) (hrun : (Action.rounds (fun _ => copyRound baseline) limit ()).Runs s trace result s') :
    Loops LoggedIn (fun _ => copyRound baseline) () s trace result s' := by
  refine loops_loggedIn hlogin hrun fun session _ s w h => ?_
  refine ((course_connected session).copyRound (copyStep_connected baseline) s w h).mono ?_ fun _ _ _ h' => h'
  rintro (_ | _) s' w' h'
  · exact h'
  · trivial

/-! ## Runs -/

section

variable {limit : Nat} {result : Except SyncError (Option Outcome)} {start : Event ι} {ending : Trace ι}

theorem Iterates.of_runIncremental (hlogin : session.LoggedIn) (hstrategy : session.strategy = .incremental)
    (hrun : (runIncremental limit).Runs session trace result s') (hstart : start.isLog = true)
    (hending : NoRound ending) : session.Iterates (ending ++ (trace ++ [start])) := by
  unfold runIncremental at hrun
  rcases hrun.of_bind_get.of_bind with ⟨failure, hrounds, -⟩ | ⟨ended, s₁, rounds, later, hrounds, hlater, rfl⟩
  · exact .incremental hstrategy hstart hending (loops_incremental hlogin hrounds)
  · have hquiet : NoRound later := by
      cases ended with
      | none => exact BeginsNone.run (.pure _) hlater
      | some _ => exact BeginsNone.run (beginsNone_stopped.bind fun _ => .pure _) hlater
    have hquiet' : NoRound (ending ++ later) := List.forall_mem_append.mpr ⟨hending, hquiet⟩
    have hiterates := Iterates.incremental hstrategy hstart hquiet' (loops_incremental hlogin hrounds)
    rwa [List.append_assoc, ← List.append_assoc later] at hiterates

/-- What comes after the preparation is the copy, if the preparation has led to one. -/
theorem Iterates.of_runBulk (hlogin : session.LoggedIn) (hstrategy : session.strategy = .bulk)
    (hrun : (runBulk limit).Runs session trace result s') (hstart : start.isLog = true) (hending : NoRound ending) :
    session.Iterates (ending ++ (trace ++ [start])) := by
  unfold runBulk at hrun
  rcases hrun.of_bind with ⟨failure, hprepare, -⟩ | ⟨prepared, s₁, preparing, later, hprepare, hlater, rfl⟩
  · exact .preparing hstrategy hstart hending (loops_prepare hlogin hprepare).1
  obtain ⟨hloops, hready⟩ := loops_prepare hlogin hprepare
  have hleft : NoRound later → session.Iterates (ending ++ (later ++ preparing ++ [start])) := by
    intro hquiet
    have hquiet' : NoRound (ending ++ later) := List.forall_mem_append.mpr ⟨hending, hquiet⟩
    have hiterates := Iterates.preparing hstrategy hstart hquiet' hloops
    rwa [List.append_assoc, ← List.append_assoc later] at hiterates
  match prepared with
  | none => exact hleft (BeginsNone.run (.pure _) hlater)
  | some none => exact hleft (BeginsNone.run (beginsNone_stopped.bind fun _ => .pure _) hlater)
  | some (some baseline) =>
    rcases hlater.of_bind with ⟨failure, hlog, -⟩ | ⟨_, s₂, first, rest, hlog, hrest, rfl⟩
    · obtain ⟨_, hfailed, -⟩ := hlog.of_perform
      cases hfailed
    obtain ⟨line, hline, rfl, rfl⟩ : ∃ line : Event ι, line.isLog = true ∧ s₂ = s₁ ∧ first = [line] := by
      obtain ⟨_, -, hsame, hfirst⟩ := hlog.of_perform
      exact ⟨_, rfl, hsame, hfirst⟩
    have hlogin' : s₂.LoggedIn := hready baseline rfl
    have hcopying : ∀ {copying last : Trace ι} {outcome : Except SyncError (Option Outcome)} {s₃ : Session ι},
        (Action.rounds (fun _ => copyRound baseline) limit ()).Runs s₂ copying outcome s₃ → NoRound last →
        session.Iterates (ending ++ (last ++ copying ++ [line] ++ preparing ++ [start])) := by
      intro copying last outcome s₃ hcopy hquiet
      have hquiet' : NoRound (ending ++ last) := List.forall_mem_append.mpr ⟨hending, hquiet⟩
      have hiterates := Iterates.copying hstrategy hstart hline hquiet' hloops (loops_copy hlogin' hcopy)
      simpa only [List.append_assoc, List.cons_append, List.nil_append] using hiterates
    rcases hrest.of_bind with ⟨failure, hcopy, -⟩ | ⟨copied, s₃, copying, last, hcopy, hlast, rfl⟩
    · exact hcopying hcopy (List.forall_mem_nil _)
    · refine hcopying hcopy ?_
      match copied with
      | none => exact BeginsNone.run (.pure _) hlast
      | some .stopped => exact BeginsNone.run (beginsNone_stopped.bind fun _ => .pure _) hlast
      | some .completed => exact BeginsNone.run ((beginsNone_completeBulk _).bind fun _ => .pure _) hlast

/-- **What follows the start of a run is one round after the other**, and then no more of them. -/
theorem Iterates.of_follow (hlogin : session.LoggedIn) (hrun : (follow limit).Runs session trace result s')
    (hstart : start.isLog = true) (hending : NoRound ending) : session.Iterates (ending ++ (trace ++ [start])) := by
  unfold follow at hrun
  have hfollowed := hrun.of_bind_get
  cases hstrategy : session.strategy with
  | bulk =>
    rw [hstrategy] at hfollowed
    exact .of_runBulk hlogin hstrategy hfollowed hstart hending
  | incremental =>
    rw [hstrategy] at hfollowed
    exact .of_runIncremental hlogin hstrategy hfollowed hstart hending

/-- **A run that begins logged in ends for want of a login only where that is refused.** -/
theorem ended_of_follow (hlogin : session.LoggedIn) {failure : SyncError}
    (hrun : (follow limit).Runs session trace (.error failure) s') : LoginEnd session failure s' trace := by
  have hcourse := course_connected session
  have hsteady := steady_connected session
  have hunfreeze : ∀ (_ : Snapshot) s w, Connected session s → s.options.bulk.unfreezeOnCompletion = true →
      Action.Ensures recording (fun _ => True) (onSlave (Client.setFreeze s.space false))
        (fun _ s' _ => Connected session s') (LoginEnd session) s w := by
    intro _ s w h _
    refine ensures_setFreeze h.1.2 fun line w₁ _ => ⟨trivial, fun r w₂ _ => ⟨trivial, ?_⟩⟩
    cases Client.reading (.nsFreeze s.space false) Client.ack? r with
    | ok _ => exact h
    | error _ => exact ⟨h.2, fun fault hfault => by cases hfault⟩
  have hfollow : Action.Ensures recording (fun _ => True) (follow limit) (fun _ _ _ => True) (LoginEnd session)
      session [] := by
    unfold follow
    rw [Action.ensures_bind, Action.ensures_get]
    cases session.strategy with
    | bulk =>
      have hbulk := hcourse.finishes (fun _ => hcourse) (fun _ => hcourse.toAround) prepare_connected
        copyStep_connected hunfreeze limit
      exact (hbulk session [] ⟨hlogin, .refl _⟩).mono (fun _ _ _ _ => trivial) fun _ _ _ h => h
    | incremental =>
      have hincremental := hcourse.runIncremental (follows_connected hsteady.step) limit
      exact (hincremental session [] ⟨hlogin, .refl _⟩).mono (fun _ _ _ _ => trivial) fun _ _ _ h => h
  exact (hrun.ensured trivial hfollow).2

/-- What a run comes to: it does not begin, or it follows its strategy between a line of the log and another. -/
inductive RunsAs (limit : Nat) (session : Session ι) :
    Trace ι → Except SyncError (Option Outcome) → Session ι → Prop where
  | refused {client : Client ι} (hend : session.IsEnd client) (hlogin : client.authenticated = false) :
      RunsAs limit session [] (.error (.auth (.notLoggedIn client.target))) session
  | followed {ending followed : Trace ι} {start : Event ι} {result : Except SyncError (Option Outcome)} {s' : Session ι}
      (hlogin : session.LoggedIn) (hstart : start.isLog = true) (hending : ∀ event ∈ ending, event.isLog = true)
      (hrun : (follow limit).Runs session followed result s') :
      RunsAs limit session (ending ++ (followed ++ [start])) result s'

theorem ensures_runsAs (limit : Nat) (session : Session ι) :
    Action.Ensures recording (fun _ => True) (run limit) (fun outcome s' w => RunsAs limit session w (.ok outcome) s')
      (fun failure s' w => RunsAs limit session w (.error failure) s') session [] := by
  unfold run
  refine (Action.ensures_bind _ _).mpr ((ensures_ensureAuthenticated session []).mono ?_ ?_)
  case refine_2 =>
    rintro _ _ _ ⟨rfl, rfl, client, hend, hlogin, rfl⟩
    exact .refused hend hlogin
  rintro _ _ _ ⟨rfl, rfl, hlogin⟩
  rw [Action.ensures_bind, Action.ensures_get, Action.ensures_bind]
  rintro _ w hw
  obtain ⟨start, hstart, rfl⟩ : ∃ start : Event ι, start.isLog = true ∧ w = [start] := ⟨_, rfl, hw⟩
  refine ⟨trivial, (Action.ensures_bind _ _).mpr ((Action.ensures_attempt _).mpr ?_)⟩
  refine (Action.ensures_runs (follow limit) _ _).mono ?_ ?_
  · rintro (_ | outcome) s' _ ⟨followed, rfl, hrun⟩
    · show RunsAs limit _ ([] ++ (followed ++ [start])) _ _
      exact .followed hlogin hstart (List.forall_mem_nil _) hrun
    · refine (Action.ensures_bind _ _).mpr fun _ w' hw' => ⟨trivial, ?_⟩
      subst hw'
      show RunsAs limit _ ([_] ++ (followed ++ [start])) _ _
      exact .followed hlogin hstart (List.forall_mem_singleton.mpr rfl) hrun
  · rintro failure s' _ ⟨followed, rfl, hrun⟩
    refine (Action.ensures_bind _ _).mpr fun _ w' hw' => ⟨trivial, ?_⟩
    subst hw'
    show RunsAs limit _ ([_] ++ (followed ++ [start])) _ _
    exact .followed hlogin hstart (List.forall_mem_singleton.mpr rfl) hrun

theorem runsAs_of_run (h : (run limit).Runs session trace result s') : RunsAs limit session trace result s' := by
  have hend := (h.ensured trivial (ensures_runsAs limit session)).2
  cases result <;> exact hend

end

/-- **The loop never resumes logged out.** A run of a session of either strategy, between any connections, does not
    begin unless both clients are logged in, and nothing is sent then; otherwise both are logged in whenever a round
    begins, and it ends for want of a login only if a store refused one while the session recovered. Where recovering
    lets a session go on, both connections have been opened again and have gone through a complete login since the
    failure. No round that begins logged in fails because a command is held back. -/
theorem never_resumes_logged_out (session : Session ι) :
    (∀ limit trace result session', (run limit).Runs session trace result session' →
      (¬ session.LoggedIn ∧ trace = [] ∧ ∃ client, session.IsEnd client ∧ client.authenticated = false ∧
        result = .error (.auth (.notLoggedIn client.target))) ∨
      session.LoggedIn ∧ session.Iterates trace ∧
        ∀ fault, result = .error (.auth fault) → session.RefusedInRecovery fault trace) ∧
    (∀ last recovery session', (recover last).Runs session recovery (.ok false) session' →
      session'.LoggedIn ∧ session.Reconnected recovery) ∧
    ∀ trace failure session', RoundFails session trace failure session' → session.LoggedIn →
      (∀ command target, failure ≠ .auth (.heldBack command target)) ∧
        ∀ fault, failure = .auth fault → session.RefusedInRecovery fault trace := by
  refine ⟨fun limit trace result session' hrun => ?_, fun last recovery session' hrun => ?_,
    fun trace failure session' hfails hlogin => ?_⟩
  · cases runsAs_of_run hrun with
    | refused hend hout =>
      refine .inl ⟨fun hlogin => ?_, rfl, _, hend, hout, rfl⟩
      rcases hend with rfl | rfl
      · exact absurd (hlogin.1.symm.trans hout) nofun
      · exact absurd (hlogin.2.symm.trans hout) nofun
    | @followed ending followed start _ _ hlogin hstart hending hfollow =>
      have hquiet : NoRound ending := fun event hmem heq => by
        have hlog := hending event hmem
        obtain ⟨effect, answer⟩ := event
        cases heq
        cases hlog
      refine .inr ⟨hlogin, .of_follow hlogin hfollow hstart hquiet, fun fault hfault => ?_⟩
      subst hfault
      have hrefused := (ended_of_follow hlogin hfollow).2 fault rfl
      exact (hrefused.after [start]).logged hending
  · have hagain := (hrun.ensured trivial (ensures_recover_logins last (.refl session) [])).2
    exact hagain.2 rfl
  · have hended := (hfails.ended hlogin).2
    refine ⟨fun command target hheld => ?_, hended⟩
    obtain ⟨_, _, _, _, _, _, client, -, -, -, -, -, hrefused, -⟩ := hended _ hheld
    cases hrefused

/-- A session whose master refuses the login after its connection was reset: the round fails with that, and so does the
    run. Where the login is accepted, the session goes on logged in. -/
theorem never_resumes_logged_out_of_refused :
    ∃ (round trace recovery : Trace Role) (s s' : Session Role) (fault : AuthFault),
      RoundFails (between .incremental) round (.auth fault) s ∧
      (between .incremental).RefusedInRecovery fault round ∧
      (run 1).Runs (between .incremental) trace (.error (.auth fault)) s ∧
      (between .incremental).Iterates trace ∧ (between .incremental).RefusedInRecovery fault trace ∧
      (recover (.transport "reset")).Runs (between .incremental) recovery (.ok false) s' ∧ s'.LoggedIn ∧
      (between .incremental).Reconnected recovery := by
  let session := between .incremental
  have hlogin : session.LoggedIn := ⟨rfl, rfl⟩
  have hstep : ∃ trace, step.Runs session trace (.error (.protocol (.transport "reset"))) session :=
    ⟨_, .answered (.error (.transport "reset")) (.refl _ _)⟩
  have hrefused : ∃ trace s, (recover (.transport "reset")).Runs session trace
      (.error (.auth (.refused session.master.target))) s :=
    ⟨_, _, .answered () (.answered false (.answered .elapsed (.answered (.ok ()) (.answered (.error (.server "denied"))
      (.answered () (.refl _ _))))))⟩
  have haccepted : ∃ trace s, (recover (.transport "reset")).Runs session trace (.ok false) s :=
    ⟨_, _, .answered () (.answered false (.answered .elapsed (.answered (.ok ()) (.answered (.ok (.simple "a1b2"))
      (.answered (.ok .okay) (.answered (.ok .okay) (.answered () (.answered (.ok ()) (.answered (.ok .okay)
        (.answered () (.refl _ _)))))))))))⟩
  obtain ⟨_, hstep⟩ := hstep
  obtain ⟨_, s, hrefused⟩ := hrefused
  obtain ⟨recovery, s', haccepted⟩ := haccepted
  have hround : ∃ trace, (incrementalRound session.options.poll.backoff).Runs session trace
      (.error (.auth (.refused session.master.target))) s :=
    ⟨_, (Action.runs_perform .stopRequested false session).bind (hstep.attempt.bind hrefused.bind_error).bind_error⟩
  obtain ⟨round, hround⟩ := hround
  have hrun : ∃ trace, (run 1).Runs session trace (.error (.auth (.refused session.master.target))) s :=
    ⟨_, (Action.runs_perform (.log .info _) () session).bind
      (hround.bind_error.bind_error.attempt.bind (.answered () (.refl _ _)))⟩
  obtain ⟨trace, hrun⟩ := hrun
  obtain ⟨hruns, hrecovers, hrounds⟩ := never_resumes_logged_out session
  have hfails : RoundFails session round _ s := .incremental _ hround
  rcases hruns 1 trace _ s hrun with ⟨hout, -⟩ | ⟨-, hiterates, hended⟩
  · exact absurd hlogin hout
  obtain ⟨hagain, hreconnected⟩ := hrecovers _ recovery s' haccepted
  exact ⟨round, trace, recovery, s, s', _, hfails, (hrounds round _ s hfails hlogin).2 _ rfl, hrun, hiterates,
    hended _ rfl, haccepted, hagain, hreconnected⟩

end Session

end SegmentSync
