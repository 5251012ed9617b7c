import SegmentSync.Proofs.Client.Login
import SegmentSync.Proofs.Client.Replies

/-!
# `SegmentSync.Proofs.Client.Gate` — nothing gets through without a login

Whatever is asked of a client, in whatever order, and whatever comes of it: a command that needs a login is handed to
the connection only after a complete handshake, since which the connection has not been opened again. Otherwise the
operation fails, and nothing at all is handed over.

## Contents
- **Operations.** `Operation`, and `History`: what has been asked of a client since it was new, with all that has
  happened.
- **Handshakes.** `Handshake` is a login from its challenge to the selected namespace, and `LoggedIn` says that there
  has been one since the connection was opened.
- **Logging in.** Where a client counts as logged in after an operation, it did before, or the operation was a
  handshake.
- **The gate.** `login_gate`.
-/

namespace SegmentSync.Client

open SegmentSync.Action (Maintains)

variable {ι α : Type} {link : ι} {target : Target} {c c' : Client ι} {w : Trace ι}

/-! ## Operations -/

/-- What can be asked of a client. -/
inductive Operation where
  | namespaceInfo (space : String)
  | setFreeze (space : String) (enabled : Bool)
  | exportSegment (start : Position)
  | importSegment (at_ : Position) (blob : Bytes)
  | fetchRecord (at_ : Position)
  | applySet (key value marker : Bytes)
  | applyDelete (key marker : Bytes)
  | jumpSegment
  | requestChallenge
  | submitDigest (digest : String)
  | selectNamespace (space : String) (password : Option String)
  | authenticate (password : String)
  | establish
  | reconnect

/-- An action whose value is of no interest. -/
def discarded (x : Action (Client ι) ι α) : Action (Client ι) ι Unit := do
  let _ ← x
  return

/-- What an operation does. -/
def Operation.act : Operation → Action (Client ι) ι Unit
  | .namespaceInfo space => discarded (Client.namespaceInfo space)
  | .setFreeze space enabled => discarded (Client.setFreeze space enabled)
  | .exportSegment start => discarded (Client.exportSegment start)
  | .importSegment at_ blob => discarded (Client.importSegment at_ blob)
  | .fetchRecord at_ => discarded (Client.fetchRecord at_)
  | .applySet key value marker => discarded (Client.applySet key value marker)
  | .applyDelete key marker => discarded (Client.applyDelete key marker)
  | .jumpSegment => discarded Client.jumpSegment
  | .requestChallenge => discarded Client.requestChallenge
  | .submitDigest digest => discarded (Client.submitDigest digest)
  | .selectNamespace space password => discarded (Client.selectNamespace space password)
  | .authenticate password => discarded (Client.authenticate password)
  | .establish => discarded Client.establish
  | .reconnect => discarded Client.reconnect

/-- The request of an operation that needs a login. -/
def Operation.request? : Operation → Option Request
  | .namespaceInfo space => some (.nsInfo space)
  | .setFreeze space enabled => some (.nsFreeze space enabled)
  | .exportSegment start => some (.dataExport start)
  | .importSegment at_ blob => some (.dataImport at_ blob)
  | .fetchRecord at_ => some (.dataRaw at_)
  | .applySet key value marker => some (.set key value marker)
  | .applyDelete key marker => some (.del key marker)
  | .jumpSegment => some .nsJump
  | .requestChallenge | .submitDigest _ | .selectNamespace _ _ | .authenticate _ | .establish | .reconnect => none

/-- Operations with what happened during each of them, the latest first. -/
abbrev Past (ι : Type) := List (Operation × Trace ι)

/-- A client that was new once, and what has been asked of it since. -/
inductive History (link : ι) (target : Target) : Past ι → Client ι → Prop where
  | new : History link target [] ⟨link, target, false⟩
  | next {past : Past ι} {op : Operation} {events : Trace ι} {result : Except SyncError Unit} {c c' : Client ι}
      (h : History link target past c) (hrun : op.act.Runs c events result c') :
    History link target ((op, events) :: past) c'

/-! ## Handshakes -/

/-- What was handed to the connection. -/
def contacts (events : Trace ι) : Trace ι := events.filter Event.isContact

/-- A complete login, with all that was handed to the connection, the latest first. -/
inductive Handshake (link : ι) (target : Target) : Operation → Trace ι → Prop where
  /-- The store hands out a challenge, accepts the digest of it and the password, and the selection of the
      namespace. -/
  | secure {op : Operation} {password challenge : String} {asked digested selected : Reply}
      (hop : op = .authenticate password ∨ op = .establish ∧ target.password = some password)
      (hchallenge : asked.asText = .ok challenge) (hdigest : digested.IsOkay) (hselection : selected.IsOkay) :
    Handshake link target op [.sent link (.select target.space (some password)) (.ok selected),
      .sent link (.authSecure (challengeDigest challenge password)) (.ok digested),
      .sent link .authChallenge (.ok asked)]
  /-- A target without a password has its namespace selected. -/
  | plain {selected : Reply} (hpassword : target.password = none) (hselection : selected.IsOkay) :
    Handshake link target .establish [.sent link (.select target.space none) (.ok selected)]

/-- There has been a complete login, and the connection has not been opened again since. -/
def LoggedIn (link : ι) (target : Target) (past : Past ι) : Prop :=
  ∃ later op events earlier, past = later ++ (op, events) :: earlier ∧
    Handshake link target op (contacts events) ∧ ∀ entry ∈ later, entry.1 ≠ .reconnect

theorem LoggedIn.cons {past : Past ι} {op : Operation} {events : Trace ι} (h : LoggedIn link target past)
    (hop : op ≠ .reconnect) : LoggedIn link target ((op, events) :: past) := by
  obtain ⟨later, login, handshake, earlier, rfl, hlogin, hlater⟩ := h
  refine ⟨(op, events) :: later, login, handshake, earlier, rfl, hlogin, ?_⟩
  intro entry hmem
  rcases List.mem_cons.mp hmem with rfl | hmem
  · exact hop
  · exact hlater entry hmem

/-! ## Logging in -/

/-- **What is granted was acknowledged**, right before. -/
theorem ensures_granted {request : Request} (hreader : Answer.reader request.command = Answer.readAck)
    (hopen : request.command.requiresAuth = false) :
    Action.Ensures recording (fun _ => True) (granted request)
      (fun accepted c' w' => c' = c ∧ (accepted = true →
        ∃ reply, w' = .sent c.link request (.ok reply) :: w ∧ reply.IsOkay))
      (fun _ c' _ => c' = c) c w := by
  refine ensures_granting hopen fun r w' hw' => ⟨trivial, ?_⟩
  subst hw'
  cases hgranting : granting request r with
  | error failure => exact rfl
  | ok accepted =>
    cases accepted with
    | false => exact fun _ _ _ => ⟨trivial, rfl, nofun⟩
    | true =>
      obtain ⟨reply, rfl, hokay⟩ := (granting_eq_true_iff hreader).mp hgranting
      exact ⟨rfl, fun _ => ⟨reply, rfl, hokay⟩⟩

/-- A client that counts as logged in after an operation did before, or the operation was a complete login. -/
def Justified (c : Client ι) (op : Operation) (c' : Client ι) (events : Trace ι) : Prop :=
  c'.authenticated = true → c.authenticated = true ∧ op ≠ .reconnect ∨ Handshake c.link c.target op (contacts events)

/-- **A handshake that ends well is complete.** -/
theorem ensures_authenticate (password : String) {op : Operation}
    (hop : op = .authenticate password ∨ op = .establish ∧ c.target.password = some password) :
    Action.Ensures recording (fun _ => True) (authenticate password)
      (fun _ c' events => c'.authenticated = true → Handshake c.link c.target op (contacts events))
      (fun _ c' _ => c'.authenticated = false) c [] := by
  unfold authenticate setAuthenticated
  rw [Action.ensures_bind, Action.ensures_modify, Action.ensures_bind, Action.ensures_attempt]
  unfold requestChallenge
  refine ensures_callFor (fun h => ?_) fun r w' hw' => ⟨trivial, ?_⟩
  · cases h
  subst hw'
  cases hreading : reading .authChallenge text? r with
  | error failure =>
    dsimp only
    split
    · rw [Action.ensures_bind]
      exact ensures_note fun _ _ _ => ⟨trivial, nofun⟩
    · rfl
    · contradiction
  | ok challenge =>
    obtain ⟨asked, rfl, hchallenge⟩ := reading_text rfl hreading
    dsimp only
    rw [Action.ensures_bind]
    refine (ensures_granted rfl rfl).mono ?_ fun _ _ _ h => h ▸ rfl
    rintro accepted _ w₁ ⟨rfl, haccepted⟩
    cases accepted with
    | false => exact (Action.ensures_bind _ _).mpr (ensures_note fun _ _ _ => ⟨trivial, nofun⟩)
    | true =>
      obtain ⟨digested, rfl, hdigest⟩ := haccepted rfl
      refine (Action.ensures_bind _ _).mpr ?_
      rw [Action.ensures_get]
      refine (Action.ensures_bind _ _).mpr ((ensures_granted rfl rfl).mono ?_ fun _ _ _ h => h ▸ rfl)
      rintro selected _ w₂ ⟨rfl, hselected⟩
      cases selected with
      | false => exact (Action.ensures_bind _ _).mpr (ensures_note fun _ _ _ => ⟨trivial, nofun⟩)
      | true =>
        obtain ⟨selected, rfl, hselection⟩ := hselected rfl
        refine (Action.ensures_bind _ _).mpr ((Action.ensures_modify _).mpr ?_)
        refine (Action.ensures_bind _ _).mpr (ensures_note fun line w₃ hw₃ => ⟨trivial, fun _ => ?_⟩)
        subst hw₃
        exact .secure hop hchallenge hdigest hselection

/-- **A login that ends well is complete**; one that never starts leaves an earlier one alone. -/
theorem ensures_establish :
    Action.Ensures recording (fun _ => True) establish (fun _ c' events => Justified c .establish c' events)
      (fun _ c' events => Justified c .establish c' events) c [] := by
  have hend : ∀ (accepted : Bool) (c' : Client ι) (w' : Trace ι), Justified c .establish c' w' →
      Action.Ensures recording (fun _ => True)
        (if !accepted then throw (.auth (.refused c.target)) else pure () : Action (Client ι) ι Unit)
        (fun _ c' events => Justified c .establish c' events) (fun _ c' events => Justified c .establish c' events)
        c' w' := by
    intro accepted c' w' hjustified
    cases accepted <;> exact hjustified
  unfold establish
  rw [Action.ensures_bind, Action.ensures_get]
  dsimp only
  cases hpassword : c.target.password with
  | some password =>
    refine (Action.ensures_bind _ _).mpr ((ensures_authenticate password (.inr ⟨rfl, hpassword⟩)).mono ?_ ?_)
    · exact fun accepted c' w' h => hend accepted c' w' fun hlogin => .inr (h hlogin)
    · intro _ c' w' h hlogin
      rw [h] at hlogin
      cases hlogin
  | none =>
    refine (Action.ensures_bind _ _).mpr ((ensures_granted rfl rfl).mono ?_ ?_)
    · rintro selected _ w' ⟨rfl, hselected⟩
      refine (Action.ensures_bind _ _).mpr ((Action.ensures_modify _).mpr ?_)
      refine hend selected _ w' fun hlogin => .inr ?_
      obtain ⟨reply, rfl, hselection⟩ := hselected hlogin
      exact .plain hpassword hselection
    · rintro _ _ w' rfl
      exact fun hlogin => .inl ⟨hlogin, nofun⟩

/-! ## Operations that need no login -/

/-- No command that needs a login has been handed to a connection. -/
def Ungated (events : Trace ι) : Prop :=
  ∀ link request r, Event.sent link request r ∈ events → request.command.requiresAuth = false

theorem Ungated.nil : Ungated ([] : Trace ι) :=
  fun _ _ _ h => absurd h List.not_mem_nil

theorem Ungated.cons {events : Trace ι} (h : Ungated events) {event : Event ι}
    (hevent : ∀ link request r, event = .sent link request r → request.command.requiresAuth = false) :
    Ungated (event :: events) := by
  intro link request r hmem
  rcases List.mem_cons.mp hmem with heq | hmem
  · exact hevent link request r heq.symm
  · exact h link request r hmem

/-- The client is the same but for its login, and has sent nothing that needs one. -/
def Same (c c' : Client ι) (events : Trace ι) : Prop :=
  c'.link = c.link ∧ c'.target = c.target ∧ Ungated events

theorem undisturbed_same : Undisturbed recording Ungated (Same c) where
  authenticated := fun _ _ _ h => h
  effect := fun _ w effect answer w' h hasks hw' => by
    have hungated : Ungated (⟨effect, answer⟩ :: w) := by
      refine h.2.2.cons fun link request r heq => ?_
      cases hasks with
      | request hlogin =>
        cases heq
        cases hlogin <;> rfl
      | reopen | log _ _ => cases heq
    subst hw'
    exact ⟨hungated, h.1, h.2.1, hungated⟩

/-- Every request that needs no login may be sent. -/
theorem keeps_sending {request : Request} (hopen : request.command.requiresAuth = false) :
    Keeps recording Ungated (fun c' events => c' = c ∧ Ungated events) (sending request) := by
  intro c' w answer w' h hw'
  have hungated : Ungated (⟨sending request c', answer⟩ :: w) := by
    refine h.2.cons fun link request' r heq => ?_
    cases heq
    exact hopen
  subst hw'
  exact ⟨hungated, h.1, hungated⟩

theorem keeps_logging (level : Level) (line : String) :
    Keeps recording Ungated (fun c' events => c' = c ∧ Ungated events) fun _ => .log level line := by
  intro c' w answer w' h hw'
  have hungated : Ungated (⟨.log level line, answer⟩ :: w) := by
    refine h.2.cons fun link request r heq => ?_
    cases heq
  subst hw'
  exact ⟨hungated, h.1, hungated⟩

/-- What leaves the client alone leaves its login alone. -/
theorem ensures_alone {x : Action (Client ι) ι α} {may : SyncError → Prop} {op : Operation} (hop : op ≠ .reconnect)
    (hx : Maintains recording Ungated (fun c' events => c' = c ∧ Ungated events) may x) :
    Action.Ensures recording Ungated (discarded x) (fun _ c' events => Same c c' events ∧ Justified c op c' events)
      (fun _ c' events => Same c c' events ∧ Justified c op c' events) c [] := by
  have hsame : ∀ c' events, c' = c ∧ Ungated events → Same c c' events ∧ Justified c op c' events := by
    rintro _ events ⟨rfl, h⟩
    exact ⟨⟨rfl, rfl, h⟩, fun hlogin => .inl ⟨hlogin, hop⟩⟩
  refine (Action.ensures_bind _ _).mpr ((hx c [] ⟨rfl, .nil⟩).mono ?_ ?_)
  · exact fun _ c' events h => hsame c' events h
  · exact fun _ c' events h => hsame c' events h.1

/-- What keeps the client the same but for its login, and justifies that. -/
theorem ensures_same {x : Action (Client ι) ι α} {op : Operation}
    (hx : LogsIn recording Ungated (Same c) c.target.space x)
    (hlogin : Action.Ensures recording (fun _ => True) x (fun _ => Justified c op) (fun _ => Justified c op) c []) :
    Action.Ensures recording Ungated (discarded x) (fun _ c' events => Same c c' events ∧ Justified c op c' events)
      (fun _ c' events => Same c c' events ∧ Justified c op c' events) c [] := by
  have hstart : Same c c [] := ⟨rfl, rfl, .nil⟩
  refine (Action.ensures_bind _ _).mpr (((hx c [] ⟨hstart, rfl⟩).and hlogin).mono ?_ ?_)
  · exact fun _ _ _ h => ⟨h.1.1, h.2⟩
  · exact fun _ _ _ h => ⟨h.1.1.1, h.2⟩

/-- **Operations that need no login** send nothing that needs one, and a login that they end with is complete. -/
theorem Operation.ensures_open {op : Operation} (hop : op.request? = none) :
    Action.Ensures recording Ungated op.act
      (fun _ c' events => Same c c' events ∧ Justified c op c' events)
      (fun _ c' events => Same c c' events ∧ Justified c op c' events) c [] := by
  cases op with
  | requestChallenge =>
    refine ensures_alone nofun (Maintains.bind (maintains_call (keeps_sending rfl)) fun answer => ?_)
    split
    · exact .pure _
    · exact .throw (.protocol _)
  | submitDigest digest => exact ensures_alone nofun (maintains_granted (keeps_sending rfl) keeps_logging)
  | selectNamespace space password => exact ensures_alone nofun (maintains_granted (keeps_sending rfl) keeps_logging)
  | authenticate password =>
    refine ensures_same (logsIn_authenticate undisturbed_same password) ?_
    refine (ensures_authenticate password (.inl rfl)).mono ?_ ?_
    · exact fun _ c' events h hlogin => .inr (h hlogin)
    · intro _ c' events h hlogin
      rw [h] at hlogin
      cases hlogin
  | establish => exact ensures_same (logsIn_establish undisturbed_same) ensures_establish
  | reconnect =>
    refine ensures_same (logsIn_reconnect undisturbed_same) ?_
    unfold Client.reconnect setAuthenticated
    rw [Action.ensures_bind, Action.ensures_modify, Action.ensures_bind, Action.ensures_get, Action.ensures_bind]
    intro r _ _
    refine ⟨trivial, (Action.ensures_ofRequest _).mpr ?_⟩
    cases r <;> exact nofun
  | _ => cases hop

/-! ## Operations that need a login -/

/-- Nothing has been handed to a connection. -/
def Untouched (events : Trace ι) : Prop := ∀ event ∈ events, event.isContact = false

theorem Operation.requiresAuth {op : Operation} {request : Request} (hop : op.request? = some request) :
    request.command.requiresAuth = true := by
  cases op <;> cases hop <;> rfl

theorem ensures_held {request : Request} {shape : Answer → Option α} {safe : Trace ι → Prop}
    {post : α → Client ι → Trace ι → Prop} {fail : SyncError → Client ι → Trace ι → Prop}
    (h : c.holdsBack request = true) (hfail : fail (c.heldBack request) c w) :
    Action.Ensures recording safe (callFor request shape) post fail c w := by
  unfold holdsBack at h
  unfold callFor call
  rw [Action.ensures_bind, Action.ensures_bind, Action.ensures_get]
  dsimp only
  rw [if_pos h]
  exact hfail

/-- **Operations that need a login** are held back without one. -/
theorem Operation.ensures_request {op : Operation} {request : Request} (hop : op.request? = some request) :
    Action.Ensures recording (fun events => c.authenticated = true ∨ Untouched events) op.act
      (fun _ c' _ => c' = c ∧ c.authenticated = true)
      (fun failure c' _ => c' = c ∧ (c.authenticated = true ∨ failure = c.heldBack request)) c [] := by
  have hrequires := op.requiresAuth hop
  have hcall : ∀ {β : Type} (shape : Answer → Option β) (w : Trace ι),
      Action.Ensures recording (fun events => c.authenticated = true ∨ Untouched events) (callFor request shape)
        (fun _ c' _ => c' = c ∧ c.authenticated = true)
        (fun failure c' _ => c' = c ∧ (c.authenticated = true ∨ failure = c.heldBack request)) c w := by
    intro β shape w
    cases hlogin : c.authenticated with
    | true =>
      refine ensures_callFor (fun _ => ⟨rfl, .inl rfl⟩) fun r _ _ => ⟨.inl rfl, ?_⟩
      cases reading request shape r with
      | ok value => exact ⟨rfl, rfl⟩
      | error failure => exact ⟨rfl, .inl rfl⟩
    | false =>
      have hheld : c.holdsBack request = true := by rw [holdsBack, hrequires, hlogin]; rfl
      exact ensures_held hheld ⟨rfl, .inr rfl⟩
  have hdone : ∀ {β : Type} (shape : Answer → Option β),
      Action.Ensures recording (fun events => c.authenticated = true ∨ Untouched events)
        (discarded (callFor request shape)) (fun _ c' _ => c' = c ∧ c.authenticated = true)
        (fun failure c' _ => c' = c ∧ (c.authenticated = true ∨ failure = c.heldBack request)) c [] :=
    fun shape => (Action.ensures_bind _ _).mpr (hcall shape [])
  -- Some operations write a line to the log first.
  have hnoted : ∀ level line, Action.Ensures recording (fun events => c.authenticated = true ∨ Untouched events)
      (discarded (do note level line; callFor request ack?)) (fun _ c' _ => c' = c ∧ c.authenticated = true)
      (fun failure c' _ => c' = c ∧ (c.authenticated = true ∨ failure = c.heldBack request)) c [] := by
    intro level line
    refine (Action.ensures_bind _ _).mpr ((Action.ensures_bind _ _).mpr (ensures_note fun line w hw => ?_))
    subst hw
    refine ⟨.inr fun event hmem => ?_, hcall ack? _⟩
    rw [List.mem_singleton.mp hmem]
    rfl
  cases op with
  | setFreeze space enabled => cases hop; exact hnoted _ _
  | jumpSegment => cases hop; exact hnoted _ _
  | requestChallenge | submitDigest _ | selectNamespace _ _ | authenticate _ | establish | reconnect => cases hop
  | _ => cases hop; exact hdone _

/-! ## The gate -/

/-- Between operations a client has its link and its target, and counts as logged in only after a login. -/
theorem History.loggedIn {past : Past ι} (h : History link target past c) :
    c.link = link ∧ c.target = target ∧ (c.authenticated = true → LoggedIn link target past) := by
  induction h with
  | new => exact ⟨rfl, rfl, nofun⟩
  | @next past op events result c c' _ hrun ih =>
    obtain ⟨rfl, rfl, hpast⟩ := ih
    cases hop : op.request? with
    | none =>
      have hend : Same c c' events ∧ Justified c op c' events := by
        have hensured := (hrun.ensured Ungated.nil (op.ensures_open hop)).2
        cases result <;> exact hensured
      obtain ⟨⟨hlink, htarget, -⟩, hlogin⟩ := hend
      refine ⟨hlink, htarget, fun hc' => ?_⟩
      rcases hlogin hc' with ⟨hc, hne⟩ | hhandshake
      · exact (hpast hc).cons hne
      · exact ⟨[], op, events, past, rfl, hhandshake, List.forall_mem_nil _⟩
    | some request =>
      have hend : c' = c := by
        have hensured := (hrun.ensured (.inr (List.forall_mem_nil _)) (op.ensures_request hop)).2
        cases result <;> exact hensured.1
      subst hend
      refine ⟨rfl, rfl, fun hc => (hpast hc).cons ?_⟩
      rintro rfl
      cases hop

/-- **Nothing gets through without a login.** Whatever has been asked of a client since it was new: at any point of the
    next operation, a command that needs a login has been handed to the connection only if there has been a complete
    login, since which the connection has not been opened again. If there has been none, an operation that needs one
    ends, fails with that, changes nothing and has handed nothing to the connection. -/
theorem login_gate {past : Past ι} (h : History link target past c) (op : Operation) :
    (∀ q events, (op.act c).Reaches recording [] q events → ∀ link' request r,
      Event.sent link' request r ∈ events → request.command.requiresAuth = true → LoggedIn link target past) ∧
    (¬ LoggedIn link target past → ∀ request, op.request? = some request →
      (∃ events result c', op.act.Runs c events result c') ∧
      (∀ q events, (op.act c).Reaches recording [] q events → contacts events = []) ∧
      ∀ events result c', op.act.Runs c events result c' →
        result = .error (.auth (.heldBack request.command target)) ∧ c' = c) := by
  obtain ⟨rfl, rfl, hpast⟩ := h.loggedIn
  constructor
  · intro q events hrun link' request r hsent hrequires
    cases hop : op.request? with
    | none =>
      have hungated := ((op.ensures_open hop).reaches Ungated.nil hrun).1
      rw [hungated link' request r hsent] at hrequires
      cases hrequires
    | some request' =>
      rcases ((op.ensures_request hop).reaches (.inr (List.forall_mem_nil _)) hrun).1 with hlogin | huntouched
      · exact hpast hlogin
      · have hcontact := huntouched _ hsent
        cases hcontact
  · intro hnone request hop
    have hlogin : ¬ c.authenticated = true := fun hlogin => hnone (hpast hlogin)
    refine ⟨Action.exists_runs _ _, fun q events hrun => ?_, fun events result c' hrun => ?_⟩
    · have huntouched := ((op.ensures_request hop).reaches (.inr (List.forall_mem_nil _)) hrun).1.resolve_left hlogin
      exact List.filter_eq_nil_iff.mpr fun event hmem => by rw [huntouched event hmem]; exact nofun
    · have hend := (hrun.ensured (.inr (List.forall_mem_nil _)) (op.ensures_request hop)).2
      cases result with
      | ok _ => exact absurd hend.2 hlogin
      | error failure => exact ⟨congrArg _ (hend.2.resolve_left hlogin), hend.1⟩

/-- A new client gets nothing through, and one that has logged in with its password does. -/
theorem login_gate_of_secret :
    ∃ (target : Target) (events : Trace Unit) (client : Client Unit),
      History () target [] ⟨(), target, false⟩ ∧
      (∀ q trace,
        (Operation.act (.namespaceInfo "data") (⟨(), target, false⟩ : Client Unit)).Reaches recording [] q trace →
          contacts trace = []) ∧
      History () target [(.establish, events)] client ∧
      (∃ q trace r, (Operation.act (.namespaceInfo "data") client).Reaches recording [] q trace ∧
        Event.sent () (.nsInfo "data") r ∈ trace) ∧
      LoggedIn () target [(.establish, events)] := by
  let target : Target := ⟨.tcp "master" 9900, "data", some "secret", "master"⟩
  let events : Trace Unit := [⟨.log .info (target.label ++ ": " ++ ("authenticated on namespace " ++ "data")), ()⟩,
    .sent () (.select "data" (some "secret")) (.ok .okay),
    .sent () (.authSecure (challengeDigest "a1b2" "secret")) (.ok .okay),
    .sent () .authChallenge (.ok (.simple "a1b2"))]
  have hrun : Operation.establish.act.Runs (⟨(), target, false⟩ : Client Unit) events (.ok ()) ⟨(), target, true⟩ :=
    .answered (.ok (.simple "a1b2")) (.answered (.ok .okay) (.answered (.ok .okay) (.answered () (.refl _ _))))
  have hpast : History () target [(.establish, events)] ⟨(), target, true⟩ := .next .new hrun
  have hsent : (Operation.act (.namespaceInfo "data") (⟨(), target, true⟩ : Client Unit)).Reaches recording []
      (.done (.error (.protocol .eof), ⟨(), target, true⟩)) [.sent () (.nsInfo "data") (.error .eof)] :=
    .answered (.error .eof) (.refl _ _)
  have hnone : ¬ LoggedIn () target ([] : Past Unit) := by
    rintro ⟨later, op, events, earlier, heq, -⟩
    exact absurd heq (by simp)
  refine ⟨target, events, ⟨(), target, true⟩, .new, ?_, hpast, ⟨_, _, _, hsent, List.mem_cons_self⟩, ?_⟩
  · exact ((login_gate .new (.namespaceInfo "data")).2 hnone (.nsInfo "data") rfl).2.1
  · exact (login_gate hpast (.namespaceInfo "data")).1 _ _ hsent () _ _ List.mem_cons_self rfl

end SegmentSync.Client
