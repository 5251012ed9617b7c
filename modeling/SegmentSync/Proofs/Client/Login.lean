import SegmentSync.Proofs.Client.Calls

/-!
# `SegmentSync.Proofs.Client.Login` — what logging in leaves alone

Connecting and logging in change whether a client counts as logged in, and ask for few effects. Whatever does
not depend on the one and is not touched by the others holds all the way through (`maintains_establish`,
`maintains_connect`).
-/

namespace SegmentSync.Client

variable {ι α ω : Type}

/-! ## Effects -/

/-- The requests of a login to that namespace. -/
inductive IsLogin (space : String) : Request → Prop where
  | challenge : IsLogin space .authChallenge
  | digest (digest : String) : IsLogin space (.authSecure digest)
  | selection (password : Option String) : IsLogin space (.select space password)

/-- The effects that a client asks for while it connects and logs in. -/
inductive AsksToConnect (client : Client ι) : Effect ι → Prop where
  | request {request : Request} (h : IsLogin client.target.space request) :
    AsksToConnect client (.execute client.link request)
  | reopen : AsksToConnect client (.reopen client.link)
  | log (level : Level) (line : String) : AsksToConnect client (.log level line)

/-- The failures of a login. -/
inductive LoginFailure : SyncError → Prop where
  | protocol (failure : ProtocolError) : LoginFailure (.protocol failure)
  | auth (fault : AuthFault) : LoginFailure (.auth fault)

/-- An invariant that does not depend on whether the client counts as logged in, and that none of the effects
    of a login breaks. -/
structure Undisturbed (env : Environment ι ω) (safe : ω → Prop) (inv : Client ι → ω → Prop) : Prop where
  authenticated : ∀ c w b, inv c w → inv { c with authenticated := b } w
  effect : ∀ c w effect answer w', inv c w → AsksToConnect c effect → env w effect answer w' →
    safe w' ∧ inv c w'

variable {env : Environment ι ω} {safe : ω → Prop} {inv : Client ι → ω → Prop}

/-! ## Requests -/

/-- An effect keeps an invariant. -/
def Keeps (env : Environment ι ω) (safe : ω → Prop) (inv : Client ι → ω → Prop)
    (effect : Client ι → Effect ι) : Prop :=
  ∀ c w answer w', inv c w → env w (effect c) answer w' → safe w' ∧ inv c w'

/-- The client sends a request over its link. -/
abbrev sending (request : Request) (client : Client ι) : Effect ι := .execute client.link request

theorem maintains_call {request : Request} (hsend : Keeps env safe inv (sending request)) :
    Action.Maintains env safe inv LoginFailure (call request) := by
  intro c w hinv
  refine ensures_call (fun _ => ⟨hinv, .auth _⟩) fun r w' henv => ?_
  obtain ⟨hsafe, hinv'⟩ := hsend c w r w' hinv henv
  refine ⟨hsafe, ?_⟩
  cases r.bind (Answer.ofReply request.command) with
  | error failure => exact ⟨hinv', .protocol _⟩
  | ok answer => exact hinv'

theorem maintains_note (hlog : ∀ level line, Keeps env safe inv fun _ => .log level line) (level : Level)
    (line : String) : Action.Maintains env safe inv LoginFailure (note level line) :=
  fun c w hinv => ensures_note fun line w' henv => hlog level line c w () w' hinv henv

theorem maintains_granted {request : Request} (hsend : Keeps env safe inv (sending request))
    (hlog : ∀ level line, Keeps env safe inv fun _ => .log level line) :
    Action.Maintains env safe inv LoginFailure (granted request) := by
  have hrefused : ∀ reason : String, Action.Maintains env safe inv LoginFailure (do
      note .debug (request.command.name ++ " rejected: " ++ reason); return false) :=
    fun reason => (maintains_note hlog _ _).bind fun _ => .pure _
  refine (maintains_call hsend).bind_attempt fun r hr => ?_
  split
  · exact .pure _
  · exact hrefused _
  · exact hrefused _
  · exact hrefused _
  · exact .throw (hr _ rfl)

/-! ## The handshake -/

/-- An action keeps what logins keep, for a client of that namespace. -/
abbrev LogsIn (env : Environment ι ω) (safe : ω → Prop) (inv : Client ι → ω → Prop) (space : String)
    (x : Action (Client ι) ι α) : Prop :=
  Action.Maintains env safe (fun c w => inv c w ∧ c.target.space = space) LoginFailure x

variable {space : String}

theorem Undisturbed.sending (h : Undisturbed env safe inv) {request : Request} (hlogin : IsLogin space request) :
    Keeps env safe (fun c w => inv c w ∧ c.target.space = space) (sending request) := by
  intro c w answer w' hinv henv
  obtain ⟨hsafe, hinv'⟩ := h.effect c w _ answer w' hinv.1 (.request (hinv.2 ▸ hlogin)) henv
  exact ⟨hsafe, hinv', hinv.2⟩

theorem Undisturbed.logging (h : Undisturbed env safe inv) (level : Level) (line : String) :
    Keeps env safe (fun c w => inv c w ∧ c.target.space = space) fun _ => .log level line := by
  intro c w answer w' hinv henv
  obtain ⟨hsafe, hinv'⟩ := h.effect c w _ answer w' hinv.1 (.log level line) henv
  exact ⟨hsafe, hinv', hinv.2⟩

theorem logsIn_call (h : Undisturbed env safe inv) {request : Request} (hlogin : IsLogin space request) :
    LogsIn env safe inv space (call request) :=
  maintains_call (h.sending hlogin)

theorem logsIn_callFor (h : Undisturbed env safe inv) {request : Request} (hlogin : IsLogin space request)
    (shape : Answer → Option α) : LogsIn env safe inv space (callFor request shape) := by
  refine (logsIn_call h hlogin).bind fun answer => ?_
  split
  · exact .pure _
  · exact .throw (.protocol _)

theorem logsIn_note (h : Undisturbed env safe inv) (level : Level) (line : String) :
    LogsIn env safe inv space (note level line) :=
  maintains_note h.logging level line

theorem logsIn_setAuthenticated (h : Undisturbed env safe inv) (authenticated : Bool) :
    LogsIn env safe inv space (setAuthenticated authenticated) :=
  .modify fun c w hinv => ⟨h.authenticated c w _ hinv.1, hinv.2⟩

theorem logsIn_granted (h : Undisturbed env safe inv) {request : Request} (hlogin : IsLogin space request) :
    LogsIn env safe inv space (granted request) :=
  maintains_granted (h.sending hlogin) h.logging

theorem logsIn_authenticate (h : Undisturbed env safe inv) (password : String) :
    LogsIn env safe inv space (authenticate password) := by
  refine (logsIn_setAuthenticated h _).bind fun _ => ?_
  refine (logsIn_callFor h .challenge _).bind_attempt fun r hr => ?_
  split
  · exact (logsIn_note h _ _).bind fun _ => .pure _
  · exact .throw (hr _ rfl)
  · refine (logsIn_granted h (.digest _)).bind fun accepted => ?_
    split
    · exact (logsIn_note h _ _).bind fun _ => .pure _
    · refine .bind_get fun c w hinv => ?_
      refine (logsIn_granted h (hinv.2 ▸ .selection _)).bind fun selected => ?_
      split
      · exact (logsIn_note h _ _).bind fun _ => .pure _
      · exact (logsIn_setAuthenticated h _).bind fun _ => (logsIn_note h _ _).bind fun _ => .pure _

theorem logsIn_establish (h : Undisturbed env safe inv) : LogsIn env safe inv space establish := by
  refine .bind_get fun c w hinv => ?_
  have hend : ∀ accepted : Bool, LogsIn env safe inv space
      (if !accepted then throw (.auth (.refused c.target)) else pure ()) := by
    intro accepted
    split
    · exact .throw (.auth _)
    · exact .pure _
  dsimp only
  split
  · exact (logsIn_authenticate h _).bind hend
  · exact (logsIn_granted h (hinv.2 ▸ .selection _)).bind fun selected =>
      (logsIn_setAuthenticated h _).bind fun _ => hend selected

/-! ## Connections -/

theorem logsIn_reconnect (h : Undisturbed env safe inv) : LogsIn env safe inv space reconnect := by
  refine (logsIn_setAuthenticated h _).bind fun _ => ?_
  intro c w hinv
  rw [Action.ensures_bind, Action.ensures_get, Action.ensures_bind]
  intro r w' henv
  obtain ⟨hsafe, hinv'⟩ := h.effect c w _ r w' hinv.1 .reopen henv
  refine ⟨hsafe, ?_⟩
  cases r with
  | error failure => exact ⟨⟨hinv', hinv.2⟩, .protocol _⟩
  | ok value => exact ⟨hinv', hinv.2⟩

/-- What holds of a client of any namespace holds of the client. -/
theorem LogsIn.maintains {x : Action (Client ι) ι α} (hx : ∀ space, LogsIn env safe inv space x) :
    Action.Maintains env safe inv LoginFailure x := by
  intro c w hinv
  refine (hx c.target.space c w ⟨hinv, rfl⟩).mono ?_ ?_
  · exact fun _ _ _ h' => h'.1
  · exact fun _ _ _ h' => ⟨h'.1.1, h'.2⟩

/-- **What neither depends on logins nor is broken by their effects holds all the way through a login**, -/
theorem maintains_establish (h : Undisturbed env safe inv) : Action.Maintains env safe inv LoginFailure establish :=
  LogsIn.maintains fun _ => logsIn_establish h

/-- **and through a connect.** -/
theorem maintains_connect (h : Undisturbed env safe inv) : Action.Maintains env safe inv LoginFailure connect :=
  LogsIn.maintains fun _ => (logsIn_reconnect h).bind fun _ => logsIn_establish h

end SegmentSync.Client
