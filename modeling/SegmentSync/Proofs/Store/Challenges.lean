import SegmentSync.Proofs.Store.Edits

/-!
# `SegmentSync.Proofs.Store.Challenges` — challenges, and what becomes of them

A connection has one challenge at a time at most, which the store has handed out over it. An answer uses it up, whether
it is accepted or not, and so does a fresh connection. No other request has anything to do with logins.

## Contents
- **Bystanders.** `Serve.Apart`: readings of a store that only a login has to do with, and `Serve.Apart.dispatch`, by
  which all other commands leave them as they are.
- **Logins.** `Serve.LogsIn` is what a request does to the login, and `Serve.logsIn` says so of each request.
- **Without a challenge.** `Serve.Unchallenged`: what has been going on without a new challenge. What is sent as an
  answer then is refused.
-/

namespace SegmentSync

/-- The challenge that the store hands out next. -/
def Store.nextChallenge (store : Store) : String := Serve.challengeText (store.challenges + 1)

/-- The challenge of the connection, whether it is logged in, and how many challenges there have been. -/
def Serving.login (s : Serving) : Option String × Bool × UInt64 :=
  (s.connection.challenge, s.connection.admin, s.store.challenges)

namespace Serve

variable {α β γ : Type} {request : Request} {s s' t : Serving} {r : Except ProtocolError Reply}

/-! ## Bystanders -/

/-- A part of the service that leaves the login of its connection as it is. -/
def SparesLogin (x : Serve α) : Prop := ∀ s, (x.on s).2.login = s.login

/-- What a reading of a store and its connection is, if neither a change of a namespace nor a marker nor a selection has
    anything to do with it. -/
structure Apart (view : Serving → γ) : Prop where
  namespaces : ∀ (s : Serving) namespaces, view { s with store := { s.store with namespaces } } = view s
  markers : ∀ (s : Serving) markers, view { s with store := { s.store with markers } } = view s
  selected : ∀ (s : Serving) selected, view { s with connection := { s.connection with selected } } = view s

theorem apart_login : Apart Serving.login := ⟨fun _ _ => rfl, fun _ _ => rfl, fun _ _ => rfl⟩

/-- A part of the service that leaves such a reading as it is. -/
def Spares (view : Serving → γ) (x : Serve α) : Prop := ∀ s, view (x.on s).2 = view s

variable {view : Serving → γ}

theorem Idle.spares {x : Serve α} (h : Idle x) : Spares view x := fun s => congrArg view (h s)

theorem spares_refuse (reason : String) : Spares view (refuse reason : Serve α) := fun _ => rfl

theorem Spares.bind {x : Serve α} {f : α → Serve β} (hx : Spares view x) (hf : ∀ a, Spares view (f a)) :
    Spares view (x >>= f) := by
  intro s
  have hview := hx s
  rw [on_bind]
  rcases hcase : x.on s with ⟨_ | a, s'⟩
  · rw [hcase] at hview
    exact hview
  · rw [hcase] at hview
    exact (hf a s').trans hview

namespace Apart

variable (h : Apart view)
include h

theorem putNamespace (name : String) (ns : Namespace) : Spares view (putNamespace name ns) :=
  fun s => h.namespaces s _

theorem nextMarker : Spares view nextMarker := fun s => h.markers s _

/-- A namespace is changed, and that is acknowledged. -/
theorem put (name : String) (ns : Namespace) (reply : Reply) :
    Spares view (do Serve.putNamespace name ns; return reply) :=
  (h.putNamespace name ns).bind fun _ => (idle_pure reply).spares

/-! ### Commands -/

theorem serveSelect (arguments : List Bytes) : Spares view (serveSelect arguments) := by
  refine (idle_namespaceOf _).spares.bind fun ns s => ?_
  dsimp only
  split
  · rfl
  · exact h.selected s _

theorem serveFreeze (arguments : List Bytes) : Spares view (serveFreeze arguments) :=
  (idle_namespaceOf _).spares.bind fun _ => h.put _ _ _

theorem serveJump : Spares view serveJump := idle_selectedNamespace.spares.bind fun _ => h.put _ _ _

theorem serveImport (arguments : List Bytes) : Spares view (serveImport arguments) := by
  refine (idle_cursorArgument arguments).spares.bind fun at_ => ?_
  refine idle_selectedNamespace.spares.bind fun (name, ns) => ?_
  dsimp only
  split
  · exact spares_refuse _
  · split
    · exact spares_refuse _
    · exact h.put _ _ _

theorem serveSet (arguments : List Bytes) (fault : Option Fault) : Spares view (serveSet arguments fault) := by
  refine h.nextMarker.bind fun marker => idle_selectedNamespace.spares.bind fun (name, ns) => ?_
  dsimp only
  split
  · exact spares_refuse _
  · refine (h.putNamespace _ _).bind fun _ => ?_
    split <;> exact (idle_pure _).spares

theorem serveDelete (arguments : List Bytes) : Spares view (serveDelete arguments) := by
  refine h.nextMarker.bind fun marker => idle_selectedNamespace.spares.bind fun (name, ns) => ?_
  dsimp only
  split
  · exact spares_refuse _
  · split
    · exact spares_refuse _
    · exact h.put _ _ _

/-- **No other command than those of the login has anything to do with such a reading.** -/
theorem dispatch (hchallenge : request.command ≠ .authChallenge) (hsecure : request.command ≠ .authSecure)
    (fault : Option Fault) : Spares view (dispatch request fault) := by
  unfold Serve.dispatch
  cases hcommand : request.command with
  | authChallenge => exact absurd hcommand hchallenge
  | authSecure => exact absurd hcommand hsecure
  | select => exact h.serveSelect _
  | nsInfo => exact (idle_serveInfo _).spares
  | nsSet => exact h.serveFreeze _
  | nsJump => exact h.serveJump
  | dataExport => exact (idle_serveExport _).spares
  | dataImport => exact h.serveImport _
  | dataRaw => exact (idle_serveRecord _).spares
  | set => exact h.serveSet _ fault
  | del => exact h.serveDelete _

end Apart

/-! ## Logins -/

/-- What a request does to the login of its connection, by what came of it. -/
inductive LogsIn (request : Request) (s : Serving) : Except ProtocolError Reply → Serving → Prop where
  | spared {r : Except ProtocolError Reply} {s' : Serving} (hlogin : s'.login = s.login)
      (hrefused : request.command = .authChallenge ∨ request.command = .authSecure → Refused r) : LogsIn request s r s'
  /-- A challenge has been handed out. -/
  | challenged {s' : Serving} {secret : String} (hcommand : request.command = .authChallenge)
      (hsecret : s.store.admin = some secret)
      (hlogin : s'.login = (some s.store.nextChallenge, s.connection.admin, s.store.challenges + 1)) :
      LogsIn request s (.ok (.simple s.store.nextChallenge)) s'
  /-- The challenge has been answered as it should. -/
  | accepted {s' : Serving} {secret challenge : String} (hcommand : request.command = .authSecure)
      (hsecret : s.store.admin = some secret) (hchallenge : s.connection.challenge = some challenge)
      (hdigest : textArgument request.arguments 0 = challengeDigest challenge secret)
      (hlogin : s'.login = (none, true, s.store.challenges)) : LogsIn request s (.ok .okay) s'
  /-- The challenge has been answered in another way. -/
  | denied {s' : Serving} {secret challenge : String} (hcommand : request.command = .authSecure)
      (hsecret : s.store.admin = some secret) (hchallenge : s.connection.challenge = some challenge)
      (hdigest : textArgument request.arguments 0 ≠ challengeDigest challenge secret)
      (hlogin : s'.login = (none, s.connection.admin, s.store.challenges)) :
      LogsIn request s (.error (.server "Access denied")) s'

theorem LogsIn.of_spares {x : Serve Reply} (h : SparesLogin x) (hchallenge : request.command ≠ .authChallenge)
    (hsecure : request.command ≠ .authSecure) (s : Serving) : LogsIn request s (x.on s).1 (x.on s).2 :=
  .spared (h s) fun hcommand => absurd hcommand (by rintro (h | h) <;> contradiction)

theorem LogsIn.of_refused (reason : String) (s : Serving) : LogsIn request s (.error (.server reason)) s :=
  .spared rfl fun _ => refused_server reason

theorem logsIn_serveChallenge (hcommand : request.command = .authChallenge) (s : Serving) :
    LogsIn request s (serveChallenge.on s).1 (serveChallenge.on s).2 := by
  cases hsecret : s.store.admin with
  | none =>
    rw [on_serveChallenge_of_none hsecret]
    exact .of_refused _ s
  | some secret =>
    rw [on_serveChallenge hsecret]
    exact .challenged hcommand hsecret rfl

theorem logsIn_serveLogin (hcommand : request.command = .authSecure) (s : Serving) :
    LogsIn request s ((serveLogin request.arguments).on s).1 ((serveLogin request.arguments).on s).2 := by
  unfold serveLogin
  cases hsecret : s.store.admin with
  | none =>
    simp only [on_bind, on_adminPassword_of_none hsecret]
    exact .of_refused _ s
  | some secret =>
    simp only [on_bind, on_adminPassword hsecret, on_get]
    cases hchallenge : s.connection.challenge with
    | none => exact .of_refused _ s
    | some challenge =>
      dsimp only
      split
      · exact .accepted hcommand hsecret hchallenge ‹_› rfl
      · exact .denied hcommand hsecret hchallenge ‹_› rfl

theorem logsIn_dispatch (request : Request) (fault : Option Fault) (s : Serving) :
    LogsIn request s ((dispatch request fault).on s).1 ((dispatch request fault).on s).2 := by
  by_cases hchallenge : request.command = .authChallenge
  · unfold dispatch
    rw [hchallenge]
    exact logsIn_serveChallenge hchallenge s
  by_cases hsecure : request.command = .authSecure
  · unfold dispatch
    rw [hsecure]
    exact logsIn_serveLogin hsecure s
  have hspared : SparesLogin (dispatch request fault) := apart_login.dispatch hchallenge hsecure fault
  exact .of_spares hspared hchallenge hsecure s

namespace LogsIn

/-- The log of commands and the faults to come have nothing to do with logins. -/
theorem of_received {faults : List (Command × Fault)} {log : List Command}
    (h : LogsIn request ⟨{ s.store with faults, log }, s.connection⟩ r s') : LogsIn request s r s' := by
  cases h with
  | spared hlogin hrefused => exact .spared hlogin hrefused
  | challenged hcommand hsecret hlogin => exact .challenged hcommand hsecret hlogin
  | accepted hcommand hsecret hchallenge hdigest hlogin =>
    exact .accepted hcommand hsecret hchallenge hdigest hlogin
  | denied hcommand hsecret hchallenge hdigest hlogin => exact .denied hcommand hsecret hchallenge hdigest hlogin

/-- No challenge comes from nowhere. -/
theorem challenge_eq_none (h : LogsIn request s r s') (hother : request.command ≠ .authChallenge)
    (hs : s.connection.challenge = none) : s'.connection.challenge = none := by
  cases h with
  | spared hlogin _ => exact (congrArg Prod.fst hlogin).trans hs
  | challenged hcommand _ _ => exact absurd hcommand hother
  | accepted _ _ _ _ hlogin | denied _ _ _ _ hlogin => exact congrArg Prod.fst hlogin

/-- Without a challenge there is nothing to answer. -/
theorem refused (h : LogsIn request s r s') (hcommand : request.command = .authSecure)
    (hs : s.connection.challenge = none) : Refused r := by
  cases h with
  | spared _ hrefused => exact hrefused (.inr hcommand)
  | challenged hchallenge _ _ => rw [hcommand] at hchallenge; cases hchallenge
  | accepted _ _ hchallenge _ _ | denied _ _ hchallenge _ _ => rw [hs] at hchallenge; cases hchallenge

end LogsIn

/-- **A request hands out a challenge, answers one, or leaves the login as it is.** -/
theorem logsIn (request : Request) (s : Serving) :
    LogsIn request s ((execute request).on s).1 ((execute request).on s).2 := by
  -- A request that is turned away before it is dispatched never gets to the login.
  obtain ⟨faults, log, ⟨r, isOpen, h, hrefused⟩ | ⟨fault, h⟩⟩ := execute_forms request s
  · rw [h]
    exact .spared rfl fun _ => hrefused
  · rw [h]
    exact (logsIn_dispatch request fault _).of_received

/-- A fresh connection has no challenge, and one that is refused keeps what it has. -/
theorem challenge_reopen (s : Serving) :
    (reopen.on s).2.connection.challenge = none ∨
      (reopen.on s).2.connection.challenge = s.connection.challenge := by
  unfold reopen
  simp only [on_bind, on_get]
  cases s.store.refused with
  | zero => exact .inl rfl
  | succ refused => exact .inr rfl

/-! ## Without a challenge -/

/-- One state comes after another over a connection that has not asked for a challenge meanwhile. Others may have done
    anything at all to the store. -/
inductive Unchallenged (s : Serving) : Serving → Prop where
  | start : Unchallenged s s
  | elsewhere {t : Serving} (h : Unchallenged s t) (store : Store) : Unchallenged s { t with store }
  | sent {t : Serving} (h : Unchallenged s t) (request : Request) (hother : request.command ≠ .authChallenge) :
    Unchallenged s ((execute request).on t).2
  | reopened {t : Serving} (h : Unchallenged s t) : Unchallenged s (reopen.on t).2

theorem Unchallenged.challenge_eq_none (h : Unchallenged s t) (hs : s.connection.challenge = none) :
    t.connection.challenge = none := by
  -- Induction on what has been going on. The store may be any other one meanwhile, as challenges are with connections.
  induction h with
  | start => exact hs
  | elsewhere _ store ih => exact ih
  | @sent t _ request hother ih => exact (logsIn request t).challenge_eq_none hother ih
  | @reopened t _ ih =>
    rcases challenge_reopen t with hnone | hsame
    · exact hnone
    · exact hsame.trans ih

/-- **A challenge is answered once.** Whatever is sent as an answer later is refused, unless there is another challenge
    first. -/
theorem Unchallenged.refused (h : Unchallenged s t) (hs : s.connection.challenge = none)
    (hcommand : request.command = .authSecure) : Refused ((execute request).on t).1 :=
  (logsIn request t).refused hcommand (h.challenge_eq_none hs)

end Serve

end SegmentSync
