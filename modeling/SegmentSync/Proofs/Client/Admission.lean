import SegmentSync.Proofs.Client.Calls
import SegmentSync.Proofs.Store.Challenges

/-!
# `SegmentSync.Proofs.Client.Admission` — whom a store lets in

The handshake is between two machines, and this module runs them together: a client, and a store in memory that serves
it and nobody else meanwhile. It is decided by what the store has: the password of its login, and the namespace with the
password of its own.

## Contents
- **Alone.** `Serve.alone` has a store serve a client, and `Alone` is what a client ensures there.
- **Decisions.** `Store.Accepts` and `Store.Opens` are what lets a client in, `Store.handshake` is the commands that are
  received until that is decided.
- **Steps.** What becomes of each of the three requests.
- **The handshake.** `authenticate_admits`.
-/

namespace SegmentSync

variable {ι : Type}

/-! ## Alone -/

/-- A store that serves a client, and nothing else happens. -/
def Serve.alone : (effect : Effect ι) → StateM Serving effect.Answer
  | .execute _ request => (Serve.execute request).on
  | .reopen _ => Serve.reopen.on
  | .stopRequested => fun s => (false, s)
  | .wait _ => fun s => (.elapsed, s)
  | .rest _ => fun s => ((), s)
  | .report _ => fun s => ((), s)
  | .log _ _ => fun s => ((), s)
  | .clock => fun s => (⟨0⟩, s)

/-! ## Decisions -/

namespace Store

/-- The password makes the same answer to the next challenge as that of the login. -/
def Accepts (store : Store) (password : String) : Prop :=
  ∃ secret, store.admin = some secret ∧
    challengeDigest store.nextChallenge password = challengeDigest store.nextChallenge secret

/-- There is such a namespace, and it has no password or that one. -/
def Opens (store : Store) (space password : String) : Prop :=
  ∃ ns, store.namespaces.find? space = some ns ∧ (ns.password = none ∨ ns.password = some password)

/-- The commands of a handshake that are received until it is decided. -/
def handshake (store : Store) (password : String) : List Command :=
  match store.admin with
  | none => [.authChallenge]
  | some secret =>
    if challengeDigest store.nextChallenge password = challengeDigest store.nextChallenge secret then
      [.authChallenge, .authSecure, .select]
    else [.authChallenge, .authSecure]

end Store

namespace Client

/-- What an action of a client ensures with a store to itself. It does not fail. -/
abbrev Alone {α : Type} (x : Action (Client ι) ι α) (post : α → Client ι → Serving → Prop) (c : Client ι)
    (s : Serving) : Prop :=
  Action.Ensures (Program.answering Serve.alone) (fun _ => True) x post (fun _ _ _ => False) c s

variable {c : Client ι} {s : Serving} {password : String}

/-! ## Steps -/

/-- A line in the log leaves everything as it is. -/
theorem alone_note {α : Type} {level : Level} {line : String} {x : Action (Client ι) ι α}
    {post : α → Client ι → Serving → Prop} (h : Alone x post c s) : Alone (do note level line; x) post c s := by
  refine (Action.ensures_bind _ _).mpr (ensures_note fun line t hlog => ⟨trivial, ?_⟩)
  obtain rfl := (Prod.mk.inj hlog).2
  exact h

/-- A request that is to be granted is judged by what the store makes of it. -/
theorem alone_granted (request : Request) (hopen : request.command.requiresAuth = false)
    (hpermits : s.Permits request.command) {r : Except ProtocolError Reply} {s' : Serving}
    (hserved : (Serve.dispatch request none).on (s.logged request.command) = (r, s')) {accepted : Bool}
    (hgranting : granting request r = .ok accepted) {post : Bool → Client ι → Serving → Prop}
    (hpost : post accepted c s') : Alone (granted request) post c s := by
  refine ensures_granting hopen fun r' t hserve => ⟨trivial, ?_⟩
  have hexecute : (Serve.execute request).on s = (r, s') := (Serve.execute_of_permits hpermits).trans hserved
  obtain ⟨rfl, rfl⟩ := Prod.mk.inj (hexecute.symm.trans hserve)
  rw [hgranting]
  cases accepted with
  | true => exact hpost
  | false =>
    rintro line u hlog
    obtain rfl := (Prod.mk.inj hlog).2
    exact ⟨trivial, hpost⟩

/-- An answer is granted if it is the one that the password of the login makes, and uses up the challenge. -/
theorem alone_submitDigest (hpermits : s.Permits .authSecure) {secret challenge : String}
    (hsecret : s.store.admin = some secret) (hchallenge : s.connection.challenge = some challenge) (digest : String) :
    Alone (submitDigest digest) (fun accepted c' t => (accepted = true ↔ digest = challengeDigest challenge secret) ∧
      c' = c ∧ t.store = (s.logged .authSecure).store ∧ t.connection.isOpen = true ∧ t.connection.challenge = none)
      c s := by
  have hserved := Serve.on_serveLogin (s := s.logged .authSecure) hsecret hchallenge digest
  by_cases hdigest : digest = challengeDigest challenge secret
  · rw [if_pos hdigest] at hserved
    refine alone_granted (.authSecure digest) rfl hpermits hserved rfl ?_
    exact ⟨⟨fun _ => hdigest, fun _ => rfl⟩, rfl, rfl, hpermits.isOpen, rfl⟩
  · rw [if_neg hdigest] at hserved
    refine alone_granted (.authSecure digest) rfl hpermits hserved rfl ?_
    exact ⟨⟨nofun, fun h => absurd h hdigest⟩, rfl, rfl, hpermits.isOpen, rfl⟩

/-- A selection is granted if there is the namespace and it takes the password. -/
theorem alone_selectNamespace (hpermits : s.Permits .select) (space password : String) :
    Alone (selectNamespace space (some password)) (fun accepted c' t =>
      (accepted = true ↔ s.store.Opens space password) ∧ c' = c ∧ t.store = (s.logged .select).store ∧
        t.connection.challenge = s.connection.challenge ∧
        (accepted = true → t.connection.selected = some space)) c s := by
  cases hfound : s.store.namespaces.find? space with
  | none =>
    have hserved := Serve.on_serveSelect_of_missing (s := s.logged .select) hfound (some password)
    have hclosed : ¬ s.store.Opens space password := by
      rintro ⟨ns, hns, -⟩
      rw [hfound] at hns
      cases hns
    refine alone_granted (.select space (some password)) rfl hpermits hserved rfl ?_
    exact ⟨⟨nofun, fun h => absurd h hclosed⟩, rfl, rfl, rfl, nofun⟩
  | some ns =>
    have hserved := Serve.on_serveSelect (s := s.logged .select) hfound (some password)
    by_cases hopens : ns.password = none ∨ ns.password = some password
    · have hmatches : ¬ (ns.password.isSome && ns.password ≠ some password) = true := by
        rcases hopens with hnone | hsame
        · simp [hnone]
        · simp [hsame]
      rw [if_neg hmatches] at hserved
      refine alone_granted (.select space (some password)) rfl hpermits hserved rfl ?_
      exact ⟨⟨fun _ => ⟨ns, hfound, hopens⟩, fun _ => rfl⟩, rfl, rfl, rfl, fun _ => rfl⟩
    · have hdiffers : (ns.password.isSome && ns.password ≠ some password) = true := by
        obtain ⟨hsome, hne⟩ := not_or.mp hopens
        simp [Option.isSome_iff_ne_none, hsome, hne]
      have hclosed : ¬ s.store.Opens space password := by
        rintro ⟨ns', hns', hopens'⟩
        rw [hfound] at hns'
        exact hopens (Option.some.inj hns' ▸ hopens')
      rw [if_pos hdiffers] at hserved
      refine alone_granted (.select space (some password)) rfl hpermits hserved rfl ?_
      exact ⟨⟨nofun, fun h => absurd h hclosed⟩, rfl, rfl, rfl, nofun⟩

/-! ## The handshake -/

/-- What the handshake comes to, for the client and for the store: the client is let in if the store accepts its answer
    and opens its namespace, the store has received what it takes to decide that, and an answer has used up the
    challenge. -/
structure Decided (c : Client ι) (s : Serving) (password : String) (accepted : Bool) (c' : Client ι) (s' : Serving) :
    Prop where
  decision : accepted = true ↔ s.store.Accepts password ∧ s.store.Opens c.target.space password
  client : c' = { c with authenticated := accepted }
  log : s'.store.log = s.store.log ++ s.store.handshake password
  selected : accepted = true → s'.connection.selected = some c.target.space
  namespaces : s'.store.namespaces = s.store.namespaces
  answered : .authSecure ∈ s.store.handshake password → s'.connection.challenge = none

namespace Decided

variable {s' : Serving} {secret : String}

/-- Without a password of the login there is no challenge. -/
theorem disabled (hsecret : s.store.admin = none) (hstore : s'.store = (s.logged .authChallenge).store) :
    Decided c s password false { c with authenticated := false } s' where
  decision := ⟨nofun, fun ⟨⟨_, hsome, _⟩, _⟩ => absurd (hsecret.symm.trans hsome) nofun⟩
  client := rfl
  log := by rw [hstore, Store.handshake, hsecret]; rfl
  selected := nofun
  namespaces := by rw [hstore]; rfl
  answered := by
    rw [Store.handshake, hsecret]
    intro hmem
    cases hmem with
    | tail _ hmem => cases hmem

/-- The answer is another one. -/
theorem denied (hsecret : s.store.admin = some secret)
    (hdigest : challengeDigest s.store.nextChallenge password ≠ challengeDigest s.store.nextChallenge secret)
    (hstore : s'.store = ((s.logged .authChallenge).challenged.logged .authSecure).store)
    (hused : s'.connection.challenge = none) : Decided c s password false { c with authenticated := false } s' where
  decision := by
    refine ⟨nofun, ?_⟩
    rintro ⟨⟨secret', hsome, hsame⟩, -⟩
    obtain rfl := Option.some.inj (hsecret.symm.trans hsome)
    exact absurd hsame hdigest
  client := rfl
  log := by rw [hstore, Store.handshake, hsecret]; simp [hdigest, Serving.logged, Serving.challenged]
  selected := nofun
  namespaces := by rw [hstore]; rfl
  answered := fun _ => hused

/-- The answer is the right one, and the namespace decides. -/
theorem answering (hsecret : s.store.admin = some secret)
    (hdigest : challengeDigest s.store.nextChallenge password = challengeDigest s.store.nextChallenge secret)
    (hstore : s'.store = (((s.logged .authChallenge).challenged.logged .authSecure).logged .select).store)
    (hused : s'.connection.challenge = none) {selected : Bool}
    (hopens : selected = true ↔ s.store.Opens c.target.space password)
    (hselected : selected = true → s'.connection.selected = some c.target.space) :
    Decided c s password selected { c with authenticated := selected } s' where
  decision := hopens.trans ⟨fun h => ⟨⟨secret, hsecret, hdigest⟩, h⟩, fun h => h.2⟩
  client := rfl
  log := by rw [hstore, Store.handshake, hsecret]; simp [hdigest, Serving.logged, Serving.challenged]
  selected := hselected
  namespaces := by rw [hstore]; rfl
  answered := fun _ => hused

end Decided

theorem alone_authenticate (hopen : s.connection.isOpen = true)
    (hfaultless : ∀ command : Command, command.requiresAuth = false → s.store.Faultless command) :
    Alone (authenticate password) (fun accepted c' t => Decided c s password accepted c' t) c s := by
  have hpermits (command : Command) (hlogin : command.requiresAuth = false) (t : Serving)
      (ht : t.connection.isOpen = true) (hsame : t.store.faults = s.store.faults) : t.Permits command := by
    refine ⟨ht, ?_, fun h => absurd (hlogin.symm.trans h) nofun⟩
    unfold Store.Faultless
    rw [hsame]
    exact hfaultless command hlogin
  have hchallenge := Serve.execute_of_permits (hpermits (Request.command .authChallenge) rfl s hopen rfl)
  unfold authenticate setAuthenticated requestChallenge
  refine (Action.ensures_bind _ _).mpr ?_
  rw [Action.ensures_modify]
  refine (Action.ensures_bind _ _).mpr ?_
  rw [Action.ensures_attempt]
  refine ensures_callFor (fun hheld => by cases hheld) fun r s₁ hserve => ⟨trivial, ?_⟩
  -- A store hands out a challenge if there is a password of the login.
  cases hsecret : s.store.admin with
  | none =>
    have hrefused := hchallenge.trans (Serve.on_serveChallenge_of_none (s := s.logged .authChallenge) hsecret)
    obtain ⟨rfl, rfl⟩ := Prod.mk.inj (hrefused.symm.trans hserve)
    exact alone_note (Decided.disabled hsecret rfl)
  | some secret =>
    have hissued := hchallenge.trans (Serve.on_serveChallenge (s := s.logged .authChallenge) hsecret)
    obtain ⟨rfl, rfl⟩ := Prod.mk.inj (hissued.symm.trans hserve)
    let s₁ := (s.logged .authChallenge).challenged
    have hsecure : s₁.Permits .authSecure := hpermits .authSecure rfl s₁ hopen rfl
    refine (alone_submitDigest hsecure hsecret rfl _).andThen ?_
    rintro accepted _ s₂ ⟨haccepted, rfl, hstore₂, hopen₂, hused₂⟩
    -- Only an answer that is accepted is followed by a selection.
    cases accepted with
    | false =>
      have hdigest := fun hsame => Bool.false_ne_true (haccepted.mpr hsame)
      exact alone_note (Decided.denied hsecret hdigest hstore₂ hused₂)
    | true =>
      have hdigest := haccepted.mp rfl
      have hselect : s₂.Permits .select := hpermits .select rfl s₂ hopen₂ (by rw [hstore₂]; rfl)
      refine (Action.ensures_bind _ _).mpr ?_
      rw [Action.ensures_get]
      refine (alone_selectNamespace hselect _ _).andThen ?_
      rintro selected _ s₃ ⟨hopens, rfl, hstore₃, hused₃, hselected⟩
      have hstore : s₃.store = ((s₁.logged .authSecure).logged .select).store := by
        rw [hstore₃]
        unfold Serving.logged
        rw [hstore₂]
        rfl
      unfold Store.Opens at hopens
      rw [hstore₂] at hopens
      have hdecided := Decided.answering (c := c) hsecret hdigest hstore (hused₃.trans hused₂) hopens hselected
      cases selected with
      | false => exact alone_note hdecided
      | true => exact (Action.ensures_bind _ _).mpr ((Action.ensures_modify _).mpr (alone_note hdecided))

/-- **The handshake decides exactly.** With a store to itself a client is let in if and only if the store accepts the
    answer that its password makes to the challenge it has just been given, and opens the namespace to it; otherwise it
    is turned away without a failure. The client counts as logged in accordingly, no namespace has changed, and an
    answer cannot be followed by another one before there is a new challenge. -/
theorem authenticate_admits (c : Client ι) (s : Serving) (password : String) (hopen : s.connection.isOpen = true)
    (hfaultless : ∀ command : Command, command.requiresAuth = false → s.store.Faultless command) :
    (∀ secret, s.store.admin = some secret →
      ((Serve.execute .authChallenge).on s).1 = .ok (.simple s.store.nextChallenge)) ∧
    ∃ accepted s',
      (authenticate password c).run Serve.alone s = ((.ok accepted, { c with authenticated := accepted }), s') ∧
      (accepted = true ↔ s.store.Accepts password ∧ s.store.Opens c.target.space password) ∧
      s'.store.log = s.store.log ++ s.store.handshake password ∧
      (accepted = true → s'.connection.selected = some c.target.space) ∧
      s'.store.namespaces = s.store.namespaces ∧
      (.authSecure ∈ s.store.handshake password → s'.connection.challenge = none ∧
        ∀ t request, Serve.Unchallenged s' t → request.command = .authSecure →
          Serve.Refused ((Serve.execute request).on t).1) := by
  constructor
  · intro secret hsecret
    have hpermits : s.Permits (Request.command .authChallenge) := ⟨hopen, hfaultless _ rfl, nofun⟩
    have hissued := Serve.on_serveChallenge (s := s.logged .authChallenge) hsecret
    exact congrArg Prod.fst ((Serve.execute_of_permits hpermits).trans hissued)
  · have hend := Program.Ensures.run (@alone_authenticate _ c s password hopen hfaultless)
    rcases hrun : (authenticate password c).run Serve.alone s with ⟨⟨failure | accepted, c'⟩, s'⟩
    · rw [hrun] at hend
      exact hend.elim
    · rw [hrun] at hend
      obtain ⟨hdecision, rfl, hlog, hselected, hnamespaces, hanswered⟩ := hend
      exact ⟨accepted, s', rfl, hdecision, hlog, hselected, hnamespaces,
        fun hmem => ⟨hanswered hmem, fun t request ht hcommand => ht.refused (hanswered hmem) hcommand⟩⟩

/-- A client that knows the password of the login is let in to a namespace without one. -/
theorem authenticate_admits_secret :
    let c : Client Unit := ⟨(), ⟨.tcp "master" 9900, "data", some "secret", "master"⟩, false⟩
    let s : Serving := ⟨{ admin := some "secret", namespaces := Table.empty.insert "data" {} }, {}⟩
    ∃ s', (authenticate "secret" c).run Serve.alone s = ((.ok true, { c with authenticated := true }), s') ∧
      s'.store.log = [.authChallenge, .authSecure, .select] ∧ s'.connection.selected = some "data" := by
  intro c s
  have hfaultless : ∀ command : Command, command.requiresAuth = false → s.store.Faultless command :=
    fun command _ => Serving.faultless_of_nil rfl command
  obtain ⟨accepted, s', hrun, hdecision, hlog, hselected, -, -⟩ := (authenticate_admits c s "secret" rfl hfaultless).2
  have haccepted : accepted = true := hdecision.mpr ⟨⟨"secret", rfl, rfl⟩, {}, rfl, .inl rfl⟩
  have hhandshake : s.store.handshake "secret" = [.authChallenge, .authSecure, .select] := by
    simp [Store.handshake, s]
  subst haccepted
  rw [hhandshake] at hlog
  exact ⟨s', hrun, hlog, hselected rfl⟩

end Client

end SegmentSync
