import SegmentSync.Proofs.Client.Calls
import SegmentSync.Proofs.Replication.Scene

/-!
# `SegmentSync.Proofs.Replication.Handshake` — how a client gets established

Sessions are made of clients that are established (`Client.Established`). A client that knows the passwords of its
end gets there by logging in: with the handshake where the store demands a login, by selecting its namespace where
it does not (`Client.calm_establish`).

## Contents
- **Ends of a scene.** `Scene.Became` is what a login does to one end, `Store.Alike` what it leaves as it was there.
- **Logins.** A client's requests for one, one by one, and all of them.
- **Connects.** `Client.Admissible` is what a client needs to get established over a fresh connection.
- **Sessions.** A session that has opened both of its sides is fresh (`Session.calm_reopen`); there is one between any
  two namespaces in order (`Session.exists_fresh`).
-/

namespace SegmentSync

variable {time : Scene → Duration} {role : Role} {w : Scene}

/-! ## Ends of a scene -/

/-- The store is as it was, but for what it counts and notes down. -/
structure Store.Alike (store store' : Store) : Prop where
  namespaces : store'.namespaces = store.namespaces
  admin : store'.admin = store.admin
  faults : store'.faults = store.faults
  refused : store'.refused = store.refused

namespace Scene

theorem serving_put (w : Scene) (role : Role) (s : Serving) : (w.put role s).serving role = s := by
  cases role <;> rfl

theorem serving_put_of_ne {other : Role} (hne : other ≠ role) (s : Serving) :
    (w.put role s).serving other = w.serving other := by
  cases role <;> cases other <;> first | rfl | exact absurd rfl hne

theorem serving_note (w : Scene) (role at_ : Role) (request : Request) (r : Except ProtocolError Reply) :
    (w.note at_ request r).serving role = w.serving role := by
  cases role <;> rfl

/-- One end has come to that, and the other is as it was. -/
structure Became (w w' : Scene) (role : Role) (s : Serving) : Prop where
  here : w'.serving role = s
  elsewhere : ∀ other, other ≠ role → w'.serving other = w.serving other

theorem Became.trans {w' w'' : Scene} {s s' : Serving} (h : w.Became w' role s) (h' : w'.Became w'' role s') :
    w.Became w'' role s' :=
  ⟨h'.here, fun other hne => (h'.elsewhere other hne).trans (h.elsewhere other hne)⟩

end Scene

/-! ## Requests of a login -/

namespace Client

/-- What an action of a client ensures in calm, whatever becomes of the ends. -/
abbrev Calmly {α : Type} (time : Scene → Duration) (x : Action (Client Role) Role α)
    (post : α → Client Role → Scene → Prop) (c : Client Role) (w : Scene) : Prop :=
  Action.Ensures (Program.answering (Scene.calm time)) (fun _ => True) x post (fun _ _ _ => False) c w

variable {c : Client Role} {s s' : Serving} {request : Request}

/-- A request of a login is dispatched on an open connection. -/
theorem calm_call (hlink : c.link = role) (hs : w.serving role = s) (hopen : s.connection.isOpen = true)
    (hfaults : s.store.faults = []) (hlogin : request.command.requiresAuth = false) {reply : Reply}
    (hserved : (Serve.dispatch request none).on (s.logged request.command) = (.ok reply, s')) {answer : Answer}
    (hanswer : Answer.ofReply request.command reply = .ok answer) :
    Calmly time (call request) (fun result c' w' => result = answer ∧ c' = c ∧ w.Became w' role s') c w := by
  refine ensures_call (fun hheld => ?_) fun r w' hcalm => ⟨trivial, ?_⟩
  · simp [holdsBack, hlogin] at hheld
  · have hon : (Serve.execute request).on (w.serving role) = (.ok reply, s') :=
      hs ▸ (Serve.execute_of_login hopen hfaults hlogin).trans hserved
    rw [hlink] at hcalm
    obtain ⟨rfl, rfl⟩ := Prod.mk.inj ((Scene.calm_execute hon).symm.trans hcalm)
    rw [show (Except.ok reply).bind (Answer.ofReply request.command) = .ok answer from hanswer]
    refine ⟨rfl, rfl, ?_, fun other hne => ?_⟩
    · rw [Scene.serving_note, Scene.serving_put]
    · rw [Scene.serving_note, Scene.serving_put_of_ne hne]

/-- A request that is served with an acknowledgement is granted. -/
theorem calm_granted (hlink : c.link = role) (hs : w.serving role = s) (hopen : s.connection.isOpen = true)
    (hfaults : s.store.faults = []) (hlogin : request.command.requiresAuth = false)
    (hserved : (Serve.dispatch request none).on (s.logged request.command) = (.ok .okay, s'))
    (hanswer : Answer.ofReply request.command .okay = .ok .ack) :
    Calmly time (granted request) (fun accepted c' w' => accepted = true ∧ c' = c ∧ w.Became w' role s') c w := by
  unfold granted
  refine (Action.ensures_bind _ _).mpr ?_
  rw [Action.ensures_attempt]
  refine (calm_call hlink hs hopen hfaults hlogin hserved hanswer).mono ?_ fun _ _ _ h => h.elim
  rintro _ _ w' ⟨rfl, rfl, hw'⟩
  exact ⟨rfl, rfl, hw'⟩

/-! ## The login -/

/-- The client knows the password of the login, if there is one, and that of its namespace. -/
def Knows (c : Client Role) (s : Serving) (ns : Namespace) : Prop :=
  match c.target.password with
  | none => s.store.admin = none ∧ ns.password = none
  | some password => s.store.admin = some password ∧ (ns.password = none ∨ ns.password = some password)

variable {ns : Namespace}

/-- The selection of a namespace is granted to a client that knows its password. -/
theorem calm_select (hlink : c.link = role) (hs : w.serving role = s) (hopen : s.connection.isOpen = true)
    (hfaults : s.store.faults = []) (hfound : s.store.namespaces.find? c.target.space = some ns)
    {password : Option String} (hpassword : ns.password = none ∨ ns.password = password) :
    Calmly time (selectNamespace c.target.space password) (fun accepted c' w' => accepted = true ∧ c' = c ∧
      w.Became w' role ((s.logged .select).selecting c.target.space)) c w := by
  have hmatches : ¬ (ns.password.isSome && ns.password ≠ password) = true := by
    rcases hpassword with hnone | hsame
    · simp [hnone]
    · simp [hsame]
  have hserved := Serve.on_serveSelect (s := s.logged .select) hfound password
  rw [if_neg hmatches] at hserved
  exact calm_granted hlink hs hopen hfaults rfl hserved rfl

/-- The handshake is accepted from a client that knows the passwords. -/
theorem calm_authenticate (hlink : c.link = role) (hs : w.serving role = s) (hopen : s.connection.isOpen = true)
    (hfaults : s.store.faults = []) (hfound : s.store.namespaces.find? c.target.space = some ns) {password : String}
    (hadmin : s.store.admin = some password) (hpassword : ns.password = none ∨ ns.password = some password) :
    Calmly time (authenticate password) (fun accepted c' w' => accepted = true ∧
      c' = { c with authenticated := true } ∧ ∃ s', w.Became w' role s' ∧ c'.Established role s' ns ∧
        s.store.Alike s'.store) c w := by
  let asked := (s.logged .authChallenge).challenged
  -- Whatever the client was before, it is not logged in until the end of the handshake.
  have hlink' : (⟨c.link, c.target, false⟩ : Client Role).link = role := hlink
  have hchallenge : (Serve.dispatch .authChallenge none).on (s.logged .authChallenge) =
      (.ok (.simple (Serve.challengeText (s.store.challenges + 1))), asked) := Serve.on_serveChallenge hadmin
  have hlogin : (Serve.dispatch (.authSecure (challengeDigest (Serve.challengeText (s.store.challenges + 1))
      password)) none).on (asked.logged .authSecure) = (.ok .okay, (asked.logged .authSecure).answered true) :=
    (Serve.on_serveLogin (s := asked.logged .authSecure) hadmin rfl _).trans (if_pos rfl)
  unfold authenticate setAuthenticated requestChallenge callFor
  refine (Action.ensures_bind _ _).mpr ?_
  rw [Action.ensures_modify]
  refine (Action.ensures_bind _ _).mpr ?_
  rw [Action.ensures_attempt]
  refine (Action.ensures_bind _ _).mpr ((calm_call hlink' hs hopen hfaults rfl hchallenge rfl).mono ?_
    fun _ _ _ h => h.elim)
  rintro _ _ w₁ ⟨rfl, rfl, hw₁⟩
  refine (Action.ensures_bind _ _).mpr ((calm_granted hlink' hw₁.here hopen hfaults rfl hlogin rfl).mono ?_
    fun _ _ _ h => h.elim)
  rintro _ _ w₂ ⟨rfl, rfl, hw₂⟩
  refine (Action.ensures_bind _ _).mpr ?_
  rw [Action.ensures_get]
  refine (Action.ensures_bind _ _).mpr ((calm_select hlink' hw₂.here hopen hfaults hfound hpassword).mono ?_
    fun _ _ _ h => h.elim)
  rintro _ _ w₃ ⟨rfl, rfl, hw₃⟩
  refine (Action.ensures_bind _ _).mpr ?_
  rw [Action.ensures_modify]
  refine (Action.ensures_bind _ _).mpr (ensures_note fun line w₄ hcalm => ⟨trivial, ?_⟩)
  obtain rfl : w₃ = w₄ := (Prod.mk.inj hcalm).2
  exact ⟨rfl, rfl, _, (hw₁.trans hw₂).trans hw₃, ⟨hlink, rfl, hopen, fun _ => rfl, rfl, hfound⟩, rfl, rfl, rfl, rfl⟩

/-- **Logging in establishes a client** that knows the passwords of its end, and leaves the other end as it is. -/
theorem calm_establish (hlink : c.link = role) (hs : w.serving role = s) (hopen : s.connection.isOpen = true)
    (hfaults : s.store.faults = []) (hfound : s.store.namespaces.find? c.target.space = some ns)
    (hknows : c.Knows s ns) :
    Calmly time establish (fun _ c' w' => c' = { c with authenticated := true } ∧
      ∃ s', w.Became w' role s' ∧ c'.Established role s' ns ∧ s.store.Alike s'.store) c w := by
  unfold Knows at hknows
  unfold establish
  refine (Action.ensures_bind _ _).mpr ?_
  rw [Action.ensures_get]
  dsimp only
  cases hpassword : c.target.password with
  | none =>
    rw [hpassword] at hknows
    obtain ⟨hadmin, hopenSpace⟩ := hknows
    refine (Action.ensures_bind _ _).mpr ((calm_select hlink hs hopen hfaults hfound (Or.inl hopenSpace)).mono ?_
      fun _ _ _ h => h.elim)
    rintro _ _ w' ⟨rfl, rfl, hw'⟩
    refine ⟨rfl, _, hw', ⟨hlink, rfl, hopen, fun hsome => ?_, rfl, hfound⟩, rfl, rfl, rfl, rfl⟩
    have hnone : (s.store.admin.isSome) = false := by rw [hadmin]; rfl
    exact absurd (hsome.symm.trans hnone) nofun
  | some password =>
    rw [hpassword] at hknows
    obtain ⟨hadmin, hpassword⟩ := hknows
    refine (Action.ensures_bind _ _).mpr ((calm_authenticate hlink hs hopen hfaults hfound hadmin hpassword).mono
      ?_ fun _ _ _ h => h.elim)
    rintro _ _ w' ⟨rfl, rfl, hw'⟩
    exact ⟨rfl, hw'⟩

/-! ## Connects -/

/-- What a client needs to get established: its end accepts new connections and has no orders to misbehave, and the
    client knows the passwords of a namespace there. -/
structure Admissible (c : Client Role) (role : Role) (s : Serving) (ns : Namespace) : Prop where
  link : c.link = role
  refused : s.store.refused = 0
  faults : s.store.faults = []
  found : s.store.namespaces.find? c.target.space = some ns
  knows : c.Knows s ns

/-- What others do when they log in is nothing to that. -/
theorem Admissible.of_alike (h : c.Admissible role s ns) (halike : s.store.Alike s'.store) :
    c.Admissible role s' ns where
  link := h.link
  refused := halike.refused.trans h.refused
  faults := halike.faults.trans h.faults
  found := halike.namespaces ▸ h.found
  knows := by
    unfold Knows
    rw [halike.admin]
    exact h.knows

/-- **A client that may be let in is established over a fresh connection**, whatever it was before. -/
theorem calm_connect (h : c.Admissible role (w.serving role) ns) :
    Calmly time connect (fun _ c' w' => c' = { c with authenticated := true } ∧
      ∃ s', w.Became w' role s' ∧ c'.Established role s' ns ∧ (w.serving role).store.Alike s'.store) c w := by
  let fresh : Serving := { w.serving role with connection := {} }
  have hreopen : Serve.reopen.on (w.serving role) = (.ok (), fresh) := by
    unfold Serve.reopen
    simp only [Serve.on_bind, Serve.on_get, h.refused, Serve.on_set]
    rfl
  have hopened : Scene.calm time (.reopen role) w = (.ok (), w.put role fresh) := by
    show (((Serve.reopen.on (w.serving role)).1, w.put role (Serve.reopen.on (w.serving role)).2) :
      Except ProtocolError Unit × Scene) = _
    rw [hreopen]
    rfl
  unfold connect reconnect setAuthenticated
  refine (Action.ensures_bind _ _).mpr ((Action.ensures_bind _ _).mpr ?_)
  rw [Action.ensures_modify]
  refine (Action.ensures_bind _ _).mpr ?_
  rw [Action.ensures_get]
  refine (Action.ensures_bind _ _).mpr fun r w₁ hr => ⟨trivial, ?_⟩
  obtain ⟨rfl, rfl⟩ := Prod.mk.inj (hopened.symm.trans (h.link ▸ hr))
  have hserving : (w.put role fresh).serving role = fresh := Scene.serving_put w role fresh
  have hlink : (⟨c.link, c.target, false⟩ : Client Role).link = role := h.link
  refine (calm_establish hlink hserving rfl h.faults h.found h.knows).mono ?_ fun _ _ _ h' => h'
  rintro _ _ w' ⟨rfl, s', hw', hestablished, halike⟩
  refine ⟨rfl, s', ⟨hw'.here, fun other hne => ?_⟩, hestablished, halike⟩
  rw [hw'.elsewhere other hne, Scene.serving_put_of_ne hne]

end Client

/-! ## Sessions -/

namespace Session

variable {session : Session Role} {m s : Namespace}

/-- The session with both of its clients logged in. -/
def withLogins (session : Session Role) : Session Role :=
  { session with
    master := { session.master with authenticated := true }
    slave := { session.slave with authenticated := true } }

/-- Whether its clients are logged in is nothing to how a session is made. -/
theorem made_withLogins
    (h : make session.name session.strategy session.master session.slave session.options = .ok session) :
    make session.withLogins.name session.withLogins.strategy session.withLogins.master session.withLogins.slave
      session.withLogins.options = .ok session.withLogins := by
  obtain ⟨name, space, strategy, master, slave, options, lastMaster, lastSlave, reported, failures, backoff⟩ := session
  unfold make at h ⊢
  dsimp only [withLogins] at h ⊢
  split at h
  · cases h
    exact if_pos ‹_›
  · cases h

/-- **A session that opens both of its sides is fresh**, if it has been made of their clients. -/
theorem calm_reopen (time : Scene → Duration)
    (hmade : make session.name session.strategy session.master session.slave session.options = .ok session)
    (hmaster : session.master.Admissible .master w.master m) (hslave : session.slave.Admissible .slave w.slave s)
    (hbehind : LogPrefix s.segments m.segments) :
    Action.Ensures (Program.answering (Scene.calm time)) (fun _ => True) reopen (fun _ session' w' =>
      session' = session.withLogins ∧ session'.Fresh { w' with history := [] } m s ∧
        w.master.store.Alike w'.master.store ∧ w.slave.store.Alike w'.slave.store) (fun _ _ _ => False) session w := by
  have hmaster₀ : session.master.Admissible .master (w.serving .master) m := hmaster
  unfold reopen
  refine (Action.ensures_bind _ _).mpr ((Action.ensures_focus _ _ _ _).mpr ?_)
  refine (Client.calm_connect hmaster₀).mono ?_ fun _ _ _ h => h
  rintro _ _ w₁ ⟨rfl, master, hw₁, hmaster', hmasterStore⟩
  have hslave' : session.slave.Admissible .slave (w₁.serving .slave) s := hw₁.elsewhere .slave nofun ▸ hslave
  refine (Action.ensures_focus _ _ _ _).mpr ((Client.calm_connect hslave').mono ?_ fun _ _ _ h => h)
  rintro _ _ w₂ ⟨rfl, slave, hw₂, hslave'', hslaveStore⟩
  obtain rfl : w₂.master = master := (hw₂.elsewhere .master nofun).trans hw₁.here
  obtain rfl : w₂.slave = slave := hw₂.here
  rw [hw₁.elsewhere .slave nofun] at hslaveStore
  have hfresh : session.withLogins.Fresh { w₂ with history := [] } m s :=
    ⟨made_withLogins hmade, hmaster', hslave'', hbehind, rfl⟩
  exact ⟨rfl, hfresh, hmasterStore, hslaveStore⟩

/-- There is one way in which it goes. -/
theorem runs_reopen (time : Scene → Duration)
    (hmade : make session.name session.strategy session.master session.slave session.options = .ok session)
    (hmaster : session.master.Admissible .master w.master m) (hslave : session.slave.Admissible .slave w.slave s)
    (hbehind : LogPrefix s.segments m.segments) :
    ∃ w', (reopen session).run (Scene.calm time) w = ((.ok (), session.withLogins), w') ∧
      session.withLogins.Fresh { w' with history := [] } m s ∧ w.master.store.Alike w'.master.store ∧
      w.slave.store.Alike w'.slave.store := by
  have hend := Program.Ensures.run (calm_reopen time hmade hmaster hslave hbehind)
  rcases hresult : (reopen session).run (Scene.calm time) w with ⟨⟨_ | _, session'⟩, w'⟩
  · rw [hresult] at hend
    exact hend.elim
  · rw [hresult] at hend
    obtain ⟨rfl, hrest⟩ := hend
    exact ⟨w', rfl, hrest⟩

/-- **There is a fresh session between any two namespaces in order**, when both of its sides have been opened. -/
theorem exists_fresh (time : Scene → Duration) (strategy : Strategy) (h : LogPrefix s.segments m.segments)
    (hm : m.password = none) (hs : s.password = none) :
    ∃ w, (reopen (between strategy)).run (Scene.calm time) (.between m s) = ((.ok (), between strategy), w) ∧
      (between strategy).Fresh { w with history := [] } m s ∧ w.master.store.faults = [] ∧
      w.slave.store.faults = [] := by
  have hmaster : (between strategy).master.Admissible .master (Scene.between m s).master m :=
    ⟨rfl, rfl, rfl, rfl, rfl, .inl hm⟩
  have hslave : (between strategy).slave.Admissible .slave (Scene.between m s).slave s :=
    ⟨rfl, rfl, rfl, rfl, rfl, hs⟩
  obtain ⟨w, hrun, hfresh, hmasterStore, hslaveStore⟩ := runs_reopen time rfl hmaster hslave h
  exact ⟨w, hrun, hfresh, hmasterStore.faults, hslaveStore.faults⟩

end Session

end SegmentSync
