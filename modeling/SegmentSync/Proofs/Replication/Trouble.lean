import SegmentSync.Proofs.Replication.Scene

/-!
# `SegmentSync.Proofs.Replication.Trouble` — what trouble leaves alone

Whatever happens around a session, the master's log only grows, and the slave's log changes by the requests of
the session only.

## Contents
- **Connections.** What is asked of a store is turned away, or done without an answer, or done.
- **Scenes.** `Scene.Shows` says which namespaces the stores have under one name, `Scene.Follows` that the
  master's has grown at most.
- **Effects.** A request may be served as in calm, and its answer may get lost. One lemma for requests to the
  master, which only read, one for requests to the slave, and one for all effects that change no namespace.
-/

namespace SegmentSync

variable {space : String} {limit : Namespace → Prop}

/-! ## Connections -/

namespace Serve

/-- Whether it is served or the connection fails: what is asked of a store is turned away, or done without an
    answer, or done. -/
theorem Does.fares {α : Type} {x : Serve α} {name : String}
    {P : Namespace → Except ProtocolError α → Namespace → Prop} (h : Does x name P) {s s' : Serving}
    {ns : Namespace} {r : Except ProtocolError α} (hs : s.Holds name ns) (hfares : x.Fares s r s') :
    ∃ ns', s'.Holds name ns' ∧
      ((Refused r ∧ (ns' = ns ∨ ∃ r', P ns r' ns')) ∨ P ns r ns') := by
  obtain ⟨r₁, s₁, ns₁, heq, hs₁, hr₁⟩ := h s ns hs
  cases hfares with
  | served =>
    rw [heq]
    rcases hr₁ with ⟨hrefused, rfl⟩ | hP
    · exact ⟨ns₁, hs₁, Or.inl ⟨hrefused, Or.inl rfl⟩⟩
    · exact ⟨ns₁, hs₁, Or.inr hP⟩
  | unsent reason isOpen =>
    exact ⟨ns, ⟨hs.found, hs.selected⟩, Or.inl ⟨refused_transport reason, Or.inl rfl⟩⟩
  | unanswered reason isOpen =>
    rw [heq]
    -- The answer is lost, but what the store has done stays done.
    refine ⟨ns₁, ⟨hs₁.found, hs₁.selected⟩, Or.inl ⟨refused_transport reason, ?_⟩⟩
    rcases hr₁ with ⟨-, rfl⟩ | hP
    · exact Or.inl rfl
    · exact Or.inr ⟨r₁, hP⟩

end Serve

/-! ## Scenes -/

namespace Scene

variable {w u w' : Scene} {m m' s : Namespace}

/-- The stores have these namespaces under that name, and the connections have selected no others. The slave
    has never had what it does not have now. -/
structure Shows (w : Scene) (space : String) (m s : Namespace) : Prop where
  master : w.master.Holds space m
  slave : w.slave.Holds space s
  history : ∀ exchange ∈ w.history, LogPrefix (exchange.slave.segments space) s.segments

/-- The slave's namespace is this one, and the master's has grown from that one at most. -/
def Follows (w : Scene) (space : String) (m s : Namespace) : Prop :=
  ∃ m', LogPrefix m.segments m'.segments ∧ w.Shows space m' s

/-- The slave's log is a prefix of the master's. -/
def InStep (space : String) (w : Scene) : Prop :=
  LogPrefix (w.slave.store.segments space) (w.master.store.segments space)

theorem Shows.follows (h : w.Shows space m s) : w.Follows space m s := ⟨m, LogPrefix.refl _, h⟩

theorem Follows.of_logPrefix (hm : LogPrefix m.segments m'.segments) (h : w.Follows space m' s) :
    w.Follows space m s := by
  obtain ⟨m'', hm', hshows⟩ := h
  exact ⟨m'', hm.trans hm', hshows⟩

theorem Shows.inStep (h : w.Shows space m s) (hsm : LogPrefix s.segments m.segments) : w.InStep space := by
  unfold InStep
  rw [h.master.segments, h.slave.segments]
  exact hsm

theorem Follows.inStep (h : w.Follows space m s) (hsm : LogPrefix s.segments m.segments) :
    w.InStep space := by
  obtain ⟨m', hm, hshows⟩ := h
  exact hshows.inStep (hsm.trans hm)

theorem Disturbed.shows (h : w.Shows space m s) (hu : w.Disturbed space limit u) :
    ∃ m', LogPrefix m.segments m'.segments ∧ limit m' ∧ u.Shows space m' s ∧ u.history = w.history := by
  obtain ⟨onMaster, onSlave, horders, rfl, hlimit⟩ := hu
  obtain ⟨m', hm', hgrows, -⟩ := Store.find?_foldl_suffer onMaster h.master.found
  obtain ⟨s', hs', -, hsame⟩ := Store.find?_foldl_suffer onSlave h.slave.found
  rw [hsame horders] at hs'
  exact ⟨m', hgrows, hlimit m' hm', ⟨⟨hm', h.master.selected⟩, ⟨hs', h.slave.selected⟩, h.history⟩, rfl⟩

/-! ## Effects -/

section

variable {request : Request} {answer : Except ProtocolError Reply} {s' : Serving}

/-- A request may be served as in calm. -/
theorem Quiet.trouble_served (role : Role) (h : w.Quiet space m) (hlimit : limit m) (hcalm : (w.serving role).Calm)
    (hserved : (Serve.dispatch request none).on ((w.serving role).logged request.command) = (answer, s')) :
    trouble space limit w (.execute role request) answer ((w.put role s').note role request answer) := by
  have hfares := Serve.Fares.served (x := Serve.execute request) (s := w.serving role)
  rw [(Serve.execute_of_calm hcalm request).trans hserved] at hfares
  exact ⟨w, s', h.disturbed hlimit, hfares, rfl⟩

/-- The answer to a request that is served may get lost. -/
theorem Quiet.trouble_unanswered (role : Role) (h : w.Quiet space m) (hlimit : limit m) (hcalm : (w.serving role).Calm)
    (hserved : (Serve.dispatch request none).on ((w.serving role).logged request.command) = (answer, s'))
    (reason : String) (isOpen : Bool) :
    trouble space limit w (.execute role request) (.error (.transport reason))
      ((w.put role (s'.withOpen isOpen)).note role request (.error (.transport reason))) := by
  have hfares := Serve.Fares.unanswered (x := Serve.execute request) (s := w.serving role) reason isOpen
  rw [(Serve.execute_of_calm hcalm request).trans hserved] at hfares
  exact ⟨w, s'.withOpen isOpen, h.disturbed hlimit, hfares, rfl⟩

end

theorem Shows.note (h : w.Shows space m s) (role : Role) (request : Request)
    (r : Except ProtocolError Reply) : (w.note role request r).Shows space m s := by
  refine ⟨h.master, h.slave, fun exchange hmem => ?_⟩
  rcases List.mem_cons.mp hmem with rfl | hmem
  · exact h.slave.segments ▸ LogPrefix.refl _
  · exact h.history exchange hmem

theorem Shows.put_master {serving : Serving} (h : w.Shows space m s) (hm : serving.Holds space m') :
    (w.put .master serving).Shows space m' s :=
  ⟨hm, h.slave, h.history⟩

theorem Shows.put_slave {serving : Serving} {s' : Namespace} (h : w.Shows space m s)
    (hs : serving.Holds space s') (hgrows : LogPrefix s.segments s'.segments) :
    (w.put .slave serving).Shows space m s' :=
  ⟨h.master, hs, fun exchange hmem => (h.history exchange hmem).trans hgrows⟩

section

variable {request : Request} {P : Namespace → Except ProtocolError Reply → Namespace → Prop}
  {r : Except ProtocolError Reply}

/-- **A reading of the master.** Unless it is turned away, the master answers from a log that has grown from
    what it was. -/
theorem trouble_master (hdoes : Serve.Does (Serve.execute request) space P)
    (hreads : ∀ ns r ns', P ns r ns' → ns' = ns) (h : w.Follows space m s)
    (htrouble : trouble space limit w (.execute .master request) r w') :
    ∃ m', LogPrefix m.segments m'.segments ∧ limit m' ∧ w'.Shows space m' s ∧ (Serve.Refused r ∨ P m' r m') ∧
      w'.history = ⟨.master, request, r, w'.master.store, w'.slave.store⟩ :: w.history := by
  obtain ⟨m₀, hm₀, hshows⟩ := h
  obtain ⟨u, serving, hdisturbed, hfares, rfl⟩ := htrouble
  obtain ⟨m₁, hm₁, hlimit, hshows₁, hhistory⟩ := Disturbed.shows hshows hdisturbed
  obtain ⟨m₂, hholds, hr⟩ := hdoes.fares hshows₁.master hfares
  -- A reading leaves what it finds, so the master has changed by the incidents only.
  have hsame : m₂ = m₁ := by
    rcases hr with ⟨-, rfl | ⟨r', hP⟩⟩ | hP
    · rfl
    · exact hreads _ _ _ hP
    · exact hreads _ _ _ hP
  subst hsame
  refine ⟨m₂, hm₀.trans hm₁, hlimit, (hshows₁.put_master hholds).note _ _ _, hr.imp And.left id, ?_⟩
  rw [← hhistory]; rfl

/-- **A change of the slave.** It is turned away, or done without an answer, or done. -/
theorem trouble_slave (hdoes : Serve.Does (Serve.execute request) space P)
    (hgrows : ∀ ns r ns', P ns r ns' → LogPrefix ns.segments ns'.segments) (h : w.Follows space m s)
    (htrouble : trouble space limit w (.execute .slave request) r w') :
    ∃ s', w'.Follows space m s' ∧
      ((Serve.Refused r ∧ (s' = s ∨ ∃ r', P s r' s')) ∨ P s r s') ∧
      w'.history = ⟨.slave, request, r, w'.master.store, w'.slave.store⟩ :: w.history := by
  obtain ⟨m₀, hm₀, hshows⟩ := h
  obtain ⟨u, serving, hdisturbed, hfares, rfl⟩ := htrouble
  obtain ⟨m₁, hm₁, -, hshows₁, hhistory⟩ := Disturbed.shows hshows hdisturbed
  obtain ⟨s', hholds, hr⟩ := hdoes.fares hshows₁.slave hfares
  -- Whether it was answered or not, the slave has what it had or what the request makes of it.
  have hgrown : LogPrefix s.segments s'.segments := by
    rcases hr with ⟨-, rfl | ⟨r', hP⟩⟩ | hP
    · exact LogPrefix.refl _
    · exact hgrows _ _ _ hP
    · exact hgrows _ _ _ hP
  refine ⟨s', ⟨m₁, hm₀.trans hm₁, (hshows₁.put_slave hholds hgrown).note _ _ _⟩, hr, ?_⟩
  rw [← hhistory]; rfl

end

/-- An effect that changes no namespace: a request that does not, or no request. -/
def Keeps (space : String) : Effect Role → Prop
  | .execute _ request => Serve.Does (Serve.execute request) space fun ns _ ns' => ns' = ns
  | _ => True

/-- After an effect that changes no namespace, the slave is as it was, and the master has grown at most. -/
theorem trouble_keeps {effect : Effect Role} {answer : effect.Answer} (hkeeps : Keeps space effect)
    (h : w.Follows space m s) (htrouble : trouble space limit w effect answer w') :
    w'.Follows space m s := by
  cases effect with
  | execute role request =>
    cases role with
    | master =>
      obtain ⟨m', hm', -, hshows, -⟩ := trouble_master hkeeps (fun _ _ _ h => h) h htrouble
      exact ⟨m', hm', hshows⟩
    | slave =>
      obtain ⟨s', hfollows, hs', -⟩ :=
        trouble_slave hkeeps (fun _ _ _ h => h ▸ LogPrefix.refl _) h htrouble
      rcases hs' with ⟨-, rfl | ⟨-, rfl⟩⟩ | rfl <;> exact hfollows
  | reopen role =>
    obtain ⟨m₀, hm₀, hshows⟩ := h
    obtain ⟨u, serving, hdisturbed, hfares, rfl⟩ := htrouble
    obtain ⟨m₁, hm₁, -, hshows₁, -⟩ := Disturbed.shows hshows hdisturbed
    cases role with
    | master =>
      obtain ⟨m₂, hholds, hm₂⟩ := Serve.does_reopen.fares hshows₁.master hfares
      have hsame : m₂ = m₁ := by rcases hm₂ with ⟨-, rfl | ⟨-, rfl⟩⟩ | rfl <;> rfl
      exact ⟨m₁, hm₀.trans hm₁, hshows₁.put_master (hsame ▸ hholds)⟩
    | slave =>
      obtain ⟨s₂, hholds, hs₂⟩ := Serve.does_reopen.fares hshows₁.slave hfares
      have hsame : s₂ = s := by rcases hs₂ with ⟨-, rfl | ⟨-, rfl⟩⟩ | rfl <;> rfl
      exact ⟨m₁, hm₀.trans hm₁, hshows₁.put_slave (hsame ▸ hholds) (LogPrefix.refl _)⟩
  | stopRequested | wait _ | rest _ | report _ | log _ _ | clock =>
    obtain ⟨m₀, hm₀, hshows⟩ := h
    obtain ⟨m₁, hm₁, -, hshows₁, -⟩ := Disturbed.shows hshows htrouble
    exact ⟨m₁, hm₀.trans hm₁, hshows₁⟩

/-- Only an export becomes the latest export. -/
theorem trouble_lastExport {effect : Effect Role} {answer : effect.Answer}
    (hother : ∀ role request, effect = .execute role request → request.command ≠ .dataExport)
    (htrouble : trouble space limit w effect answer w') : w'.lastExport = w.lastExport := by
  cases effect with
  | execute role request =>
    obtain ⟨u, serving, ⟨_, _, -, rfl, -⟩, -, rfl⟩ := htrouble
    refine (List.find?_cons_of_neg (by simpa using hother role request rfl)).trans ?_
    cases role <;> rfl
  | reopen role =>
    obtain ⟨u, serving, ⟨_, _, -, rfl, -⟩, -, rfl⟩ := htrouble
    cases role <;> rfl
  | stopRequested | wait _ | rest _ | report _ | log _ _ | clock =>
    obtain ⟨_, _, -, rfl, -⟩ := htrouble
    rfl

end Scene

end SegmentSync
