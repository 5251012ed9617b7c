import SegmentSync.Proofs.Replication.Copy
import SegmentSync.Proofs.Session.Errands
import SegmentSync.Proofs.Store.Edits

/-!
# `SegmentSync.Proofs.Replication.Frame` — replication writes one namespace only

A request for data acts on whatever its connection has selected, while others name their namespace. That a session
leaves all namespaces alone but the one that it replicates rests on what its connections have selected: nothing, or
that namespace. Connections lose their selection when they are opened again, and get it back by a login; nothing that a
session asks for selects anything else.

## Contents
- **Connections.** `Serving.Faces`, and what a request or a fresh connection leaves alone (`Serve.Fares.executed`,
  `Serve.Fares.reopened`).
- **Stages.** A scene that remembers what was done over its connections (`Visit`), and `Stage.hosting`, in which
  anything can go wrong and others may write to both stores.
- **Frames.** `Stage.Framed`, and the effects that keep it (`Effect.Within`, `Framed.effect`).
- **Uses.** A session is logged in, run and taken step by step, in any order (`Session.Lives`).
- **The theorem.** `replication_writes_one_namespace`.
-/

namespace SegmentSync

variable {α : Type} {space : String} {kind : Incident → Prop}

/-! ## Connections -/

/-- What the request freezes or selects, if anything, is the namespace of that name. -/
def Request.Names (space : String) (request : Request) : Prop :=
  request.command = .nsSet ∨ request.command = .select → Serve.textArgument request.arguments 0 = space

/-- The connection has selected no other namespace. -/
def Serving.Faces (s : Serving) (space : String) : Prop :=
  ∀ other, s.connection.selected = some other → other = space

/-- One state of an end comes after another one over a connection that faces a namespace: no other namespace has
    changed. -/
structure Serving.Turns (space : String) (s s' : Serving) : Prop where
  faces : s'.Faces space
  elsewhere : ∀ other, other ≠ space → s'.store.namespaces.find? other = s.store.namespaces.find? other

namespace Serve

variable {request : Request} {s s' : Serving} {r : Except ProtocolError Reply}

theorem Executed.withOpen (h : Executed request s r s') (isOpen : Bool) :
    Executed request s r (s'.withOpen isOpen) where
  edits := by
    cases h.edits with
    | kept hkept hrefused => exact .kept hkept hrefused
    | flagged hcommand hfound hput => exact .flagged hcommand hfound hput
    | logged hcommand hshows hextends hput => exact .logged hcommand hshows hextends hput
  selected := h.selected

/-- **Whether it is answered or not**, a request changes no more than it does where it is served. -/
theorem Fares.executed (h : (execute request).Fares s r s') : ∃ r', Executed request s r' s' := by
  cases h with
  | served => exact ⟨_, Serve.executed request s⟩
  | unsent reason isOpen =>
    refine ⟨.error (.transport reason), ?_, .inl rfl⟩
    exact .kept rfl fun _ => refused_transport reason
  | unanswered reason isOpen => exact ⟨_, (Serve.executed request s).withOpen isOpen⟩

theorem Fares.reopened {r : Except ProtocolError Unit} (h : reopen.Fares s r s') :
    s'.store.namespaces = s.store.namespaces ∧
      (s'.connection.selected = none ∨ s'.connection.selected = s.connection.selected) := by
  cases h with
  | served => exact on_reopen_state s
  | unsent reason isOpen => exact ⟨rfl, .inr rfl⟩
  | unanswered reason isOpen => exact on_reopen_state s

/-- **A request that names no other namespace changes no other**, over a connection that faces its own. -/
theorem Executed.turns (h : Executed request s r s') (hnames : request.Names space) (hs : s.Faces space) :
    s.Turns space s' where
  faces := by
    intro other hother
    rcases h.selected with hsame | ⟨hcommand, hselected⟩
    · exact hs other (hsame ▸ hother)
    · have hargument := hnames (.inr hcommand)
      rw [hselected, Option.some.injEq] at hother
      exact hother.symm.trans hargument
  elsewhere := by
    intro other hne
    refine h.find?_of_ne (fun hcommand hargument => ?_) fun hselected => hne (hs other hselected)
    exact hne (hargument.symm.trans (hnames (.inl hcommand)))

theorem Fares.turns_of_reopen {r : Except ProtocolError Unit} (h : reopen.Fares s r s') (hs : s.Faces space) :
    s.Turns space s' where
  faces := by
    intro other hother
    rcases h.reopened.2 with hnone | hsame
    · rw [hnone] at hother
      cases hother
    · exact hs other (hsame ▸ hother)
  elsewhere := by
    intro other _
    rw [h.reopened.1]

end Serve

namespace Request

variable {request : Request}

theorem names_of_ne (hset : request.command ≠ .nsSet) (hselect : request.command ≠ .select) :
    request.Names space :=
  fun hcommand => (hcommand.elim hset hselect).elim

theorem Reads.names (h : request.Reads space) : request.Names space := by
  cases h <;> exact names_of_ne nofun nofun

theorem names_nsFreeze (enabled : Bool) : (nsFreeze space enabled).Names space :=
  fun _ => Serve.textArgument_encode space _

theorem Tells.names (h : request.Tells space) : request.Names space := by
  cases h with
  | freeze => exact names_nsFreeze true
  | nsInfo | nsJump | dataImport _ _ | set _ _ _ | del _ _ => exact names_of_ne nofun nofun

end Request

namespace Client.IsLogin

variable {request : Request}

theorem names (h : IsLogin space request) : request.Names space := by
  cases h with
  | challenge | digest _ => exact Request.names_of_ne nofun nofun
  | selection password => exact fun _ => Serve.textArgument_encode space _

end Client.IsLogin

/-! ## Stages -/

/-- What was done at one end over its connection: a request, or none where the connection was opened. -/
structure Visit where
  role : Role
  request : Option Request
  before : Store
  after : Store

/-- A scene, and what was done in it, the latest first. -/
structure Stage where
  scene : Scene
  visits : List Visit := []

/-- There were incidents of that kind at both stores. -/
def Scene.Befallen (kind : Incident → Prop) (w u : Scene) : Prop :=
  ∃ onMaster onSlave, (∀ incident ∈ onMaster, kind incident) ∧ (∀ incident ∈ onSlave, kind incident) ∧
    u = w.suffer onMaster onSlave

theorem Scene.befallen_refl (w : Scene) : w.Befallen kind w := ⟨[], [], nofun, nofun, rfl⟩

/-- Incidents of that kind happen before every effect, connections fail before a request is served or after it, and
    the other effects have any answer. -/
def Stage.hosting (kind : Incident → Prop) : Environment Role Stage := fun v effect =>
  match effect with
  | .execute role request => fun r v' => ∃ u s', v.scene.Befallen kind u ∧
      (Serve.execute request).Fares (u.serving role) r s' ∧
      v' = ⟨(u.put role s').note role request r, ⟨role, some request, (u.serving role).store, s'.store⟩ :: v.visits⟩
  | .reopen role => fun r v' => ∃ u s', v.scene.Befallen kind u ∧ Serve.reopen.Fares (u.serving role) r s' ∧
      v' = ⟨u.put role s', ⟨role, none, (u.serving role).store, s'.store⟩ :: v.visits⟩
  | .stopRequested | .wait _ | .rest _ | .report _ | .log _ _ | .clock => fun _ v' => ∃ u, v.scene.Befallen kind u ∧
      v' = ⟨u, v.visits⟩

/-- Calm is one of the ways in which things can go. -/
theorem Stage.hosting_of_calm (time : Scene → Duration) (kind : Incident → Prop) (w : Scene) (v : Stage)
    (effect : Effect Role) (h : v.scene = w) :
    ∃ v', Stage.hosting kind v effect (Scene.calm time effect w).1 v' ∧ v'.scene = (Scene.calm time effect w).2 := by
  subst h
  have hquiet : v.scene.Befallen kind v.scene := v.scene.befallen_refl
  cases effect with
  | execute role request => exact ⟨⟨_, _⟩, ⟨v.scene, _, hquiet, .served, rfl⟩, rfl⟩
  | reopen role => exact ⟨⟨_, _⟩, ⟨v.scene, _, hquiet, .served, rfl⟩, rfl⟩
  | stopRequested | wait _ | rest _ | report _ | log _ _ | clock => exact ⟨⟨_, _⟩, ⟨v.scene, hquiet, rfl⟩, rfl⟩

/-! ## Frames -/

/-- The visit has changed nothing but that namespace of the slave; the master was asked to show it, or for a login. -/
structure Visit.Confined (space : String) (visit : Visit) : Prop where
  master : visit.role = .master → visit.after.namespaces = visit.before.namespaces ∧
    ∀ request, visit.request = some request → request.Reads space ∨ Client.IsLogin space request
  slave : visit.role = .slave →
    ∀ other, other ≠ space → visit.after.namespaces.find? other = visit.before.namespaces.find? other

/-- All that was done has changed no more than that namespace of the slave. Where nobody else writes, the rest is as it
    was at the start. -/
structure Stage.Framed (kind : Incident → Prop) (space : String) (start : Scene) (v : Stage) : Prop where
  master : v.scene.master.Faces space
  slave : v.scene.slave.Faces space
  visits : ∀ visit ∈ v.visits, visit.Confined space
  same : (∀ incident, kind incident → incident.isOrder = true) →
    v.scene.master.store.namespaces = start.master.store.namespaces ∧
      ∀ other, other ≠ space →
        v.scene.slave.store.namespaces.find? other = start.slave.store.namespaces.find? other

/-- The effect is about the namespace of that name: the master is asked to show it or for a login, and the slave is
    asked to freeze or select no other. -/
def Effect.Within (space : String) : Effect Role → Prop
  | .execute .master request => request.Reads space ∨ Client.IsLogin space request
  | .execute .slave request => request.Names space
  | .reopen _ | .stopRequested | .wait _ | .rest _ | .report _ | .log _ _ | .clock => True

namespace Stage.Framed

variable {start u : Scene} {v v' : Stage} {s' : Serving}

/-- What others do is not done over the connections. -/
theorem befallen (h : v.Framed kind space start) (hu : v.scene.Befallen kind u) :
    Stage.Framed kind space start ⟨u, v.visits⟩ := by
  obtain ⟨onMaster, onSlave, hmaster, hslave, rfl⟩ := hu
  refine ⟨h.master, h.slave, h.visits, fun horders => ?_⟩
  obtain ⟨hkept, helsewhere⟩ := h.same horders
  refine ⟨?_, fun other hne => ?_⟩
  · exact (Store.namespaces_foldl_suffer onMaster _ fun i hi => horders i (hmaster i hi)).trans hkept
  · have hsame := Store.namespaces_foldl_suffer onSlave v.scene.slave.store fun i hi => horders i (hslave i hi)
    exact (congrArg (·.find? other) hsame).trans (helsewhere other hne)

theorem note (h : v.Framed kind space start) (role : Role) (request : Request) (r : Except ProtocolError Reply) :
    Stage.Framed kind space start ⟨v.scene.note role request r, v.visits⟩ :=
  ⟨h.master, h.slave, h.visits, h.same⟩

/-- A visit to the master that changes nothing. -/
theorem visitMaster (h : v.Framed kind space start) (hturns : v.scene.master.Turns space s')
    (hspaces : s'.store.namespaces = v.scene.master.store.namespaces) {request : Option Request}
    (hrequest : ∀ sent, request = some sent → sent.Reads space ∨ Client.IsLogin space sent) :
    Stage.Framed kind space start
      ⟨v.scene.put .master s', ⟨.master, request, v.scene.master.store, s'.store⟩ :: v.visits⟩ where
  master := hturns.faces
  slave := h.slave
  visits := by
    intro visit hvisit
    rcases List.mem_cons.mp hvisit with rfl | hearlier
    · exact ⟨fun _ => ⟨hspaces, hrequest⟩, nofun⟩
    · exact h.visits visit hearlier
  same := fun horders => ⟨hspaces.trans (h.same horders).1, (h.same horders).2⟩

/-- A visit to the slave that changes no other namespace. -/
theorem visitSlave (h : v.Framed kind space start) (hturns : v.scene.slave.Turns space s') (request : Option Request) :
    Stage.Framed kind space start
      ⟨v.scene.put .slave s', ⟨.slave, request, v.scene.slave.store, s'.store⟩ :: v.visits⟩ where
  master := h.master
  slave := hturns.faces
  visits := by
    intro visit hvisit
    rcases List.mem_cons.mp hvisit with rfl | hearlier
    · exact ⟨nofun, fun _ => hturns.elsewhere⟩
    · exact h.visits visit hearlier
  same := by
    intro horders
    obtain ⟨hkept, helsewhere⟩ := h.same horders
    exact ⟨hkept, fun other hne => (hturns.elsewhere other hne).trans (helsewhere other hne)⟩

/-- **Effects about the namespace keep the frame**, whatever goes wrong. -/
theorem effect {effect : Effect Role} {answer : effect.Answer} (h : v.Framed kind space start)
    (hwithin : effect.Within space) (henv : hosting kind v effect answer v') : v'.Framed kind space start := by
  cases effect with
  | execute role request =>
    obtain ⟨u, s', hu, hfares, rfl⟩ := henv
    have hframed := h.befallen hu
    obtain ⟨r', hexecuted⟩ := hfares.executed
    cases role with
    | master =>
      have hnames : request.Names space := hwithin.elim Request.Reads.names Client.IsLogin.names
      obtain ⟨hset, hlog⟩ := hwithin.elim Request.Reads.quiet Client.IsLogin.quiet
      have hspaces := hexecuted.namespaces_eq hset hlog
      have hrequest : ∀ sent, some request = some sent → sent.Reads space ∨ Client.IsLogin space sent := by
        rintro _ ⟨⟩
        exact hwithin
      exact (hframed.visitMaster (hexecuted.turns hnames hframed.master) hspaces hrequest).note _ _ _
    | slave => exact (hframed.visitSlave (hexecuted.turns hwithin hframed.slave) (some request)).note _ _ _
  | reopen role =>
    obtain ⟨u, s', hu, hfares, rfl⟩ := henv
    have hframed := h.befallen hu
    cases role with
    | master =>
      exact hframed.visitMaster (hfares.turns_of_reopen hframed.master) hfares.reopened.1 nofun
    | slave => exact hframed.visitSlave (hfares.turns_of_reopen hframed.slave) none
  | stopRequested | wait _ | rest _ | report _ | log _ _ | clock =>
    obtain ⟨u, hu, rfl⟩ := henv
    exact h.befallen hu

end Stage.Framed

namespace Session

variable {session : Session Role} {start : Scene} {v : Stage}

/-- What a session keeps, whatever it does: it replicates that namespace, and nothing else was changed. -/
def Abides (kind : Incident → Prop) (space : String) (start : Scene) (session : Session Role) (v : Stage) : Prop :=
  session.Wired space ∧ v.Framed kind space start

theorem within_of_asksToConnect {c : Client Role} (hspace : c.target.space = space) {effect : Effect Role}
    (h : c.AsksToConnect effect) : effect.Within space := by
  cases h with
  | @request request hlogin =>
    rw [hspace] at hlogin
    cases hlink : c.link with
    | master => exact .inr hlogin
    | slave => exact hlogin.names
  | reopen | log _ _ => trivial

/-- Nothing that a session does beside its steps breaks the frame. -/
theorem unaffected_abides : Unaffected (Stage.hosting kind) (Stage.Framed kind space start)
    (Abides kind space start) where
  master := fun _ _ _ ⟨hwired, h⟩ => ⟨hwired.of_ends rfl ⟨rfl, rfl⟩ ⟨rfl, rfl⟩, h⟩
  slave := fun _ _ _ ⟨hwired, h⟩ => ⟨hwired.of_ends rfl ⟨rfl, rfl⟩ ⟨rfl, rfl⟩, h⟩
  failures := fun _ _ _ _ ⟨hwired, h⟩ => ⟨hwired.of_ends rfl ⟨rfl, rfl⟩ ⟨rfl, rfl⟩, h⟩
  reported := fun _ _ _ ⟨hwired, h⟩ => ⟨hwired.of_ends rfl ⟨rfl, rfl⟩ ⟨rfl, rfl⟩, h⟩
  effect := by
    rintro session v effect answer v' ⟨hwired, h⟩ hasks henv
    have hwithin : effect.Within space := by
      cases hasks with
      | master hconnect => exact within_of_asksToConnect hwired.masterSpace hconnect
      | slave hconnect => exact within_of_asksToConnect hwired.slaveSpace hconnect
      | pause hpause => cases hpause <;> trivial
    have h' := h.effect hwithin henv
    exact ⟨h', hwired, h'⟩
  reporting := by
    rintro session v effect answer v' ⟨hwired, h⟩ hasks henv
    have hwithin : effect.Within space := by cases hasks <;> trivial
    have h' := h.effect hwithin henv
    exact ⟨h', hwired, h'⟩

/-- Nor does anything in its steps. -/
theorem steady_abides : Steady (Stage.hosting kind) (Stage.Framed kind space start) (Abides kind space start)
    fun _ => True where
  lastMaster := fun _ _ _ ⟨hwired, h⟩ => ⟨hwired.of_ends rfl ⟨rfl, rfl⟩ ⟨rfl, rfl⟩, h⟩
  lastSlave := fun _ _ _ ⟨hwired, h⟩ => ⟨hwired.of_ends rfl ⟨rfl, rfl⟩ ⟨rfl, rfl⟩, h⟩
  effect := by
    rintro session v effect answer v' ⟨hwired, h⟩ hasks henv
    have hwithin : effect.Within space := by
      cases hasks with
      | @master request hreads =>
        rw [hwired.named] at hreads
        rw [hwired.masterLink]
        exact .inl hreads
      | @slave request htells =>
        rw [hwired.named] at htells
        rw [hwired.slaveLink]
        exact htells.names
      | log level line => trivial
    have h' := h.effect hwithin henv
    exact ⟨h', hwired, h'⟩
  fails := fun _ _ => trivial
  heldMaster := fun _ _ _ _ _ => trivial
  heldSlave := fun _ _ _ _ _ => trivial

/-! ## Uses -/

/-- What a session is used for: its clients are logged in, it is run for some rounds, or it is taken one step on. -/
inductive IsUse : {α : Type} → Action (Session Role) Role α → Prop where
  | loginMaster : IsUse (onMaster Client.establish)
  | loginSlave : IsUse (onSlave Client.establish)
  | run (limit : Nat) : IsUse (Session.run limit)
  | step : IsUse Session.step

/-- What becomes of a session and its surroundings by some uses, each of which comes to its end. -/
inductive Lives (env : Environment Role Stage) (session : Session Role) (v : Stage) : Session Role → Stage → Prop where
  | refl : Lives env session v session v
  | use {session₁ session' : Session Role} {v₁ v' : Stage} {α : Type} {x : Action (Session Role) Role α}
      {result : Except SyncError α} (earlier : Lives env session v session₁ v₁) (huse : IsUse x)
      (hrun : Program.Reaches env (x session₁) v₁ (.done (result, session')) v') : Lives env session v session' v'

/-- **Whatever a session is used for, it stays within its namespace.** -/
theorem IsUse.maintains {x : Action (Session Role) Role α} (h : IsUse x) :
    Action.Maintains (Stage.hosting kind) (Stage.Framed kind space start) (Abides kind space start)
      (fun _ => True) x := by
  have hlogin : ∀ failure, Client.LoginFailure failure → True := fun _ _ => trivial
  cases h with
  | loginMaster =>
    refine .focus (fun _ => rfl) fun session => ?_
    intro c v hinv
    exact (Client.maintains_establish (unaffected_abides.undisturbedMaster session) c v hinv).mono
      (fun _ _ _ h => h) fun failure _ _ h => ⟨h.1, hlogin failure h.2⟩
  | loginSlave =>
    refine .focus (fun _ => rfl) fun session => ?_
    intro c v hinv
    exact (Client.maintains_establish (unaffected_abides.undisturbedSlave session) c v hinv).mono
      (fun _ _ _ h => h) fun failure _ _ h => ⟨h.1, hlogin failure h.2⟩
  | run limit =>
    refine steady_abides.run unaffected_abides (fun session v r v' hinv henv => ?_) limit
    obtain ⟨hwired, h⟩ := hinv
    rw [hwired.slaveLink, hwired.named] at henv
    have hwithin : Effect.Within space (.execute .slave (.nsFreeze space false)) := Request.names_nsFreeze false
    have h' := h.effect hwithin henv
    exact ⟨h', hwired, h'⟩
  | step => exact steady_abides.step

theorem Lives.abides {session' : Session Role} {v' : Stage} (h : Lives (Stage.hosting kind) session v session' v')
    (hinv : session.Abides kind space start v) : session'.Abides kind space start v' := by
  -- Induction on the uses: each one begins where the one before has ended.
  induction h with
  | refl => exact hinv
  | @use session₁ _ v₁ _ _ _ result _ huse hrun ih =>
    have hend := (Program.Ensures.reaches ih.2 (huse.maintains session₁ v₁ ih) hrun).2
    cases result with
    | ok value => exact hend
    | error failure => exact hend.1

/-! ## The theorem -/

/-- **Replication writes one namespace only.** However a session is used whose connections have selected nothing but
    the namespace that it replicates, and whatever happens meanwhile at the stores and to the connections: at every
    point of a use, all that was done over the connection to the master has left all its namespaces as they were, and
    was a reading of that namespace or a part of a login; all that was done over the connection to the slave has left
    all of its other namespaces as they were. Where nobody else writes, all this is as it was at the start. -/
theorem replication_writes_one_namespace {session session₁ : Session Role} {w : Scene} {v₁ v : Stage}
    (hwired : session.Wired space) (hmaster : w.master.Faces space) (hslave : w.slave.Faces space)
    (kind : Incident → Prop) (hlives : Lives (Stage.hosting kind) session ⟨w, []⟩ session₁ v₁)
    {x : Action (Session Role) Role α} (huse : IsUse x) {q : Program Role (Except SyncError α × Session Role)}
    (hrun : Program.Reaches (Stage.hosting kind) (x session₁) v₁ q v) :
    (∀ visit ∈ v.visits, visit.Confined space) ∧
      ((∀ incident, kind incident → incident.isOrder = true) →
        v.scene.master.store.namespaces = w.master.store.namespaces ∧
        ∀ other, other ≠ space →
          v.scene.slave.store.namespaces.find? other = w.slave.store.namespaces.find? other) := by
  have hstart : session.Abides kind space w ⟨w, []⟩ := ⟨hwired, hmaster, hslave, nofun, fun _ => ⟨rfl, fun _ _ => rfl⟩⟩
  have hbegin := hlives.abides hstart
  have hframed := (Program.Ensures.reaches hbegin.2 (huse.maintains session₁ v₁ hbegin) hrun).1
  exact ⟨hframed.visits, hframed.same⟩

/-- A copy in calm is such a use, and the slave has the master's log after it. -/
theorem replication_writes_one_namespace_in_calm :
    ∃ session' v, Program.Reaches (Stage.hosting fun incident => incident.isOrder = true) (run 4 (between .bulk))
        ⟨.between .twoSegments (.ofLog [] []), []⟩ (.done (.ok (some .completed), session')) v ∧
      v.scene.slave.store.segments "data" = Namespace.twoSegments.segments ∧
      (∀ visit ∈ v.visits, visit.Confined "data") ∧
      v.scene.master.store.namespaces = Table.empty.insert "data" .twoSegments := by
  have hfresh := fresh_between .bulk Namespace.logPrefix_twoSegments
  have hlength : (copyPlan (.ofLog [] []) ((Namespace.ofLog [] []).missing .twoSegments)).length < 4 := by decide
  have hwired : (between .bulk).Wired "data" := ⟨rfl, rfl, rfl, rfl, rfl⟩
  have hmaster : (Scene.between .twoSegments (.ofLog [] [])).master.Faces "data" := fun _ heq =>
    (Option.some.inj heq).symm
  have hslave : (Scene.between .twoSegments (.ofLog [] [])).slave.Faces "data" := fun _ heq =>
    (Option.some.inj heq).symm
  obtain ⟨session', w, v, hrun, rfl, hsegments⟩ := (hfresh.inCalm rfl rfl).reaches_run rfl
    Namespace.portable_twoSegments.fits₆₄ hfresh.behind (Namespace.replayed_ofLog [] []) hlength
    (Stage.hosting_of_calm (fun _ => ⟨0⟩) fun incident => incident.isOrder = true)
    (v := ⟨.between .twoSegments (.ofLog [] []), []⟩) rfl
  obtain ⟨hvisits, hsame⟩ := replication_writes_one_namespace hwired hmaster hslave _ .refl (.run 4) hrun
  exact ⟨session', v, hrun, hsegments, hvisits, (hsame fun _ => id).1⟩

end Session

end SegmentSync
