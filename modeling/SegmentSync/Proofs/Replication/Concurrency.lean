import Mathlib.Logic.Function.Basic
import SegmentSync.Proofs.Replication.Confinement
import SegmentSync.Proofs.Replication.Handshake
import SegmentSync.Proofs.Replication.Unrelated

/-!
# `SegmentSync.Proofs.Replication.Concurrency` — sessions side by side

Any number of sessions work on the same two stores, each over connections of its own and each on a namespace of its
own. They take turns in any order, and a turn is as short as a single request. What a session makes of its turns is
what it would have made of them alone.

## Contents
- **Hubs.** Two stores with the connections of many sessions; `Hub.scene` is what one of them has of it.
- **Goes.** What a session does in one go (`Session.go?`): a step, or the preparation, a step or the end of a copy.
- **Turns.** `Concert`, and what becomes of it by the turns of a schedule.
- **Footing.** What a session finds in the hub. An effect of one session moves no other one's.
- **Newcomers.** A session may open its sides beside the others (`Session.Connects.beside`, `exists_connects`).
- **The theorem.** `concurrent_sessions_independent`.
-/

namespace SegmentSync

variable {κ : Type}

/-! ## Hubs -/

/-- A master and a slave, and the connections of each session to them. -/
structure Hub (κ : Type) where
  master : Store
  slave : Store
  connections : κ → Role → Connection

namespace Hub

/-- Both stores as one session has them. -/
def scene (hub : Hub κ) (k : κ) : Scene where
  master := ⟨hub.master, hub.connections k .master⟩
  slave := ⟨hub.slave, hub.connections k .slave⟩

/-- The hub after that session has come to this scene. -/
def adopt [DecidableEq κ] (hub : Hub κ) (k : κ) (w : Scene) : Hub κ where
  master := w.master.store
  slave := w.slave.store
  connections := Function.update hub.connections k fun role => (w.serving role).connection

end Hub

/-! ## Goes -/

namespace Session

/-- What a go of a session has come to. -/
inductive Happened where
  | stepped (result : Except SyncError Step)
  | prepared (result : Except SyncError Snapshot)
  | copied (result : Except SyncError CopyStep)
  /-- The end of the freeze after a copy. -/
  | lifted (result : Except SyncError Unit)

namespace Happened

/-- The baseline that a preparation has come to. -/
def baseline? : Happened → Option Snapshot
  | .prepared (.ok baseline) => some baseline
  | _ => none

/-- A copy has been found to be done. -/
def isDone : Happened → Bool
  | .copied (.ok .done) => true
  | _ => false

/-- The end of a freeze has been requested. -/
def isLift : Happened → Bool
  | .lifted _ => true
  | _ => false

end Happened

/-- An action as a go, which tells what it has come to. -/
def noting {ι α : Type} (note : Except SyncError α → Happened) (x : Action (Session ι) ι α) (session : Session ι) :
    Program ι (Happened × Session ι) :=
  (x session).bind fun (result, session) => .done (note result, session)

/-- The next go of a session, by its strategy: a step, for ever; or the preparation of a copy until it works, then a
    step of the copy until that is done, and then the end of the freeze, if that is wanted. -/
def go? {ι : Type} (results : List Happened) (session : Session ι) : Option (Program ι (Happened × Session ι)) :=
  match session.strategy, results.findSome? Happened.baseline? with
  | .incremental, _ => some (noting .stepped step session)
  | .bulk, none => some (noting .prepared prepare session)
  | .bulk, some baseline =>
    if !results.any Happened.isDone then some (noting .copied (copyStep baseline) session)
    else if session.options.bulk.unfreezeOnCompletion && !results.any Happened.isLift then
      some (noting .lifted (onSlave (Client.setFreeze session.space false)) session)
    else none

end Session

/-! ## Turns -/

/-- A session with what its goes have come to so far, and what is left of the present one, if there is one. -/
structure Player where
  results : List Session.Happened
  running : Option (Program Role (Session.Happened × Session Role))

/-- A player at the beginning of a go, or at the end of them. -/
def Player.start (results : List Session.Happened) (session : Session Role) : Player :=
  ⟨results, session.go? results⟩

/-- Sessions that share a hub. -/
structure Concert (κ : Type) where
  players : κ → Player
  hub : Hub κ

namespace Concert

variable [DecidableEq κ]

/-- Sessions of which none has done anything yet. -/
def start (sessions : κ → Session Role) (hub : Hub κ) : Concert κ := ⟨fun k => .start [] (sessions k), hub⟩

/-- A turn of one session: an effect of its present go, or the beginning of the next one. A session that has come to
    the end of them has none. -/
def turn (time : Scene → Duration) (c : Concert κ) (k : κ) : Concert κ :=
  match (c.players k).running with
  | none => c
  | some (.done (happened, session)) =>
    { c with players := Function.update c.players k (.start ((c.players k).results ++ [happened]) session) }
  | some (.ask effect next) =>
    let (answer, w) := Scene.calm time effect (c.hub.scene k)
    { players := Function.update c.players k { c.players k with running := some (next answer) }
      hub := c.hub.adopt k w }

/-- The turns of a schedule, one after the other. -/
def play (time : Scene → Duration) (c : Concert κ) (schedule : List κ) : Concert κ := schedule.foldl (turn time) c

end Concert

/-! ## Footing -/

namespace Hub

variable [DecidableEq κ] {hub : Hub κ} {j k : κ} {space other : String} {m m' s s' : Namespace}

theorem scene_adopt_self (hub : Hub κ) (k : κ) (w : Scene) : (hub.adopt k w).scene k = ⟨w.master, w.slave, []⟩ := by
  simp [scene, adopt, Scene.serving]

theorem scene_adopt_of_ne (h : j ≠ k) (hub : Hub κ) (w : Scene) :
    (hub.adopt k w).scene j =
      ⟨⟨w.master.store, hub.connections j .master⟩, ⟨w.slave.store, hub.connections j .slave⟩, []⟩ := by
  simp [scene, adopt, h]

/-- An effect comes to the same wherever a session finds these namespaces, and the sessions of other namespaces find
    theirs unchanged. -/
def Independent (κ : Type) [DecidableEq κ] (time : Scene → Duration) (effect : Effect Role) (space : String)
    (m s : Namespace) (answer : effect.Answer) (s' : Namespace) : Prop :=
  ∀ (hub : Hub κ) (k : κ), (hub.scene k).Offers space m s → ∃ w,
    Scene.calm time effect (hub.scene k) = (answer, w) ∧ ((hub.adopt k w).scene k).Offers space m s' ∧
      ∀ j other m' s', j ≠ k → other ≠ space → (hub.scene j).Offers other m' s' →
        ((hub.adopt k w).scene j).Offers other m' s'

variable {time : Scene → Duration} {request : Request} {answer : Except ProtocolError Reply}

theorem independent_master (h : Serve.Isolated (Serve.execute request) space m answer m) :
    Independent κ time (.execute .master request) space m s answer s := by
  intro hub k hk
  obtain ⟨store', hserved, hchanged⟩ := h _ hk.master hk.masterShows
  refine ⟨_, Scene.calm_execute hserved, ?_, fun j other m' s' hne hother hj => ?_⟩
  · rw [scene_adopt_self]
    exact ⟨hk.master.changedAt hchanged, hk.masterShows.changedAt hchanged, hk.slave, hk.slaveShows⟩
  · rw [scene_adopt_of_ne hne]
    exact ⟨hj.master.changedAt hchanged, hj.masterShows.changedAt_of_ne hother hchanged, hj.slave, hj.slaveShows⟩

theorem independent_slave (h : Serve.Isolated (Serve.execute request) space s answer s') :
    Independent κ time (.execute .slave request) space m s answer s' := by
  intro hub k hk
  obtain ⟨store', hserved, hchanged⟩ := h _ hk.slave hk.slaveShows
  refine ⟨_, Scene.calm_execute hserved, ?_, fun j other m' s' hne hother hj => ?_⟩
  · rw [scene_adopt_self]
    exact ⟨hk.master, hk.masterShows, hk.slave.changedAt hchanged, hk.slaveShows.changedAt hchanged⟩
  · rw [scene_adopt_of_ne hne]
    exact ⟨hj.master, hj.masterShows, hj.slave.changedAt hchanged, hj.slaveShows.changedAt_of_ne hother hchanged⟩

theorem independent_log (level : Level) (line : String) :
    Independent κ time (.log level line) space m s () s := by
  intro hub k hk
  refine ⟨hub.scene k, rfl, ?_, fun j other m' s' hne hother hj => ?_⟩
  · rw [scene_adopt_self]
    exact hk
  · rw [scene_adopt_of_ne hne]
    exact hj

/-- **What a session asks for about its namespace is answered from its namespaces alone**, and leaves those of the
    others alone. -/
theorem independent_of_confined (κ : Type) [DecidableEq κ] (time : Scene → Duration) {effect : Effect Role}
    (h : effect.Confined space) (hm : m.HasSignedMarkers) (s : Namespace) :
    ∃ answer s', effect.Plausible answer ∧ Independent κ time effect space m s answer s' := by
  cases h with
  | master hreads =>
    obtain ⟨answer, hrecord, hisolated⟩ := Serve.isolated_of_reads hreads m
    refine ⟨answer, s, fun hcommand => ?_, independent_master hisolated⟩
    obtain ⟨at_, hanswer⟩ := hrecord hcommand
    exact ⟨m, at_, hm, hanswer⟩
  | slave hwrites =>
    obtain ⟨answer, s', hisolated⟩ := Serve.isolated_of_writes hwrites s
    exact ⟨answer, s', trivial, independent_slave hisolated⟩
  | slaveInfo =>
    obtain ⟨answer, -, hisolated⟩ := Serve.isolated_of_reads (.nsInfo : Request.Reads space _) s
    exact ⟨answer, s, trivial, independent_slave hisolated⟩
  | log level line => exact ⟨(), s, trivial, independent_log level line⟩

end Hub

/-! ## Runs of a concert -/

/-- What is left of a go asks for nothing that is not about the namespace. -/
def Player.Confined (space : String) (p : Player) : Prop :=
  ∀ running, p.running = some running →
    ∃ last, running.Ensures plausibly (IsConfined space) (fun ended _ => ended.2.Wired space) last

/-- However an action ends that keeps to its namespace, the session has the same clients as before. -/
theorem Session.Confined.goes {α : Type} {space : String} {x : Action (Session Role) Role α}
    (hx : Session.Confined space x) {session : Session Role} (h : session.Wired space)
    (note : Except SyncError α → Session.Happened) :
    (Session.noting note x session).Ensures plausibly (IsConfined space) (fun ended _ => ended.2.Wired space) none := by
  refine (Program.ensures_bind (x session) _ _ none).mpr (Program.Ensures.mono (hx session none h) ?_)
  rintro ⟨_ | value, session'⟩ last hend
  · exact hend.1
  · exact hend

theorem Player.confined_start {space : String} (results : List Session.Happened) {session : Session Role}
    (h : session.Wired space) : (Player.start results session).Confined space := by
  intro running hrunning
  refine ⟨none, ?_⟩
  unfold start Session.go? at hrunning
  dsimp only at hrunning
  split at hrunning
  · obtain rfl := Option.some.inj hrunning
    exact Session.Confined.goes Session.confined_step h .stepped
  · obtain rfl := Option.some.inj hrunning
    exact Session.Confined.goes Session.confined_prepare h .prepared
  · split at hrunning
    · obtain rfl := Option.some.inj hrunning
      exact Session.Confined.goes (Session.confined_copyStep _) h .copied
    · split at hrunning
      · obtain rfl := Option.some.inj hrunning
        rw [h.named]
        exact Session.Confined.goes (Session.confined_setFreeze false) h .lifted
      · cases hrunning

namespace Concert

variable [DecidableEq κ] {spaces : κ → String} {masters slaves slaves' : κ → Namespace} {c c' : Concert κ}

/-- Every session finds its namespaces, and its present go is about them. -/
structure Sound (spaces : κ → String) (masters slaves : κ → Namespace) (c : Concert κ) : Prop where
  offers : ∀ k, (c.hub.scene k).Offers (spaces k) (masters k) (slaves k)
  confined : ∀ k, (c.players k).Confined (spaces k)

theorem confined_update {players : κ → Player} {k : κ} {p : Player} (h : ∀ j, (players j).Confined (spaces j))
    (hp : p.Confined (spaces k)) (j : κ) : (Function.update players k p j).Confined (spaces j) := by
  by_cases hj : j = k
  · subst hj
    rw [Function.update_self]
    exact hp
  · rw [Function.update_of_ne hj]
    exact h j

/-- **A turn depends on the session and its namespaces alone**, and so does what becomes of them. -/
theorem turn_independent (time : Scene → Duration) (hdistinct : Function.Injective spaces) (k : κ)
    (hm : (masters k).HasSignedMarkers) {p : Player} (hp : p.Confined (spaces k)) (s : Namespace) :
    ∃ p' s', p'.Confined (spaces k) ∧ ∀ (c : Concert κ) (slaves : κ → Namespace), c.Sound spaces masters slaves →
      c.players k = p → slaves k = s → (c.turn time k).players = Function.update c.players k p' ∧
        (c.turn time k).Sound spaces masters (Function.update slaves k s') := by
  obtain ⟨results, running⟩ := p
  match running with
  | none =>
    -- There are no more goes.
    refine ⟨⟨results, none⟩, s, nofun, ?_⟩
    rintro c slaves hsound hplayer rfl
    have hturn : c.turn time k = c := by simp only [turn, hplayer]
    rw [hturn, Function.update_eq_self, ← hplayer, Function.update_eq_self]
    exact ⟨rfl, hsound⟩
  | some (.done ended) =>
    -- The next go begins, and nothing has been asked for.
    obtain ⟨last, hrunning⟩ := hp _ rfl
    refine ⟨.start (results ++ [ended.1]) ended.2, s, Player.confined_start _ hrunning, ?_⟩
    rintro c slaves hsound hplayer rfl
    have hturn : c.turn time k =
        { c with players := Function.update c.players k (.start (results ++ [ended.1]) ended.2) } := by
      simp only [turn, hplayer]
    rw [hturn, Function.update_eq_self]
    exact ⟨rfl, hsound.offers, confined_update hsound.confined (Player.confined_start _ hrunning)⟩
  | some (.ask effect next) =>
    obtain ⟨last, hrunning⟩ := hp _ rfl
    -- There is some answer, so that the effect is about the namespace; then there is just one answer in the hub.
    obtain ⟨any, hany⟩ := effect.exists_plausible
    have heffect : effect.Confined (spaces k) := (hrunning any _ ⟨hany, rfl⟩).1 effect rfl
    obtain ⟨answer, s', hanswer, hindependent⟩ := Hub.independent_of_confined κ time heffect hm s
    have hnext : Player.Confined (spaces k) ⟨results, some (next answer)⟩ := fun _ heq =>
      Option.some.inj heq ▸ ⟨_, (hrunning answer _ ⟨hanswer, rfl⟩).2⟩
    refine ⟨⟨results, some (next answer)⟩, s', hnext, ?_⟩
    rintro c slaves hsound hplayer rfl
    obtain ⟨w, hcalm, hhere, hothers⟩ := hindependent c.hub k (hsound.offers k)
    have hturn : c.turn time k =
        { players := Function.update c.players k ⟨results, some (next answer)⟩, hub := c.hub.adopt k w } := by
      simp only [turn, hplayer, hcalm]
    rw [hturn]
    refine ⟨rfl, fun j => ?_, confined_update hsound.confined hnext⟩
    by_cases hj : j = k
    · subst hj
      rw [Function.update_self]
      exact hhere
    · rw [Function.update_of_ne hj]
      exact hothers j _ _ _ hj (fun heq => hj (hdistinct heq)) (hsound.offers j)

/-- **What a session comes to is what it comes to by its own turns.** -/
theorem play_filter (time : Scene → Duration) (hdistinct : Function.Injective spaces)
    (hmarkers : ∀ k, (masters k).HasSignedMarkers) (k : κ) (schedule : List κ) (hc : c.Sound spaces masters slaves)
    (hc' : c'.Sound spaces masters slaves') (hplayer : c.players k = c'.players k) (hslave : slaves k = slaves' k) :
    (c.play time schedule).players k = (c'.play time (schedule.filter (· = k))).players k ∧
      ∃ s, ((c.play time schedule).hub.scene k).Offers (spaces k) (masters k) s ∧
        ((c'.play time (schedule.filter (· = k))).hub.scene k).Offers (spaces k) (masters k) s := by
  -- Induction on the schedule: only the turns of this session count, on either side.
  induction schedule generalizing c c' slaves slaves' with
  | nil => exact ⟨hplayer, slaves k, hc.offers k, hslave ▸ hc'.offers k⟩
  | cons j schedule ih =>
    obtain ⟨p, s, -, hturn⟩ := turn_independent time hdistinct j (hmarkers j) (hc.confined j) (slaves j)
    obtain ⟨hplayers, hsound⟩ := hturn c slaves hc rfl rfl
    by_cases hj : j = k
    · subst hj
      obtain ⟨hplayers', hsound'⟩ := hturn c' slaves' hc' hplayer.symm hslave.symm
      rw [List.filter_cons_of_pos (by simp)]
      refine ih hsound hsound' ?_ ?_
      · rw [hplayers, hplayers', Function.update_self, Function.update_self]
      · rw [Function.update_self, Function.update_self]
    · rw [List.filter_cons_of_neg (by simpa using hj)]
      refine ih hsound hc' ?_ ?_
      · rw [hplayers, Function.update_of_ne (Ne.symm hj)]
        exact hplayer
      · rw [Function.update_of_ne (Ne.symm hj)]
        exact hslave

end Concert

/-! ## Newcomers -/

namespace Session

variable [DecidableEq κ] {session : Session Role} {hub : Hub κ} {m s : Namespace} {w : Scene}

/-- A fresh session is connected, where the stores have no orders to misbehave. -/
theorem Fresh.connects (h : session.Fresh w m s) (hmaster : w.master.store.faults = [])
    (hslave : w.slave.store.faults = []) : session.Connects w m s where
  masterSpace := h.made_iff.1
  slaveSpace := h.made_iff.2.1
  master := h.master
  slave := h.slave
  masterFaults := hmaster
  slaveFaults := hslave

/-- **A session stays connected while another one opens its sides.** -/
theorem Connects.beside {j k : κ} (h : session.Connects (hub.scene j) m s) (hne : j ≠ k)
    (hmaster : hub.master.Alike w.master.store) (hslave : hub.slave.Alike w.slave.store) :
    session.Connects ((hub.adopt k w).scene j) m s := by
  rw [Hub.scene_adopt_of_ne hne]
  obtain ⟨hmasterSpace, hslaveSpace, master, slave, hmasterFaults, hslaveFaults⟩ := h
  exact
    { masterSpace := hmasterSpace
      slaveSpace := hslaveSpace
      master := ⟨master.link, master.authenticated, master.isOpen, hmaster.admin ▸ master.admin, master.selected,
        hmaster.namespaces ▸ master.found⟩
      slave := ⟨slave.link, slave.authenticated, slave.isOpen, hslave.admin ▸ slave.admin, slave.selected,
        hslave.namespaces ▸ slave.found⟩
      masterFaults := hmaster.faults.trans hmasterFaults
      slaveFaults := hslave.faults.trans hslaveFaults }

/-- **Two sessions may open their sides one after the other**, and both are connected then. -/
theorem exists_connects (time : Scene → Duration) {first second : Session Role} {j k : κ} {m' s' : Namespace}
    (hne : j ≠ k)
    (hfirst : make first.name first.strategy first.master first.slave first.options = .ok first)
    (hsecond : make second.name second.strategy second.master second.slave second.options = .ok second)
    (hmaster : first.master.Admissible .master (hub.scene j).master m)
    (hslave : first.slave.Admissible .slave (hub.scene j).slave s)
    (hmaster' : second.master.Admissible .master (hub.scene k).master m')
    (hslave' : second.slave.Admissible .slave (hub.scene k).slave s') (hbehind : LogPrefix s.segments m.segments)
    (hbehind' : LogPrefix s'.segments m'.segments) :
    ∃ w w', (reopen first).run (Scene.calm time) (hub.scene j) = ((.ok (), first.withLogins), w) ∧
      (reopen second).run (Scene.calm time) ((hub.adopt j w).scene k) = ((.ok (), second.withLogins), w') ∧
      first.withLogins.Connects (((hub.adopt j w).adopt k w').scene j) m s ∧
      second.withLogins.Connects (((hub.adopt j w).adopt k w').scene k) m' s' := by
  obtain ⟨w, hrun, hfresh, hmasterAlike, hslaveAlike⟩ := runs_reopen time hfirst hmaster hslave hbehind
  -- The second session finds the stores as the first one did, and leaves them like that to the first one.
  have hscene : (hub.adopt j w).scene k =
      ⟨⟨w.master.store, hub.connections k .master⟩, ⟨w.slave.store, hub.connections k .slave⟩, []⟩ :=
    Hub.scene_adopt_of_ne hne.symm hub w
  have hmaster₁ : second.master.Admissible .master ((hub.adopt j w).scene k).master m' :=
    hscene ▸ hmaster'.of_alike hmasterAlike
  have hslave₁ : second.slave.Admissible .slave ((hub.adopt j w).scene k).slave s' :=
    hscene ▸ hslave'.of_alike hslaveAlike
  obtain ⟨w', hrun', hfresh', hmasterAlike', hslaveAlike'⟩ := runs_reopen time hsecond hmaster₁ hslave₁ hbehind'
  have hconnects : first.withLogins.Connects ((hub.adopt j w).scene j) m s := by
    rw [Hub.scene_adopt_self]
    exact hfresh.connects (hmasterAlike.faults.trans hmaster.faults) (hslaveAlike.faults.trans hslave.faults)
  have hconnects' : second.withLogins.Connects (((hub.adopt j w).adopt k w').scene k) m' s' := by
    rw [Hub.scene_adopt_self]
    exact hfresh'.connects (hmasterAlike'.faults.trans hmaster₁.faults) (hslaveAlike'.faults.trans hslave₁.faults)
  rw [hscene] at hmasterAlike' hslaveAlike'
  exact ⟨w, w', hrun, hrun', hconnects.beside hne hmasterAlike' hslaveAlike', hconnects'⟩

end Session

/-! ## The theorem -/

namespace Session

/-- **Sessions side by side do not get into each other's way.** Each of them works on a namespace of its own, and they
    take turns in any order. What a session's goes have come to by then, and what is left of the present one, is what
    they would have come to by its own turns alone; so is its slave's namespace, with all that belongs to it. -/
theorem concurrent_sessions_independent [DecidableEq κ] (time : Scene → Duration) {sessions : κ → Session Role}
    {hub : Hub κ} {masters slaves : κ → Namespace}
    (hdistinct : ∀ j k, (sessions j).space = (sessions k).space → j = k)
    (hconnects : ∀ k, (sessions k).Connects (hub.scene k) (masters k) (slaves k))
    (hmarkers : ∀ k, ∀ segment ∈ (masters k).segments, ∀ entry ∈ segment, entry.marker.toNat < 2 ^ 63)
    (schedule : List κ) (k : κ) :
    let together := (Concert.start sessions hub).play time schedule
    let alone := (Concert.start sessions hub).play time (schedule.filter (· = k))
    together.players k = alone.players k ∧
      ∃ s', together.hub.slave.namespaces.find? (sessions k).space = some s' ∧
        alone.hub.slave.namespaces.find? (sessions k).space = some s' := by
  intro together alone
  have hsound : (Concert.start sessions hub).Sound (fun k => (sessions k).space) masters slaves :=
    ⟨fun k => (hconnects k).meets.toOffers, fun k => Player.confined_start [] (hconnects k).meets.wired⟩
  obtain ⟨hplayer, s', htogether, halone⟩ :=
    Concert.play_filter time hdistinct hmarkers k schedule hsound hsound rfl rfl
  exact ⟨hplayer, s', htogether.slaveShows.found, halone.slaveShows.found⟩

/-- A session over a namespace of that name. -/
def ofSpace (space : String) (strategy : Strategy) : Session Role :=
  let session := between strategy
  { session with
    space
    master := { session.master with target := { session.master.target with space } }
    slave := { session.slave with target := { session.slave.target with space } } }

/-- Two namespaces of the same log, and connections for a session each on which nobody is logged in yet. -/
def duo : Hub Bool where
  master :=
    { admin := some "secret"
      namespaces := (Table.empty.insert "copied" Namespace.twoSegments).insert "followed" .twoSegments }
  slave := { namespaces := (Table.empty.insert "copied" (.ofLog [] [])).insert "followed" (.ofLog [] []) }
  connections := fun _ _ => {}

/-- Two sessions, one after the other of which opens its sides; then they make steps and a copy by turns. -/
theorem concurrent_sessions_independent_duo :
    let time : Scene → Duration := fun _ => ⟨0⟩
    let follower := ofSpace "followed" .incremental
    let copier := ofSpace "copied" .bulk
    let sessions := fun k : Bool => if k then follower else copier
    ∃ w w', (reopen follower).run (Scene.calm time) (duo.scene true) = ((.ok (), follower), w) ∧
      (reopen copier).run (Scene.calm time) ((duo.adopt true w).scene false) = ((.ok (), copier), w') ∧
      ∀ schedule k,
        let together := (Concert.start sessions ((duo.adopt true w).adopt false w')).play time schedule
        let alone := (Concert.start sessions ((duo.adopt true w).adopt false w')).play time (schedule.filter (· = k))
        together.players k = alone.players k ∧
          ∃ s', together.hub.slave.namespaces.find? (sessions k).space = some s' ∧
            alone.hub.slave.namespaces.find? (sessions k).space = some s' := by
  intro time follower copier sessions
  have hprefix := Namespace.logPrefix_twoSegments
  have hmaster : ∀ k, (sessions k).master.Admissible .master (duo.scene k).master .twoSegments := by
    intro k
    cases k <;> exact ⟨rfl, rfl, rfl, rfl, rfl, .inl rfl⟩
  have hslave : ∀ k, (sessions k).slave.Admissible .slave (duo.scene k).slave (.ofLog [] []) := by
    intro k
    cases k <;> exact ⟨rfl, rfl, rfl, rfl, rfl, rfl⟩
  obtain ⟨w, w', hfollower, hcopier, hconnects, hconnects'⟩ := exists_connects time Bool.false_ne_true.symm rfl rfl
    (hmaster true) (hslave true) (hmaster false) (hslave false) hprefix hprefix
  have hdistinct : ∀ j k, (sessions j).space = (sessions k).space → j = k := by decide
  have hall : ∀ k, (sessions k).Connects (((duo.adopt true w).adopt false w').scene k) .twoSegments (.ofLog [] []) :=
    Bool.forall_bool.mpr ⟨hconnects', hconnects⟩
  have hmarkers := Namespace.portable_twoSegments.markers_lt
  exact ⟨w, w', hfollower, hcopier, concurrent_sessions_independent time hdistinct hall fun _ => hmarkers⟩

end Session

end SegmentSync
