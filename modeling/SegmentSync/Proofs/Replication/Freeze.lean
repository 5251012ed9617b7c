import SegmentSync.Proofs.Replication.Frame
import SegmentSync.Proofs.Session.Bracket

/-!
# `SegmentSync.Proofs.Replication.Freeze` — a slave is frozen while it is copied to

What a bulk run does about the flag of its slave shows in what the slave was told (`Session.Bracketed`), and the flag
is what the slave was told last, as nobody else writes to it and no answer is lost: a store in memory does what it is
asked before its connection can fail.

## Contents
- **Slaves.** `Hosted`: the slave of a session, and everything that the session has asked for, each with the slave as it
  was found then. `Hosted.serving` lets anything go wrong that a store can be ordered to do wrong.
- **Flags.** `flagAfter` reads the flag from what was asked for, and `Hosted.Sound` says that this is right at all
  times.
- **The theorem.** `copied_within_freeze`.
-/

namespace SegmentSync

variable {α : Type} {space : String} {start : Bool}

/-! ## Slaves -/

/-- How something fares that is asked of a store whose answers are not lost. -/
inductive Serve.Settles {α : Type} (x : Serve α) (s : Serving) : Except ProtocolError α → Serving → Prop where
  /-- The store does it. -/
  | served : Settles x s (x.on s).1 (x.on s).2
  /-- The connection fails before. -/
  | unsent (reason : String) (isOpen : Bool) : Settles x s (.error (.transport reason)) (s.withOpen isOpen)

theorem Serve.Settles.fares {x : Serve α} {s s' : Serving} {r : Except ProtocolError α} (h : x.Settles s r s') :
    x.Fares s r s' := by
  cases h with
  | served => exact .served
  | unsent reason isOpen => exact .unsent reason isOpen

/-- The effect is asked of the slave. -/
def Effect.isOnSlave : Effect Role → Bool
  | .execute .slave _ | .reopen .slave => true
  | _ => false

namespace Serving

/-- The end of a connection, and its store was ordered to misbehave since. -/
def Ordered (s u : Serving) : Prop :=
  ∃ orders : List Incident, (∀ incident ∈ orders, incident.isOrder = true) ∧
    u = { s with store := orders.foldl Store.suffer s.store }

theorem ordered_refl (s : Serving) : s.Ordered s := ⟨[], nofun, rfl⟩

/-- An effect meets the slave of a session: it is asked of the slave, or leaves it alone. -/
inductive Meets (u : Serving) : (effect : Effect Role) → effect.Answer → Serving → Prop where
  | request {request : Request} {r : Except ProtocolError Reply} {s' : Serving}
      (h : (Serve.execute request).Settles u r s') : Meets u (.execute .slave request) r s'
  | opening {r : Except ProtocolError Unit} {s' : Serving} (h : Serve.reopen.Settles u r s') :
    Meets u (.reopen .slave) r s'
  | beside {effect : Effect Role} (answer : effect.Answer) (h : effect.isOnSlave = false) : Meets u effect answer u

end Serving

/-- Something that was asked for and its answer, and the slave as it was found then. -/
structure Encounter where
  event : Event Role
  found : Serving

/-- The slave of a session, and what the session has asked for, the latest first. -/
structure Hosted where
  slave : Serving
  past : List Encounter := []

namespace Hosted

/-- What has happened. -/
def trace (v : Hosted) : Trace Role := v.past.map Encounter.event

/-- Before every effect the slave may be ordered to misbehave. It serves what it is asked, or its connection fails
    before; the master and all else have any answer. -/
def serving : Environment Role Hosted := fun v effect answer v' =>
  ∃ u, v.slave.Ordered u ∧ u.Meets effect answer v'.slave ∧ v'.past = ⟨⟨effect, answer⟩, u⟩ :: v.past

/-- What happens to a session here is one of the things that can happen to it anywhere. -/
theorem reaches_recording {p q : Program Role α} {v v' : Hosted} (h : p.Reaches serving v q v') :
    p.Reaches recording v.trace q v'.trace := by
  induction h with
  | refl p v => exact .refl _ _
  | @step effect next answer v v₁ v' q henv _ ih =>
    obtain ⟨u, -, -, hpast⟩ := henv
    have hrecorded : recording v.trace effect answer v₁.trace := by
      show v₁.past.map Encounter.event = _
      rw [hpast]
      rfl
    exact .step hrecorded ih

/-- Calm is one of the ways in which things can go. -/
theorem serving_of_calm (time : Scene → Duration) (w : Scene) (v : Hosted) (effect : Effect Role)
    (h : v.slave = w.slave) :
    ∃ v', serving v effect (Scene.calm time effect w).1 v' ∧ v'.slave = (Scene.calm time effect w).2.slave := by
  have hquiet := v.slave.ordered_refl
  have hbeside : ∀ answer : effect.Answer, effect.isOnSlave = false →
      ∃ v', serving v effect answer v' ∧ v'.slave = v.slave := fun answer heffect =>
    ⟨⟨v.slave, ⟨⟨effect, answer⟩, v.slave⟩ :: v.past⟩, ⟨v.slave, hquiet, .beside answer heffect, rfl⟩, rfl⟩
  cases effect with
  | execute role request =>
    cases role with
    | master => exact h ▸ hbeside _ rfl
    | slave => exact ⟨⟨_, _⟩, ⟨v.slave, hquiet, .request (h ▸ .served), rfl⟩, rfl⟩
  | reopen role =>
    cases role with
    | master => exact h ▸ hbeside _ rfl
    | slave => exact ⟨⟨_, _⟩, ⟨v.slave, hquiet, .opening (h ▸ .served), rfl⟩, rfl⟩
  | stopRequested | wait _ | rest _ | report _ | log _ _ | clock => exact h ▸ hbeside _ rfl

end Hosted

/-! ## Flags -/

/-- The flag of the slave's namespace after what has happened. -/
def flagAfter (space : String) (start : Bool) : Trace Role → Bool
  | [] => start
  | .sent .slave request (.ok _) :: earlier => (request.setsFlag? space).getD (flagAfter space start earlier)
  | _ :: earlier => flagAfter space start earlier

variable {w : Trace Role}

theorem flagAfter_nsFreeze (enabled : Bool) (reply : Reply) :
    flagAfter space start (.sent .slave (.nsFreeze space enabled) (.ok reply) :: w) = enabled := by
  show ((Request.nsFreeze space enabled).setsFlag? space).getD _ = enabled
  rw [Request.setsFlag?_nsFreeze]
  rfl

/-- What sets no flag changes none. -/
theorem flagAfter_of_ne {event : Event Role}
    (h : ∀ request reply, event = .sent .slave request (.ok reply) → request.command ≠ .nsSet) :
    flagAfter space start (event :: w) = flagAfter space start w := by
  obtain ⟨effect, answer⟩ := event
  cases effect with
  | execute role request =>
    cases role with
    | master => rfl
    | slave =>
      cases answer with
      | error failure => rfl
      | ok reply =>
        show (request.setsFlag? space).getD _ = _
        rw [Request.setsFlag?_of_ne (h request reply rfl)]
        rfl
  | reopen role => rfl
  | stopRequested | wait _ | rest _ | report _ | log _ _ | clock => rfl

theorem flagAfter_beside {effect : Effect Role} (answer : effect.Answer) (h : effect.isOnSlave = false) :
    flagAfter space start (⟨effect, answer⟩ :: w) = flagAfter space start w := by
  refine flagAfter_of_ne fun request reply heq => ?_
  cases heq
  cases h

theorem flagAfter_since (since : Trace Role) (h : ∀ event ∈ since, event.isContact = false) :
    flagAfter space start (since ++ w) = flagAfter space start w := by
  induction since with
  | nil => rfl
  | cons event since ih =>
    obtain ⟨hevent, hsince⟩ := List.forall_mem_cons.mp h
    refine (flagAfter_of_ne fun request reply heq => ?_).trans (ih hsince)
    exact absurd heq (Session.ne_sent_of_not_contact hevent _ _ _)

/-- **Before the end of the freeze** the flag is set just where the slave has been frozen, or was so at the start. -/
theorem Session.Bracketing.flagAfter_eq (h : Session.Bracketing space w) (start : Bool) :
    (Session.FreezeDone space w → flagAfter space start w = true) ∧
      (¬ Session.FreezeDone space w → flagAfter space start w = start) := by
  -- Induction on what has happened: a flag that is set is a freeze.
  induction w with
  | nil => exact ⟨fun ⟨_, hmem⟩ => absurd hmem List.not_mem_nil, fun _ => rfl⟩
  | cons event w ih =>
    have hbefore := ih (h.of_append [event])
    by_cases hfreeze : ∃ reply, event = .sent .slave (.nsFreeze space true) (.ok reply)
    · obtain ⟨reply, rfl⟩ := hfreeze
      exact ⟨fun _ => flagAfter_nsFreeze true reply, fun hnone => absurd ⟨reply, List.mem_cons_self⟩ hnone⟩
    · have hsame : flagAfter space start (event :: w) = flagAfter space start w := by
        refine flagAfter_of_ne fun request reply heq hset => hfreeze ⟨reply, ?_⟩
        obtain ⟨-, rfl⟩ := h.freezes .slave request (.ok reply) (heq ▸ List.mem_cons_self) hset
        exact heq
      rw [hsame]
      refine ⟨fun ⟨reply, hmem⟩ => hbefore.1 ⟨reply, ?_⟩, fun hnone => hbefore.2 fun hdone => hnone hdone.cons⟩
      exact (List.mem_cons.mp hmem).resolve_left fun heq => hfreeze ⟨reply, heq.symm⟩

/-- **After the end of the freeze** the flag is set just where that was not granted. -/
theorem Session.Lifted.flagAfter_eq {session : Session Role} {granted : Bool} (h : session.Lifted granted w)
    (hokay : ∀ request reply, Event.sent .slave request (.ok reply) ∈ w → request.command = .nsSet → reply = .okay) :
    flagAfter session.space start w = !granted := by
  cases h with
  | @intro r snapshot earlier since hsince hwanted hreached hbracketing hgranted =>
    rw [flagAfter_since since hsince]
    cases r with
    | error failure =>
      have hrefused : granted = false := by
        refine Bool.eq_false_iff.mpr fun htrue => ?_
        obtain ⟨_, hok, -⟩ := hgranted.mp htrue
        cases hok
      rw [hrefused]
      exact (hbracketing.flagAfter_eq start).1 (hreached.freezeDone rfl)
    | ok reply =>
      obtain rfl := hokay _ reply (List.mem_append_right _ List.mem_cons_self) rfl
      rw [hgranted.mpr ⟨_, rfl, trivial⟩]
      exact flagAfter_nsFreeze false .okay

/-- The flag has always been what was asked for last, and what sets it was acknowledged as usual. -/
structure Hosted.Sound (space : String) (start : Bool) (v : Hosted) : Prop where
  flag : v.slave.store.isFrozen space = flagAfter space start v.trace
  found : ∀ later encounter earlier, v.past = later ++ encounter :: earlier →
    encounter.found.store.isFrozen space = flagAfter space start (earlier.map Encounter.event)
  acknowledged : ∀ request reply, Event.sent .slave request (.ok reply) ∈ v.trace → request.command = .nsSet →
    reply = .okay

/-- No order changes a flag. -/
theorem Serving.Ordered.isFrozen_eq {s u : Serving} (h : s.Ordered u) (name : String) :
    u.store.isFrozen name = s.store.isFrozen name := by
  obtain ⟨orders, horders, rfl⟩ := h
  unfold Store.isFrozen
  rw [Store.namespaces_foldl_suffer orders s.store horders]

/-- What was asked of the slave changes its flag as it should, and is acknowledged where it does. -/
theorem Serve.Settles.executed {request : Request} {u s' : Serving} {r : Except ProtocolError Reply}
    (h : (execute request).Settles u r s') : Executed request u r s' := by
  cases h with
  | served => exact Serve.executed request u
  | unsent reason isOpen => exact ⟨.kept rfl fun _ => refused_transport reason, .inl rfl⟩

theorem Serve.Settles.isFrozen_eq {u s' : Serving} {r : Except ProtocolError Unit} (h : reopen.Settles u r s')
    (name : String) : s'.store.isFrozen name = u.store.isFrozen name := by
  unfold Store.isFrozen
  rw [h.fares.reopened.1]

theorem Serving.Meets.isFrozen_eq {u s' : Serving} {effect : Effect Role} {answer : effect.Answer}
    (h : u.Meets effect answer s') (hflag : u.store.isFrozen space = flagAfter space start w) :
    s'.store.isFrozen space = flagAfter space start (⟨effect, answer⟩ :: w) := by
  cases h with
  | @request _ r _ h =>
    rw [h.executed.isFrozen_eq space, hflag]
    cases r <;> rfl
  | opening h => exact (h.isFrozen_eq space).trans hflag
  | beside _ hbeside => exact hflag.trans (flagAfter_beside answer hbeside).symm

namespace Hosted

variable {v v' : Hosted}

/-- **Whatever is asked for, the flag stays what it should be.** -/
theorem Sound.step (h : v.Sound space start) {effect : Effect Role} {answer : effect.Answer}
    (henv : serving v effect answer v') : v'.Sound space start := by
  obtain ⟨u, hordered, hmeets, hpast⟩ := henv
  have hflag : u.store.isFrozen space = flagAfter space start v.trace := (hordered.isFrozen_eq space).trans h.flag
  have htrace : v'.trace = ⟨effect, answer⟩ :: v.trace := by
    unfold trace
    rw [hpast]
    rfl
  refine ⟨?_, ?_, ?_⟩
  · rw [htrace]
    exact hmeets.isFrozen_eq hflag
  · intro later encounter earlier hsplit
    rw [hpast] at hsplit
    rcases List.cons_eq_append_iff.mp hsplit with ⟨rfl, hsame⟩ | ⟨later, rfl, hearlier⟩
    · obtain ⟨rfl, rfl⟩ := List.cons.inj hsame
      exact hflag
    · exact h.found later encounter earlier hearlier
  · intro request reply hmem hset
    rw [htrace] at hmem
    rcases List.mem_cons.mp hmem with heq | hearlier
    · cases heq
      cases hmeets with
      | request hsettles =>
        rcases hsettles.executed.granted hset with hokay | ⟨failure, hfailure, -⟩
        · exact Except.ok.inj hokay
        · cases hfailure
      | beside _ hbeside => cases hbeside
    · exact h.acknowledged request reply hearlier hset

/-- **At all times of a run.** -/
theorem Sound.reaches {p q : Program Role α} (h : v.Sound space start) (hrun : p.Reaches serving v q v') :
    v'.Sound space start := by
  induction hrun with
  | refl p v => exact h
  | step henv _ ih => exact ih (h.step henv)

theorem sound_start (space : String) (slave : Serving) :
    Hosted.Sound space (slave.store.isFrozen space) ⟨slave, []⟩ where
  flag := rfl
  found := fun later encounter earlier heq => absurd heq (by simp)
  acknowledged := fun _ _ hmem => absurd hmem List.not_mem_nil

/-- What was asked for at some time, and what had happened then. -/
theorem trace_split {later earlier : List Encounter} {encounter : Encounter}
    (h : v.past = later ++ encounter :: earlier) :
    v.trace = later.map Encounter.event ++ encounter.event :: earlier.map Encounter.event := by
  unfold trace
  rw [h, List.map_append, List.map_cons]

end Hosted

/-! ## The theorem -/

namespace Session

variable {session session' : Session Role} {slave : Serving} {v : Hosted} {limit : Nat}
  {result : Except SyncError (Option Outcome)}

/-- **A slave is frozen while it is copied to.** However a bulk run goes, over a slave that only the session writes to:
    the slave is found frozen by an earlier command of the run whenever it is told to import or to go on to the next
    segment; the end of the freeze is asked for at most once, when the baseline is reached and if that is wanted, and
    nothing is asked of the stores after that; a slave that was frozen by the run is unfrozen at its end just if the run
    completes and that is wanted, and one that was not has its flag as it was. -/
theorem copied_within_freeze (hmaster : session.master.link = .master) (hslave : session.slave.link = .slave)
    (hstrategy : session.strategy = .bulk)
    (hrun : Program.Reaches Hosted.serving (run limit session) ⟨slave, []⟩ (.done (result, session')) v) :
    (∀ later encounter earlier request r, v.past = later ++ encounter :: earlier →
      encounter.event = .sent .slave request r → request.command = .dataImport ∨ request.command = .nsJump →
      encounter.found.store.isFrozen session.space = true ∧
        FreezeDone session.space (earlier.map Encounter.event)) ∧
    (∀ later encounter earlier link request r, v.past = later ++ encounter :: earlier →
      encounter.event = .sent link request r → request.command = .nsSet →
      link = .slave ∧ (request = .nsFreeze session.space true ∨
        request = .nsFreeze session.space false ∧ session.options.bulk.unfreezeOnCompletion = true ∧
          (∃ baseline, Reached session.space session.start baseline (earlier.map Encounter.event)) ∧
          ∀ encounter ∈ later, encounter.event.isContact = false)) ∧
    (FreezeDone session.space v.trace → (v.slave.store.isFrozen session.space = false ↔
      result = .ok (some .completed) ∧ session.options.bulk.unfreezeOnCompletion = true)) ∧
    (¬ FreezeDone session.space v.trace →
      v.slave.store.isFrozen session.space = slave.store.isFrozen session.space) := by
  have hbracketed := bracketed_of_run hmaster hslave hstrategy (Hosted.reaches_recording hrun)
  have hsound := (Hosted.sound_start session.space slave).reaches hrun
  refine ⟨?_, ?_, ?_⟩
  · rintro later ⟨_, found⟩ earlier request r hpast rfl hcommand
    rw [Hosted.trace_split hpast] at hbracketed
    have hchange : request.command.changesLog = true := by
      rcases hcommand with h | h <;> rw [h] <;> rfl
    rcases hbracketed.sent with hbracketing | ⟨-, rfl, -⟩
    · have hdone := hbracketing.changes [] _ _ rfl .slave request r rfl hchange
      have hbefore := hbracketing.of_append [_]
      refine ⟨?_, hdone⟩
      rw [hsound.found later _ earlier hpast]
      exact (hbefore.flagAfter_eq _).1 hdone
    · cases hchange
  · rintro later ⟨_, found⟩ earlier link request r hpast rfl hset
    rw [Hosted.trace_split hpast] at hbracketed
    rcases hbracketed.sent with hbracketing | ⟨rfl, rfl, hwanted, hreached, hsince⟩
    · obtain ⟨hlink, hfreeze⟩ := hbracketing.freezes link request r List.mem_cons_self hset
      exact ⟨hlink, .inl hfreeze⟩
    · exact ⟨rfl, .inr ⟨rfl, hwanted, hreached, fun encounter hmem => hsince _ (List.mem_map_of_mem hmem)⟩⟩
  · rw [hsound.flag]
    cases hbracketed with
    | held hbracketing hkept =>
      obtain ⟨hfrozen, hsame⟩ := hbracketing.flagAfter_eq (slave.store.isFrozen session.space)
      refine ⟨fun hdone => ?_, hsame⟩
      rw [hfrozen hdone]
      refine ⟨nofun, fun ⟨hcompleted, hwanted⟩ => ?_⟩
      exact absurd (hwanted.symm.trans (hkept hcompleted)) nofun
    | lifted hlifted hgranted =>
      refine ⟨fun _ => ?_, fun hnone => absurd hlifted.freezeDone hnone⟩
      rw [hlifted.flagAfter_eq hsound.acknowledged, Bool.not_eq_false', hgranted]
      exact ⟨fun hcompleted => ⟨hcompleted, hlifted.wanted⟩, And.left⟩

/-- A copy in calm freezes its slave, and leaves it with the master's log and unfrozen. -/
theorem copied_within_freeze_in_calm :
    ∃ session' v, Program.Reaches Hosted.serving (run 4 (between .bulk))
        ⟨(Scene.between .twoSegments (.ofLog [] [])).slave, []⟩ (.done (.ok (some .completed), session')) v ∧
      v.slave.store.segments "data" = Namespace.twoSegments.segments ∧ FreezeDone "data" v.trace ∧
      v.slave.store.isFrozen "data" = false := by
  have hfresh := fresh_between .bulk Namespace.logPrefix_twoSegments
  have hlength : (copyPlan (.ofLog [] []) ((Namespace.ofLog [] []).missing .twoSegments)).length < 4 := by decide
  obtain ⟨session', w, v, hrun, hslave, hsegments⟩ := (hfresh.inCalm rfl rfl).reaches_run rfl
    Namespace.portable_twoSegments.fits₆₄ hfresh.behind (Namespace.replayed_ofLog [] []) hlength
    (Hosted.serving_of_calm fun _ => ⟨0⟩) (v := ⟨(Scene.between .twoSegments (.ofLog [] [])).slave, []⟩) rfl
  have hdone := (bracketed_of_run rfl rfl rfl (Hosted.reaches_recording hrun)).freezeDone rfl
  obtain ⟨-, -, hfrozen, -⟩ := copied_within_freeze rfl rfl rfl hrun
  exact ⟨session', v, hrun, hslave ▸ hsegments, hdone, (hfrozen hdone).mpr ⟨rfl, rfl⟩⟩

end Session

end SegmentSync
