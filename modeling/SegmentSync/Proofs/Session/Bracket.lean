import SegmentSync.Proofs.Session.Errands
import SegmentSync.Proofs.Session.Writes

/-!
# `SegmentSync.Proofs.Session.Bracket` — a copy is made within a freeze

Whatever the stores answer, and whenever connections fail or the session is stopped: a bulk run freezes its slave before
it changes it, however often it has to begin anew, and ends the freeze at most once, as the last thing that it asks
for. It does so only when the baseline is reached and the options want it.

## Contents
- **Freezes.** `Session.Bracketing` is what a trace is like before the end of the freeze.
- **What a session keeps.** `Session.Holding`: nothing that a session does beside the end of the freeze breaks it.
- **Copies.** In the course of a copy that has a baseline, the slave is frozen (`Captured.freezeDone`).
- **The end of the freeze.** `Session.Lifted`, and how it goes with the end of the run (`Session.Bracketed`).
- **The run.** `Session.bracketed_of_run`.
-/

namespace SegmentSync.Session

variable {α : Type} {space : String} {session s : Session Role} {w : Trace Role} {event : Event Role}
  {baseline : Option Snapshot}

/-! ## Freezes -/

/-- The slave was told to freeze, and has acknowledged that. -/
def FreezeDone (space : String) (w : Trace Role) : Prop :=
  ∃ reply, Event.sent .slave (.nsFreeze space true) (.ok reply) ∈ w

theorem FreezeDone.cons (h : FreezeDone space w) : FreezeDone space (event :: w) := by
  obtain ⟨reply, hmem⟩ := h
  exact ⟨reply, List.mem_cons_of_mem _ hmem⟩

/-- No flag was set but to freeze the slave, and no log was changed before that was done. -/
structure Bracketing (space : String) (w : Trace Role) : Prop where
  freezes : ∀ link request r, Event.sent link request r ∈ w → request.command = .nsSet →
    link = .slave ∧ request = .nsFreeze space true
  changes : w.Each fun earlier event => ∀ link request r, event = .sent link request r →
    request.command.changesLog = true → FreezeDone space earlier

theorem bracketing_nil : Bracketing space [] where
  freezes := fun _ _ _ hmem => absurd hmem List.not_mem_nil
  changes := .nil

theorem Bracketing.cons (h : Bracketing space w)
    (hset : ∀ link request r, event = .sent link request r → request.command = .nsSet →
      link = .slave ∧ request = .nsFreeze space true)
    (hchange : ∀ link request r, event = .sent link request r → request.command.changesLog = true →
      FreezeDone space w) : Bracketing space (event :: w) where
  freezes := by
    intro link request r hmem hcommand
    rcases List.mem_cons.mp hmem with rfl | hearlier
    · exact hset link request r rfl hcommand
    · exact h.freezes link request r hearlier hcommand
  changes := h.changes.cons hchange

/-- What has happened before some time. -/
theorem Bracketing.of_append (later : Trace Role) (h : Bracketing space (later ++ w)) : Bracketing space w where
  freezes := fun link request r hmem => h.freezes link request r (List.mem_append_right later hmem)
  changes := by
    rintro more event earlier rfl
    exact h.changes (later ++ more) event earlier (List.append_assoc _ _ _).symm

/-- A request that neither sets a flag nor changes a log. -/
theorem Bracketing.quiet (h : Bracketing space w) {link : Role} {request : Request} (r : Except ProtocolError Reply)
    (hquiet : request.command ≠ .nsSet ∧ request.command.changesLog = false) :
    Bracketing space (.sent link request r :: w) := by
  refine h.cons (fun _ _ _ heq hcommand => ?_) fun _ _ _ heq hcommand => ?_
  · cases heq
    exact absurd hcommand hquiet.1
  · cases heq
    exact absurd (hcommand.symm.trans hquiet.2) nofun

/-- Anything but a request. -/
theorem Bracketing.beside (h : Bracketing space w) (hevent : ∀ link request r, event ≠ .sent link request r) :
    Bracketing space (event :: w) :=
  h.cons (fun link request r heq => absurd heq (hevent link request r))
    fun link request r heq => absurd heq (hevent link request r)

/-- Only requests are requests. -/
theorem ne_sent_of_ne {effect : Effect Role} {answer : effect.Answer}
    (h : ∀ link request, effect ≠ .execute link request) (link : Role) (request : Request)
    (r : Except ProtocolError Reply) : (⟨effect, answer⟩ : Event Role) ≠ .sent link request r :=
  fun heq => h link request (congrArg Event.effect heq)

theorem ne_sent_of_not_contact (h : event.isContact = false) (link : Role) (request : Request)
    (r : Except ProtocolError Reply) : event ≠ .sent link request r := by
  rintro rfl
  cases h

/-! ## What a session keeps -/

/-- The session is what it was, and its slave was told to freeze at most. -/
structure Holding (session s : Session Role) (w : Trace Role) : Prop where
  named : s.space = session.space
  slaveLink : s.slave.link = .slave
  options : s.options = session.options
  bracketing : Bracketing session.space w

theorem Holding.of_bracketing {w' : Trace Role} (h : Holding session s w) (hw : Bracketing session.space w') :
    Holding session s w' :=
  ⟨h.named, h.slaveLink, h.options, hw⟩

theorem Holding.connect (h : Holding session s w) {client : Client Role} {effect : Effect Role}
    (hasks : client.AsksToConnect effect) (answer : effect.Answer) : Holding session s (⟨effect, answer⟩ :: w) := by
  refine h.of_bracketing ?_
  cases hasks with
  | request hlogin => exact h.bracketing.quiet answer hlogin.quiet
  | reopen | log _ _ => exact h.bracketing.beside (ne_sent_of_ne nofun)

/-- Recovering and reporting set no flag and change no log. -/
theorem unaffected_holding (session : Session Role) :
    Unaffected recording (fun _ => True) fun s w => Holding session s w where
  master := fun _ _ _ h => ⟨h.named, h.slaveLink, h.options, h.bracketing⟩
  slave := fun _ _ _ h => ⟨h.named, h.slaveLink, h.options, h.bracketing⟩
  failures := fun _ _ _ _ h => ⟨h.named, h.slaveLink, h.options, h.bracketing⟩
  reported := fun _ _ _ h => ⟨h.named, h.slaveLink, h.options, h.bracketing⟩
  effect := by
    rintro s w effect answer _ h hasks rfl
    refine ⟨trivial, ?_⟩
    cases hasks with
    | master hconnect => exact h.connect hconnect answer
    | slave hconnect => exact h.connect hconnect answer
    | pause hpause =>
      cases hpause with
      | look | wait | rest => exact h.of_bracketing (h.bracketing.beside (ne_sent_of_ne nofun))
  reporting := by
    rintro s w effect answer _ h hasks rfl
    refine ⟨trivial, h.of_bracketing (h.bracketing.beside (ne_sent_of_ne ?_))⟩
    cases hasks <;> exact nofun

theorem Bracketing.freeze (h : Bracketing space w) (r : Except ProtocolError Reply) :
    Bracketing space (.sent .slave (.nsFreeze space true) r :: w) := by
  refine h.cons (fun _ _ _ heq _ => ?_) fun _ _ _ heq hcommand => ?_
  · cases heq
    exact ⟨rfl, rfl⟩
  · cases heq
    cases hcommand

/-- Preparing a copy freezes the slave and changes no log. -/
theorem preparable_holding (session : Session Role) :
    Preparable recording (fun _ => True) (fun s w => Holding session s w) fun _ => True where
  lastMaster := fun _ _ _ h => ⟨h.named, h.slaveLink, h.options, h.bracketing⟩
  lastSlave := fun _ _ _ h => ⟨h.named, h.slaveLink, h.options, h.bracketing⟩
  preparing := by
    rintro s w effect answer _ h hasks rfl
    refine ⟨trivial, h.of_bracketing ?_⟩
    cases hasks with
    | master hreads => exact h.bracketing.quiet answer hreads.quiet
    | slaveInfo => exact h.bracketing.quiet answer Request.Reads.nsInfo.quiet
    | freeze =>
      rw [h.named, h.slaveLink]
      exact h.bracketing.freeze answer
    | log level line => exact h.bracketing.beside (ne_sent_of_ne nofun)
  fails := fun _ _ => trivial
  heldMaster := fun _ _ _ _ _ => trivial
  heldSlave := fun _ _ _ _ _ => trivial

/-- Once the slave is frozen, a step may change it. -/
theorem steady_holding (session : Session Role) :
    Steady recording (fun _ => True) (fun s w => Holding session s w ∧ FreezeDone session.space w) fun _ => True where
  lastMaster := fun _ _ _ ⟨h, hdone⟩ => ⟨⟨h.named, h.slaveLink, h.options, h.bracketing⟩, hdone⟩
  lastSlave := fun _ _ _ ⟨h, hdone⟩ => ⟨⟨h.named, h.slaveLink, h.options, h.bracketing⟩, hdone⟩
  effect := by
    rintro s w effect answer _ ⟨h, hdone⟩ hasks rfl
    refine ⟨trivial, h.of_bracketing ?_, hdone.cons⟩
    cases hasks with
    | master hreads => exact h.bracketing.quiet answer hreads.quiet
    | slave htells =>
      refine h.bracketing.cons (fun _ _ _ heq hcommand => ?_) fun _ _ _ _ _ => hdone
      cases heq
      exact ⟨h.slaveLink, h.named ▸ htells.eq_nsFreeze hcommand⟩
    | log level line => exact h.bracketing.beside (ne_sent_of_ne nofun)
  fails := fun _ _ => trivial
  heldMaster := fun _ _ _ _ _ => trivial
  heldSlave := fun _ _ _ _ _ => trivial

/-! ## Copies -/

/-- What is known when a run of the session begins. -/
def start (session : Session Role) : Start := ⟨session.lastSlave, none⟩

/-- A copy that has a baseline has its slave frozen. -/
theorem Captured.freezeDone {known : Start} {snapshot : Snapshot} (h : Captured space known snapshot w)
    (hknown : known.baseline = none) : FreezeDone space w := by
  -- Induction on what has happened since the preparation that has captured the baseline.
  induction h with
  | known hbaseline => exact absurd (hknown.symm.trans hbaseline) nofun
  | prepared hfrozen hbaseline hread hnotAhead =>
    exact ⟨_, List.mem_cons_of_mem _ (List.mem_cons_of_mem _ List.mem_cons_self)⟩
  | since hevent hcaptured ih => exact ih.cons

/-- What a bulk run knows between its steps, with the baseline of the copy or without one. -/
def Underway (session : Session Role) (baseline : Option Snapshot) (s : Session Role) (w : Trace Role) : Prop :=
  s.Watched session.space session.start .bulk baseline w ∧ Holding session s w

theorem Underway.forget (h : Underway session baseline s w) : Underway session none s w := ⟨h.1.forget, h.2⟩

theorem unaffected_underway (session : Session Role) (baseline : Option Snapshot) :
    Unaffected recording (fun _ => True) (Underway session baseline) :=
  unaffected_watched.and (unaffected_holding session)

theorem Underway.prepare (h : Underway session none s w) :
    Action.Ensures recording (fun _ => True) prepare (fun snapshot => Underway session (some snapshot))
      (fun _ => Underway session none) s w := by
  have hwatched : Action.Ensures recording (fun _ => True) Session.prepare _ _ s w :=
    h.1.prepare.relax fun _ _ => trivial
  have hholding := (preparable_holding session).prepare s w h.2
  exact (hwatched.and hholding).mono (fun _ _ _ h' => h') fun _ _ _ h' => ⟨h'.1, h'.2.1⟩

/-- A step of the copy keeps the bracket, and is the last one where it has reached the baseline. -/
theorem Underway.copyStep {snapshot : Snapshot} (h : Underway session (some snapshot) s w) :
    Action.Ensures recording (fun _ => True) (copyStep snapshot)
      (fun result s' w' => Underway session (some snapshot) s' w' ∧
        (result = .done → Reached session.space session.start snapshot w'))
      (fun _ => Underway session (some snapshot)) s w := by
  have hwatched : Action.Ensures recording (fun _ => True) (Session.copyStep snapshot) _ _ s w :=
    h.1.copyStep_reached.relax fun _ _ => trivial
  have hdone := (h.1.captured snapshot rfl).freezeDone rfl
  have hholding := (steady_holding session).copyStep snapshot s w ⟨h.2, hdone⟩
  refine (hwatched.and hholding).mono ?_ fun _ _ _ h' => ⟨h'.1, h'.2.1.1⟩
  rintro result s' w' ⟨⟨hwatched', -, hreached⟩, hholding', -⟩
  exact ⟨⟨hwatched', hholding'⟩, hreached⟩

/-! ## The end of the freeze -/

/-- The end of the freeze was wanted, and requested when the baseline was reached; the slave has acknowledged it or not.
    Nothing was asked of the stores since. -/
inductive Lifted (session : Session Role) (granted : Bool) : Trace Role → Prop where
  | intro {r : Except ProtocolError Reply} {snapshot : Snapshot} {earlier : Trace Role} (since : Trace Role)
      (hsince : ∀ event ∈ since, event.isContact = false)
      (hwanted : session.options.bulk.unfreezeOnCompletion = true)
      (hreached : Reached session.space session.start snapshot earlier)
      (hbracketing : Bracketing session.space earlier)
      (hgranted : granted = true ↔ ∃ reply, r = .ok reply ∧ reply.IsOkay) :
    Lifted session granted (since ++ .sent .slave (.nsFreeze session.space false) r :: earlier)

theorem Lifted.cons {granted : Bool} (h : Lifted session granted w) (hevent : event.isContact = false) :
    Lifted session granted (event :: w) := by
  cases h with
  | intro since hsince hwanted hreached hbracketing hgranted =>
    exact .intro (event :: since) (List.forall_mem_cons.mpr ⟨hevent, hsince⟩) hwanted hreached hbracketing hgranted

/-- How a run ends: without having asked for the end of the freeze, or with it. It is granted just in those runs that
    complete. -/
inductive Bracketed (session : Session Role) (result : Except SyncError (Option Outcome)) (w : Trace Role) : Prop where
  | held (h : Bracketing session.space w)
      (hkept : result = .ok (some .completed) → session.options.bulk.unfreezeOnCompletion = false)
  | lifted {granted : Bool} (h : Lifted session granted w) (hgranted : granted = true ↔ result = .ok (some .completed))

theorem Bracketed.cons {result : Except SyncError (Option Outcome)} (h : Bracketed session result w)
    (hevent : event.isContact = false) : Bracketed session result (event :: w) := by
  cases h with
  | held h hkept => exact .held (h.beside (ne_sent_of_not_contact hevent)) hkept
  | lifted h hgranted => exact .lifted (h.cons hevent) hgranted

/-- A copy has not reached its baseline before its slave was frozen. -/
theorem Reached.freezeDone {known : Start} {snapshot : Snapshot} (h : Reached space known snapshot w)
    (hknown : known.baseline = none) : FreezeDone space w := by
  cases h with
  | intro since hsince hread hcaptured hle =>
    obtain ⟨reply, hmem⟩ := hcaptured.freezeDone hknown
    exact ⟨reply, List.mem_append_right _ (List.mem_cons_of_mem _ (List.mem_cons_of_mem _ hmem))⟩

/-- Only a freeze is ended. -/
theorem Lifted.freezeDone {granted : Bool} (h : Lifted session granted w) : FreezeDone session.space w := by
  cases h with
  | intro since _ _ hreached =>
    obtain ⟨reply, hmem⟩ := hreached.freezeDone rfl
    exact ⟨reply, List.mem_append_right _ (List.mem_cons_of_mem _ hmem)⟩

theorem Lifted.wanted {granted : Bool} (h : Lifted session granted w) :
    session.options.bulk.unfreezeOnCompletion = true := by
  cases h with
  | intro since hsince hwanted => exact hwanted

/-- A run that completes as wanted has frozen its slave. -/
theorem Bracketed.freezeDone (h : Bracketed session (.ok (some .completed)) w)
    (hwanted : session.options.bulk.unfreezeOnCompletion = true) : FreezeDone session.space w := by
  cases h with
  | held _ hkept => exact absurd (hwanted.symm.trans (hkept rfl)) nofun
  | lifted h _ => exact h.freezeDone

/-- **Every request of a run** is one before the end of the freeze, or it is that, and nothing is asked of the stores
    after it. -/
theorem Bracketed.sent {result : Except SyncError (Option Outcome)} {later earlier : Trace Role} {link : Role}
    {request : Request} {r : Except ProtocolError Reply}
    (h : Bracketed session result (later ++ .sent link request r :: earlier)) :
    Bracketing session.space (.sent link request r :: earlier) ∨
      link = .slave ∧ request = .nsFreeze session.space false ∧
        session.options.bulk.unfreezeOnCompletion = true ∧
        (∃ snapshot, Reached session.space session.start snapshot earlier) ∧
        ∀ event ∈ later, event.isContact = false := by
  cases h with
  | held h hkept => exact .inl (h.of_append _)
  | lifted h hgranted =>
    generalize hw : later ++ .sent link request r :: earlier = w at h
    cases h with
    | intro since hsince hwanted hreached hbracketing =>
      rcases Trace.append_eq_append_cons hw.symm with ⟨m, rfl, -⟩ | ⟨m, rfl, hrest⟩
      · have hcontact := hsince _ (List.mem_append_right _ List.mem_cons_self)
        cases hcontact
      · rcases List.cons_eq_append_iff.mp hrest with ⟨rfl, hsame⟩ | ⟨m, rfl, rfl⟩
        · cases hsame
          refine .inr ⟨rfl, rfl, hwanted, ⟨_, hreached⟩, ?_⟩
          rwa [List.append_nil]
        · exact .inl (hbracketing.of_append _)

/-- The copy has reached its baseline. -/
def Arrived (session : Session Role) (snapshot : Snapshot) (s : Session Role) (w : Trace Role) : Prop :=
  Underway session (some snapshot) s w ∧ Reached session.space session.start snapshot w

theorem around_arrived (session : Session Role) (snapshot : Snapshot) :
    Around recording (fun _ => True) (Arrived session snapshot) where
  around := by
    rintro s w effect answer w' ⟨h, hreached⟩ hasks henv
    have h' := ((unaffected_underway session (some snapshot)).around.around s w effect answer w' h hasks henv).2
    subst henv
    exact ⟨trivial, h', hreached.cons (not_contact_of_asksAround hasks answer)⟩
  reported := fun s w reported h => ⟨(unaffected_underway session (some snapshot)).reported s w reported h.1, h.2⟩

/-- **The freeze is ended or not**, and the run fails where it is not. -/
theorem Arrived.unfreeze {snapshot : Snapshot} (h : Arrived session snapshot s w)
    (hwanted : s.options.bulk.unfreezeOnCompletion = true) :
    Action.Ensures recording (fun _ => True) (onSlave (Client.setFreeze s.space false))
      (fun _ _ => Lifted session true) (fun failure _ => Bracketed session (.error failure)) s w := by
  obtain ⟨⟨-, hholding⟩, hreached⟩ := h
  rw [hholding.options] at hwanted
  refine (Action.ensures_focus _ _ _ _).mpr ?_
  unfold Client.setFreeze
  refine (Action.ensures_bind _ _).mpr (Client.ensures_note fun line w₁ hw₁ => ⟨trivial, ?_⟩)
  subst hw₁
  have hbracketing : Bracketing session.space (⟨.log .debug line, ()⟩ :: w) :=
    hholding.bracketing.beside (ne_sent_of_ne nofun)
  have hreached₁ : Reached session.space session.start snapshot (⟨.log .debug line, ()⟩ :: w) := hreached.cons rfl
  refine Client.ensures_callFor (fun _ => .held hbracketing nofun) fun r w₂ hw₂ => ⟨trivial, ?_⟩
  rw [hholding.slaveLink, hholding.named] at hw₂
  subst hw₂
  rw [hholding.named]
  cases hread : Client.reading (.nsFreeze session.space false) Client.ack? r with
  | ok value =>
    have hgranted := Client.reading_ack rfl hread
    exact .intro [] (List.forall_mem_nil _) hwanted hreached₁ hbracketing ⟨fun _ => hgranted, fun _ => rfl⟩
  | error failure =>
    have hrefused : ¬ ∃ reply, r = .ok reply ∧ reply.IsOkay := by
      rintro ⟨reply, rfl, hokay⟩
      rw [Client.reading_of_isOkay rfl hokay] at hread
      cases hread
    have hlifted :
        Lifted session false (.sent .slave (.nsFreeze session.space false) r :: ⟨.log .debug line, ()⟩ :: w) :=
      .intro [] (List.forall_mem_nil _) hwanted hreached₁ hbracketing ⟨nofun, fun h => absurd h hrefused⟩
    exact .lifted hlifted ⟨nofun, nofun⟩

/-! ## The run -/

/-- The course of a copy, with a baseline or without one. -/
theorem course_underway (session : Session Role) (baseline : Option Snapshot) :
    Course recording (fun _ => True) (Underway session baseline) (Underway session baseline)
      (fun _ => Underway session baseline) (fun failure _ => Bracketed session (.error failure))
      (Underway session none) :=
  (unaffected_underway session baseline).leads (unaffected_underway session none).around (fun _ _ h => h.forget)
    (fun _ _ _ _ h => .held h.2.bracketing nofun) fun _ _ _ _ _ _ hended henv => henv ▸ ⟨trivial, hended.cons rfl⟩

/-- An action that keeps what is known where it fails may be a step of the copy. -/
theorem follows_underway {x : Action (Session Role) Role α} {post : α → Session Role → Trace Role → Prop}
    (hx : ∀ s w, Underway session baseline s w →
      Action.Ensures recording (fun _ => True) x post (fun _ => Underway session baseline) s w) :
    Follows recording (fun _ => True) (Underway session baseline)
      (Failing (fun _ => Underway session baseline) fun failure _ => Bracketed session (.error failure)) x post := by
  intro s w h
  refine (hx s w h).mono (fun _ _ _ h' => h') fun failure s' w' h' => ?_
  unfold Failing
  cases failure.transient? with
  | some last => exact h'
  | none => exact .held h'.2.bracketing nofun

theorem ensures_bracketed (hmaster : session.master.link = .master) (hslave : session.slave.link = .slave)
    (hstrategy : session.strategy = .bulk) (limit : Nat) :
    Action.Ensures recording (fun _ => True) (run limit) (fun outcome _ => Bracketed session (.ok outcome))
      (fun failure _ => Bracketed session (.error failure)) session [] := by
  have hstart : Underway session none session [] :=
    ⟨⟨rfl, hmaster, hslave, rfl, nofun, changesWarranted_nil⟩, rfl, hslave, rfl, bracketing_nil⟩
  have hcopy : ∀ snapshot, Follows recording (fun _ => True) (Underway session (some snapshot))
      (Failing (fun _ => Underway session (some snapshot)) fun failure _ => Bracketed session (.error failure))
      (copyStep snapshot) (Stages.Copied (Arrived session snapshot) (Underway session (some snapshot))) := by
    intro snapshot
    refine follows_underway fun s w h => h.copyStep.mono ?_ fun _ _ _ h' => h'
    rintro (_ | _ | _) s' w' ⟨h', hreached⟩
    · exact h'
    · exact h'
    · exact ⟨h', hreached rfl⟩
  have hbulk : Follows recording (fun _ => True) (Underway session none)
      (fun failure _ => Bracketed session (.error failure)) (runBulk limit)
      fun outcome _ => Bracketed session (.ok outcome) := by
    intro s w h
    refine ((course_underway session none).completes (fun snapshot => course_underway session (some snapshot))
      (around_arrived session) (fun _ => around_of_cons fun _ _ h' hevent => h'.cons hevent)
      (follows_underway fun s w h => h.prepare) hcopy (fun _ s w h' => h'.unfreeze) limit s w h).mono ?_
      fun _ _ _ h' => h'
    rintro (_ | _ | _) s' w' h'
    · exact .held h'.2.bracketing nofun
    · obtain ⟨snapshot, hlifted | ⟨hkept, harrived⟩⟩ := h'
      · exact .lifted hlifted ⟨fun _ => rfl, fun _ => rfl⟩
      · exact .held harrived.1.2.bracketing fun _ => harrived.1.2.options ▸ hkept
    · exact .held h'.2.bracketing nofun
  refine (course_underway session none).runs (fun _ => hstart) (fun _ => .held bracketing_nil nofun)
    (fun _ => around_of_cons fun _ _ h hevent => h.cons hevent) (fun _ => hbulk) fun hincremental => ?_
  rw [hstrategy] at hincremental
  cases hincremental

/-- **A bulk run is bracketed by the freeze of its slave.** -/
theorem bracketed_of_run (hmaster : session.master.link = .master) (hslave : session.slave.link = .slave)
    (hstrategy : session.strategy = .bulk) {limit : Nat} {result : Except SyncError (Option Outcome)}
    {session' : Session Role} (hrun : (run limit).Runs session w result session') : Bracketed session result w := by
  have hend := (hrun.ensured trivial (ensures_bracketed hmaster hslave hstrategy limit)).2
  cases result <;> exact hend

end SegmentSync.Session
