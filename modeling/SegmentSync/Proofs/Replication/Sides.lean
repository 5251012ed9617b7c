import SegmentSync.Proofs.Replication.Trouble
import SegmentSync.Proofs.Session.Upkeep

/-!
# `SegmentSync.Proofs.Replication.Sides` — a session in trouble, one operation at a time

`Session.Tracks` is what holds between the operations of a session, whatever goes wrong: the slave's log is a
prefix of the master's, and the readings that the session remembers are readings of what the slave has been.

## Contents
- **What holds between operations.** `Session.Tracks`, and that effects which change no namespace keep it.
- **Failures and reports.** So does all that a session does about failures, and all that it reports.
- **On track.** `Session.OnTrack` is the same for whatever the sides have by now. A run stays on track if its steps
  do (`course_onTrack`).
- **Requests.** What a reading of the master finds, and what a change of the slave leaves behind.
-/

namespace SegmentSync

open Scene (Keeps)

/-- The failure is not about impossible cursors. -/
def SyncError.Consistent (failure : SyncError) : Prop :=
  ∀ master slave fault, failure ≠ .invariantViolation master slave fault

@[simp] theorem SyncError.consistent_protocol (failure : ProtocolError) :
    SyncError.Consistent (.protocol failure) := nofun

@[simp] theorem SyncError.consistent_integrity (fault : IntegrityFault) :
    SyncError.Consistent (.integrity fault) := nofun

@[simp] theorem SyncError.consistent_auth (fault : AuthFault) : SyncError.Consistent (.auth fault) := nofun

variable {σ α : Type} {space : String} {limit : Namespace → Prop}

/-- What an action ensures in trouble, while the slave's log never leaves the master's. -/
abbrev Action.Withstands (space : String) (limit : Namespace → Prop) (x : Action σ Role α)
    (post : α → σ → Scene → Prop) (fail : SyncError → σ → Scene → Prop) (state : σ) (w : Scene) : Prop :=
  Action.Ensures (Scene.trouble space limit) (Scene.InStep space) x post fail state w

/-! ## What holds between operations -/

/-- The session replicates that namespace from the one end to the other. -/
structure Session.Wired (session : Session Role) (space : String) : Prop where
  named : session.space = space
  masterLink : session.master.link = .master
  slaveLink : session.slave.link = .slave
  masterSpace : session.master.target.space = space
  slaveSpace : session.slave.target.space = space

/-- What a session replicates is a matter of its name and its ends only. -/
theorem Session.Wired.of_ends {session session' : Session Role} {space : String} (h : session.Wired space)
    (hspace : session'.space = session.space)
    (hmaster : session'.master.link = session.master.link ∧ session'.master.target = session.master.target)
    (hslave : session'.slave.link = session.slave.link ∧ session'.slave.target = session.slave.target) :
    session'.Wired space where
  named := hspace.trans h.named
  masterLink := hmaster.1.trans h.masterLink
  slaveLink := hslave.1.trans h.slaveLink
  masterSpace := (congrArg Target.space hmaster.2).trans h.masterSpace
  slaveSpace := (congrArg Target.space hslave.2).trans h.slaveSpace

/-- The slave has `s` and the master has grown from `m` at most, of which `s` is a prefix; the session has seen
    `seen` of the master, and of the slave only what it has been. -/
structure Session.Tracks (session : Session Role) (space : String) (seen : Option Snapshot) (m s : Namespace)
    (w : Scene) : Prop where
  wired : session.Wired space
  lastMaster : session.lastMaster = seen
  lastSlave : ∀ reading, session.lastSlave = some reading →
    ∃ s₀ : Namespace, LogPrefix s₀.segments s.segments ∧ reading = s₀.snapshot
  follows : w.Follows space m s
  behind : LogPrefix s.segments m.segments

namespace Session

variable {session session' : Session Role} {seen : Option Snapshot} {m s : Namespace} {w w' : Scene}

/-- A slave is never found behind where it was, as its log only grows. -/
theorem not_movedBackwards {last : Option Snapshot}
    (hlast : ∀ reading, last = some reading →
      ∃ s₀ : Namespace, LogPrefix s₀.segments s.segments ∧ reading = s₀.snapshot)
    (hs : s.Fits (2 ^ 64)) : movedBackwards last s.snapshot = false := by
  cases last with
  | none => rfl
  | some reading =>
    obtain ⟨s₀, hs₀, rfl⟩ := hlast reading rfl
    exact decide_eq_false (Namespace.not_position_lt hs hs₀)

theorem Tracks.inStep (h : session.Tracks space seen m s w) : w.InStep space := h.follows.inStep h.behind

/-- What a session is made of shows in it. -/
theorem Fresh.made_iff (h : session.Fresh w m s) :
    session.master.target.space = session.space ∧ session.slave.target.space = session.space ∧
      session.lastMaster = none ∧ session.lastSlave = none := by
  have hmade := h.made
  unfold make at hmade
  dsimp only at hmade
  split at hmade
  · have heq := Except.ok.inj hmade
    have hspace : session.master.target.space = session.space := congrArg Session.space heq
    exact ⟨hspace, (‹_› : _ = _).trans hspace, (congrArg lastMaster heq).symm, (congrArg lastSlave heq).symm⟩
  · exact absurd hmade nofun

theorem Fresh.tracks (h : session.Fresh w m s) : session.Tracks session.space none m s w := by
  obtain ⟨hmaster, hslave, hlastMaster, hlastSlave⟩ := h.made_iff
  refine ⟨⟨rfl, h.master.link, h.slave.link, hmaster, hslave⟩, hlastMaster, ?_, ?_, h.behind⟩
  · rw [hlastSlave]; exact nofun
  · have hm := h.master.holds
    have hs := h.slave.holds
    rw [hmaster] at hm
    rw [hslave] at hs
    refine Scene.Shows.follows ⟨hm, hs, fun exchange hmem => ?_⟩
    rw [h.history] at hmem
    cases hmem

/-- Nothing that a session tracks depends on its clients' logins, its failures or its reports. -/
theorem Tracks.of_eq (h : session.Tracks space seen m s w) (hwired : session'.Wired space)
    (hmaster : session'.lastMaster = session.lastMaster) (hslave : session'.lastSlave = session.lastSlave) :
    session'.Tracks space seen m s w :=
  ⟨hwired, hmaster.trans h.lastMaster, hslave ▸ h.lastSlave, h.follows, h.behind⟩

theorem Tracks.keeps (h : session.Tracks space seen m s w) {effect : Effect Role} {answer : effect.Answer}
    (hkeeps : Keeps space effect) (htrouble : Scene.trouble space limit w effect answer w') :
    session.Tracks space seen m s w' :=
  ⟨h.wired, h.lastMaster, h.lastSlave, Scene.trouble_keeps hkeeps h.follows htrouble, h.behind⟩

/-- An effect that changes no namespace leaves the session as it is. -/
theorem Tracks.perform (h : session.Tracks space seen m s w) (effect : Effect Role)
    (hkeeps : Keeps space effect) {post : effect.Answer → Session Role → Scene → Prop}
    {fail : SyncError → Session Role → Scene → Prop}
    (hpost : ∀ answer w', session.Tracks space seen m s w' → post answer session w') :
    Action.Withstands space limit (Action.perform effect) post fail session w :=
  fun answer w' htrouble =>
    have h' := h.keeps hkeeps htrouble
    ⟨h'.inStep, hpost answer w' h'⟩

theorem Tracks.log (h : session.Tracks space seen m s w) {level : Level} {line : String}
    {post : Unit → Session Role → Scene → Prop} {fail : SyncError → Session Role → Scene → Prop}
    (hpost : ∀ w', session.Tracks space seen m s w' → post () session w') :
    Action.Withstands space limit (Action.log level line) post fail session w :=
  h.perform (.log level line) trivial fun _ => hpost

/-! ## Failures and reports -/

theorem keeps_of_asksToConnect {c : Client Role} {effect : Effect Role} (hspace : c.target.space = space)
    (h : c.AsksToConnect effect) : Keeps space effect := by
  cases h with
  | request hlogin =>
    rw [hspace] at hlogin
    cases hlogin with
    | challenge => exact Serve.does_authChallenge
    | digest digest => exact Serve.does_authSecure digest
    | selection password => exact Serve.does_select password
  | reopen | log _ _ => trivial

/-- What a session notes about failures and reports is not about the sides. -/
theorem Tracks.noting (h : session.Tracks space seen m s w) (failures : Nat) (backoff : Backoff)
    (reported : Option (PairSnapshot × Duration)) :
    { session with failures, backoff, reported }.Tracks space seen m s w :=
  h.of_eq (h.wired.of_ends rfl ⟨rfl, rfl⟩ ⟨rfl, rfl⟩) rfl rfl

/-- **Nothing that a session does beside its steps is about the sides.** -/
theorem unaffected_tracks : Unaffected (Scene.trouble space limit) (Scene.InStep space)
    fun session w => session.Tracks space seen m s w where
  master := fun _ _ _ h => h.of_eq (h.wired.of_ends rfl ⟨rfl, rfl⟩ ⟨rfl, rfl⟩) rfl rfl
  slave := fun _ _ _ h => h.of_eq (h.wired.of_ends rfl ⟨rfl, rfl⟩ ⟨rfl, rfl⟩) rfl rfl
  failures := fun session _ failures backoff h => h.noting failures backoff session.reported
  reported := fun session _ reported h => h.noting session.failures session.backoff reported
  effect := fun _ _ effect _ _ h hasks htrouble => by
    have hkeeps : Keeps space effect := by
      cases hasks with
      | master hconnect => exact keeps_of_asksToConnect h.wired.masterSpace hconnect
      | slave hconnect => exact keeps_of_asksToConnect h.wired.slaveSpace hconnect
      | pause hpause => cases hpause <;> trivial
    have h' := h.keeps hkeeps htrouble
    exact ⟨h'.inStep, h'⟩
  reporting := fun _ _ effect _ _ h hasks htrouble => by
    have hkeeps : Keeps space effect := by
      cases hasks <;> trivial
    have h' := h.keeps hkeeps htrouble
    exact ⟨h'.inStep, h'⟩

/-- Recovering finds no impossible cursors. -/
theorem consistent_of_recoveryFailure {failure : SyncError} (h : RecoveryFailure failure) : failure.Consistent := by
  cases h with
  | login h _ =>
    cases h with
    | protocol failure => exact SyncError.consistent_protocol failure
    | auth fault => exact SyncError.consistent_auth fault
  | exhausted attempts last => exact nofun
  | overflow => exact nofun

/-! ## On track -/

/-- Whatever the session has seen by now, and whatever the sides have, the session keeps track of it, within
    some bounds. -/
def OnTrack (space : String) (bounds : Option Snapshot → Namespace → Namespace → Prop) (session : Session Role)
    (w : Scene) : Prop :=
  ∃ seen m s, session.Tracks space seen m s w ∧ bounds seen m s

/-- A session stays on track all through an action, and does not find impossible cursors. -/
abbrev StaysOnTrack (space : String) (limit : Namespace → Prop)
    (bounds : Option Snapshot → Namespace → Namespace → Prop) (x : Action (Session Role) Role α) : Prop :=
  Action.Maintains (Scene.trouble space limit) (Scene.InStep space) (OnTrack space bounds) SyncError.Consistent x

variable {bounds bounds' : Option Snapshot → Namespace → Namespace → Prop}

theorem OnTrack.mono (h : session.OnTrack space bounds w)
    (himp : ∀ seen m s, bounds seen m s → bounds' seen m s) : session.OnTrack space bounds' w := by
  obtain ⟨seen, m, s, htracks, hbounds⟩ := h
  exact ⟨seen, m, s, htracks, himp seen m s hbounds⟩

theorem unaffected_onTrack :
    Unaffected (Scene.trouble space limit) (Scene.InStep space) (OnTrack space bounds) := by
  have hkept : ∀ seen m s, Unaffected (Scene.trouble space limit) (Scene.InStep space)
      fun session w => session.Tracks space seen m s w := fun _ _ _ => unaffected_tracks
  constructor
  · constructor
    · rintro session w authenticated ⟨seen, m, s, h, hbounds⟩
      exact ⟨seen, m, s, (hkept seen m s).master session w authenticated h, hbounds⟩
    · rintro session w authenticated ⟨seen, m, s, h, hbounds⟩
      exact ⟨seen, m, s, (hkept seen m s).slave session w authenticated h, hbounds⟩
    · rintro session w failures backoff ⟨seen, m, s, h, hbounds⟩
      exact ⟨seen, m, s, (hkept seen m s).failures session w failures backoff h, hbounds⟩
    · rintro session w effect answer w' ⟨seen, m, s, h, hbounds⟩ hasks htrouble
      obtain ⟨hinStep, h'⟩ := (hkept seen m s).effect session w effect answer w' h hasks htrouble
      exact ⟨hinStep, seen, m, s, h', hbounds⟩
  · rintro session w reported ⟨seen, m, s, h, hbounds⟩
    exact ⟨seen, m, s, (hkept seen m s).reported session w reported h, hbounds⟩
  · rintro session w effect answer w' ⟨seen, m, s, h, hbounds⟩ hasks htrouble
    obtain ⟨hinStep, h'⟩ := (hkept seen m s).reporting session w effect answer w' h hasks htrouble
    exact ⟨hinStep, seen, m, s, h', hbounds⟩

/-- **The course of a run that stays on track.** What ends it is not about impossible cursors. -/
theorem course_onTrack
    (hbounds : ∀ (session : Session Role) w, session.OnTrack space bounds w → session.OnTrack space bounds' w) :
    Course (Scene.trouble space limit) (Scene.InStep space) (OnTrack space bounds) (OnTrack space bounds)
      (fun _ => OnTrack space bounds) (fun failure session w => session.OnTrack space bounds' w ∧ failure.Consistent)
      (OnTrack space bounds') :=
  unaffected_onTrack.course unaffected_onTrack hbounds fun _ => consistent_of_recoveryFailure

/-! ## Requests -/

/-- **Reading the master.** The answer is that of a log which has grown from what it was; where it is the end of
    a segment, the latest exchange says so. -/
theorem Tracks.read (h : session.Tracks space seen m s w) {request : Request} {shape : Answer → Option α}
    {answer : Namespace → Except ProtocolError Reply}
    (hdoes : Serve.Does (Serve.execute request) space fun ns r ns' => r = answer ns ∧ ns' = ns) :
    Action.Withstands space limit (onMaster (Client.callFor request shape))
      (fun value session' w' => session' = session ∧ ∃ m', LogPrefix m.segments m'.segments ∧ limit m' ∧
        session.Tracks space seen m' s w' ∧ Client.reading request shape (answer m') = .ok value)
      (fun failure session' w' => failure.Consistent ∧ session' = session ∧ session.Tracks space seen m s w' ∧
        (failure.isEof = true → ∃ m', LogPrefix m.segments m'.segments ∧ limit m' ∧
          session.Tracks space seen m' s w' ∧ answer m' = .error .eof ∧ w'.Shows space m' s ∧
          w'.history = ⟨.master, request, .error .eof, w'.master.store, w'.slave.store⟩ :: w.history))
      session w := by
  refine (Action.ensures_focus _ _ _ _).mpr ?_
  refine Client.ensures_callFor (fun _ => ?_) fun r w' htrouble => ?_
  · exact ⟨SyncError.consistent_auth _, rfl, h, nofun⟩
  · rw [h.wired.masterLink] at htrouble
    obtain ⟨m', hm', hlimit, hshows, hr, hhistory⟩ :=
      Scene.trouble_master hdoes (fun _ _ _ h => h.2) h.follows htrouble
    have h' : session.Tracks space seen m' s w' :=
      ⟨h.wired, h.lastMaster, h.lastSlave, hshows.follows, h.behind.trans hm'⟩
    have hkept : session.Tracks space seen m s w' :=
      ⟨h.wired, h.lastMaster, h.lastSlave, hshows.follows.of_logPrefix hm', h.behind⟩
    refine ⟨h'.inStep, ?_⟩
    rcases hr with ⟨failure, rfl, hne⟩ | ⟨rfl, -⟩
    · refine ⟨SyncError.consistent_protocol _, rfl, hkept, fun heof => ?_⟩
      cases failure <;> first | exact absurd rfl hne | exact absurd heof nofun
    · cases hreading : Client.reading request shape (answer m') with
      | ok value => exact ⟨rfl, m', hm', hlimit, h', hreading⟩
      | error failure =>
        refine ⟨SyncError.consistent_protocol _, rfl, hkept, fun heof => ?_⟩
        have hfailure : failure = .eof := by
          cases failure <;> first | rfl | exact absurd heof nofun
        subst hfailure
        have hanswer := Client.reading_eq_eof hreading
        exact ⟨m', hm', hlimit, h', hanswer, hshows, hanswer ▸ hhistory⟩

/-- **Changing the slave.** Where the change is answered it is done; where it is not, it may be done. -/
theorem Tracks.change (h : session.Tracks space seen m s w) {request : Request} {shape : Answer → Option α}
    {P : Namespace → Except ProtocolError Reply → Namespace → Prop} {f : Namespace → Namespace}
    (hdoes : Serve.Does (Serve.execute request) space P) (hP : ∀ ns r ns', P ns r ns' → ns' = f ns)
    (hgrows : ∀ ns : Namespace, LogPrefix ns.segments (f ns).segments)
    (hbehind : LogPrefix (f s).segments m.segments) :
    Action.Withstands space limit (onSlave (Client.callFor request shape))
      (fun value session' w' => session'.Tracks space seen m (f s) w' ∧
        ∃ r, P s r (f s) ∧ Client.reading request shape r = .ok value)
      (fun failure session' w' => failure.Consistent ∧
        (session'.Tracks space seen m s w' ∨ session'.Tracks space seen m (f s) w'))
      session w := by
  refine (Action.ensures_focus _ _ _ _).mpr ?_
  refine Client.ensures_callFor (fun _ => ⟨SyncError.consistent_auth _, Or.inl h⟩) fun r w' htrouble => ?_
  rw [h.wired.slaveLink] at htrouble
  obtain ⟨s', hfollows, hr, -⟩ :=
    Scene.trouble_slave hdoes (fun ns _ _ hns => hP _ _ _ hns ▸ hgrows ns) h.follows htrouble
  have hdone : s' = f s → session.Tracks space seen m (f s) w' := by
    rintro rfl
    refine ⟨h.wired, h.lastMaster, fun reading hreading => ?_, hfollows, hbehind⟩
    obtain ⟨s₀, hs₀, heq⟩ := h.lastSlave reading hreading
    exact ⟨s₀, hs₀.trans (hgrows s), heq⟩
  -- A change that is not answered may have been done, which only the next reading of the slave tells.
  have hmaybe : session.Tracks space seen m s w' ∨ session.Tracks space seen m (f s) w' := by
    rcases hr with ⟨-, rfl | ⟨r', hr'⟩⟩ | hr
    · exact Or.inl ⟨h.wired, h.lastMaster, h.lastSlave, hfollows, h.behind⟩
    · exact Or.inr (hdone (hP _ _ _ hr'))
    · exact Or.inr (hdone (hP _ _ _ hr))
  refine ⟨hmaybe.elim Tracks.inStep Tracks.inStep, ?_⟩
  cases hreading : Client.reading request shape r with
  | error failure => exact ⟨SyncError.consistent_protocol _, hmaybe⟩
  | ok value =>
    rcases hr with ⟨hrefused, -⟩ | hr
    · obtain ⟨failure, heq, -⟩ := Client.reading_of_refused hrefused
      exact absurd (hreading.symm.trans heq) nofun
    · exact ⟨hdone (hP _ _ _ hr), r, hP _ _ _ hr ▸ hr, hreading⟩

end Session

end SegmentSync
