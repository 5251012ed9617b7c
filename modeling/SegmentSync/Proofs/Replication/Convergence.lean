import SegmentSync.Proofs.Replication.Calm
import SegmentSync.Proofs.Replication.Handshake

/-!
# `SegmentSync.Proofs.Replication.Convergence` — step by step, a slave catches up with a quiet master

The way through what is missing (`Move.list`) is the measure: each step makes its first move, until there is none
left or the move is a deletion that the slave refuses.

## Contents
- **Steps.** `Session.steps` collects what so many steps in a row come to.
- **One step.** What it does with each move, and where there is nothing to do.
- **The run.** `incremental_converges`.
-/

namespace SegmentSync

/-! ## Steps -/

/-- What the step reports that makes a move. -/
def Move.report (s : Namespace) : Move → Session.Step
  | .entry e => .applied s.position e.value.isNone
  | .jump => .jumped s.position

/-- What the steps report that make moves in a row. -/
def Move.reports : Namespace → List Move → List Session.Step
  | _, [] => []
  | s, first :: moves => first.report s :: reports (s.move first) moves

namespace Session

/-- So many steps, each of them taken whatever became of the one before. -/
def steps {ι : Type} : Nat → Action (Session ι) ι (List (Except SyncError Step))
  | 0 => pure []
  | n + 1 => do
    let result ← Action.attempt step
    return result :: (← steps n)

/-- So many steps in calm come to these results, and the sides have these namespaces then. -/
def StepsTo (time : Scene → Duration) (session : Session Role) (w : Scene) (n : Nat)
    (results : List (Except SyncError Step)) (m s : Namespace) : Prop :=
  let ((result, _), v) := (steps n session).run (Scene.calm time) w
  result = .ok results ∧ v.master.store.namespaces.find? session.space = some m ∧
    v.slave.store.namespaces.find? session.space = some s

variable {α : Type} {time : Scene → Duration} {session : Session Role} {space : String} {m s : Namespace}
  {changes : List (Role × Request)} {w : Scene}

/-- Whatever has been sent, the session is in calm. -/
def Calm (session : Session Role) (space : String) (m s : Namespace) (w : Scene) : Prop :=
  ∃ changes, session.InCalm space m s changes w

/-- A result is put before those of the steps after it. -/
theorem ensures_steps_succ {n : Nat} {post : List (Except SyncError Step) → Session Role → Scene → Prop}
    {fail : SyncError → Session Role → Scene → Prop}
    (h : Action.Calmly time space m step
      (fun done session' w' =>
        Action.Calmly time space m (steps n) (fun results => post (.ok done :: results)) fail session' w')
      (fun failure session' w' =>
        Action.Calmly time space m (steps n) (fun results => post (.error failure :: results)) fail session' w')
      session w) :
    Action.Calmly time space m (steps (n + 1)) post fail session w := by
  unfold steps
  refine (Action.ensures_bind _ _).mpr ?_
  rw [Action.ensures_attempt]
  exact h.mono (fun _ _ _ h' => (Action.ensures_bind _ _).mpr h') fun _ _ _ h' => (Action.ensures_bind _ _).mpr h'

/-- Where each step comes to the same, all of them do. -/
theorem ensures_steps_replicate {inv : Session Role → Scene → Prop} {result : Except SyncError Step}
    (hstep : ∀ session w, inv session w → Action.Calmly time space m step
      (fun done session' w' => .ok done = result ∧ inv session' w')
      (fun failure session' w' => .error failure = result ∧ inv session' w') session w)
    (n : Nat) (h : inv session w) :
    Action.Calmly time space m (steps n)
      (fun results session' w' => results = .replicate n result ∧ inv session' w')
      (fun _ _ _ => False) session w := by
  induction n generalizing session w with
  | zero => exact ⟨rfl, h⟩
  | succ n ih =>
    have hnext : ∀ session' w', inv session' w' → Action.Calmly time space m (steps n)
        (fun results session'' w'' => result :: results = .replicate (n + 1) result ∧ inv session'' w'')
        (fun _ _ _ => False) session' w' := fun _ _ h' =>
      (ih h').mono (fun _ _ _ h'' => ⟨by rw [h''.1]; rfl, h''.2⟩) fun _ _ _ h'' => h''
    refine ensures_steps_succ ((hstep session w h).mono ?_ ?_)
    · rintro done session' w' ⟨rfl, h'⟩
      exact hnext session' w' h'
    · rintro failure session' w' ⟨rfl, h'⟩
      exact hnext session' w' h'

/-! ## One step -/

/-- The slave takes over the next entry, if it is live. -/
theorem InCalm.replay (h : session.InCalm space m s changes w) (hfrozen : s.frozen = false) {entry : Entry}
    (hlive : Move.isLive s (.entry entry) = true) :
    Action.Calmly time space m (Session.replay (entry.record s.position))
      (fun done session' w' => done = Move.report s (.entry entry) ∧ session'.Calm space m (s.append entry) w')
      (fun _ _ _ => False) session w := by
  obtain ⟨key, value, marker⟩ := entry
  unfold Session.replay acknowledged
  cases value with
  | none =>
    refine (Action.ensures_bind _ _).mpr ((Action.ensures_bind _ _).mpr ?_)
    rw [Action.ensures_attempt]
    exact (h.applyDelete hfrozen key marker hlive).mono (fun _ _ _ h' => ⟨rfl, h'⟩) fun _ _ _ h' => h'.elim
  | some value =>
    refine (Action.ensures_bind _ _).mpr ((Action.ensures_bind _ _).mpr ?_)
    rw [Action.ensures_attempt]
    refine (h.applySet hfrozen key value marker).mono ?_ fun _ _ _ h' => h'.elim
    rintro key session' w' ⟨rfl, h'⟩
    have hecho : ¬ key ≠ (Entry.record ⟨key, some value, marker⟩ s.position).key := fun hne => hne rfl
    refine (Action.ensures_pure _).mpr ?_
    dsimp only
    rw [if_neg hecho]
    exact ⟨rfl, h'⟩

/-- The slave refuses to delete a key that is not set. -/
theorem InCalm.replay_dead (h : session.InCalm space m s changes w) (hfrozen : s.frozen = false) {tombstone : Entry}
    (hvalue : tombstone.value = none) (hkey : s.keys.contains tombstone.key = false) :
    Action.Calmly time space m (Session.replay (tombstone.record s.position)) (fun _ _ _ => False)
      (fun failure session' w' =>
        failure = .integrity (.deletionRejected (Utf8.decodeLossy tombstone.key) s.position "Key not found") ∧
          session'.Calm space m s w') session w := by
  obtain ⟨key, _, marker⟩ := tombstone
  subst hvalue
  unfold Session.replay acknowledged
  refine (Action.ensures_bind _ _).mpr ((Action.ensures_bind _ _).mpr ?_)
  rw [Action.ensures_attempt]
  refine (h.applyDelete_dead hfrozen key marker hkey).mono (fun _ _ _ h' => h'.elim) ?_
  rintro _ session' w' ⟨rfl, h'⟩
  exact ⟨rfl, h'⟩

/-- A step reads both ends as they are, and does what they call for. -/
theorem InCalm.step (h : session.InCalm space m s changes w) (hs : s.Fits (2 ^ 64)) {decision : Decision}
    (hdecide : Snapshot.decide m.snapshot s.snapshot = decision)
    {post : Step → Session Role → Scene → Prop} {fail : SyncError → Session Role → Scene → Prop}
    (hnext : ∀ session' w', session'.InCalm space m s changes w' → Action.Calmly time space m
      (match decision with
        | .fatal => throw (.invariantViolation m.position s.position .aheadOfMaster)
        | .wait => return .idle
        | .advance => advance s.position) post fail session' w') :
    Action.Calmly time space m Session.step post fail session w := by
  unfold Session.step
  refine (Action.ensures_bind _ _).mpr (h.masterInfo.mono ?_ fun _ _ _ h₁ => h₁.elim)
  rintro _ session₁ w₁ ⟨rfl, h₁⟩
  refine (Action.ensures_bind _ _).mpr ((h₁.slaveInfo hs).mono ?_ fun _ _ _ h₂ => h₂.elim)
  rintro _ session₂ w₂ ⟨rfl, h₂⟩
  rw [hdecide]
  exact hnext session₂ w₂ h₂

/-- **A step makes the next move**, if it is live. -/
theorem InCalm.step_move (h : session.InCalm space m s changes w) (hm : m.Portable) (hfrozen : s.frozen = false)
    (hbehind : LogPrefix s.segments m.segments) {next : Move} (hnext : s.Next m next)
    (hlive : next.isLive s = true) :
    Action.Calmly time space m Session.step
      (fun done session' w' => done = next.report s ∧ session'.Calm space m (s.move next) w')
      (fun _ _ _ => False) session w := by
  refine h.step (hm.fits₆₄.of_logPrefix hbehind) (hnext.decide hm.fits₆₄ hbehind) fun session₁ w₁ h₁ => ?_
  unfold advance
  refine (Action.ensures_bind _ _).mpr ?_
  rw [Action.ensures_attempt]
  cases next with
  | entry entry =>
    obtain ⟨tail, rest, hsegments⟩ := hnext
    refine (h₁.fetchRecord_entry hm hsegments).mono ?_ fun _ _ _ h₂ => h₂.elim
    rintro _ session₂ w₂ ⟨rfl, h₂⟩
    have hposition : ¬ (entry.record s.position).position ≠ s.position := fun hne => hne rfl
    dsimp only
    rw [if_neg hposition]
    exact h₂.replay hfrozen hlive
  | jump =>
    obtain ⟨next, rest, hsegments⟩ := hnext
    rw [← List.append_nil s.current] at hsegments
    refine (h₁.fetchRecord_eof hm.fits₆₄ hsegments).mono (fun _ _ _ h₂ => h₂.elim) ?_
    rintro _ session₂ w₂ ⟨rfl, h₂⟩
    refine (Action.ensures_bind _ _).mpr (Action.calmly_log h₂.quiet ?_)
    refine (Action.ensures_bind _ _).mpr (h₂.jumpSegment.mono (fun _ _ _ h₃ => ?_) fun _ _ _ h₃ => h₃)
    exact ⟨rfl, _, h₃⟩

/-- A step fails at a deletion that is not live, and leaves the slave before it. -/
theorem InCalm.step_dead (h : session.InCalm space m s changes w) (hm : m.Portable) (hfrozen : s.frozen = false)
    (hbehind : LogPrefix s.segments m.segments) {tombstone : Entry} (hnext : s.Next m (.entry tombstone))
    (hvalue : tombstone.value = none) (hkey : s.keys.contains tombstone.key = false) :
    Action.Calmly time space m Session.step (fun _ _ _ => False)
      (fun failure session' w' =>
        failure = .integrity (.deletionRejected (Utf8.decodeLossy tombstone.key) s.position "Key not found") ∧
          session'.Calm space m s w') session w := by
  refine h.step (hm.fits₆₄.of_logPrefix hbehind) (hnext.decide hm.fits₆₄ hbehind) fun session₁ w₁ h₁ => ?_
  obtain ⟨tail, rest, hsegments⟩ := hnext
  unfold advance
  refine (Action.ensures_bind _ _).mpr ?_
  rw [Action.ensures_attempt]
  refine (h₁.fetchRecord_entry hm hsegments).mono ?_ fun _ _ _ h₂ => h₂.elim
  rintro _ session₂ w₂ ⟨rfl, h₂⟩
  have hposition : ¬ (tombstone.record s.position).position ≠ s.position := fun hne => hne rfl
  dsimp only
  rw [if_neg hposition]
  exact h₂.replay_dead hfrozen hvalue hkey

/-- A step of a slave that has the master's log does nothing. -/
theorem InCalm.step_idle (h : session.InCalm space m s changes w) (hm : m.Fits (2 ^ 64))
    (hsame : s.segments = m.segments) :
    Action.Calmly time space m Session.step
      (fun done session' w' => done = .idle ∧ session'.Calm space m s w') (fun _ _ _ => False) session w := by
  have hs : s.Fits (2 ^ 64) := hm.of_logPrefix (hsame ▸ LogPrefix.refl _)
  exact h.step hs (Namespace.decide_of_segments_eq hsame) fun _ _ h₁ => ⟨rfl, changes, h₁⟩

/-! ## The run -/

/-- **Steps make live moves one after the other**, and the steps after them go on from there. -/
theorem Calm.steps_moves {before after : List Move} {n : Nat} {fail : SyncError → Session Role → Scene → Prop}
    {post : List (Except SyncError Step) → Session Role → Scene → Prop} (h : session.Calm space m s w)
    (hm : m.Portable) (hfrozen : s.frozen = false) (hbehind : LogPrefix s.segments m.segments)
    (hmoves : Move.list (s.missing m) = before ++ after) (hlive : Move.areLive s before = true)
    (hrest : ∀ session' w', session'.Calm space m (before.foldl Namespace.move s) w' →
      Action.Calmly time space m (steps n) (fun results => post ((Move.reports s before).map .ok ++ results)) fail
        session' w') :
    Action.Calmly time space m (steps (before.length + n)) post fail session w := by
  -- Induction on the moves: after the first one, those that are missing are the others.
  induction before generalizing session w s post with
  | nil =>
    rw [List.length_nil, Nat.zero_add]
    exact hrest session w h
  | cons first before ih =>
    obtain ⟨changes, h⟩ := h
    obtain ⟨hfirst, hbefore⟩ := Bool.and_eq_true_iff.mp hlive
    obtain ⟨hnext, hbehind', hmoves'⟩ := Namespace.missing_move hbehind hmoves
    rw [List.length_cons, Nat.add_right_comm]
    refine ensures_steps_succ ((h.step_move hm hfrozen hbehind hnext hfirst).mono ?_ fun _ _ _ h' => h'.elim)
    rintro _ session₁ w₁ ⟨rfl, h₁⟩
    exact ih h₁ ((s.frozen_move first).trans hfrozen) hbehind' hmoves' hbefore hrest

theorem stepsTo_of_calmly {n : Nat} {results : List (Except SyncError Step)}
    (h : Action.Calmly time session.space m (steps n)
      (fun results' session' w' => results' = results ∧ session'.Calm session.space m s w')
      (fun _ _ _ => False) session w) : StepsTo time session w n results m s := by
  have hrun := Program.Ensures.run h
  unfold StepsTo
  rcases hresult : (steps n session).run (Scene.calm time) w with ⟨⟨_ | results', session'⟩, v⟩
  · rw [hresult] at hrun
    exact hrun.elim
  · rw [hresult] at hrun
    obtain ⟨rfl, changes, hend⟩ := hrun
    exact ⟨rfl, hend.masterShows.found, hend.slaveShows.found⟩

/-- **Step by step, a slave catches up with a quiet master.** There are as many steps to make as entries and
    segments are missing, and they go through the master's log in order. If none of them deletes a key that is not
    set by then, they all succeed; after that the slave has the master's log and keys, and further steps do nothing.
    Otherwise the first such deletion fails, and goes on failing; the slave stays just before it. -/
theorem incremental_converges {session : Session Role} {w : Scene} {m s : Namespace} (time : Scene → Duration)
    (hfresh : session.Fresh w m s) (hmaster : w.master.store.faults = []) (hslave : w.slave.store.faults = [])
    (hportable : m.Portable) (hfrozen : s.frozen = false) (hs : s.Replayed) (hm : m.Replayed) :
    let moves := Move.list (s.missing m)
    moves.countP Move.isEntry = m.entries.length - s.entries.length ∧
    moves.length = (m.entries.length - s.entries.length) + (m.segments.length - s.segments.length) ∧
    (∀ before next after, moves = before ++ next :: after → (before.foldl Namespace.move s).Next m next) ∧
    (Move.areLive s moves = true → ∃ s', s'.segments = m.segments ∧ s'.keys = m.keys ∧ ∀ n,
      StepsTo time session w (moves.length + n)
        ((Move.reports s moves).map .ok ++ .replicate n (.ok .idle)) m s') ∧
    (Move.areLive s moves = false → ∃ before tombstone after, moves = before ++ .entry tombstone :: after ∧
      Move.areLive s before = true ∧ tombstone.value = none ∧
      let s' := before.foldl Namespace.move s
      s'.keys.contains tombstone.key = false ∧ ∀ n,
        StepsTo time session w (before.length + n)
          ((Move.reports s before).map .ok ++ .replicate n (.error (.integrity
            (.deletionRejected (Utf8.decodeLossy tombstone.key) s'.position "Key not found")))) m s') := by
  have hcalm : session.Calm session.space m s w := ⟨[], hfresh.inCalm hmaster hslave⟩
  have hbehind := hfresh.behind
  have hnext : ∀ before next after, Move.list (s.missing m) = before ++ next :: after →
      LogPrefix (before.foldl Namespace.move s).segments m.segments ∧
        (before.foldl Namespace.move s).Next m next := fun before next after heq => by
    obtain ⟨hbehind', hmoves⟩ := Namespace.missing_foldl_move hbehind heq
    exact ⟨hbehind', (Namespace.missing_move hbehind' hmoves).1⟩
  refine ⟨Namespace.countP_isEntry_missing hbehind, Namespace.length_list_missing hbehind,
    fun before next after heq => (hnext before next after heq).2, fun hlive => ?_, fun hdead => ?_⟩
  -- All of the moves are made, and nothing is missing after them.
  · have hsame := Namespace.segments_foldl_move hbehind
    refine ⟨_, hsame, (hs.foldl_move _).keys_eq hm hsame, fun n => stepsTo_of_calmly ?_⟩
    refine hcalm.steps_moves hportable hfrozen hbehind (List.append_nil _).symm hlive fun session' w' h' => ?_
    refine (ensures_steps_replicate (fun session₁ w₁ h₁ => ?_) n h').mono
      (fun _ _ _ h'' => ⟨congrArg (_ ++ ·) h''.1, h''.2⟩) fun _ _ _ h'' => h''
    obtain ⟨changes, h₁⟩ := h₁
    exact (h₁.step_idle hportable.fits₆₄ hsame).mono (fun _ _ _ h₂ => ⟨congrArg _ h₂.1, h₂.2⟩)
      fun _ _ _ h₂ => h₂.elim
  -- The moves before the first dead one are made, and that one is what each further step meets.
  · obtain ⟨before, tombstone, after, heq, hbefore, hvalue, hkey⟩ := Move.exists_first_dead hdead
    refine ⟨before, tombstone, after, heq, hbefore, hvalue, hkey, fun n => stepsTo_of_calmly ?_⟩
    obtain ⟨hbehind', htombstone⟩ := hnext before _ after heq
    have hfrozen' := (Namespace.frozen_foldl_move before s).trans hfrozen
    refine hcalm.steps_moves hportable hfrozen hbehind heq hbefore fun session' w' h' => ?_
    refine (ensures_steps_replicate (fun session₁ w₁ h₁ => ?_) n h').mono
      (fun _ _ _ h'' => ⟨congrArg (_ ++ ·) h''.1, h''.2⟩) fun _ _ _ h'' => h''
    obtain ⟨changes, h₁⟩ := h₁
    exact (h₁.step_dead hportable hfrozen' hbehind' htombstone hvalue hkey).mono (fun _ _ _ h₂ => h₂.elim)
      fun _ _ _ h₂ => ⟨congrArg _ h₂.1, h₂.2⟩

/-- When both sides have been opened, two entries in two segments take three steps. -/
theorem incremental_converges_from_empty :
    let time : Scene → Duration := fun _ => ⟨0⟩
    ∃ w s', (reopen (between .incremental)).run (Scene.calm time) (.between .twoSegments (.ofLog [] [])) =
        ((.ok (), between .incremental), w) ∧
      s'.segments = Namespace.twoSegments.segments ∧
      StepsTo time (between .incremental) { w with history := [] } 4
        [.ok (.applied ⟨0, 0⟩ false), .ok (.jumped ⟨0, 20⟩), .ok (.applied ⟨1, 0⟩ true), .ok .idle]
        .twoSegments s' := by
  intro time
  obtain ⟨w, hreopen, hfresh, hmaster, hslave⟩ :=
    exists_fresh time .incremental Namespace.logPrefix_twoSegments rfl rfl
  obtain ⟨-, -, -, hlive, -⟩ := incremental_converges time hfresh hmaster hslave
    Namespace.portable_twoSegments rfl (Namespace.replayed_ofLog _ _) (Namespace.replayed_ofLog _ _)
  obtain ⟨s', hsame, -, hsteps⟩ := hlive (by decide)
  exact ⟨w, s', hreopen, hsame, hsteps 1⟩

end Session

end SegmentSync
