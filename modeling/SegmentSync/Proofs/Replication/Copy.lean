import SegmentSync.Proofs.Replication.Calm
import SegmentSync.Proofs.Replication.Handshake

/-!
# `SegmentSync.Proofs.Replication.Copy` — a bulk copy of a quiet master

The rounds of a copy follow what is missing, part by part: the rest of a segment is imported if there is one, and
then the slave goes on to the next segment if there is one.

## Contents
- **The plan.** `Session.copyPlan`, the requests by which a copy changes the slave, and how many there are.
- **One step.** What it does with a rest, with the end of a segment, and with the end of the log.
- **Rounds.** `Session.Copies`: the rounds of a copy carry the plan out, and complete it.
- **The run.** `InCalm.runBulk` and `InCalm.run`, and from them `bulk_completes`.
-/

namespace SegmentSync.Session

open SegmentSync.Action (Round)

/-! ## The plan -/

/-- The requests that take over parts of segments: an import of each part that has entries, and a jump between
    each two parts. -/
def copyPlan : Namespace → List (List Entry) → List Request
  | _, [] => []
  | s, part :: parts =>
    (if part.isEmpty then [] else [.dataImport s.position (Blob.write part)]) ++
      if parts.isEmpty then [] else .nsJump :: copyPlan (part.foldl Namespace.append s).jump parts

theorem copyPlan_jump (s : Namespace) (next : List Entry) (rest : List (List Entry)) :
    copyPlan s ([] :: next :: rest) = .nsJump :: copyPlan s.jump (next :: rest) := rfl

theorem copyPlan_import (s : Namespace) (entry : Entry) (tail : List Entry) (rest : List (List Entry)) :
    copyPlan s ((entry :: tail) :: rest) = .dataImport s.position (Blob.write (entry :: tail)) ::
      copyPlan ((entry :: tail).foldl Namespace.append s) ([] :: rest) := rfl

/-- Whether the slave is frozen does not matter. -/
theorem copyPlan_frozen (parts : List (List Entry)) (s : Namespace) (frozen : Bool) :
    copyPlan { s with frozen } parts = copyPlan s parts := by
  induction parts generalizing s with
  | nil => rfl
  | cons part parts ih =>
    have hfilled : (part.foldl Namespace.append { s with frozen }).jump =
        { (part.foldl Namespace.append s).jump with frozen } := by
      rw [Namespace.foldl_append, Namespace.foldl_append]; rfl
    rw [copyPlan, copyPlan, hfilled, ih]
    rfl

/-- There is an import for each part that has entries. -/
theorem countP_dataImport_copyPlan (parts : List (List Entry)) (s : Namespace) :
    (copyPlan s parts).countP (fun request => request.command = .dataImport) =
      parts.countP fun part => !part.isEmpty := by
  induction parts generalizing s with
  | nil => rfl
  | cons part parts ih =>
    rw [copyPlan, List.countP_append, List.countP_cons]
    have hparts : (if parts.isEmpty then [] else
          .nsJump :: copyPlan (part.foldl Namespace.append s).jump parts).countP
        (fun request => request.command = .dataImport) = parts.countP fun part => !part.isEmpty := by
      cases parts with
      | nil => rfl
      | cons next rest => exact ih _
    rw [hparts]
    cases part with
    | nil => exact Nat.zero_add _
    | cons entry tail => exact Nat.add_comm _ _

/-- There is a jump for each further part. -/
theorem countP_nsJump_copyPlan (parts : List (List Entry)) (s : Namespace) :
    (copyPlan s parts).countP (fun request => request.command = .nsJump) = parts.length - 1 := by
  induction parts generalizing s with
  | nil => rfl
  | cons part parts ih =>
    rw [copyPlan, List.countP_append]
    have hpart : (if part.isEmpty then [] else [Request.dataImport s.position (Blob.write part)]).countP
        (fun request => request.command = .nsJump) = 0 := by
      cases part <;> rfl
    rw [hpart, Nat.zero_add, List.length_cons, Nat.add_sub_cancel]
    cases parts with
    | nil => rfl
    | cons next rest => exact (List.countP_cons_of_pos rfl).trans (congrArg (· + 1) (ih _))

/-- There is nothing else in the plan. -/
theorem command_of_mem_copyPlan (parts : List (List Entry)) (s : Namespace) {request : Request}
    (h : request ∈ copyPlan s parts) : request.command = .dataImport ∨ request.command = .nsJump := by
  induction parts generalizing s with
  | nil => exact absurd h List.not_mem_nil
  | cons part parts ih =>
    rw [copyPlan] at h
    rcases List.mem_append.mp h with h | h
    · cases part with
      | nil => exact absurd h List.not_mem_nil
      | cons entry tail => exact Or.inl (List.mem_singleton.mp h ▸ rfl)
    · cases parts with
      | nil => exact absurd h List.not_mem_nil
      | cons next rest =>
        rcases List.mem_cons.mp h with rfl | h
        · exact Or.inr rfl
        · exact ih _ h

/-! ## One step -/

variable {time : Scene → Duration} {session : Session Role} {space : String} {m s s' : Namespace}
  {changes changes' : List (Role × Request)} {w : Scene} {part : List Entry} {rest : List (List Entry)}

/-- The rest of a segment is imported. -/
theorem InCalm.copyStep_import (h : session.InCalm space m s changes w) (hm : m.Fits (2 ^ 64)) {entry : Entry}
    {tail : List Entry} (hsegments : m.segments = s.earlier ++ (s.current ++ entry :: tail) :: rest)
    (baseline : Snapshot) :
    Action.Calmly time space m (copyStep baseline)
      (fun result session' w' => result ≠ .done ∧ session'.InCalm space m ((entry :: tail).foldl Namespace.append s)
        (changes ++ [(.slave, .dataImport s.position (Blob.write (entry :: tail)))]) w')
      (fun _ _ _ => False) session w := by
  have hs := hm.of_logPrefix (Namespace.logPrefix_iff.mpr ⟨_, _, hsegments⟩)
  unfold copyStep
  refine (Action.ensures_bind _ _).mpr ((h.slaveInfo hs).mono ?_ fun _ _ _ h₁ => h₁.elim)
  rintro _ session₁ w₁ ⟨rfl, h₁⟩
  refine (Action.ensures_bind _ _).mpr ?_
  rw [Action.ensures_attempt]
  refine (h₁.exportSegment_rest hm hsegments).mono ?_ fun _ _ _ h₂ => h₂.elim
  rintro _ session₂ w₂ ⟨rfl, h₂⟩
  refine (Action.ensures_bind _ _).mpr ((h₂.importSegment (entry :: tail)).mono ?_ fun _ _ _ h₃ => h₃)
  exact fun _ _ _ h₃ => ⟨nofun, h₃⟩

/-- Where the master has no more of the slave's segment, the step is that of the end of a segment. -/
theorem InCalm.copyStep_eof (h : session.InCalm space m s changes w) (hm : m.Fits (2 ^ 64))
    (hend : m.segments = s.earlier ++ (s.current ++ []) :: rest) {baseline : Snapshot}
    {post : CopyStep → Session Role → Scene → Prop} {fail : SyncError → Session Role → Scene → Prop}
    (hnext : ∀ session' w', session'.InCalm space m s changes w' →
      Action.Calmly time space m (endOfSegment baseline.position s.position) post fail session' w') :
    Action.Calmly time space m (copyStep baseline) post fail session w := by
  have hs := hm.of_logPrefix (Namespace.logPrefix_iff.mpr ⟨_, _, hend⟩)
  unfold copyStep
  refine (Action.ensures_bind _ _).mpr ((h.slaveInfo hs).mono ?_ fun _ _ _ h₁ => h₁.elim)
  rintro _ session₁ w₁ ⟨rfl, h₁⟩
  refine (Action.ensures_bind _ _).mpr ?_
  rw [Action.ensures_attempt]
  refine (h₁.exportSegment_eof hm hend).mono (fun _ _ _ h₂ => h₂.elim) ?_
  rintro _ session₂ w₂ ⟨rfl, h₂⟩
  exact hnext session₂ w₂ h₂

/-- At the end of a segment that is closed the slave goes on to the next one. -/
theorem InCalm.copyStep_jump (h : session.InCalm space m s changes w) (hm : m.Fits (2 ^ 64)) {next : List Entry}
    (hsegments : m.segments = s.earlier ++ s.current :: next :: rest) :
    Action.Calmly time space m (copyStep m.snapshot)
      (fun result session' w' => result ≠ .done ∧
        session'.InCalm space m s.jump (changes ++ [(.slave, .nsJump)]) w')
      (fun _ _ _ => False) session w := by
  have hend : m.segments = s.earlier ++ (s.current ++ []) :: next :: rest := by rw [hsegments, List.append_nil]
  have hlt : s.position < m.position := Namespace.position_lt_of_more hm hend (Or.inr (List.cons_ne_nil _ _))
  -- The baseline lies beyond the slave's end, whatever else the master has in between.
  have hbefore : ¬ m.snapshot.position ≤ s.position := fun hle => Position.not_lt_of_le hle hlt
  obtain ⟨start, hstart⟩ := Namespace.next?_position_of_closed hm hsegments
  refine h.copyStep_eof hm hend fun session₁ w₁ h₁ => ?_
  unfold endOfSegment
  dsimp only
  rw [if_neg hbefore, hstart]
  refine (Action.ensures_bind _ _).mpr (Action.calmly_log h₁.quiet ?_)
  refine (Action.ensures_bind _ _).mpr (h₁.jumpSegment.mono ?_ fun _ _ _ h₂ => h₂)
  exact fun _ _ _ h₂ => ⟨nofun, h₂⟩

/-- At the end of the master's log the copy is done. -/
theorem InCalm.copyStep_done (h : session.InCalm space m s changes w) (hm : m.Fits (2 ^ 64))
    (hsame : s.segments = m.segments) :
    Action.Calmly time space m (copyStep m.snapshot)
      (fun result session' w' => result = .done ∧ session'.InCalm space m s changes w')
      (fun _ _ _ => False) session w := by
  have hend : m.segments = s.earlier ++ (s.current ++ []) :: [] := by rw [← hsame, List.append_nil]; rfl
  have hreached : m.snapshot.position ≤ s.position := Or.inr (Namespace.position_eq_of_segments_eq hsame).symm
  have hnotPast : ¬ m.snapshot.position < s.position :=
    Position.not_lt_of_le (Or.inr (Namespace.position_eq_of_segments_eq hsame))
  refine h.copyStep_eof hm hend fun session₁ w₁ h₁ => ?_
  unfold endOfSegment
  dsimp only
  rw [if_pos hreached, if_neg hnotPast]
  exact ⟨rfl, h₁⟩

/-! ## Rounds -/

/-- A step that is not the last one is followed by another round. -/
theorem calmly_copyRound_again (hquiet : w.Quiet space m) {baseline : Snapshot}
    (hstep : Action.Calmly time space m (copyStep baseline)
      (fun result session' w' => result ≠ .done ∧ session'.InCalm space m s' changes' w')
      (fun _ _ _ => False) session w) :
    Action.Calmly time space m (copyRound baseline)
      (fun round session' w' => round = .again () ∧ session'.InCalm space m s' changes' w')
      (fun _ _ _ => False) session w := by
  unfold copyRound
  refine (Action.ensures_bind _ _).mpr (Action.calmly_stopRequested hquiet ?_)
  refine (Action.ensures_bind _ _).mpr ((calmly_guarded hstep).mono ?_ fun _ _ _ h₁ => h₁)
  rintro _ session₁ w₁ ⟨result, rfl, hresult, h₁⟩
  have hnext : Action.Calmly time space m
      (do Action.log .debug ("Bulk step: " ++ result.text); succeeded; emit .syncing; return Round.again ())
      (fun round session' w' => round = (.again () : Round Unit Outcome) ∧ session'.InCalm space m s' changes' w')
      (fun _ _ _ => False) session₁ w₁ := by
    refine (Action.ensures_bind _ _).mpr (Action.calmly_log h₁.quiet ?_)
    refine (Action.ensures_bind _ _).mpr (h₁.succeeded.mono ?_ fun _ _ _ h₂ => h₂)
    intro _ session₂ w₂ h₂
    refine (Action.ensures_bind _ _).mpr ((h₂.emit .syncing).mono ?_ fun _ _ _ h₃ => h₃)
    exact fun _ _ _ h₃ => ⟨rfl, h₃⟩
  cases result with
  | done => exact absurd rfl hresult
  | imported _ | jumped => exact hnext

/-- The copy carries out its plan where the master's log goes on from the slave's end with these parts, and is
    complete then. -/
def Copies (time : Scene → Duration) (space : String) (m : Namespace) (part : List Entry)
    (rest : List (List Entry)) : Prop :=
  ∀ {session : Session Role} {s : Namespace} {changes : List (Role × Request)} {w : Scene} {limit : Nat},
    session.InCalm space m s changes w → s.Replayed → m.segments = s.earlier ++ (s.current ++ part) :: rest →
    (copyPlan s (part :: rest)).length < limit →
    Action.Calmly time space m (Action.rounds (fun _ => copyRound m.snapshot) limit ())
      (fun result session' w' => result = some .completed ∧ ∃ s', s'.Replayed ∧ s'.segments = m.segments ∧
        session'.InCalm space m s' (changes ++ (copyPlan s (part :: rest)).map (Role.slave, ·)) w')
      (fun _ _ _ => False) session w

theorem copies_done (hm : m.Fits (2 ^ 64)) : Copies time space m [] [] := by
  intro session s changes w limit h hs hsegments hlimit
  have hsame : s.segments = m.segments := by rw [hsegments, List.append_nil]; rfl
  obtain ⟨limit, rfl⟩ := Nat.exists_eq_succ_of_ne_zero (Nat.ne_of_gt hlimit)
  rw [Action.rounds]
  refine (Action.ensures_bind _ _).mpr ?_
  unfold copyRound
  refine (Action.ensures_bind _ _).mpr (Action.calmly_stopRequested h.quiet ?_)
  refine (Action.ensures_bind _ _).mpr ((calmly_guarded (h.copyStep_done hm hsame)).mono ?_ fun _ _ _ h₁ => h₁)
  rintro _ session₁ w₁ ⟨_, rfl, rfl, h₁⟩
  exact ⟨rfl, s, hs, hsame, (List.append_nil changes).symm ▸ h₁⟩

/-- The first round makes a step of the plan, and the others go on from there. -/
theorem calmly_rounds_again (hquiet : w.Quiet space m) {limit : Nat} {baseline : Snapshot}
    {post : Option Outcome → Session Role → Scene → Prop} {fail : SyncError → Session Role → Scene → Prop}
    (hstep : Action.Calmly time space m (copyStep baseline)
      (fun result session' w' => result ≠ .done ∧ session'.InCalm space m s' changes' w')
      (fun _ _ _ => False) session w)
    (hrest : ∀ session' w', session'.InCalm space m s' changes' w' →
      Action.Calmly time space m (Action.rounds (fun _ => copyRound baseline) limit ()) post fail session' w') :
    Action.Calmly time space m (Action.rounds (fun _ => copyRound baseline) (limit + 1) ()) post fail session
      w := by
  rw [Action.rounds]
  refine (Action.ensures_bind _ _).mpr ((calmly_copyRound_again hquiet hstep).mono ?_ fun _ _ _ h₁ => h₁.elim)
  rintro _ session₁ w₁ ⟨rfl, h₁⟩
  exact hrest session₁ w₁ h₁

theorem copies_jump (hm : m.Fits (2 ^ 64)) {next : List Entry} (hrest : Copies time space m next rest) :
    Copies time space m [] (next :: rest) := by
  intro session s changes w limit h hs hsegments hlimit
  rw [List.append_nil] at hsegments
  rw [copyPlan_jump] at hlimit ⊢
  obtain ⟨limit, rfl⟩ := Nat.exists_eq_succ_of_ne_zero (Nat.ne_of_gt (Nat.zero_lt_of_lt hlimit))
  refine calmly_rounds_again h.quiet (h.copyStep_jump hm hsegments) fun session₁ w₁ h₁ => ?_
  have hnext : m.segments = s.jump.earlier ++ (s.jump.current ++ next) :: rest := by
    rw [hsegments]; simp [Namespace.jump]
  refine (hrest h₁ hs.jump hnext (Nat.lt_of_succ_lt_succ hlimit)).mono (fun _ _ _ h₂ => ?_) fun _ _ _ h₂ => h₂
  rw [List.map_cons, ← List.singleton_append, ← List.append_assoc]
  exact h₂

theorem copies_import (hm : m.Fits (2 ^ 64)) {entry : Entry} {tail : List Entry}
    (hrest : Copies time space m [] rest) : Copies time space m (entry :: tail) rest := by
  intro session s changes w limit h hs hsegments hlimit
  rw [copyPlan_import] at hlimit ⊢
  obtain ⟨limit, rfl⟩ := Nat.exists_eq_succ_of_ne_zero (Nat.ne_of_gt (Nat.zero_lt_of_lt hlimit))
  refine calmly_rounds_again h.quiet (h.copyStep_import hm hsegments m.snapshot) fun session₁ w₁ h₁ => ?_
  -- After the import the slave ends where the master's segment ends.
  have hfilled : m.segments = ((entry :: tail).foldl Namespace.append s).earlier ++
      (((entry :: tail).foldl Namespace.append s).current ++ []) :: rest := by
    rw [hsegments, Namespace.foldl_append, List.append_nil]
  have hreplayed := hs.foldl_append (entry :: tail)
  refine (hrest h₁ hreplayed hfilled (Nat.lt_of_succ_lt_succ hlimit)).mono (fun _ _ _ h₂ => ?_) fun _ _ _ h₂ => h₂
  rw [List.map_cons, ← List.singleton_append, ← List.append_assoc]
  exact h₂

/-- **The rounds of a copy carry out its plan**, whatever parts are missing. -/
theorem copies (hm : m.Fits (2 ^ 64)) (part : List Entry) (rest : List (List Entry)) :
    Copies time space m part rest := by
  -- Induction on the parts. A part with entries is imported first, and nothing is left of it then.
  induction rest generalizing part with
  | nil =>
    cases part with
    | nil => exact copies_done hm
    | cons entry tail => exact copies_import hm (copies_done hm)
  | cons next rest ih =>
    cases part with
    | nil => exact copies_jump hm (ih next)
    | cons entry tail => exact copies_import hm (copies_jump hm (ih next))

/-! ## The run -/

/-- The baseline is the end of the master, and the slave is frozen. -/
theorem InCalm.prepare (h : session.InCalm space m s changes w) (hm : m.Fits (2 ^ 64))
    (hbehind : LogPrefix s.segments m.segments) :
    Action.Calmly time space m prepare
      (fun baseline session' w' => baseline = m.snapshot ∧
        session'.InCalm space m { s with frozen := true } changes w')
      (fun _ _ _ => False) session w := by
  have hbehind' : LogPrefix (Namespace.segments { s with frozen := true }) m.segments := hbehind
  unfold Session.prepare
  refine (Action.ensures_bind _ _).mpr ?_
  rw [Action.ensures_get, h.wired.named]
  refine (Action.ensures_bind _ _).mpr ((h.setFreeze true).mono ?_ fun _ _ _ h₁ => h₁)
  intro _ session₁ w₁ h₁
  refine (Action.ensures_bind _ _).mpr (h₁.masterInfo.mono ?_ fun _ _ _ h₂ => h₂)
  rintro _ session₂ w₂ ⟨rfl, h₂⟩
  refine (Action.ensures_bind _ _).mpr ((h₂.slaveInfo (hm.of_logPrefix hbehind')).mono ?_ fun _ _ _ h₃ => h₃)
  rintro _ session₃ w₃ ⟨rfl, h₃⟩
  rcases Namespace.decide_of_logPrefix hm hbehind' with ⟨hdecide, -⟩ | ⟨hdecide, -⟩
  · rw [hdecide]; exact ⟨rfl, h₃⟩
  · rw [hdecide]; exact ⟨rfl, h₃⟩

/-- The copy ends with a slave that is frozen or not, as the options say. -/
theorem InCalm.completeBulk (h : session.InCalm space m s changes w) (baseline : Snapshot) :
    Action.Calmly time space m (completeBulk baseline)
      (fun outcome session' w' => outcome = .completed ∧
        ∃ frozen, session'.InCalm space m { s with frozen } changes w')
      (fun _ _ _ => False) session w := by
  have hreport : ∀ (frozen : Bool) (session : Session Role) (w : Scene),
      session.InCalm space m { s with frozen } changes w → Action.Calmly time space m
        (do
          Session.emit .finished
          Action.log .info ("Bulk sync reached baseline " ++ baseline.position.text)
          return Outcome.completed)
        (fun outcome session' w' => outcome = .completed ∧
          ∃ frozen, session'.InCalm space m { s with frozen } changes w')
        (fun _ _ _ => False) session w := by
    intro frozen session w h
    refine (Action.ensures_bind _ _).mpr ((h.emit .finished).mono ?_ fun _ _ _ h₁ => h₁)
    intro _ session₁ w₁ h₁
    refine (Action.ensures_bind _ _).mpr (Action.calmly_log h₁.quiet ?_)
    exact ⟨rfl, frozen, h₁⟩
  unfold Session.completeBulk
  refine (Action.ensures_bind _ _).mpr ?_
  rw [Action.ensures_get]
  dsimp only
  split
  · rw [h.wired.named]
    refine (Action.ensures_bind _ _).mpr ((h.setFreeze false).mono ?_ fun _ _ _ h₁ => h₁)
    exact fun _ session₁ w₁ h₁ => hreport false session₁ w₁ h₁
  · exact hreport s.frozen session w h

/-- A whole copy carries out its plan. -/
theorem InCalm.runBulk (h : session.InCalm space m s changes w) (hm : m.Fits (2 ^ 64))
    (hbehind : LogPrefix s.segments m.segments) (hs : s.Replayed) {limit : Nat}
    (hlimit : (copyPlan s (s.missing m)).length < limit) :
    Action.Calmly time space m (runBulk limit)
      (fun result session' w' => result = some .completed ∧ ∃ s', s'.Replayed ∧ s'.segments = m.segments ∧
        session'.InCalm space m s' (changes ++ (copyPlan s (s.missing m)).map (Role.slave, ·)) w')
      (fun _ _ _ => False) session w := by
  obtain ⟨part, rest, hsegments⟩ := Namespace.logPrefix_iff.mp hbehind
  rw [Namespace.missing_eq hsegments] at hlimit ⊢
  have hprepare : Action.Calmly time space m (Action.rounds (fun _ => prepareRound) limit ())
      (fun result session' w' => result = some (some m.snapshot) ∧
        session'.InCalm space m { s with frozen := true } changes w') (fun _ _ _ => False) session w := by
    obtain ⟨limit, rfl⟩ := Nat.exists_eq_succ_of_ne_zero (Nat.ne_of_gt (Nat.zero_lt_of_lt hlimit))
    rw [Action.rounds]
    refine (Action.ensures_bind _ _).mpr ?_
    unfold prepareRound
    refine (Action.ensures_bind _ _).mpr (Action.calmly_stopRequested h.quiet ?_)
    refine (Action.ensures_bind _ _).mpr ((calmly_guarded (h.prepare hm hbehind)).mono ?_ fun _ _ _ h₁ => h₁)
    rintro _ session₁ w₁ ⟨_, rfl, rfl, h₁⟩
    exact ⟨rfl, h₁⟩
  unfold Session.runBulk
  refine (Action.ensures_bind _ _).mpr (hprepare.mono ?_ fun _ _ _ h₁ => h₁)
  rintro _ session₁ w₁ ⟨rfl, h₁⟩
  refine (Action.ensures_bind _ _).mpr (Action.calmly_log h₁.quiet ?_)
  rw [← copyPlan_frozen _ s true] at hlimit ⊢
  refine (Action.ensures_bind _ _).mpr ((copies hm part rest h₁ hs hsegments hlimit).mono ?_ fun _ _ _ h₂ => h₂)
  rintro _ session₂ w₂ ⟨rfl, s', hs', hsame, h₂⟩
  refine (Action.ensures_bind _ _).mpr ((h₂.completeBulk _).mono ?_ fun _ _ _ h₃ => h₃)
  rintro _ session₃ w₃ ⟨rfl, frozen, h₃⟩
  exact ⟨rfl, { s' with frozen }, hs', hsame, h₃⟩

/-- So does a session that is to copy. -/
theorem InCalm.run (h : session.InCalm space m s changes w) (hstrategy : session.strategy = .bulk)
    (hm : m.Fits (2 ^ 64)) (hbehind : LogPrefix s.segments m.segments) (hs : s.Replayed) {limit : Nat}
    (hlimit : (copyPlan s (s.missing m)).length < limit) :
    Action.Calmly time space m (run limit)
      (fun result session' w' => result = some .completed ∧ ∃ s', s'.Replayed ∧ s'.segments = m.segments ∧
        session'.InCalm space m s' (changes ++ (copyPlan s (s.missing m)).map (Role.slave, ·)) w')
      (fun _ _ _ => False) session w := by
  unfold Session.run
  refine (Action.ensures_bind _ _).mpr ((ensures_ensureAuthenticated session w).mono ?_ fun _ _ _ hrefused => ?_)
  case refine_2 =>
    obtain ⟨-, -, client, rfl | rfl, hlogin, -⟩ := hrefused
    · exact absurd (hlogin.symm.trans h.masterLogin) nofun
    · exact absurd (hlogin.symm.trans h.slaveLogin) nofun
  rintro _ _ _ ⟨rfl, rfl, -⟩
  rw [Action.ensures_bind, Action.ensures_get]
  refine (Action.ensures_bind _ _).mpr (Action.calmly_log h.quiet ?_)
  refine (Action.ensures_bind _ _).mpr ?_
  rw [Action.ensures_attempt]
  unfold follow
  rw [Action.ensures_bind, Action.ensures_get, hstrategy]
  refine Action.Ensures.mono (h.runBulk hm hbehind hs hlimit) ?_ fun _ _ _ hfailed => hfailed.elim
  rintro _ session₁ w₁ ⟨rfl, s', hs', hsame, h₁⟩
  refine (Action.ensures_bind _ _).mpr (Action.calmly_log h₁.quiet ?_)
  exact ⟨rfl, s', hs', hsame, h₁⟩

/-- In all surroundings that allow for calm, the session can copy. -/
theorem InCalm.reaches_run {ω : Type} {env : Environment Role ω} {related : Scene → ω → Prop} {v : ω}
    (h : session.InCalm space m s changes w) (hstrategy : session.strategy = .bulk) (hm : m.Fits (2 ^ 64))
    (hbehind : LogPrefix s.segments m.segments) (hs : s.Replayed) {limit : Nat}
    (hlimit : (copyPlan s (s.missing m)).length < limit)
    (hanswer : ∀ w v effect, related w v →
      ∃ v', env v effect (Scene.calm time effect w).1 v' ∧ related (Scene.calm time effect w).2 v')
    (hrelated : related w v) :
    ∃ session' w' v', Program.Reaches env (Session.run limit session) v (.done (.ok (some .completed), session')) v' ∧
      related w' v' ∧ w'.slave.store.segments space = m.segments := by
  have hcalm : Action.Calmly time space m (Session.run limit) _ _ session w :=
    h.run hstrategy hm hbehind hs hlimit
  have hend := Program.Ensures.run hcalm
  obtain ⟨v', hrun, hrelated'⟩ := (Session.run limit session).reaches_run hanswer hrelated
  rcases hresult : (Session.run limit session).run (Scene.calm time) w with ⟨⟨_ | result, session'⟩, w'⟩
  · rw [hresult] at hend
    exact hend.elim
  · rw [hresult] at hend hrun hrelated'
    obtain ⟨rfl, s', -, hsegments, hincalm⟩ := hend
    exact ⟨session', w', v', hrun, hrelated', hincalm.slaveShows.holds.segments.trans hsegments⟩

/-- **A bulk copy of a quiet master completes**, and the slave has the master's log and keys then. The requests
    that change a log are one import for each segment of which entries were missing, and one jump for each segment
    that was. -/
theorem bulk_completes {session : Session Role} {w : Scene} {m s : Namespace} (time : Scene → Duration)
    (hfresh : session.Fresh w m s) (hmaster : w.master.store.faults = []) (hslave : w.slave.store.faults = [])
    (hfits : m.Fits (2 ^ 64)) (hs : s.Replayed) (hm : m.Replayed) :
    let plan := copyPlan s (s.missing m)
    plan.countP (fun request => request.command = .dataImport) = (s.missing m).countP (fun part => !part.isEmpty) ∧
    plan.countP (fun request => request.command = .nsJump) = m.segments.length - s.segments.length ∧
    (∀ request ∈ plan, request.command = .dataImport ∨ request.command = .nsJump) ∧
    ∀ rounds, plan.length < rounds → ∃ session' v s',
      (runBulk rounds session).run (Scene.calm time) w = ((.ok (some .completed), session'), v) ∧
      v.changes = plan.map (Role.slave, ·) ∧
      v.master.store.namespaces.find? session.space = some m ∧
      v.slave.store.namespaces.find? session.space = some s' ∧
      s'.segments = m.segments ∧ s'.keys = m.keys := by
  have hbehind := hfresh.behind
  refine ⟨countP_dataImport_copyPlan _ s, ?_, fun _ => command_of_mem_copyPlan _ s, fun rounds hrounds => ?_⟩
  · rw [countP_nsJump_copyPlan, Namespace.length_missing hbehind]
    omega
  · have hensures : Action.Calmly time session.space m (runBulk rounds) _ _ session w :=
      (hfresh.inCalm hmaster hslave).runBulk hfits hbehind hs hrounds
    have hrun := Program.Ensures.run hensures
    rcases hresult : (runBulk rounds session).run (Scene.calm time) w with ⟨⟨_ | result, session'⟩, v⟩
    · rw [hresult] at hrun
      exact hrun.elim
    · rw [hresult] at hrun
      obtain ⟨rfl, s', hs', hsame, hend⟩ := hrun
      refine ⟨session', v, s', rfl, hend.changes.trans (List.nil_append _), hend.masterShows.found,
        hend.slaveShows.found, hsame, hs'.keys_eq hm hsame⟩

/-- When both sides have been opened, two imports and a jump take three rounds, and the end of the log one more. -/
theorem bulk_completes_from_empty :
    let time : Scene → Duration := fun _ => ⟨0⟩
    ∃ w session' v s',
      (reopen (between .bulk)).run (Scene.calm time) (.between .twoSegments (.ofLog [] [])) =
        ((.ok (), between .bulk), w) ∧
      (runBulk 4 (between .bulk)).run (Scene.calm time) { w with history := [] } =
        ((.ok (some .completed), session'), v) ∧
      v.slave.store.namespaces.find? "data" = some s' ∧ s'.segments = Namespace.twoSegments.segments := by
  intro time
  obtain ⟨w, hreopen, hfresh, hmaster, hslave⟩ := exists_fresh time .bulk Namespace.logPrefix_twoSegments rfl rfl
  obtain ⟨-, -, -, hrun⟩ := bulk_completes time hfresh hmaster hslave Namespace.portable_twoSegments.fits₆₄
    (Namespace.replayed_ofLog _ _) (Namespace.replayed_ofLog _ _)
  obtain ⟨session', v, s', hresult, -, -, hfound, hsame, -⟩ := hrun 4 (by decide)
  exact ⟨w, session', v, s', hreopen, hresult, hfound, hsame⟩

end SegmentSync.Session
