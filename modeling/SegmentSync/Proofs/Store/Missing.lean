import SegmentSync.Proofs.Store.Log

/-!
# `SegmentSync.Proofs.Store.Missing` — what a slave lacks, and how it gets there

## Contents
- **What is missing.** `Namespace.missing`, segment by segment.
- **Moves.** A slave catches up by taking over entries and by going on to next segments. `Move.list` is the way
  through what is missing; it ends at the master's log (`Namespace.segments_foldl_move`).
- **Numbers.** How many moves of each kind there are.
- **Keys.** A store's keys are the replay of its log (`Namespace.Replayed`), so that stores with one log have
  the same keys. A deletion is taken over only where its key is set (`Move.isLive`).
-/

namespace SegmentSync

/-- One of the changes by which a slave comes closer to its master. -/
inductive Move where
  /-- An entry is taken over. -/
  | entry (entry : Entry)
  /-- The next segment is started. -/
  | jump
  deriving DecidableEq, Repr

namespace Move

/-- The move takes an entry over. -/
def isEntry : Move → Bool
  | .entry _ => true
  | .jump => false

/-- The moves through parts of segments, with a jump between each two. -/
def list : List (List Entry) → List Move
  | [] => []
  | [part] => part.map .entry
  | part :: parts => part.map .entry ++ .jump :: list parts

@[simp] theorem list_nil_cons (part : List Entry) (parts : List (List Entry)) :
    list ([] :: part :: parts) = .jump :: list (part :: parts) := rfl

@[simp] theorem list_cons_cons (entry : Entry) (part : List Entry) (parts : List (List Entry)) :
    list ((entry :: part) :: parts) = .entry entry :: list (part :: parts) := by
  cases parts <;> rfl

/-- There is a move for each entry, and one for each further part. -/
theorem length_list (parts : List (List Entry)) :
    (list parts).length = parts.flatten.length + (parts.length - 1) := by
  fun_induction list with
  | case1 => rfl
  | case2 part => simp
  | case3 part parts hne ih =>
    have hpos : 0 < parts.length := List.length_pos_iff.mpr fun h => hne h
    simp only [List.length_append, List.length_map, List.length_cons, List.flatten_cons, ih]
    omega

theorem countP_isEntry_list (parts : List (List Entry)) : (list parts).countP isEntry = parts.flatten.length := by
  fun_induction list with
  | case1 => rfl
  | case2 part => simp [List.countP_map, Function.comp_def, isEntry]
  | case3 part parts hne ih => simp [List.countP_map, Function.comp_def, isEntry, ih]

end Move

namespace Namespace

variable {s m : Namespace}

/-! ## What is missing -/

/-- What the master has beyond the slave: the rest of the segment where the slave ends, and the segments after
    it. -/
def missing (s m : Namespace) : List (List Entry) :=
  match m.segments.drop s.earlier.length with
  | [] => []
  | segment :: rest => segment.drop s.current.length :: rest

theorem missing_eq {tail : List Entry} {rest : List (List Entry)}
    (h : m.segments = s.earlier ++ (s.current ++ tail) :: rest) : s.missing m = tail :: rest := by
  unfold missing
  rw [h, List.drop_left]
  simp only [List.drop_left]

/-- A slave that misses nothing has the master's log. -/
theorem segments_eq_of_missing (h : LogPrefix s.segments m.segments) (hnone : s.missing m = [[]]) :
    s.segments = m.segments := by
  obtain ⟨tail, rest, hsegments⟩ := logPrefix_iff.mp h
  rw [missing_eq hsegments] at hnone
  obtain ⟨rfl, rfl⟩ := List.cons.inj hnone
  rw [hsegments, List.append_nil]; rfl

/-! ## Moves -/

/-- The namespace after a move. -/
def move (ns : Namespace) : Move → Namespace
  | .entry entry => ns.append entry
  | .jump => ns.jump

/-- The master's log goes on with that move where the slave ends. -/
def Next (s m : Namespace) : Move → Prop
  | .entry entry => ∃ tail rest, m.segments = s.earlier ++ (s.current ++ entry :: tail) :: rest
  | .jump => ∃ next rest, m.segments = s.earlier ++ s.current :: next :: rest

theorem Next.position_lt {next : Move} (hm : m.Fits (2 ^ 64)) (h : s.Next m next) : s.position < m.position := by
  cases next with
  | entry entry =>
    obtain ⟨tail, rest, hsegments⟩ := h
    exact position_lt_of_more hm hsegments (Or.inl (List.cons_ne_nil _ _))
  | jump =>
    obtain ⟨next, rest, hsegments⟩ := h
    rw [← List.append_nil s.current] at hsegments
    exact position_lt_of_more hm hsegments (Or.inr (List.cons_ne_nil _ _))

/-- So a step goes on from there. -/
theorem Next.decide {next : Move} (hm : m.Fits (2 ^ 64)) (h : s.Next m next)
    (hbehind : LogPrefix s.segments m.segments) : Snapshot.decide m.snapshot s.snapshot = .advance := by
  rcases decide_of_logPrefix hm hbehind with ⟨-, heq⟩ | ⟨hdecide, -⟩
  · exact absurd heq (Position.ne_of_lt (h.position_lt hm))
  · exact hdecide

/-- The first move through what is missing leads closer, and the others are those that are missing then. -/
theorem missing_move (h : LogPrefix s.segments m.segments) {first : Move} {moves : List Move}
    (hmoves : Move.list (s.missing m) = first :: moves) :
    s.Next m first ∧ LogPrefix (s.move first).segments m.segments ∧
      Move.list ((s.move first).missing m) = moves := by
  obtain ⟨tail, rest, hsegments⟩ := logPrefix_iff.mp h
  rw [missing_eq hsegments] at hmoves
  -- The first move takes an entry over where the slave's segment has one left, and is a jump otherwise.
  rcases tail with _ | ⟨entry, tail⟩
  · rcases rest with _ | ⟨next, more⟩
    · exact absurd hmoves nofun
    · rw [Move.list_nil_cons] at hmoves
      obtain ⟨rfl, rfl⟩ := List.cons.inj hmoves
      rw [List.append_nil] at hsegments
      have hnext : m.segments = s.jump.earlier ++ (s.jump.current ++ next) :: more := by
        rw [hsegments]; simp [jump]
      exact ⟨⟨next, more, hsegments⟩, logPrefix_jump_of_closed hsegments, by rw [move, missing_eq hnext]⟩
  · rw [Move.list_cons_cons] at hmoves
    obtain ⟨rfl, rfl⟩ := List.cons.inj hmoves
    have hnext : m.segments = (s.append entry).earlier ++ ((s.append entry).current ++ tail) :: rest := by
      rw [hsegments]; simp [append]
    exact ⟨⟨tail, rest, hsegments⟩, logPrefix_append_of_next hsegments, by rw [move, missing_eq hnext]⟩

/-- **After some of the moves through what is missing, the others are those that are missing.** -/
theorem missing_foldl_move {before after : List Move} (h : LogPrefix s.segments m.segments)
    (hmoves : Move.list (s.missing m) = before ++ after) :
    LogPrefix (before.foldl move s).segments m.segments ∧
      Move.list ((before.foldl move s).missing m) = after := by
  induction before generalizing s with
  | nil => exact ⟨h, hmoves⟩
  | cons first before ih =>
    obtain ⟨-, hnext, hrest⟩ := missing_move h hmoves
    exact ih hnext hrest

theorem list_missing_eq_nil (h : LogPrefix s.segments m.segments) (hnone : Move.list (s.missing m) = []) :
    s.missing m = [[]] := by
  obtain ⟨tail, rest, hsegments⟩ := logPrefix_iff.mp h
  rw [missing_eq hsegments] at hnone ⊢
  rcases tail with _ | ⟨entry, tail⟩
  · rcases rest with _ | ⟨next, more⟩
    · rfl
    · exact absurd hnone nofun
  · rw [Move.list_cons_cons] at hnone
    exact absurd hnone nofun

/-- **The way through what is missing ends at the master's log.** -/
theorem segments_foldl_move (h : LogPrefix s.segments m.segments) :
    ((Move.list (s.missing m)).foldl move s).segments = m.segments := by
  obtain ⟨hend, hnone⟩ := missing_foldl_move h (List.append_nil _).symm
  exact segments_eq_of_missing hend (list_missing_eq_nil hend hnone)

@[simp] theorem frozen_move (ns : Namespace) (first : Move) : (ns.move first).frozen = ns.frozen := by
  cases first <;> rfl

@[simp] theorem frozen_foldl_move (moves : List Move) (ns : Namespace) :
    (moves.foldl move ns).frozen = ns.frozen := by
  induction moves generalizing ns with
  | nil => rfl
  | cons first moves ih => rw [List.foldl_cons, ih, frozen_move]

/-! ## Numbers -/

/-- The moves take over every entry that the slave lacks. -/
theorem countP_isEntry_missing (h : LogPrefix s.segments m.segments) :
    (Move.list (s.missing m)).countP Move.isEntry = m.entries.length - s.entries.length := by
  obtain ⟨tail, rest, hsegments⟩ := logPrefix_iff.mp h
  have hm : m.entries = s.entries ++ (tail :: rest).flatten := by
    unfold entries
    rw [hsegments]
    simp [segments]
  rw [Move.countP_isEntry_list, missing_eq hsegments, hm, List.length_append]
  omega

/-- There is a missing part for the segment where the slave ends, and for every segment that it lacks. -/
theorem length_missing (h : LogPrefix s.segments m.segments) :
    (s.missing m).length = m.segments.length - s.segments.length + 1 := by
  obtain ⟨tail, rest, hsegments⟩ := logPrefix_iff.mp h
  rw [missing_eq hsegments, hsegments, length_segments]
  simp only [List.length_append, List.length_cons]
  omega

/-- There is a further move for every segment that the slave lacks. -/
theorem length_list_missing (h : LogPrefix s.segments m.segments) :
    (Move.list (s.missing m)).length =
      (m.entries.length - s.entries.length) + (m.segments.length - s.segments.length) := by
  rw [← countP_isEntry_missing h, Move.countP_isEntry_list, Move.length_list, length_missing h, Nat.add_sub_cancel]

/-! ## Keys -/

/-- The keys are what the log amounts to. -/
def Replayed (ns : Namespace) : Prop := ns.keys = ns.entries.foldl applyEntry .empty

/-- A namespace with a log, and the keys that it amounts to. -/
def ofLog (earlier : List (List Entry)) (current : List Entry) : Namespace where
  earlier
  current
  keys := (earlier ++ [current]).flatten.foldl applyEntry .empty

theorem replayed_ofLog (earlier : List (List Entry)) (current : List Entry) :
    (ofLog earlier current).Replayed := rfl

/-- A key is set, and deleted in the next segment. -/
def twoSegments : Namespace := .ofLog [[⟨[97], some [49], 1⟩]] [⟨[97], none, 2⟩]

theorem portable_twoSegments : twoSegments.Portable := ⟨⟨by decide, by decide⟩, by decide⟩

theorem logPrefix_twoSegments : LogPrefix (ofLog [] []).segments twoSegments.segments :=
  logPrefix_iff.mpr ⟨[⟨[97], some [49], 1⟩], [[⟨[97], none, 2⟩]], rfl⟩

theorem Replayed.append (h : s.Replayed) (entry : Entry) : (s.append entry).Replayed := by
  unfold Replayed entries at *
  rw [segments_append]
  simp only [segments, List.flatten_append, List.flatten_singleton, List.foldl_append] at h ⊢
  rw [← h]; rfl

theorem Replayed.foldl_append (h : s.Replayed) (entries : List Entry) :
    (entries.foldl Namespace.append s).Replayed := by
  induction entries generalizing s with
  | nil => exact h
  | cons entry entries ih => exact ih (h.append entry)

theorem Replayed.jump (h : s.Replayed) : s.jump.Replayed := by
  unfold Replayed entries at *
  rw [segments_jump, List.flatten_append, List.flatten_singleton, List.append_nil]
  exact h

theorem Replayed.move (h : s.Replayed) : (first : Move) → (s.move first).Replayed
  | .entry entry => h.append entry
  | .jump => h.jump

theorem Replayed.foldl_move (h : s.Replayed) (moves : List Move) : (moves.foldl Namespace.move s).Replayed := by
  induction moves generalizing s with
  | nil => exact h
  | cons first moves ih => exact ih (h.move first)

/-- Stores with one log have the same keys. -/
theorem Replayed.keys_eq (hs : s.Replayed) (hm : m.Replayed) (h : s.segments = m.segments) :
    s.keys = m.keys := by
  unfold Replayed entries at hs hm
  rw [hs, hm, h]

end Namespace

namespace Move

/-- The move is no deletion of a key that is not set. -/
def isLive (ns : Namespace) : Move → Bool
  | .entry e => e.value.isSome || ns.keys.contains e.key
  | .jump => true

/-- No move deletes a key that is not set by then. -/
def areLive : Namespace → List Move → Bool
  | _, [] => true
  | ns, first :: moves => first.isLive ns && areLive (ns.move first) moves

/-- Where some move is not live, there is a first one: a deletion of a key that is not set by then. -/
theorem exists_first_dead {ns : Namespace} {moves : List Move} (h : areLive ns moves = false) :
    ∃ before tombstone after, moves = before ++ .entry tombstone :: after ∧ areLive ns before = true ∧
      tombstone.value = none ∧ (before.foldl Namespace.move ns).keys.contains tombstone.key = false := by
  induction moves generalizing ns with
  | nil => exact absurd h nofun
  | cons first moves ih =>
    cases hlive : first.isLive ns with
    | true =>
      rw [areLive, hlive, Bool.true_and] at h
      obtain ⟨before, tombstone, after, rfl, hbefore, hvalue, hkey⟩ := ih h
      exact ⟨first :: before, tombstone, after, rfl, by rw [areLive, hlive, hbefore]; rfl, hvalue, hkey⟩
    | false =>
      cases first with
      | jump => exact absurd hlive nofun
      | entry e =>
        simp only [isLive, Bool.or_eq_false_iff, Option.isSome_eq_false_iff, Option.isNone_iff_eq_none] at hlive
        exact ⟨[], e, moves, rfl, rfl, hlive.1, hlive.2⟩

end Move

end SegmentSync
