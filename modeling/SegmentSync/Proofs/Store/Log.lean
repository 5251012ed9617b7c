import Mathlib.Algebra.Group.Nat.Defs
import SegmentSync.Store.Namespace

/-!
# `SegmentSync.Proofs.Store.Log` — logs that are prefixes of others

`LogPrefix` is the order of replication: a slave that is behind holds a prefix of the master's log, and an
earlier state of the master's log is a prefix of a later one. The lemmas say what a cursor at the end of the
shorter log finds in the longer one, and which changes keep the order.

Cursors are words of fixed width. `Namespace.Fits` says that a log is small enough for them.
-/

namespace SegmentSync

/-! ## The order -/

/-- A log is a prefix of another: it has no more segments, all but its last one are the other's, and its last
    one begins the other's of the same index. -/
structure LogPrefix (a b : List (List Entry)) : Prop where
  length_le : a.length ≤ b.length
  earlier : ∀ i, i + 1 < a.length → a[i]? = b[i]?
  last : ∀ x y, a[a.length - 1]? = some x → b[a.length - 1]? = some y → x <+: y

namespace LogPrefix

variable {a b c : List (List Entry)}

theorem refl (a : List (List Entry)) : LogPrefix a a where
  length_le := Nat.le_refl _
  earlier := fun _ _ => rfl
  last := fun x y hx hy => by rw [hx] at hy; exact Option.some.inj hy ▸ List.prefix_rfl

theorem trans (hab : LogPrefix a b) (hbc : LogPrefix b c) : LogPrefix a c where
  length_le := Nat.le_trans hab.length_le hbc.length_le
  earlier := fun i hi => (hab.earlier i hi).trans
    (hbc.earlier i (Nat.lt_of_lt_of_le hi hab.length_le))
  last := fun x z hx hz => by
    have hlt : a.length - 1 < a.length := (List.getElem?_eq_some_iff.mp hx).1
    have hlt' : a.length - 1 < b.length := Nat.lt_of_lt_of_le hlt hab.length_le
    have hy : b[a.length - 1]? = some b[a.length - 1] := List.getElem?_eq_getElem hlt'
    have hxy := hab.last x _ hx hy
    -- The segment where `a` ends is either closed in `b`, or the last one of `b` as well.
    by_cases hclosed : a.length - 1 + 1 < b.length
    · have hyz := (hbc.earlier _ hclosed).symm.trans hy
      rw [hz] at hyz
      exact Option.some.inj hyz ▸ hxy
    · have hindex : a.length - 1 = b.length - 1 := by omega
      refine hxy.trans (hbc.last _ z ?_ ?_)
      · rw [← hindex]; exact hy
      · rw [← hindex]; exact hz

/-- A log with a last segment is a prefix of the logs that go on from there. -/
theorem concat_iff {x : List Entry} :
    LogPrefix (a ++ [x]) b ↔ ∃ y rest, b = a ++ y :: rest ∧ x <+: y := by
  constructor
  · intro h
    have hlength : a.length < b.length := by have := h.length_le; simp at this; omega
    have htake : b.take a.length = a := by
      refine List.ext_getElem? fun i => ?_
      rw [List.getElem?_take]
      by_cases hi : i < a.length
      · rw [if_pos hi, ← h.earlier i (by simp; omega), List.getElem?_append_left hi]
      · rw [if_neg hi, List.getElem?_eq_none (by omega)]
    refine ⟨b[a.length], b.drop (a.length + 1), ?_, ?_⟩
    · rw [← List.drop_eq_getElem_cons hlength]
      exact (congrArg (· ++ b.drop a.length) htake).symm.trans (List.take_append_drop _ _) |>.symm
    · refine h.last x _ ?_ ?_
      · simp
      · simp [hlength]
  · rintro ⟨y, rest, rfl, hxy⟩
    refine ⟨by simp, fun i hi => ?_, fun x' y' hx' hy' => ?_⟩
    · have hi' : i < a.length := by simp at hi; omega
      rw [List.getElem?_append_left hi', List.getElem?_append_left hi']
    · simp only [List.length_append, List.length_cons, List.length_nil, Nat.zero_add, Nat.add_sub_cancel,
        List.getElem?_append_right (Nat.le_refl _), Nat.sub_self,
        List.getElem?_cons_zero, Option.some.injEq] at hx' hy'
      exact hx' ▸ hy' ▸ hxy

/-- A log of a longer last segment. -/
theorem of_prefix {x y : List Entry} (h : x <+: y) : LogPrefix (a ++ [x]) (a ++ [y]) :=
  concat_iff.mpr ⟨y, [], rfl, h⟩

/-- A log with a further segment. -/
theorem of_concat (a : List (List Entry)) (x y : List Entry) :
    LogPrefix (a ++ [x]) (a ++ [x] ++ [y]) :=
  concat_iff.mpr ⟨x, [y], by simp, List.prefix_rfl⟩

end LogPrefix

/-! ## Cursors -/

theorem Position.ne_of_lt {a b : Position} (h : a < b) : a ≠ b := by
  rintro rfl
  rcases h with h | ⟨-, h⟩
  · exact absurd h (UInt32.lt_irrefl _)
  · exact absurd h (UInt64.lt_irrefl _)

theorem Position.not_lt_of_le {a b : Position} (h : a ≤ b) : ¬ b < a := by
  simp only [le_def, lt_def, UInt32.lt_iff_toNat_lt, UInt64.lt_iff_toNat_lt, ← UInt32.toNat_inj] at h ⊢
  rcases h with h | rfl <;> omega

theorem Position.lt_trichotomy (a b : Position) : a < b ∨ a = b ∨ b < a := by
  obtain ⟨segment, offset⟩ := a
  obtain ⟨segment', offset'⟩ := b
  simp only [lt_def, mk.injEq, UInt32.lt_iff_toNat_lt, UInt64.lt_iff_toNat_lt, ← UInt32.toNat_inj,
    ← UInt64.toNat_inj]
  omega

theorem Position.lt_of_not_le {a b : Position} (h : ¬ a ≤ b) : b < a := by
  rcases lt_trichotomy a b with hlt | heq | hgt
  · exact absurd (Or.inl hlt) h
  · exact absurd (Or.inr heq) h
  · exact hgt

theorem Position.le_of_not_lt {a b : Position} (h : ¬ b < a) : a ≤ b := by
  rcases lt_trichotomy a b with hlt | heq | hgt
  · exact Or.inl hlt
  · exact Or.inr heq
  · exact absurd hgt h

theorem Position.le_trans {a b c : Position} (hab : a ≤ b) (hbc : b ≤ c) : a ≤ c := by
  rcases hab with hab | rfl
  · rcases hbc with hbc | rfl
    · refine Or.inl ?_
      simp only [lt_def, UInt32.lt_iff_toNat_lt, UInt64.lt_iff_toNat_lt, ← UInt32.toNat_inj] at hab hbc ⊢
      omega
    · exact Or.inl hab
  · exact hbc

/-! ## Decisions -/

namespace Snapshot

variable {master slave : Snapshot}

theorem not_lt_of_decide (h : decide master slave ≠ .fatal) : ¬ master.position < slave.position :=
  fun hlt => h (if_pos hlt)

theorem gt_of_decide (h : decide master slave = .fatal) : master.position < slave.position := by
  unfold decide at h
  split at h
  · assumption
  · split at h <;> cases h

theorem eq_of_decide (h : decide master slave = .wait) : slave.position = master.position := by
  unfold decide at h
  split at h
  · cases h
  · split at h
    · assumption
    · cases h

theorem lt_of_decide (h : decide master slave = .advance) : slave.position < master.position := by
  unfold decide at h
  split at h
  · cases h
  · split at h
    · cases h
    · exact Position.lt_of_not_le fun hle => hle.elim ‹_› fun heq => ‹¬ _› heq.symm

end Snapshot

namespace Namespace

/-- Cursor and size of a namespace. -/
def snapshot (ns : Namespace) : Snapshot := ⟨ns.position, ns.size⟩

/-! ## Changes of a log -/

@[simp] theorem segments_append (ns : Namespace) (entry : Entry) :
    (ns.append entry).segments = ns.earlier ++ [ns.current ++ [entry]] := rfl

@[simp] theorem segments_jump (ns : Namespace) : ns.jump.segments = ns.segments ++ [[]] := rfl

/-- What `n` entries do to a namespace. -/
theorem foldl_append (entries : List Entry) (ns : Namespace) :
    entries.foldl append ns =
      { ns with current := ns.current ++ entries, keys := entries.foldl applyEntry ns.keys } := by
  induction entries generalizing ns with
  | nil => simp
  | cons entry rest ih => rw [List.foldl_cons, ih]; simp [append]

@[simp] theorem segments_foldl_append (entries : List Entry) (ns : Namespace) :
    (entries.foldl append ns).segments = ns.earlier ++ [ns.current ++ entries] := by
  rw [foldl_append]; rfl

theorem logPrefix_append (ns : Namespace) (entry : Entry) :
    LogPrefix ns.segments (ns.append entry).segments :=
  LogPrefix.of_prefix (List.prefix_append _ _)

theorem logPrefix_appendAll (ns : Namespace) (entries : List Entry) :
    LogPrefix ns.segments (entries.foldl append ns).segments := by
  rw [segments_foldl_append]
  exact LogPrefix.of_prefix (List.prefix_append _ _)

theorem logPrefix_jump (ns : Namespace) : LogPrefix ns.segments ns.jump.segments :=
  LogPrefix.of_concat ns.earlier ns.current []

/-- The log of a namespace has been added to, in one of the two ways there are. -/
inductive Extends (ns : Namespace) : Namespace → Prop where
  | jump : Extends ns ns.jump
  | append (entries : List Entry) : Extends ns (entries.foldl append ns)

namespace Extends

variable {ns ns' : Namespace}

theorem append_one (ns : Namespace) (entry : Entry) : ns.Extends (ns.append entry) := .append [entry]

theorem logPrefix (h : ns.Extends ns') : LogPrefix ns.segments ns'.segments := by
  cases h with
  | jump => exact ns.logPrefix_jump
  | append entries => exact ns.logPrefix_appendAll entries

theorem frozen_eq (h : ns.Extends ns') : ns'.frozen = ns.frozen := by
  cases h with
  | jump => rfl
  | append entries => rw [foldl_append]

end Extends

/-- What a single request, or a single write beside, can do to a namespace: nothing, or it sets the flag, or it adds to
    the log. -/
inductive Changes (ns : Namespace) : Namespace → Prop where
  | kept : Changes ns ns
  | flagged (frozen : Bool) : Changes ns { ns with frozen }
  | extended {ns' : Namespace} (h : ns.Extends ns') : Changes ns ns'

theorem Changes.logPrefix {ns ns' : Namespace} (h : ns.Changes ns') : LogPrefix ns.segments ns'.segments := by
  cases h with
  | kept | flagged _ => exact LogPrefix.refl _
  | extended h => exact h.logPrefix

theorem append_ne (ns : Namespace) (entry : Entry) : ns.append entry ≠ ns := by
  intro heq
  have hlength := congrArg (fun ns => ns.current.length) heq
  simp [append] at hlength

theorem jump_ne (ns : Namespace) : ns.jump ≠ ns := by
  intro heq
  have hlength := congrArg (fun ns => ns.earlier.length) heq
  simp [jump] at hlength

theorem logPrefix_iff {s : Namespace} {log : List (List Entry)} :
    LogPrefix s.segments log ↔ ∃ tail rest, log = s.earlier ++ (s.current ++ tail) :: rest := by
  unfold segments
  rw [LogPrefix.concat_iff]
  constructor
  · rintro ⟨y, rest, rfl, tail, rfl⟩; exact ⟨tail, rest, rfl⟩
  · rintro ⟨tail, rest, rfl⟩; exact ⟨_, rest, rfl, List.prefix_append _ _⟩

theorem segments_eq_iff {ns : Namespace} {log : List (List Entry)} {x : List Entry} :
    ns.segments = log ++ [x] ↔ ns.earlier = log ∧ ns.current = x := by
  unfold segments
  constructor
  · intro h
    obtain ⟨h1, h2⟩ := List.append_inj' h rfl
    exact ⟨h1, (List.cons.inj h2).1⟩
  · rintro ⟨rfl, rfl⟩; rfl

/-- The cursor is that of the log. -/
theorem position_eq_of_segments_eq {s m : Namespace} (h : s.segments = m.segments) : s.position = m.position := by
  obtain ⟨hearlier, hcurrent⟩ := segments_eq_iff.mp h
  unfold position
  rw [hearlier, hcurrent]

theorem length_segments (ns : Namespace) : ns.segments.length = ns.earlier.length + 1 := by
  simp [segments]

/-! ## Logs that fit their cursors -/

/-- Segment numbers have 32 bits, and the entries of each segment take less than `room`. -/
structure Fits (room : Nat) (ns : Namespace) : Prop where
  segments_lt : ns.segments.length < 2 ^ 32
  size_lt : ∀ segment ∈ ns.segments, Entry.sizeOf segment < room

theorem Fits.of_logPrefix {room : Nat} {s m : Namespace} (hm : m.Fits room)
    (h : LogPrefix s.segments m.segments) : s.Fits room where
  segments_lt := Nat.lt_of_le_of_lt h.length_le hm.segments_lt
  size_lt := fun segment hmem => by
    obtain ⟨tail, rest, hsegs⟩ := logPrefix_iff.mp h
    rcases List.mem_append.mp hmem with hearlier | hcurrent
    · exact hm.size_lt segment (hsegs ▸ List.mem_append_left _ hearlier)
    · obtain rfl := List.mem_singleton.mp hcurrent
      have hlt := hm.size_lt (s.current ++ tail) (hsegs ▸ List.mem_append_right _ (List.mem_cons_self ..))
      rw [Entry.sizeOf_append] at hlt
      omega

theorem Fits.mono {room room' : Nat} {ns : Namespace} (h : ns.Fits room) (hle : room ≤ room') :
    ns.Fits room' :=
  ⟨h.segments_lt, fun segment hmem => Nat.lt_of_lt_of_le (h.size_lt segment hmem) hle⟩

theorem Fits.sizeOf_current_lt {room : Nat} {ns : Namespace} (h : ns.Fits room) :
    Entry.sizeOf ns.current < room :=
  h.size_lt _ (List.mem_append_right _ (List.mem_singleton.mpr rfl))

theorem sizeOf_le_sizeOf_flatten {segments : List (List Entry)} {segment : List Entry} (h : segment ∈ segments) :
    Entry.sizeOf segment ≤ Entry.sizeOf segments.flatten := by
  obtain ⟨before, after, rfl⟩ := List.append_of_mem h
  rw [List.flatten_append, List.flatten_cons, Entry.sizeOf_append, Entry.sizeOf_append]
  omega

/-- A log whose whole size has a number fits its cursors. -/
theorem Fits.of_size {ns : Namespace} (hsegments : ns.segments.length < 2 ^ 32)
    (hsize : Entry.sizeOf ns.entries < 2 ^ 64) : ns.Fits (2 ^ 64) :=
  ⟨hsegments, fun _ hmem => Nat.lt_of_le_of_lt (sizeOf_le_sizeOf_flatten hmem) hsize⟩

/-- The size that a store reports is that of the log, unless it has wrapped around. -/
theorem size_toNat {ns : Namespace} (hsize : Entry.sizeOf ns.entries < 2 ^ 64) :
    ns.size.toNat = Entry.sizeOf ns.entries := by
  show (Entry.sizeOf ns.entries).toUInt64.toNat = _
  rw [Nat.toUInt64_eq, UInt64.toNat_ofNat']
  exact Nat.mod_eq_of_lt hsize

/-- A log whose offsets and markers travel as signed words of 64 bits. -/
structure Portable (ns : Namespace) : Prop where
  fits : ns.Fits (2 ^ 63)
  markers_lt : ∀ segment ∈ ns.segments, ∀ entry ∈ segment, entry.marker.toNat < 2 ^ 63

theorem Portable.fits₆₄ {ns : Namespace} (h : ns.Portable) : ns.Fits (2 ^ 64) := h.fits.mono (by decide)

section

variable {s m : Namespace}

theorem Fits.segment_toNat (h : s.Fits (2 ^ 64)) : s.position.segment.toNat = s.earlier.length := by
  have hlt := h.segments_lt
  rw [length_segments] at hlt
  show s.earlier.length.toUInt32.toNat = _
  rw [Nat.toUInt32_eq, UInt32.toNat_ofNat']
  exact Nat.mod_eq_of_lt (by omega)

theorem Fits.offset_toNat (h : s.Fits (2 ^ 64)) :
    s.position.offset.toNat = Entry.sizeOf s.current := by
  have hlt := h.sizeOf_current_lt
  show (Entry.sizeOf s.current).toUInt64.toNat = _
  rw [Nat.toUInt64_eq, UInt64.toNat_ofNat']
  exact Nat.mod_eq_of_lt hlt

/-- The cursor at the end of a prefix may travel. -/
theorem Portable.offset_lt (hm : m.Portable) (h : LogPrefix s.segments m.segments) :
    s.position.offset.toNat < 2 ^ 63 := by
  rw [(hm.fits₆₄.of_logPrefix h).offset_toNat]
  exact (hm.fits.of_logPrefix h).sizeOf_current_lt

/-- So may the marker of the entry behind that end. -/
theorem Portable.marker_lt (hm : m.Portable) {entry : Entry} {tail : List Entry} {rest : List (List Entry)}
    (h : m.segments = s.earlier ++ (s.current ++ entry :: tail) :: rest) : entry.marker.toNat < 2 ^ 63 :=
  hm.markers_lt _ (h ▸ List.mem_append_right _ (List.mem_cons_self ..)) _
    (List.mem_append_right _ (List.mem_cons_self ..))

/-- Cursors compare as the ends of logs do. -/
theorem position_lt_iff (hs : s.Fits (2 ^ 64)) (hm : m.Fits (2 ^ 64)) :
    s.position < m.position ↔ s.earlier.length < m.earlier.length ∨
      (s.earlier.length = m.earlier.length ∧ Entry.sizeOf s.current < Entry.sizeOf m.current) := by
  rw [Position.lt_def, UInt32.lt_iff_toNat_lt, UInt64.lt_iff_toNat_lt, ← UInt32.toNat_inj,
    hs.segment_toNat, hm.segment_toNat, hs.offset_toNat, hm.offset_toNat]

/-- **A log never ends before a prefix of it.** -/
theorem not_position_lt (hm : m.Fits (2 ^ 64)) (h : LogPrefix s.segments m.segments) :
    ¬ m.position < s.position := by
  have hs := hm.of_logPrefix h
  obtain ⟨tail, rest, hsegs⟩ := logPrefix_iff.mp h
  have hlength := congrArg List.length hsegs
  rw [length_segments, List.length_append, List.length_cons] at hlength
  rw [position_lt_iff hm hs]
  rintro (hlt | ⟨heq, hlt⟩)
  · omega
  · obtain rfl : rest = [] := List.eq_nil_of_length_eq_zero (by omega)
    obtain ⟨-, hcurrent⟩ := segments_eq_iff.mp hsegs
    rw [hcurrent, Entry.sizeOf_append] at hlt
    omega

/-- **A session waits for a master whose cursor is the slave's, and advances where it is further on.** -/
theorem decide_of_logPrefix (hm : m.Fits (2 ^ 64)) (h : LogPrefix s.segments m.segments) :
    (Snapshot.decide m.snapshot s.snapshot = .wait ∧ s.position = m.position) ∨
      (Snapshot.decide m.snapshot s.snapshot = .advance ∧ s.position < m.position) := by
  have hnotAhead : ¬ m.snapshot.position < s.snapshot.position := not_position_lt hm h
  unfold Snapshot.decide
  rw [if_neg hnotAhead]
  rcases Position.lt_trichotomy s.position m.position with hlt | heq | hgt
  · exact Or.inr ⟨if_neg (Position.ne_of_lt hlt), hlt⟩
  · exact Or.inl ⟨if_pos heq, heq⟩
  · exact absurd hgt hnotAhead

theorem decide_of_segments_eq (h : s.segments = m.segments) : Snapshot.decide m.snapshot s.snapshot = .wait := by
  have hposition : s.snapshot.position = m.snapshot.position := position_eq_of_segments_eq h
  have hnotAhead : ¬ m.snapshot.position < s.snapshot.position := Position.not_lt_of_le (Or.inr hposition)
  unfold Snapshot.decide
  rw [if_neg hnotAhead, if_pos hposition]

/-! ## What a cursor finds -/

theorem dropSize?_sizeOf (a b : List Entry) : dropSize? (Entry.sizeOf a) (a ++ b) = some b := by
  induction a with
  | nil => rw [Entry.sizeOf_nil, dropSize?]; rfl
  | cons entry rest ih =>
    -- Every entry takes room, so that the offset behind it is not zero.
    have hpos := entry.size_pos
    obtain ⟨n, hn⟩ := Nat.exists_eq_succ_of_ne_zero (Nat.ne_of_gt hpos)
    rw [Entry.sizeOf_cons, hn, List.cons_append, show n.succ + Entry.sizeOf rest =
      (n + Entry.sizeOf rest) + 1 by omega, dropSize?, if_pos (by omega), hn,
      show n + Entry.sizeOf rest + 1 - n.succ = Entry.sizeOf rest by omega, ih]

/-- An offset finds the entries behind it only where entries of just that size stand before them. -/
theorem dropSize?_eq_some {offset : Nat} {entries after : List Entry} (h : dropSize? offset entries = some after) :
    ∃ before, entries = before ++ after ∧ Entry.sizeOf before = offset := by
  fun_induction dropSize? offset entries with
  | case1 entries =>
    obtain rfl := Option.some.inj h
    exact ⟨[], rfl, rfl⟩
  | case2 offset => cases h
  | case3 offset entry rest hle ih =>
    obtain ⟨before, rfl, hsize⟩ := ih h
    refine ⟨entry :: before, rfl, ?_⟩
    rw [Entry.sizeOf_cons, hsize]
    omega
  | case4 offset entry rest hlt => cases h

/-- The cursor cuts a segment of the log in two. -/
structure CutAt (m : Namespace) (at_ : Position) (before after : List Entry) : Prop where
  segment : m.segments[at_.segment.toNat]? = some (before ++ after)
  offset : Entry.sizeOf before = at_.offset.toNat

theorem CutAt.entriesFrom? {at_ : Position} {before after : List Entry} (h : m.CutAt at_ before after) :
    m.entriesFrom? at_ = .ok after := by
  unfold Namespace.entriesFrom?
  rw [h.segment, ← h.offset]
  simp only [dropSize?_sizeOf]

/-- **A cursor into a segment that there is either cuts it, or is no offset of an entry.** -/
theorem entriesFrom?_cases {at_ : Position} (hsegment : at_.segment.toNat < m.segments.length) :
    (∃ before after, m.CutAt at_ before after) ∨
      (¬ ∃ before after, m.CutAt at_ before after) ∧
        m.entriesFrom? at_ = .error (.server ("Invalid offset " ++ Decimal.text at_.offset.toNat)) := by
  have hfound : m.segments[at_.segment.toNat]? = some m.segments[at_.segment.toNat] :=
    List.getElem?_eq_getElem hsegment
  cases hdrop : dropSize? at_.offset.toNat m.segments[at_.segment.toNat] with
  | some after =>
    obtain ⟨before, hsplit, hsize⟩ := dropSize?_eq_some hdrop
    exact Or.inl ⟨before, after, hsplit ▸ hfound, hsize⟩
  | none =>
    refine Or.inr ⟨?_, ?_⟩
    · rintro ⟨before, after, hcut, hsize⟩
      obtain hsplit := Option.some.inj (hfound.symm.trans hcut)
      rw [hsplit, ← hsize, dropSize?_sizeOf] at hdrop
      cases hdrop
    · unfold entriesFrom?
      rw [hfound]
      simp only [hdrop]

/-- **The end of a prefix is a cursor into the log**, and cuts the segment where the prefix ends just there. -/
theorem cutAt_position (hs : s.Fits (2 ^ 64)) {tail : List Entry} {rest : List (List Entry)}
    (h : m.segments = s.earlier ++ (s.current ++ tail) :: rest) : m.CutAt s.position s.current tail where
  -- The number of the segment and the offset are those of the prefix, as neither has wrapped around.
  segment := by
    rw [hs.segment_toNat, h, List.getElem?_append_right (Nat.le_refl _), Nat.sub_self, List.getElem?_cons_zero]
  offset := hs.offset_toNat.symm

/-- It finds what the log has beyond the prefix in that segment. -/
theorem entriesFrom?_position (hs : s.Fits (2 ^ 64)) {tail : List Entry} {rest : List (List Entry)}
    (h : m.segments = s.earlier ++ (s.current ++ tail) :: rest) :
    m.entriesFrom? s.position = .ok tail :=
  (cutAt_position hs h).entriesFrom?

/-- Where there is an entry beyond the prefix, the prefix may take it over. -/
theorem logPrefix_append_of_next {entry : Entry} {tail : List Entry} {rest : List (List Entry)}
    (h : m.segments = s.earlier ++ (s.current ++ entry :: tail) :: rest) :
    LogPrefix (s.append entry).segments m.segments := by
  refine logPrefix_iff.mpr ⟨tail, rest, ?_⟩
  rw [h]; simp [append]

/-- A log that goes on from the end of a prefix ends after it. -/
theorem position_lt_of_more (hm : m.Fits (2 ^ 64)) {tail : List Entry} {rest : List (List Entry)}
    (h : m.segments = s.earlier ++ (s.current ++ tail) :: rest) (hmore : tail ≠ [] ∨ rest ≠ []) :
    s.position < m.position := by
  have hs := hm.of_logPrefix (logPrefix_iff.mpr ⟨tail, rest, h⟩)
  have hlength := congrArg List.length h
  rw [length_segments, List.length_append, List.length_cons] at hlength
  rw [position_lt_iff hs hm]
  -- The longer log goes on in this segment, or in a later one.
  rcases rest with _ | ⟨next, more⟩
  · obtain ⟨entry, tail, rfl⟩ := List.exists_cons_of_ne_nil (hmore.resolve_right fun hne => hne rfl)
    obtain ⟨hearlier, hcurrent⟩ := segments_eq_iff.mp h
    have hpos := entry.size_pos
    refine Or.inr ⟨by rw [hearlier], ?_⟩
    rw [hcurrent, Entry.sizeOf_append, Entry.sizeOf_cons]
    omega
  · rw [List.length_cons] at hlength
    exact Or.inl (by omega)

/-- **The end of a growing log moves on just where the log has grown.** -/
theorem position_lt_iff_ne (hm : m.Fits (2 ^ 64)) (h : LogPrefix s.segments m.segments) :
    s.position < m.position ↔ m.segments ≠ s.segments := by
  constructor
  · intro hlt hsame
    exact Position.ne_of_lt hlt (position_eq_of_segments_eq hsame.symm)
  · intro hne
    obtain ⟨tail, rest, hsegments⟩ := logPrefix_iff.mp h
    cases tail with
    | cons entry tail => exact position_lt_of_more hm hsegments (.inl (List.cons_ne_nil _ _))
    | nil =>
      refine position_lt_of_more hm hsegments (.inr fun hrest => hne ?_)
      rw [hsegments, hrest, List.append_nil]
      rfl

/-- All of the entries that are left in the segment may be taken over at once. -/
theorem logPrefix_appendAll_of_next {tail : List Entry} {rest : List (List Entry)}
    (h : m.segments = s.earlier ++ (s.current ++ tail) :: rest) :
    LogPrefix (tail.foldl append s).segments m.segments := by
  rw [segments_foldl_append, h]
  exact LogPrefix.concat_iff.mpr ⟨_, rest, rfl, List.prefix_rfl⟩

/-- Where the segment has nothing beyond the prefix and is not the last one, the prefix may go on to the next
    segment. -/
theorem logPrefix_jump_of_closed {next : List Entry} {rest : List (List Entry)}
    (h : m.segments = s.earlier ++ s.current :: next :: rest) :
    LogPrefix s.jump.segments m.segments := by
  refine logPrefix_iff.mpr ⟨next, rest, ?_⟩
  rw [h]; simp [jump]

/-- The segment after one that is closed has a number. -/
theorem next?_position_of_closed (hm : m.Fits (2 ^ 64)) {next : List Entry} {rest : List (List Entry)}
    (h : m.segments = s.earlier ++ s.current :: next :: rest) : ∃ start, s.position.next? = some start := by
  have hs := hm.of_logPrefix (logPrefix_iff.mpr ⟨[], next :: rest, by rw [h, List.append_nil]⟩)
  have hlt := hm.segments_lt
  rw [h, List.length_append, List.length_cons, List.length_cons] at hlt
  refine ⟨⟨s.position.segment + 1, 0⟩, if_pos ?_⟩
  rw [hs.segment_toNat]
  show s.earlier.length + 1 < 2 ^ 32
  omega

/-- Two prefixes of a log that end in the same segment have the same segments before it. -/
theorem current_prefix_of_length_eq {m₀ : Namespace} (h₀ : LogPrefix m₀.segments m.segments)
    {x : List Entry} {rest : List (List Entry)} (h : m.segments = s.earlier ++ x :: rest)
    (hlength : s.earlier.length = m₀.earlier.length) : m₀.current <+: x := by
  obtain ⟨tail, rest₀, hsegments⟩ := logPrefix_iff.mp h₀
  obtain ⟨-, hlast⟩ := List.append_inj (h.symm.trans hsegments) hlength
  rw [(List.cons.inj hlast).1]
  exact List.prefix_append _ _

/-- If the log of `m₀`, an earlier state of `m`, went beyond the end of `s`, and `m` has nothing more in the
    segment where `s` ends, then `m₀` had gone beyond that segment. -/
theorem earlier_lt_of_position_lt {m₀ : Namespace} (hm : m.Fits (2 ^ 64))
    (h₀ : LogPrefix m₀.segments m.segments) (hlt : s.position < m₀.position)
    {rest : List (List Entry)} (h : m.segments = s.earlier ++ s.current :: rest) :
    s.earlier.length < m₀.earlier.length := by
  have hs : LogPrefix s.segments m.segments := logPrefix_iff.mpr ⟨[], rest, by rw [h, List.append_nil]⟩
  rcases (position_lt_iff (hm.of_logPrefix hs) (hm.of_logPrefix h₀)).mp hlt with hearlier | ⟨heq, hsize⟩
  · exact hearlier
  · obtain ⟨tail, hcurrent⟩ := current_prefix_of_length_eq h₀ h heq
    rw [← hcurrent, Entry.sizeOf_append] at hsize
    omega

/-- **A segment whose end was passed is closed.** If the log of `m₀`, an earlier state of `m`, went beyond the
    end of `s`, and `m` has nothing more in the segment where `s` ends, then `m` has a further segment. -/
theorem exists_next_segment {m₀ : Namespace} (hm : m.Fits (2 ^ 64))
    (h₀ : LogPrefix m₀.segments m.segments) (hlt : s.position < m₀.position)
    {rest : List (List Entry)} (h : m.segments = s.earlier ++ s.current :: rest) :
    ∃ next more, rest = next :: more := by
  cases rest with
  | cons next more => exact ⟨next, more, rfl⟩
  | nil =>
    have hearlier := earlier_lt_of_position_lt hm h₀ hlt h
    have hlength := h₀.length_le
    rw [h, length_segments, List.length_append, List.length_singleton] at hlength
    omega

end

end Namespace

end SegmentSync
