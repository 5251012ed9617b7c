import SegmentSync.Proofs.Replication.Copy
import SegmentSync.Proofs.Replication.Operations

/-!
# `SegmentSync.Proofs.Replication.Exactness` — a bulk copy ends exactly at the end of its last segment

A bulk copy reads its baseline once, and copies while the master is written to. Imports and jumps may be done
without being answered; none is repeated, because every step starts from the slave's own cursor. The copy ends
with the segment of the baseline, as it was when the master had nothing more of it to export.

## Contents
- **Bounds.** Before the baseline is read the slave has what it had. While copying it goes no further than the
  segment of the baseline (`Session.Copying`).
- **Preparing.** The baseline is read from a master of which the slave is a prefix.
- **Copying.** `copyStep` keeps the bounds, and ends where the slave is sealed (`Session.Sealed`).
- **The run.** `Scene.Exact` is what a completed copy has reached; `bulk_is_exact`.
-/

namespace SegmentSync

namespace Session

open SegmentSync.Action (Round)

variable {α : Type} {space : String} {limit : Namespace → Prop} {session : Session Role} {seen : Option Snapshot}
  {m₀ m s s' : Namespace} {w : Scene} {ending : Exchange}

/-! ## Bounds -/

/-- The slave has not gone beyond the segment of the latest reading of the master. -/
def NotBeyond (seen : Option Snapshot) (_ s : Namespace) : Prop :=
  ∀ reading, seen = some reading → s.segments.length ≤ reading.position.segment.toNat + 1

/-- The copy goes up to the segment where `m₀` ends, from which the master has grown. -/
structure Copying (limit : Namespace → Prop) (m₀ : Namespace) (seen : Option Snapshot) (m s : Namespace) :
    Prop where
  seen : seen = some m₀.snapshot
  limited : limit m
  grown : LogPrefix m₀.segments m.segments
  within : s.segments.length ≤ m₀.segments.length

/-- The slave has the segments of `m₀`, and the last one of them to the end that an export found. -/
structure Sealed (space : String) (m₀ s : Namespace) (ending : Exchange) : Prop where
  role : ending.role = .master
  outcome : ending.outcome = .error .eof
  segment : (ending.master.segments space)[s.earlier.length]? = some s.current
  length : s.segments.length = m₀.segments.length
  upTo : m₀.current <+: s.current

theorem segment_snapshot (hm₀ : m₀.Fits (2 ^ 64)) :
    m₀.snapshot.position.segment.toNat + 1 = m₀.segments.length := by
  rw [Namespace.length_segments]
  exact congrArg (· + 1) hm₀.segment_toNat

theorem Copying.notBeyond (h : Copying limit m₀ seen m s) (hm₀ : m₀.Fits (2 ^ 64)) : NotBeyond seen m s := by
  intro reading hreading
  have heq := hreading.symm.trans h.seen
  rw [Option.some.inj heq, segment_snapshot hm₀]
  exact h.within

/-- A copy up to a baseline is under way. -/
def CopyingTo (limit : Namespace → Prop) (baseline : Snapshot) (seen : Option Snapshot) (m s : Namespace) : Prop :=
  ∃ m₀, baseline = m₀.snapshot ∧ limit m₀ ∧ Copying limit m₀ seen m s

theorem onTrack_notBeyond {baseline : Snapshot} (hlimit : ∀ ns, limit ns → ns.Fits (2 ^ 64))
    (h : session.OnTrack space (CopyingTo limit baseline) w) : session.OnTrack space NotBeyond w := by
  refine h.mono ?_
  rintro seen m s ⟨m₀, -, hm₀, hcopying⟩
  exact hcopying.notBeyond (hlimit m₀ hm₀)

/-! ## Preparing -/

/-- The baseline is read from a master of which the slave is a prefix. -/
theorem ensures_prepare (hlimit : ∀ ns, limit ns → ns.Fits (2 ^ 64)) (h : session.OnTrack space NotBeyond w) :
    Action.Withstands space limit prepare (fun baseline => OnTrack space (CopyingTo limit baseline))
      (fun failure session w => session.OnTrack space NotBeyond w ∧ failure.Consistent) session w := by
  obtain ⟨seen, m, s, h, hbounds⟩ := h
  unfold prepare
  refine (Action.ensures_bind _ _).mpr ?_
  rw [Action.ensures_get, Action.ensures_bind, h.wired.named]
  refine (h.setFreeze true).mono ?_ ?_
  · intro _ session₁ w₁ h₁
    refine (Action.ensures_bind _ _).mpr (h₁.masterInfo.mono ?_ ?_)
    · rintro _ session₂ w₂ ⟨m₀, -, hm₀, rfl, h₂⟩
      have hwithin := h₂.behind.length_le
      -- The bounds start here: at the baseline, the slave is a prefix of the master.
      have hcopying : Copying limit m₀ (some m₀.snapshot) m₀ { s with frozen := true } :=
        ⟨rfl, hm₀, LogPrefix.refl _, hwithin⟩
      refine (Action.ensures_bind _ _).mpr ((h₂.slaveInfo (hlimit m₀ hm₀)).mono ?_ ?_)
      · rintro _ session₃ w₃ ⟨rfl, h₃⟩
        rcases Namespace.decide_of_logPrefix (hlimit m₀ hm₀) h₃.behind with ⟨hdecide, -⟩ | ⟨hdecide, -⟩
        · rw [hdecide]; exact ⟨_, _, _, h₃, m₀, rfl, hm₀, hcopying⟩
        · rw [hdecide]; exact ⟨_, _, _, h₃, m₀, rfl, hm₀, hcopying⟩
      · exact fun _ _ _ h₃ => ⟨⟨_, _, _, h₃.2, hcopying.notBeyond (hlimit m₀ hm₀)⟩, h₃.1⟩
    · exact fun _ _ _ h₂ => ⟨⟨_, _, _, h₂.2, hbounds⟩, h₂.1⟩
  · rintro failure session₁ w₁ ⟨hconsistent, h₁ | h₁⟩
    · exact ⟨⟨_, _, _, h₁, hbounds⟩, hconsistent⟩
    · exact ⟨⟨_, _, _, h₁, hbounds⟩, hconsistent⟩

/-! ## Copying -/

/-- The slave is sealed by the latest export, and the master has grown from `m` at most. -/
def AtEnd (space : String) (m₀ : Namespace) (session : Session Role) (w : Scene) : Prop :=
  ∃ m s ending, session.Tracks space (some m₀.snapshot) m s w ∧ w.lastExport = some ending ∧
    Sealed space m₀ s ending

/-- What a step of the copy leads to: its end, or further steps. -/
def Copied (space : String) (limit : Namespace → Prop) (m₀ : Namespace) : CopyStep → Session Role → Scene → Prop
  | .done => AtEnd space m₀
  | .imported _ | .jumped => OnTrack space (Copying limit m₀)

/-- What a step of the copy leads to, within its bounds. -/
def CopiedWithin (space : String) (limit : Namespace → Prop) (m₀ : Namespace) (result : CopyStep)
    (session : Session Role) (w : Scene) : Prop :=
  Copied space limit m₀ result session w ∧ session.OnTrack space (Copying limit m₀) w

/-- Neither lines of the log nor reports move a slave that is sealed. -/
theorem around_atEnd : Around (Scene.trouble space limit) (Scene.InStep space) (AtEnd space m₀) where
  around := by
    rintro session w effect answer w' ⟨m, s, ending, h, hexport, hsealed⟩ hasks htrouble
    have hkeeps : Scene.Keeps space effect := by
      cases hasks with
      | pause hpause => cases hpause <;> trivial
      | log | clock | finished => trivial
    have hother : ∀ role request, effect = .execute role request → request.command ≠ .dataExport := by
      cases hasks with
      | pause hpause => cases hpause <;> exact nofun
      | log | clock | finished => exact nofun
    have h' := h.keeps hkeeps htrouble
    exact ⟨h'.inStep, m, s, ending, h', (Scene.trouble_lastExport hother htrouble).trans hexport, hsealed⟩
  reported := by
    rintro session w reported ⟨m, s, ending, h, hexport, hsealed⟩
    exact ⟨m, s, ending, h.noting session.failures session.backoff reported, hexport, hsealed⟩

/-- An action keeps the latest export. -/
abbrev KeepsExport (space : String) (limit : Namespace → Prop) (ending : Exchange)
    (x : Action (Session Role) Role α) : Prop :=
  Action.Maintains (Scene.trouble space limit) (fun _ => True) (fun _ w => w.lastExport = some ending)
    (fun _ => True) x

theorem keepsExport_setFreeze (name : String) (enabled : Bool) :
    KeepsExport space limit ending (onSlave (Client.setFreeze name enabled)) := by
  refine .focus (fun _ => rfl) fun session => .bind ?_ fun _ => ?_
  · intro c w hexport
    refine Client.ensures_note fun line w' htrouble => ⟨trivial, ?_⟩
    exact (Scene.trouble_lastExport (fun _ _ heq => by cases heq) htrouble).trans hexport
  · refine Client.maintains_callFor fun c w r w' hexport htrouble => ⟨trivial, ?_⟩
    refine (Scene.trouble_lastExport (fun role request heq => ?_) htrouble).trans hexport
    cases heq
    exact nofun

/-- A slave that has reached the baseline, and ends where an export ended, is sealed. -/
theorem sealed_of_reached (hm : m.Fits (2 ^ 64)) (hm₀ : m₀.Fits (2 ^ 64))
    (hgrown : LogPrefix m₀.segments m.segments) (hwithin : s.segments.length ≤ m₀.segments.length)
    {rest : List (List Entry)} (hsegments : m.segments = s.earlier ++ s.current :: rest)
    (hreached : m₀.position ≤ s.position) (hrole : ending.role = .master)
    (houtcome : ending.outcome = .error .eof) (hmaster : ending.master.segments space = m.segments) :
    Sealed space m₀ s ending := by
  have hbehind : LogPrefix s.segments m.segments :=
    Namespace.logPrefix_iff.mpr ⟨[], rest, by rw [hsegments, List.append_nil]⟩
  rw [Namespace.length_segments, Namespace.length_segments] at hwithin
  -- The bounds keep the slave from a later segment, and the baseline is reached: so it ends in that segment.
  have hlength : s.earlier.length = m₀.earlier.length := by
    rcases Nat.lt_or_ge s.earlier.length m₀.earlier.length with hlt | hge
    · have hposition := (Namespace.position_lt_iff (hm.of_logPrefix hbehind) hm₀).mpr (Or.inl hlt)
      exact absurd hposition (Position.not_lt_of_le hreached)
    · omega
  refine ⟨hrole, houtcome, ?_, ?_, Namespace.current_prefix_of_length_eq hgrown hsegments hlength⟩
  · rw [hmaster, hsegments, List.getElem?_append_right (Nat.le_refl _), Nat.sub_self]; rfl
  · rw [Namespace.length_segments, Namespace.length_segments, hlength]

/-- The slave ends with a segment of which the master has no more. At the baseline or beyond it that is the end of
    the copy; before, the segment is closed. -/
theorem ensures_endOfSegment (hlimit : ∀ ns, limit ns → ns.Fits (2 ^ 64)) (hm₀ : m₀.Fits (2 ^ 64))
    (h : session.Tracks space seen m s w) (hcopying : Copying limit m₀ seen m s) {rest : List (List Entry)}
    (hsegments : m.segments = s.earlier ++ s.current :: rest) (hexport : w.lastExport = some ending)
    (hrole : ending.role = .master) (houtcome : ending.outcome = .error .eof)
    (hmaster : ending.master.segments space = m.segments) :
    Action.Withstands space limit (endOfSegment m₀.snapshot.position s.position) (CopiedWithin space limit m₀)
      (fun failure session w => session.OnTrack space (Copying limit m₀) w ∧ failure.Consistent) session w := by
  have hfits := hlimit m hcopying.limited
  unfold endOfSegment
  dsimp only
  split
  · have hsealed := sealed_of_reached hfits hm₀ hcopying.grown hcopying.within hsegments ‹_› hrole houtcome hmaster
    obtain rfl := hcopying.seen
    split
    · have hend : session.AtEnd space m₀ w := ⟨m, s, ending, h, hexport, hsealed⟩
      have hbounds : session.OnTrack space (Copying limit m₀) w := ⟨_, m, s, h, hcopying⟩
      refine (Action.ensures_bind _ _).mpr fun _ w₁ htrouble => ?_
      obtain ⟨hinStep, hend₁⟩ := around_atEnd.outlastsLog session w _ _ w₁ hend htrouble
      exact ⟨hinStep, hend₁, (unaffected_onTrack.around.outlastsLog session w _ _ w₁ hbounds htrouble).2⟩
    · exact ⟨⟨m, s, ending, h, hexport, hsealed⟩, _, m, s, h, hcopying⟩
  -- Before the baseline the segment is closed, because the master was beyond it when the baseline was read.
  · have hlt : s.position < m₀.position := Position.lt_of_not_le ‹_›
    have hearlier := Namespace.earlier_lt_of_position_lt hfits hcopying.grown hlt hsegments
    obtain ⟨next, more, rfl⟩ := Namespace.exists_next_segment hfits hcopying.grown hlt hsegments
    have hjump : Copying limit m₀ seen m s.jump := by
      refine ⟨hcopying.seen, hcopying.limited, hcopying.grown, ?_⟩
      rw [Namespace.segments_jump, List.length_append, Namespace.length_segments, Namespace.length_segments]
      exact Nat.succ_le_succ hearlier
    split
    · exact ⟨⟨_, _, _, h, hcopying⟩, nofun⟩
    · refine (Action.ensures_bind _ _).mpr (h.log fun w₁ h₁ => ?_)
      refine (Action.ensures_bind _ _).mpr ?_
      refine (h₁.jumpSegment (Namespace.logPrefix_jump_of_closed hsegments)).mono ?_ ?_
      · exact fun _ _ _ h₂ => ⟨⟨_, _, _, h₂, hjump⟩, _, _, _, h₂, hjump⟩
      · exact fun _ _ _ h₂ => ⟨h₂.2.elim (⟨_, _, _, ·, hcopying⟩) (⟨_, _, _, ·, hjump⟩), h₂.1⟩

/-- **A step of the copy keeps its bounds**, and ends where the slave is sealed. -/
theorem ensures_copyStep (hlimit : ∀ ns, limit ns → ns.Fits (2 ^ 64)) (hm₀ : m₀.Fits (2 ^ 64))
    (h : session.OnTrack space (Copying limit m₀) w) :
    Action.Withstands space limit (copyStep m₀.snapshot) (CopiedWithin space limit m₀)
      (fun failure session w => session.OnTrack space (Copying limit m₀) w ∧ failure.Consistent) session w := by
  obtain ⟨seen, m, s, h, hcopying⟩ := h
  unfold copyStep
  refine (Action.ensures_bind _ _).mpr ((h.slaveInfo (hlimit m hcopying.limited)).mono ?_ ?_)
  · rintro _ session₁ w₁ ⟨rfl, h₁⟩
    refine (Action.ensures_bind _ _).mpr ?_
    rw [Action.ensures_attempt]
    refine (h₁.exportSegment hlimit).mono ?_ ?_
    · rintro _ session₂ w₂ ⟨m', tail, rest, hm', hlimit', hsegments, rfl, h₂⟩
      have hgrown := hcopying.grown.trans hm'
      have himport : Copying limit m₀ seen m' (tail.foldl Namespace.append s) := by
        refine ⟨hcopying.seen, hlimit', hgrown, ?_⟩
        rw [Namespace.segments_foldl_append, List.length_append, List.length_singleton,
          ← Namespace.length_segments]
        exact hcopying.within
      have hstay : Copying limit m₀ seen m' s := ⟨hcopying.seen, hlimit', hgrown, hcopying.within⟩
      refine (Action.ensures_bind _ _).mpr ?_
      refine (h₂.importSegment s.position (Namespace.logPrefix_appendAll_of_next hsegments)).mono ?_ ?_
      · exact fun _ _ _ h₃ => ⟨⟨_, _, _, h₃, himport⟩, _, _, _, h₃, himport⟩
      · exact fun _ _ _ h₃ => ⟨h₃.2.elim (⟨_, _, _, ·, hstay⟩) (⟨_, _, _, ·, himport⟩), h₃.1⟩
    · rintro failure session₂ w₂ ⟨hconsistent, hkept, heof⟩
      dsimp only
      split
      · obtain ⟨m', rest, hm', hlimit', hsegments, h₂, hshows, hhistory⟩ := heof ‹_›
        have hstay : Copying limit m₀ seen m' s :=
          ⟨hcopying.seen, hlimit', hcopying.grown.trans hm', hcopying.within⟩
        have hexport : w₂.lastExport =
            some ⟨.master, .dataExport s.position, .error .eof, w₂.master.store, w₂.slave.store⟩ := by
          rw [Scene.lastExport, hhistory]; rfl
        exact ensures_endOfSegment hlimit hm₀ h₂ hstay hsegments hexport rfl rfl hshows.master.segments
      · exact ⟨⟨_, _, _, hkept, hcopying⟩, hconsistent⟩
  · exact fun _ _ _ h₁ => ⟨⟨_, _, _, h₁.2, hcopying⟩, h₁.1⟩

/-! ## The run -/

theorem Sealed.frozen (h : Sealed space m₀ s ending) (frozen : Bool) :
    Sealed space m₀ { s with frozen } ending :=
  ⟨h.role, h.outcome, h.segment, h.length, h.upTo⟩

theorem Sealed.notBeyond (h : Sealed space m₀ s ending) (hm₀ : m₀.Fits (2 ^ 64)) :
    NotBeyond (some m₀.snapshot) m s := by
  rintro reading ⟨⟩
  rw [segment_snapshot hm₀]
  exact Nat.le_of_eq h.length

/-- A slave that is sealed stays so when it is told to thaw, whether it does or not. -/
theorem ensures_unfreeze (hm₀ : m₀.Fits (2 ^ 64)) (h : session.AtEnd space m₀ w) :
    Action.Withstands space limit (onSlave (Client.setFreeze session.space false)) (fun _ => AtEnd space m₀)
      (fun failure session w => session.OnTrack space NotBeyond w ∧ failure.Consistent) session w := by
  obtain ⟨m, s, ending, h, hexport, hsealed⟩ := h
  rw [h.wired.named]
  refine ((h.setFreeze false).and (keepsExport_setFreeze space false session w hexport)).mono ?_ ?_
  · exact fun _ session₁ w₁ h₁ => ⟨m, _, ending, h₁.1, h₁.2, hsealed.frozen false⟩
  · rintro failure session₁ w₁ ⟨⟨hconsistent, h₁ | h₁⟩, -⟩
    · exact ⟨⟨_, _, _, h₁, hsealed.notBeyond hm₀⟩, hconsistent⟩
    · exact ⟨⟨_, _, _, h₁, (hsealed.frozen false).notBeyond hm₀⟩, hconsistent⟩

/-- The copy up to a baseline is done. -/
def CopiedTo (space : String) (limit : Namespace → Prop) (baseline : Snapshot) (session : Session Role) (w : Scene) :
    Prop :=
  ∃ m₀, baseline = m₀.snapshot ∧ limit m₀ ∧ session.AtEnd space m₀ w

theorem around_copiedTo (baseline : Snapshot) :
    Around (Scene.trouble space limit) (Scene.InStep space) (CopiedTo space limit baseline) where
  around := by
    rintro session w effect answer w' ⟨m₀, rfl, hm₀, hend⟩ hasks htrouble
    obtain ⟨hinStep, hend'⟩ := around_atEnd.around session w effect answer w' hend hasks htrouble
    exact ⟨hinStep, m₀, rfl, hm₀, hend'⟩
  reported := by
    rintro session w reported ⟨m₀, rfl, hm₀, ⟨m, s, ending, h, hexport, hsealed⟩⟩
    have h' := h.noting session.failures session.backoff reported
    exact ⟨m₀, rfl, hm₀, m, s, ending, h', hexport, hsealed⟩

/-- What a run leads to: the end of a copy, or less. -/
def Ended (space : String) (limit : Namespace → Prop) : Option Outcome → Session Role → Scene → Prop
  | some .completed => fun session w => ∃ m₀, limit m₀ ∧ session.AtEnd space m₀ w
  | some .stopped | none => OnTrack space NotBeyond

/-- Preparing, in the course of a run. -/
theorem follows_prepare (hlimit : ∀ ns, limit ns → ns.Fits (2 ^ 64)) :
    Follows (Scene.trouble space limit) (Scene.InStep space) (OnTrack space NotBeyond)
      (Failing (fun _ => OnTrack space NotBeyond)
        fun failure session w => session.OnTrack space NotBeyond w ∧ failure.Consistent)
      prepare fun baseline => OnTrack space (CopyingTo limit baseline) :=
  Unaffected.follows (fun _ _ h => h) fun _ _ h => ensures_prepare hlimit h

/-- A step of a copy that is under way ends the copy or not, and keeps its bounds. -/
theorem ensures_copyStepTo (hlimit : ∀ ns, limit ns → ns.Fits (2 ^ 64)) {baseline : Snapshot}
    (h : session.OnTrack space (CopyingTo limit baseline) w) :
    Action.Withstands space limit (copyStep baseline)
      (fun result session w =>
        Stages.Copied (CopiedTo space limit baseline) (OnTrack space (CopyingTo limit baseline)) result session w ∧
          session.OnTrack space (CopyingTo limit baseline) w)
      (fun failure session w => session.OnTrack space (CopyingTo limit baseline) w ∧ failure.Consistent)
      session w := by
  obtain ⟨seen, m, s, h, m₀, rfl, hm₀, hbounds⟩ := h
  have hto : ∀ (session : Session Role) w, session.OnTrack space (Copying limit m₀) w →
      session.OnTrack space (CopyingTo limit m₀.snapshot) w :=
    fun _ _ h => h.mono fun _ _ _ hbounds => ⟨m₀, rfl, hm₀, hbounds⟩
  refine (ensures_copyStep hlimit (hlimit m₀ hm₀) ⟨seen, m, s, h, hbounds⟩).mono ?_ ?_
  · rintro (_ | _ | _) session' w' ⟨h', hkept⟩
    · exact ⟨hto session' w' h', hto session' w' hkept⟩
    · exact ⟨hto session' w' h', hto session' w' hkept⟩
    · exact ⟨⟨m₀, rfl, hm₀, h'⟩, hto session' w' hkept⟩
  · exact fun _ session' w' h' => ⟨hto session' w' h'.1, h'.2⟩

/-- A step of the copy, in the course of a run. -/
theorem follows_copyStep (hlimit : ∀ ns, limit ns → ns.Fits (2 ^ 64)) (baseline : Snapshot) :
    Follows (Scene.trouble space limit) (Scene.InStep space) (OnTrack space (CopyingTo limit baseline))
      (Failing (fun _ => OnTrack space (CopyingTo limit baseline))
        fun failure session w => session.OnTrack space NotBeyond w ∧ failure.Consistent)
      (copyStep baseline)
      (Stages.Copied (CopiedTo space limit baseline) (OnTrack space (CopyingTo limit baseline))) := by
  refine Unaffected.follows (fun _ _ => onTrack_notBeyond hlimit) fun session w h => ?_
  exact (ensures_copyStepTo hlimit h).mono (fun _ _ _ h' => h'.1) fun _ _ _ h' => h'

/-- **A run that completes has its slave sealed**; any run leaves it within the bounds. -/
theorem ensures_runBulk (hlimit : ∀ ns, limit ns → ns.Fits (2 ^ 64)) (rounds : Nat)
    (h : session.OnTrack space NotBeyond w) :
    Action.Withstands space limit (runBulk rounds) (Ended space limit)
      (fun failure session w => session.OnTrack space NotBeyond w ∧ failure.Consistent) session w := by
  have hcourse : Course (Scene.trouble space limit) (Scene.InStep space) (OnTrack space NotBeyond) _ _ _ _ :=
    course_onTrack fun _ _ h => h
  have hcopying : ∀ baseline, Course (Scene.trouble space limit) (Scene.InStep space)
      (OnTrack space (CopyingTo limit baseline)) _ _ _ _ :=
    fun baseline => course_onTrack fun _ _ => onTrack_notBeyond hlimit
  have hunfreeze : ∀ baseline session w, CopiedTo space limit baseline session w →
      session.options.bulk.unfreezeOnCompletion = true →
      Action.Withstands space limit (onSlave (Client.setFreeze session.space false))
        (fun _ => CopiedTo space limit baseline)
        (fun failure session w => session.OnTrack space NotBeyond w ∧ failure.Consistent) session w := by
    rintro baseline session w ⟨m₀, rfl, hm₀, hend⟩ -
    exact (ensures_unfreeze (hlimit m₀ hm₀) hend).mono (fun _ _ _ h' => ⟨m₀, rfl, hm₀, h'⟩) fun _ _ _ h' => h'
  have hrun := hcourse.finishes hcopying around_copiedTo (follows_prepare hlimit)
    (follows_copyStep hlimit) hunfreeze rounds
  refine (hrun session w h).mono ?_ fun _ _ _ h' => h'
  rintro (_ | _ | _) session' w' h'
  · exact h'
  · obtain ⟨_, m₀, -, hm₀, hend⟩ := h'
    exact ⟨m₀, hm₀, hend⟩
  · exact h'

end Session

/-- A copy up to a baseline has reached it exactly: the slave has the master's segments before that of the
    baseline, and that one as it was when the latest export found its end; so it has the entries up to the
    baseline. It has never gone beyond. -/
structure Scene.Exact (w : Scene) (space : String) (baseline : Position) (ending : Exchange) : Prop where
  length : (w.slave.store.segments space).length = baseline.segment.toNat + 1
  earlier : ∀ i, i < baseline.segment.toNat →
    (w.slave.store.segments space)[i]? = (w.master.store.segments space)[i]?
  latest : w.lastExport = some ending
  atEnd : ending.role = .master ∧ ending.outcome = .error .eof
  segment : (w.slave.store.segments space)[baseline.segment.toNat]? =
    (ending.master.segments space)[baseline.segment.toNat]?
  upTo : ∃ before after, (w.slave.store.segments space)[baseline.segment.toNat]? = some (before ++ after) ∧
    Entry.sizeOf before = baseline.offset.toNat
  notBeyond : ∀ exchange ∈ w.history,
    (exchange.slave.segments space).length ≤ (w.slave.store.segments space).length

namespace Session

theorem AtEnd.exact {space : String} {session : Session Role} {m₀ : Namespace} {w : Scene}
    (hm₀ : m₀.Fits (2 ^ 64)) (h : session.AtEnd space m₀ w) :
    session.lastMaster = some m₀.snapshot ∧ ∃ ending, w.Exact space m₀.snapshot.position ending := by
  obtain ⟨m, s, ending, h, hexport, hsealed⟩ := h
  obtain ⟨m', hm', hshows⟩ := h.follows
  have hbehind := h.behind.trans hm'
  have hsegment : m₀.snapshot.position.segment.toNat = s.earlier.length := by
    have hlength := hsealed.length
    rw [← segment_snapshot hm₀, Namespace.length_segments] at hlength
    omega
  have hcurrent : s.segments[s.earlier.length]? = some s.current := by
    rw [Namespace.segments, List.getElem?_append_right (Nat.le_refl _), Nat.sub_self]; rfl
  refine ⟨h.lastMaster, ending, ?_, ?_, hexport, ⟨hsealed.role, hsealed.outcome⟩, ?_, ?_, ?_⟩
  · rw [hshows.slave.segments, hsegment, Namespace.length_segments]
  · intro i hi
    rw [hshows.slave.segments, hshows.master.segments]
    refine hbehind.earlier i ?_
    rw [Namespace.length_segments]
    omega
  · rw [hshows.slave.segments, hsegment, hcurrent, hsealed.segment]
  · obtain ⟨after, hafter⟩ := hsealed.upTo
    refine ⟨m₀.current, after, ?_, hm₀.offset_toNat.symm⟩
    rw [hshows.slave.segments, hsegment, hcurrent, hafter]
  · intro exchange hmem
    rw [hshows.slave.segments]
    exact (hshows.history exchange hmem).length_le

/-- **A bulk copy is exact.** However the master is written to, whatever the stores are told to do wrong, and
    wherever connections fail: at every point of a run the slave's log is a prefix of the master's; at its end it
    has not gone beyond the segment of the baseline; and a run that completes has reached its baseline exactly. -/
theorem bulk_is_exact {session : Session Role} {w v : Scene} {m s : Namespace} (hfresh : session.Fresh w m s)
    (rounds : Nat) {q : Program Role (Except SyncError (Option Outcome) × Session Role)}
    (hrun : Program.Reaches (Scene.trouble session.space (Namespace.Fits (2 ^ 64))) (runBulk rounds session) w q
      v) :
    LogPrefix (v.slave.store.segments session.space) (v.master.store.segments session.space) ∧
      (∀ result session' baseline, q = .done (result, session') → session'.lastMaster = some baseline →
        ∀ exchange ∈ v.history,
          (exchange.slave.segments session.space).length ≤ baseline.position.segment.toNat + 1) ∧
      ∀ session', q = .done (.ok (some .completed), session') →
        ∃ baseline ending, session'.lastMaster = some baseline ∧
          v.Exact session.space baseline.position ending := by
  have htracks := hfresh.tracks
  have hstart : session.OnTrack session.space NotBeyond w := ⟨_, _, _, htracks, nofun⟩
  obtain ⟨hsafe, hrest⟩ :=
    Program.Ensures.reaches htracks.inStep (ensures_runBulk (fun _ h => h) rounds hstart) hrun
  have hends : ∀ session' : Session Role, session'.OnTrack session.space NotBeyond v → ∀ baseline,
      session'.lastMaster = some baseline → ∀ exchange ∈ v.history,
        (exchange.slave.segments session.space).length ≤ baseline.position.segment.toNat + 1 := by
    rintro session' ⟨seen, m, s, h, hbounds⟩ baseline hbaseline exchange hmem
    obtain ⟨m', -, hshows⟩ := h.follows
    refine Nat.le_trans (hshows.history exchange hmem).length_le (hbounds baseline ?_)
    exact h.lastMaster.symm.trans hbaseline
  refine ⟨hsafe, ?_, ?_⟩
  · rintro result session' baseline rfl hbaseline
    rcases result with failure | (_ | _ | _)
    · exact hends session' hrest.1 baseline hbaseline
    · exact hends session' hrest baseline hbaseline
    · obtain ⟨m₀, hm₀, hend⟩ := hrest
      obtain ⟨hlast, ending, hexact⟩ := hend.exact hm₀
      obtain rfl := Option.some.inj (hlast.symm.trans hbaseline)
      intro exchange hmem
      exact hexact.length ▸ hexact.notBeyond exchange hmem
    · exact hends session' hrest baseline hbaseline
  · rintro session' rfl
    obtain ⟨m₀, hm₀, hend⟩ := hrest
    obtain ⟨hlast, ending, hexact⟩ := hend.exact hm₀
    exact ⟨m₀.snapshot, ending, hlast, hexact⟩

/-- When both sides have been opened, a copy in calm is a run that completes. -/
theorem bulk_is_exact_from_empty :
    let time : Scene → Duration := fun _ => ⟨0⟩
    ∃ w session' v, (reopen (between .bulk)).run (Scene.calm time) (.between .twoSegments (.ofLog [] [])) =
        ((.ok (), between .bulk), w) ∧
      Program.Reaches (Scene.trouble "data" (Namespace.Fits (2 ^ 64))) (runBulk 4 (between .bulk))
        { w with history := [] } (.done (.ok (some .completed), session')) v ∧
      ∃ baseline ending, session'.lastMaster = some baseline ∧ v.Exact "data" baseline.position ending := by
  intro time
  obtain ⟨w, hreopen, hfresh, hmaster, hslave⟩ := exists_fresh time .bulk Namespace.logPrefix_twoSegments rfl rfl
  have hfits := Namespace.portable_twoSegments.fits₆₄
  have hlength : (copyPlan (.ofLog [] []) ((Namespace.ofLog [] []).missing .twoSegments)).length < 4 := by decide
  have hincalm := hfresh.inCalm hmaster hslave
  have hcalm : Action.Calmly time "data" .twoSegments (runBulk 4) _ _ (between .bulk) _ :=
    hincalm.runBulk hfits hfresh.behind (Namespace.replayed_ofLog [] []) hlength
  have hrun := Program.Ensures.reaches_trouble hcalm hincalm.quiet hfits
  have hend := Program.Ensures.run hcalm
  rcases hresult : (runBulk 4 (between .bulk)).run (Scene.calm time) { w with history := [] }
    with ⟨⟨_ | result, session'⟩, v⟩
  · rw [hresult] at hend
    exact hend.elim
  · rw [hresult] at hend hrun
    obtain ⟨rfl, -⟩ := hend
    exact ⟨w, session', v, hreopen, hrun, (bulk_is_exact hfresh 4 hrun).2.2 session' rfl⟩

end Session

end SegmentSync
