import SegmentSync.Proofs.Replication.Sides
import SegmentSync.Proofs.Store.Blob

/-!
# `SegmentSync.Proofs.Replication.Operations` — what each operation of a session finds or changes

The slave ends where it ended, and the master has grown at most: so a cursor at the end of the slave finds what
the master has beyond it, the slave may take that over, and it may go on to its next segment where the master's
segment is closed. Each operation is `Tracks.read` or `Tracks.change` with the answer or the change of its request.
-/

namespace SegmentSync.Session

variable {space : String} {limit : Namespace → Prop} {session : Session Role} {seen : Option Snapshot}
  {m s : Namespace} {w : Scene}

/-! ## Cursors -/

theorem Tracks.masterInfo (h : session.Tracks space seen m s w) :
    Action.Withstands space limit Session.masterInfo
      (fun snapshot session' w' => ∃ m', LogPrefix m.segments m'.segments ∧ limit m' ∧ snapshot = m'.snapshot ∧
        session'.Tracks space (some snapshot) m' s w')
      (fun failure session' w' => failure.Consistent ∧ session'.Tracks space seen m s w')
      session w := by
  unfold Session.masterInfo
  refine (Action.ensures_bind _ _).mpr ?_
  rw [Action.ensures_get, Action.ensures_bind, h.wired.named]
  refine (h.read Serve.does_nsInfo).mono ?_ ?_
  · rintro snapshot _ w' ⟨rfl, m', hm', hlimit, h', hreading⟩
    rw [Client.reading_nsInfo] at hreading
    refine ⟨m', hm', hlimit, (Except.ok.inj hreading).symm, ?_⟩
    exact ⟨⟨h'.wired.named, h'.wired.masterLink, h'.wired.slaveLink, h'.wired.masterSpace, h'.wired.slaveSpace⟩,
      rfl, h'.lastSlave, h'.follows, h'.behind⟩
  · rintro failure _ w' ⟨hconsistent, rfl, h', -⟩
    exact ⟨hconsistent, h'⟩

theorem Tracks.slaveInfo (h : session.Tracks space seen m s w) (hm : m.Fits (2 ^ 64)) :
    Action.Withstands space limit Session.slaveInfo
      (fun snapshot session' w' => snapshot = s.snapshot ∧ session'.Tracks space seen m s w')
      (fun failure session' w' => failure.Consistent ∧ session'.Tracks space seen m s w')
      session w := by
  unfold Session.slaveInfo
  refine (Action.ensures_bind _ _).mpr ?_
  rw [Action.ensures_get, Action.ensures_bind, h.wired.named]
  refine (h.change Serve.does_nsInfo (fun _ _ _ h => h.2) (fun _ => LogPrefix.refl _) h.behind).mono ?_ ?_
  · rintro snapshot session' w' ⟨h', _, ⟨rfl, -⟩, hreading⟩
    rw [Client.reading_nsInfo] at hreading
    obtain rfl := Except.ok.inj hreading
    rw [Action.ensures_bind, Action.ensures_get]
    dsimp only
    -- The slave has never been further on than it is, so that the reading is accepted.
    rw [not_movedBackwards h'.lastSlave (hm.of_logPrefix h'.behind)]
    refine ⟨rfl, ⟨h'.wired.named, h'.wired.masterLink, h'.wired.slaveLink, h'.wired.masterSpace,
      h'.wired.slaveSpace⟩, h'.lastMaster, fun reading hreading => ?_, h'.follows, h'.behind⟩
    exact ⟨s, LogPrefix.refl _, (Option.some.inj hreading).symm⟩
  · exact fun failure session' w' h' => ⟨h'.1, h'.2.elim id id⟩

/-! ## What the master has beyond the slave -/

/-- Where the slave ends, the master has an entry or the end of a segment. -/
theorem Tracks.fetchRecord (h : session.Tracks space seen m s w)
    (hlimit : ∀ ns, limit ns → ns.Portable) :
    Action.Withstands space limit (onMaster (Client.fetchRecord s.position))
      (fun record session' w' => ∃ m' entry tail rest, LogPrefix m.segments m'.segments ∧ limit m' ∧
        m'.segments = s.earlier ++ (s.current ++ entry :: tail) :: rest ∧ record = entry.record s.position ∧
        session'.Tracks space seen m' s w')
      (fun failure session' w' => failure.Consistent ∧ session'.Tracks space seen m s w' ∧
        (failure.isEof = true → ∃ m' rest, LogPrefix m.segments m'.segments ∧ limit m' ∧
          m'.segments = s.earlier ++ s.current :: rest ∧ session'.Tracks space seen m' s w'))
      session w := by
  refine (h.read (Serve.does_dataRaw s.position)).mono ?_ ?_
  · rintro record _ w' ⟨rfl, m', hm', hportable, h', hreading⟩
    have hfits := (hlimit m' hportable).fits₆₄.of_logPrefix h'.behind
    obtain ⟨tail, rest, hsegments⟩ := Namespace.logPrefix_iff.mp h'.behind
    unfold Serve.recorded at hreading
    rw [Namespace.entriesFrom?_position hfits hsegments] at hreading
    cases tail with
    | nil => exact absurd hreading nofun
    | cons entry tail =>
      have hportable' := hlimit m' hportable
      rw [Client.reading_dataRaw entry (hportable'.offset_lt h'.behind) (hportable'.marker_lt hsegments)]
        at hreading
      exact ⟨m', entry, tail, rest, hm', hportable, hsegments, (Except.ok.inj hreading).symm, h'⟩
  · rintro failure _ w' ⟨hconsistent, rfl, hkept, heof⟩
    refine ⟨hconsistent, hkept, fun hfailure => ?_⟩
    obtain ⟨m', hm', hportable, h', hanswer, -⟩ := heof hfailure
    have hfits := (hlimit m' hportable).fits₆₄.of_logPrefix h'.behind
    obtain ⟨tail, rest, hsegments⟩ := Namespace.logPrefix_iff.mp h'.behind
    unfold Serve.recorded at hanswer
    rw [Namespace.entriesFrom?_position hfits hsegments] at hanswer
    cases tail with
    -- The end of a segment is only reported where there is no entry left.
    | nil => exact ⟨m', rest, hm', hportable, by rw [hsegments, List.append_nil], h'⟩
    | cons entry tail => exact absurd hanswer nofun

/-- Where the slave ends, the master has the rest of a segment to export, or the end of it. -/
theorem Tracks.exportSegment (h : session.Tracks space seen m s w)
    (hlimit : ∀ ns, limit ns → ns.Fits (2 ^ 64)) :
    Action.Withstands space limit (onMaster (Client.exportSegment s.position))
      (fun blob session' w' => ∃ m' tail rest, LogPrefix m.segments m'.segments ∧ limit m' ∧
        m'.segments = s.earlier ++ (s.current ++ tail) :: rest ∧ blob = Blob.write tail ∧
        session'.Tracks space seen m' s w')
      (fun failure session' w' => failure.Consistent ∧ session'.Tracks space seen m s w' ∧
        (failure.isEof = true → ∃ m' rest, LogPrefix m.segments m'.segments ∧ limit m' ∧
          m'.segments = s.earlier ++ s.current :: rest ∧ session'.Tracks space seen m' s w' ∧
          w'.Shows space m' s ∧
          w'.history =
            ⟨.master, .dataExport s.position, .error .eof, w'.master.store, w'.slave.store⟩ :: w.history))
      session w := by
  refine (h.read (Serve.does_dataExport s.position)).mono ?_ ?_
  · rintro blob _ w' ⟨rfl, m', hm', hfits, h', hreading⟩
    obtain ⟨tail, rest, hsegments⟩ := Namespace.logPrefix_iff.mp h'.behind
    unfold Serve.exported at hreading
    rw [Namespace.entriesFrom?_position ((hlimit m' hfits).of_logPrefix h'.behind) hsegments] at hreading
    cases tail with
    | nil => exact absurd hreading nofun
    | cons entry tail =>
      rw [Client.reading_dataExport] at hreading
      exact ⟨m', entry :: tail, rest, hm', hfits, hsegments, (Except.ok.inj hreading).symm, h'⟩
  · rintro failure _ w' ⟨hconsistent, rfl, hkept, heof⟩
    refine ⟨hconsistent, hkept, fun hfailure => ?_⟩
    obtain ⟨m', hm', hfits, h', hanswer, hshows, hhistory⟩ := heof hfailure
    obtain ⟨tail, rest, hsegments⟩ := Namespace.logPrefix_iff.mp h'.behind
    unfold Serve.exported at hanswer
    rw [Namespace.entriesFrom?_position ((hlimit m' hfits).of_logPrefix h'.behind) hsegments] at hanswer
    cases tail with
    | nil => exact ⟨m', rest, hm', hfits, by rw [hsegments, List.append_nil], h', hshows, hhistory⟩
    | cons entry tail => exact absurd hanswer nofun

/-! ## What the slave takes over -/

/-- A note comes before some changes. -/
theorem Tracks.note (h : session.Tracks space seen m s w) {α : Type} {level : Level} {line : String}
    {x : Action (Client Role) Role α} {post : α → Session Role → Scene → Prop}
    {fail : SyncError → Session Role → Scene → Prop}
    (hx : ∀ w', session.Tracks space seen m s w' → Action.Withstands space limit (onSlave x) post fail session w') :
    Action.Withstands space limit (onSlave (Client.note level line >>= fun _ => x)) post fail session w := by
  refine (Action.ensures_focus _ _ _ _).mpr ?_
  rw [Action.ensures_bind]
  refine Client.ensures_note fun line w' htrouble => ?_
  have hkeeps : Scene.Keeps space (.log level line) := trivial
  have h' := h.keeps hkeeps htrouble
  exact ⟨h'.inStep, (Action.ensures_focus _ _ _ _).mp (hx w' h')⟩

/-- The slave goes on to its next segment, if it gets that far. -/
theorem Tracks.jumpSegment (h : session.Tracks space seen m s w)
    (hjump : LogPrefix s.jump.segments m.segments) :
    Action.Withstands space limit (onSlave Client.jumpSegment)
      (fun _ session' w' => session'.Tracks space seen m s.jump w')
      (fun failure session' w' => failure.Consistent ∧
        (session'.Tracks space seen m s w' ∨ session'.Tracks space seen m s.jump w'))
      session w :=
  h.note fun _ h' => (h'.change Serve.does_nsJump (fun _ _ _ h => h.2) Namespace.logPrefix_jump hjump).mono
    (fun _ _ _ h'' => h''.1) fun _ _ _ h'' => h''

/-- The slave is frozen, or that ends; its log stays as it is. -/
theorem Tracks.setFreeze (h : session.Tracks space seen m s w) (enabled : Bool) :
    Action.Withstands space limit (onSlave (Client.setFreeze space enabled))
      (fun _ session' w' => session'.Tracks space seen m { s with frozen := enabled } w')
      (fun failure session' w' => failure.Consistent ∧
        (session'.Tracks space seen m s w' ∨ session'.Tracks space seen m { s with frozen := enabled } w'))
      session w :=
  h.note fun _ h' => (h'.change (Serve.does_nsFreeze enabled) (fun _ _ _ h => h.2) (fun _ => LogPrefix.refl _)
    h.behind).mono (fun _ _ _ h'' => h''.1) fun _ _ _ h'' => h''

/-- The slave takes over the rest of a segment. -/
theorem Tracks.importSegment (h : session.Tracks space seen m s w) (at_ : Position) {tail : List Entry}
    (htail : LogPrefix (tail.foldl Namespace.append s).segments m.segments) :
    Action.Withstands space limit (onSlave (Client.importSegment at_ (Blob.write tail)))
      (fun _ session' w' => session'.Tracks space seen m (tail.foldl Namespace.append s) w')
      (fun failure session' w' => failure.Consistent ∧
        (session'.Tracks space seen m s w' ∨ session'.Tracks space seen m (tail.foldl Namespace.append s) w'))
      session w :=
  (h.change (Serve.does_dataImport at_ tail (Blob.read?_write tail)) (fun _ _ _ h => h.2.2)
    (fun ns => ns.logPrefix_appendAll tail) htail).mono (fun _ _ _ h'' => h''.1) fun _ _ _ h'' => h''

/-- The slave takes over an entry, by whichever of the two commands. -/
theorem Tracks.applySet (h : session.Tracks space seen m s w) {key value : Bytes} {marker : UInt64}
    (hnext : LogPrefix (s.append ⟨key, some value, marker⟩).segments m.segments) :
    Action.Withstands space limit
      (onSlave (Client.applySet key value (Utf8.encodeChars (Decimal.digits marker.toNat))))
      (fun _ session' w' => session'.Tracks space seen m (s.append ⟨key, some value, marker⟩) w')
      (fun failure session' w' => failure.Consistent ∧ (session'.Tracks space seen m s w' ∨
        session'.Tracks space seen m (s.append ⟨key, some value, marker⟩) w'))
      session w :=
  (h.change (Serve.does_set key value marker) (fun _ _ _ h => h.2) (fun ns => ns.logPrefix_append _) hnext).mono
    (fun _ _ _ h'' => h''.1) fun _ _ _ h'' => h''

theorem Tracks.applyDelete (h : session.Tracks space seen m s w) {key : Bytes} {marker : UInt64}
    (hnext : LogPrefix (s.append ⟨key, none, marker⟩).segments m.segments) :
    Action.Withstands space limit
      (onSlave (Client.applyDelete key (Utf8.encodeChars (Decimal.digits marker.toNat))))
      (fun _ session' w' => session'.Tracks space seen m (s.append ⟨key, none, marker⟩) w')
      (fun failure session' w' => failure.Consistent ∧ (session'.Tracks space seen m s w' ∨
        session'.Tracks space seen m (s.append ⟨key, none, marker⟩) w'))
      session w :=
  (h.change (Serve.does_del key marker) (fun _ _ _ h => h.2.2) (fun ns => ns.logPrefix_append _) hnext).mono
    (fun _ _ _ h'' => h''.1) fun _ _ _ h'' => h''

end SegmentSync.Session
