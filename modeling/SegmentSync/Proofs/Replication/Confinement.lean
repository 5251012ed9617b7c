import SegmentSync.Proofs.Client.Replies
import SegmentSync.Proofs.Replication.Sides
import SegmentSync.Proofs.Store.Isolation

/-!
# `SegmentSync.Proofs.Replication.Confinement` — what a session asks for is about its own namespace

The steps of a session send the requests of replication (`Request.Reads`, `Request.Writes`), all of them about the
namespace of the session, and ask for nothing else but lines of the log. That a set or a deletion brings a marker that
is a number depends on the master, which has handed it out.

## Contents
- **Effects.** `Effect.Confined` is what may be asked for, `Plausible` what may be answered.
- **Requests.** A side that is asked stays what it was, as far as the session knows.
- **Steps.** `Session.confined_step`, `Session.confined_prepare` and `Session.confined_copyStep`.
-/

namespace SegmentSync

/-! ## Effects -/

/-- All markers of the log travel as signed words of 64 bits. -/
def Namespace.HasSignedMarkers (ns : Namespace) : Prop :=
  ∀ segment ∈ ns.segments, ∀ entry ∈ segment, entry.marker.toNat < 2 ^ 63

/-- The effect is about the namespace of that name: the master is only read, and the slave may be changed. -/
inductive Effect.Confined (space : String) : Effect Role → Prop where
  | master {request : Request} (h : request.Reads space) : Confined space (.execute .master request)
  | slave {request : Request} (h : request.Writes space) : Confined space (.execute .slave request)
  | slaveInfo : Confined space (.execute .slave (.nsInfo space))
  | log (level : Level) (line : String) : Confined space (.log level line)

/-- The answer may be one of a store: what the master hands out is an entry with such a marker. -/
def Effect.Plausible : (effect : Effect Role) → effect.Answer → Prop
  | .execute .master request, r =>
    request.command = .dataRaw → ∃ ns at_, Namespace.HasSignedMarkers ns ∧ r = Serve.recorded ns at_
  | _, _ => True

/-- There is always something that a store may answer. -/
theorem Effect.exists_plausible (effect : Effect Role) : ∃ answer, effect.Plausible answer := by
  have hmarkers : Namespace.HasSignedMarkers {} := by
    unfold Namespace.HasSignedMarkers
    decide
  cases effect with
  | execute link request =>
    cases link with
    | master => exact ⟨Serve.recorded {} .zero, fun _ => ⟨{}, .zero, hmarkers, rfl⟩⟩
    | slave => exact ⟨.error .eof, trivial⟩
  | reopen link => exact ⟨.error .eof, trivial⟩
  | stopRequested => exact ⟨false, trivial⟩
  | wait time => exact ⟨.elapsed, trivial⟩
  | rest time => exact ⟨(), trivial⟩
  | report report => exact ⟨(), trivial⟩
  | log level line => exact ⟨(), trivial⟩
  | clock => exact ⟨⟨0⟩, trivial⟩

/-- Surroundings that give any such answer, and remember what they were asked for last. -/
def plausibly : Environment Role (Option (Effect Role)) :=
  fun _ effect answer w' => effect.Plausible answer ∧ w' = some effect

/-- The last effect is about the namespace of that name. -/
def IsConfined (space : String) (last : Option (Effect Role)) : Prop :=
  ∀ effect, last = some effect → effect.Confined space

theorem isConfined_some {space : String} {effect : Effect Role} (h : effect.Confined space) :
    IsConfined space (some effect) :=
  fun _ heq => Option.some.inj heq ▸ h

/-- What is found behind a cursor is in the log. -/
theorem Namespace.HasSignedMarkers.entriesFrom? {ns : Namespace} (h : ns.HasSignedMarkers) {at_ : Position}
    {entry : Entry} {after : List Entry} (hfound : ns.entriesFrom? at_ = .ok (entry :: after)) :
    entry.marker.toNat < 2 ^ 63 := by
  unfold Namespace.entriesFrom? at hfound
  split at hfound
  · cases hfound
  · rename_i segment hsegment
    split at hfound
    · cases hfound
    · rename_i entries hdrop
      obtain rfl := Except.ok.inj hfound
      obtain ⟨before, rfl, -⟩ := Namespace.dropSize?_eq_some hdrop
      refine h _ (List.mem_of_getElem? hsegment) entry ?_
      exact List.mem_append_right _ List.mem_cons_self

/-- The marker of an entry that was handed out is a number. -/
theorem Client.marker_of_reading {ns : Namespace} (hmarkers : ns.HasSignedMarkers) {request : Request} {at_ : Position}
    {record : Record} (hcommand : request.command = .dataRaw)
    (hread : reading request record? (Serve.recorded ns at_) = .ok record) :
    ∃ marker : UInt64, record.marker = Utf8.encodeChars (Decimal.digits marker.toNat) := by
  have hreader : Answer.reader request.command = Answer.readRecord := by rw [hcommand]; rfl
  obtain ⟨reply, hreply, hhands⟩ := Client.reading_record hreader hread
  unfold Serve.recorded at hreply
  split at hreply
  · cases hreply
  · rename_i entry after hfound
    obtain rfl := Except.ok.inj hreply
    obtain ⟨key, segment, offset, flag, marker, rest, number, n, harray, -, hmarker, -⟩ := hhands
    simp only [Serve.recordReply, Reply.array.injEq, List.cons.injEq] at harray
    obtain ⟨-, -, -, -, rfl, -⟩ := harray
    refine ⟨entry.marker, ?_⟩
    rw [← signedMarker_eq (hmarkers.entriesFrom? hfound)]
    exact (Except.ok.inj hmarker).symm
  · cases hreply

/-! ## Requests -/

namespace Session

variable {space : String} {α : Type} {session : Session Role} {w : Option (Effect Role)}

/-- The action asks for nothing that is not about its namespace. -/
abbrev Confined (space : String) (x : Action (Session Role) Role α) : Prop :=
  Action.Maintains plausibly (IsConfined space) (fun session _ => session.Wired space) (fun _ => True) x

theorem confined_log (level : Level) (line : String) : Confined space (Action.log level line) :=
  Action.Maintains.perform fun _ _ _ _ hwired henv => ⟨henv.2 ▸ isConfined_some (.log level line), hwired⟩

theorem confined_onMaster {request : Request} (h : request.Reads space) (shape : Answer → Option α) :
    Confined space (onMaster (Client.callFor request shape)) := by
  refine Action.Maintains.focus (fun _ => rfl) fun session => Client.maintains_callFor ?_
  intro c w r w' hwired henv
  have hlink : c.link = .master := hwired.masterLink
  rw [hlink] at henv
  exact ⟨henv.2 ▸ isConfined_some (.master h), hwired⟩

theorem confined_onSlave {request : Request} (h : (Effect.execute .slave request).Confined space)
    (shape : Answer → Option α) : Confined space (onSlave (Client.callFor request shape)) := by
  refine Action.Maintains.focus (fun _ => rfl) fun session => Client.maintains_callFor ?_
  intro c w r w' hwired henv
  have hlink : c.link = .slave := hwired.slaveLink
  rw [hlink] at henv
  exact ⟨henv.2 ▸ isConfined_some h, hwired⟩

theorem confined_note {x : Action (Client Role) Role α} (level : Level) (line : String)
    (h : Confined space (onSlave x)) : Confined space (onSlave (Client.note level line >>= fun _ => x)) := by
  intro session w hwired
  refine (Action.ensures_focus _ _ _ _).mpr ?_
  rw [Action.ensures_bind]
  refine Client.ensures_note fun line w' henv => ?_
  exact ⟨henv.2 ▸ isConfined_some (.log level line), (Action.ensures_focus _ _ _ _).mp (h session w' hwired)⟩

theorem confined_jumpSegment : Confined space (onSlave Client.jumpSegment) :=
  confined_note _ _ (confined_onSlave (.slave .nsJump) _)

theorem confined_setFreeze (enabled : Bool) : Confined space (onSlave (Client.setFreeze space enabled)) :=
  confined_note _ _ (confined_onSlave (.slave (.nsFreeze enabled)) _)

theorem confined_masterInfo : Confined space masterInfo := by
  refine Action.Maintains.bind_get fun session w hwired => ?_
  rw [hwired.named]
  refine (confined_onMaster .nsInfo _).bind fun snapshot => ?_
  refine (Action.Maintains.modify fun session w h => ?_).bind fun _ => .pure _
  exact h.of_ends rfl ⟨rfl, rfl⟩ ⟨rfl, rfl⟩

theorem confined_slaveInfo : Confined space slaveInfo := by
  refine Action.Maintains.bind_get fun session w hwired => ?_
  rw [hwired.named]
  refine (confined_onSlave .slaveInfo _).bind fun snapshot => ?_
  refine Action.Maintains.bind_get fun session w hwired => ?_
  dsimp only
  split
  · exact .throw trivial
  · refine Action.Maintains.bind (fun _ _ _ => ?_) fun _ => .pure _
    exact hwired.of_ends rfl ⟨rfl, rfl⟩ ⟨rfl, rfl⟩

/-! ## Steps -/

theorem confined_acknowledged {x : Action (Client Role) Role α} (fault : String → IntegrityFault)
    (h : Confined space (onSlave x)) : Confined space (acknowledged fault x) := by
  refine h.bind_attempt fun r _ => ?_
  split
  · exact .pure _
  · exact .throw trivial
  · exact .throw trivial
  · exact .throw trivial

/-- The slave is sent the marker of the entry, which must be a number. -/
theorem confined_replay {entry : Record} {marker : UInt64}
    (hmarker : entry.marker = Utf8.encodeChars (Decimal.digits marker.toNat)) : Confined space (replay entry) := by
  unfold replay
  dsimp only
  rw [hmarker]
  split
  · refine (confined_acknowledged _ (confined_onSlave (.slave (.del _ _)) _)).bind fun _ => .pure _
  · refine (confined_acknowledged _ (confined_onSlave (.slave (.set _ _ _)) _)).bind fun echo => ?_
    split
    · exact (Action.Maintains.throw trivial).bind fun _ => .pure _
    · exact .pure _

/-- What the master hands out has such a marker. -/
theorem confined_advance (at_ : Position) : Confined space (advance at_) := by
  intro session w hwired
  unfold advance
  refine (Action.ensures_bind _ _).mpr ?_
  rw [Action.ensures_attempt, onMaster, Action.ensures_focus]
  refine Client.ensures_callFor (fun _ => ?_) fun r w' henv => ?_
  · exact Action.Maintains.throw trivial session w hwired
  · have hlink : session.master.link = .master := hwired.masterLink
    rw [hlink] at henv
    obtain ⟨hlikely, rfl⟩ := henv
    refine ⟨isConfined_some (.master (.dataRaw at_)), ?_⟩
    obtain ⟨ns, at', hmarkers, rfl⟩ := hlikely rfl
    cases hread : Client.reading (.dataRaw at_) Client.record? (Serve.recorded ns at') with
    | ok entry =>
      obtain ⟨marker, hmarker⟩ := Client.marker_of_reading hmarkers rfl hread
      dsimp only
      split
      · exact (Action.Maintains.throw trivial).bind (fun _ => confined_replay hmarker) session _ hwired
      · exact confined_replay hmarker session _ hwired
    | error failure =>
      dsimp only
      split
      · refine (confined_log _ _).bind (fun _ => ?_) session _ hwired
        exact confined_jumpSegment.bind fun _ => .pure _
      · exact Action.Maintains.throw trivial session _ hwired

/-- **A step asks for nothing that is not about the namespace of its session.** -/
theorem confined_step : Confined space step := by
  refine confined_masterInfo.bind fun master => ?_
  refine confined_slaveInfo.bind fun slave => ?_
  split
  · exact .throw trivial
  · exact .pure _
  · exact confined_advance _

/-- **Nor does the preparation of a copy.** -/
theorem confined_prepare : Confined space prepare := by
  refine Action.Maintains.bind_get fun session w hwired => ?_
  rw [hwired.named]
  refine (confined_setFreeze true).bind fun _ => ?_
  refine confined_masterInfo.bind fun baseline => ?_
  refine confined_slaveInfo.bind fun slave => ?_
  split
  · exact .throw trivial
  · exact .pure _
  · exact .pure _

theorem confined_endOfSegment (baseline at_ : Position) : Confined space (endOfSegment baseline at_) := by
  unfold endOfSegment
  split
  · split
    · exact (confined_log _ _).bind fun _ => .pure _
    · exact .pure _
  · split
    · exact .throw trivial
    · refine (confined_log _ _).bind fun _ => ?_
      exact confined_jumpSegment.bind fun _ => .pure _

/-- **Nor does a step of a copy.** -/
theorem confined_copyStep (baseline : Snapshot) : Confined space (copyStep baseline) := by
  refine confined_slaveInfo.bind fun slave => ?_
  refine (confined_onMaster (.dataExport slave.position) _).bind_attempt fun r _ => ?_
  split
  · refine (confined_onSlave (.slave (.dataImport _ _)) _).bind fun _ => .pure _
  · split
    · exact confined_endOfSegment _ _
    · exact .throw trivial

end Session

end SegmentSync
