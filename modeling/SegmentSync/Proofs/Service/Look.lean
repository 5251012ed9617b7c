import SegmentSync.Document.Position
import SegmentSync.Proofs.Json.Readers
import SegmentSync.Proofs.Json.RoundTrip
import SegmentSync.Service.Execution

/-!
# `SegmentSync.Proofs.Service.Look` — what is printed for programs can be read by them

A look at a namespace prints its cursor and size. For programs this is JSON with a line for each member, which is read
back as the snapshot that the store gave (`look_prints_snapshot`), for all segments, offsets and sizes.
-/

namespace SegmentSync

open Json (Value Plain IsBlank)

/-! ## Snapshots as JSON -/

theorem Position.reader_json (position : Position) : Position.reader position.json = some position := by
  have hmembers : Node.members? ["segment", "offset"] position.json =
      some [some (.natural position.segment.toNat), some (.natural position.offset.toNat)] := rfl
  unfold Position.reader
  rw [hmembers]
  simp only [Option.bind_eq_bind, Option.bind_some, Reader.required, Json.word32_natural, Json.word64_natural,
    Option.pure_def]

theorem Snapshot.reader_json (snapshot : Snapshot) : Snapshot.reader snapshot.json = some snapshot := by
  have hmembers : Node.members? ["position", "size_bytes"] snapshot.json =
      some [some snapshot.position.json, some (.natural snapshot.size.toNat)] := rfl
  unfold Snapshot.reader
  rw [hmembers]
  simp only [Option.bind_eq_bind, Option.bind_some, Reader.required, Position.reader_json, Json.word64_natural,
    Option.pure_def]

theorem Position.plain_json (position : Position) : Plain position.json := by
  refine .record ?_
  simp only [List.mem_cons, List.not_mem_nil, or_false]
  rintro m (rfl | rfl) <;> exact .natural _

theorem Snapshot.plain_json (snapshot : Snapshot) : Plain snapshot.json := by
  refine .record ?_
  simp only [List.mem_cons, List.not_mem_nil, or_false]
  rintro m (rfl | rfl)
  · exact snapshot.position.plain_json
  · exact .natural _

/-- **A snapshot is read back from its text in lines**, with white space behind it. -/
theorem Snapshot.readAs?_writePretty (snapshot : Snapshot) {space : Bytes} (hspace : IsBlank space) :
    Json.readAs? Snapshot.reader (Utf8.encode snapshot.json.writePretty ++ space) = some snapshot := by
  unfold Json.readAs?
  rw [Json.read?_writePretty snapshot.plain_json hspace]
  exact snapshot.reader_json

namespace Service

/-! ## Looks -/

variable {σ : Type} {s : Surroundings (StateM σ)} {logging : Logging} {it : Invocation.Look} {w w' : σ}

/-- A look that ends well has read the namespace, and prints one text last of all. -/
theorem look_eq_ok (h : (look s logging it).run w = (.ok (), w')) :
    ∃ snapshot client client' before after,
      ((Client.namespaceInfo it.space client).run (s.handle logging {} none)).run before =
        ((.ok snapshot, client'), after) ∧
      (s.print (if it.json then snapshot.json.writePretty ++ "\n" else lookText it.space snapshot)).run after =
        ((), w') := by
  have hbind : ∀ {α β : Type} (x : StateM σ α) (f : α → StateM σ β) (w : σ),
      (x >>= f).run w = (f (x.run w).1).run (x.run w).2 := fun _ _ _ => rfl
  unfold look at h
  rw [hbind] at h
  generalize StateT.run _ w = opened at h
  obtain ⟨⟨_ | _, client⟩, before⟩ := opened
  · cases h
  · simp only [hbind] at h
    generalize hread : StateT.run _ before = read at h
    obtain ⟨⟨_ | snapshot, client'⟩, after⟩ := read
    · cases h
    · refine ⟨snapshot, client, client', before, after, hread, ?_⟩
      cases h
      rfl

/-- **What a look prints for programs is the snapshot that the store gave.** Every snapshot is read back from its text
in lines, whatever its segment, its offset and its size; and that is the text that a look prints which ends well, with a
new line behind it. -/
theorem look_prints_snapshot :
    (∀ snapshot : Snapshot,
      Json.readAs? Snapshot.reader (Utf8.encode snapshot.json.writePretty) = some snapshot) ∧
    ∀ (σ : Type) (s : Surroundings (StateM σ)) (logging : Logging) (it : Invocation.Look) (w w' : σ),
      it.json = true → (look s logging it).run w = (.ok (), w') →
        ∃ snapshot client client' before after text,
          ((Client.namespaceInfo it.space client).run (s.handle logging {} none)).run before =
            ((.ok snapshot, client'), after) ∧
          (s.print text).run after = ((), w') ∧
          Json.readAs? Snapshot.reader (Utf8.encode text) = some snapshot := by
  constructor
  · intro snapshot
    have hread := snapshot.readAs?_writePretty Json.isBlank_nil
    rwa [List.append_nil] at hread
  · intro σ s logging it w w' hjson h
    obtain ⟨snapshot, client, client', before, after, hread, hprint⟩ := look_eq_ok h
    rw [if_pos hjson] at hprint
    refine ⟨snapshot, client, client', before, after, _, hread, hprint, ?_⟩
    have hblank : IsBlank (Utf8.encode "\n") := List.all_eq_true.mp (by decide)
    rw [Utf8.encode_append]
    exact snapshot.readAs?_writePretty hblank

/-- Surroundings that grant everything, answer the question for a namespace, and keep what is printed. -/
def scribe (information : String) : Surroundings (StateM (List String)) where
  readFile _ := pure (.error .missing)
  directives := pure none
  answer _ effect :=
    match effect with
    | .execute _ request => pure (.ok (if request.command = .nsInfo then .simple information else .okay))
    | .reopen _ => pure (.ok ())
    | .stopRequested => pure false
    | .wait _ => pure .elapsed
    | .rest _ => pure ()
    | .report _ => pure ()
    | .log _ _ => pure ()
    | .clock => pure (.ofMillis 0)
  writeLine _ _ := pure ()
  print text := modify (· ++ [text])
  complain _ := pure ()
  together _ jobs := jobs.mapM id
  rounds := 0

/-- The information about a namespace with the largest numbers there are. -/
def largestInformation : String :=
  "data_current_id: 4294967295\ndata_current_offset: 18446744073709551615\ndata_size_bytes: 18446744073709551615\n"

/-- A look at that namespace ends well and prints a snapshot. -/
theorem look_prints_snapshot_largest :
    ∃ snapshot earlier text,
      (look (scribe largestInformation) ⟨⟨[]⟩, .text⟩ { json := true }).run [] = (.ok (), earlier ++ [text]) ∧
      Json.readAs? Snapshot.reader (Utf8.encode text) = some snapshot := by
  have hgood : ((look (scribe largestInformation) ⟨⟨[]⟩, .text⟩ { json := true }).run []).1.isOk = true := by
    decide +kernel
  rcases hlook : (look (scribe largestInformation) ⟨⟨[]⟩, .text⟩ { json := true }).run [] with ⟨_ | _, printed⟩
  · rw [hlook] at hgood
    cases hgood
  · obtain ⟨snapshot, -, -, -, earlier, text, -, hprint, hread⟩ := look_prints_snapshot.2 _ _ _ _ _ _ rfl hlook
    obtain rfl : earlier ++ [text] = printed := congrArg Prod.snd hprint
    exact ⟨snapshot, earlier, text, rfl, hread⟩

end Service

end SegmentSync
