import SegmentSync.Proofs.Protocol.Records
import SegmentSync.Proofs.Session.Acknowledgement
import SegmentSync.Proofs.Session.Bracket

/-!
# `SegmentSync.Proofs.Session.Values` — no value is made up

A set is replayed with the empty value where its entry has none. There is no such entry: the reply of the master has
the value of every set, or it is not read at all. So whatever the stores answer, every value that a session sends is
one that the master has just handed out.

## Contents
- **Sets.** `Session.SetsStated`: every set that was sent is the entry of the master's last reply.
- **The master.** Nothing that a session asks of its master changes a log (`Session.MasterSpared`).
- **Runs.** `Session.records_by_grammar`, with the grammar of the replies.
-/

namespace SegmentSync.Session

/-! ## Sets -/

/-- Every set was sent to the slave right after the master had handed out its entry, with the key, the value and the
    marker that the reply has. -/
def SetsStated (w : Trace Role) : Prop :=
  ∀ later link request r earlier, w = later ++ .sent link request r :: earlier → request.command = .set →
    link = .slave ∧ ∃ reply entry value before,
      earlier = .sent .master (.dataRaw entry.position) (.ok reply) :: before ∧
      reply.IsEntry entry ∧ entry.value = some value ∧ request = .set entry.key value entry.marker

/-- **A set is warranted by its entry**, which has a value. -/
theorem Warranted.stated {space : String} {start : Start} {strategy : Strategy} {request : Request}
    {earlier : Trace Role} (h : Warranted space start strategy request earlier) (hset : request.command = .set) :
    ∃ reply entry value before, earlier = .sent .master (.dataRaw entry.position) (.ok reply) :: before ∧
      reply.IsEntry entry ∧ entry.value = some value ∧ request = .set entry.key value entry.marker := by
  cases h with
  | @replayed entry reply slave earlier hread hentry =>
    cases hdelete : entry.isDelete with
    | true =>
      rw [Record.request_of_isDelete hdelete] at hset
      cases hset
    | false =>
      have hread : reply.IsEntry entry := hentry.isEntry hdelete
      have hvalue : entry.value.isSome = true := by rw [hread.value_isSome, hdelete]; rfl
      obtain ⟨value, hvalue⟩ := Option.isSome_iff_exists.mp hvalue
      refine ⟨reply, entry, value, _, rfl, hread, hvalue, ?_⟩
      rw [Record.request_of_not_isDelete hdelete, hvalue, Option.getD_some]
  | jumped | imported | wentOn => cases hset

/-! ## The master -/

/-- Nothing that was sent to the master changes a log. -/
def MasterSpared (w : Trace Role) : Prop :=
  ∀ request r, Event.sent .master request r ∈ w → request.command.changesLog = false

theorem masterSpared_nil : MasterSpared [] := fun _ _ hmem => absurd hmem List.not_mem_nil

variable {s : Session Role} {w : Trace Role} {event : Event Role}

theorem MasterSpared.cons (h : MasterSpared w)
    (hevent : ∀ request r, event = .sent .master request r → request.command.changesLog = false) :
    MasterSpared (event :: w) := by
  intro request r hmem
  rcases List.mem_cons.mp hmem with rfl | hearlier
  · exact hevent request r rfl
  · exact h request r hearlier

/-- A request that changes no log may be sent anywhere. -/
theorem MasterSpared.quiet (h : MasterSpared w) {link : Role} {request : Request} (r : Except ProtocolError Reply)
    (hquiet : request.command.changesLog = false) : MasterSpared (.sent link request r :: w) := by
  refine h.cons fun _ _ heq => ?_
  cases heq
  exact hquiet

/-- Anything but a request. -/
theorem MasterSpared.beside (h : MasterSpared w) (hevent : ∀ link request r, event ≠ .sent link request r) :
    MasterSpared (event :: w) :=
  h.cons fun request r heq => absurd heq (hevent .master request r)

/-- The sides are told apart, and the master was spared. -/
structure Sparing (s : Session Role) (w : Trace Role) : Prop where
  slaveLink : s.slave.link = .slave
  spared : MasterSpared w

theorem Sparing.connect (h : Sparing s w) {client : Client Role} {effect : Effect Role}
    (hasks : client.AsksToConnect effect) (answer : effect.Answer) : MasterSpared (⟨effect, answer⟩ :: w) := by
  cases hasks with
  | request hlogin => exact h.spared.quiet answer hlogin.quiet.2
  | reopen | log _ _ => exact h.spared.beside (ne_sent_of_ne nofun)

/-- Recovering and reporting change no log. -/
theorem unaffected_sparing : Unaffected recording MasterSpared Sparing where
  master := fun _ _ _ h => ⟨h.slaveLink, h.spared⟩
  slave := fun _ _ _ h => ⟨h.slaveLink, h.spared⟩
  failures := fun _ _ _ _ h => ⟨h.slaveLink, h.spared⟩
  reported := fun _ _ _ h => ⟨h.slaveLink, h.spared⟩
  effect := by
    rintro s w effect answer _ h hasks rfl
    have hspared : MasterSpared (⟨effect, answer⟩ :: w) := by
      cases hasks with
      | master hconnect | slave hconnect => exact h.connect hconnect answer
      | pause hpause => exact h.spared.beside (ne_sent_of_ne (by cases hpause <;> exact nofun))
    exact ⟨hspared, h.slaveLink, hspared⟩
  reporting := by
    rintro s w effect answer _ h hasks rfl
    have hspared : MasterSpared (⟨effect, answer⟩ :: w) := by
      refine h.spared.beside (ne_sent_of_ne ?_)
      cases hasks <;> exact nofun
    exact ⟨hspared, h.slaveLink, hspared⟩

/-- In its steps a session reads its master, and changes its slave at most. -/
theorem steady_sparing : Steady recording MasterSpared Sparing fun _ => True where
  lastMaster := fun _ _ _ h => ⟨h.slaveLink, h.spared⟩
  lastSlave := fun _ _ _ h => ⟨h.slaveLink, h.spared⟩
  effect := by
    rintro s w effect answer _ h hasks rfl
    have hspared : MasterSpared (⟨effect, answer⟩ :: w) := by
      cases hasks with
      | master hreads => exact h.spared.quiet answer hreads.quiet.2
      | slave _ =>
        refine h.spared.cons fun request r heq => ?_
        rw [h.slaveLink] at heq
        cases heq
      | log level line => exact h.spared.beside (ne_sent_of_ne nofun)
    exact ⟨hspared, h.slaveLink, hspared⟩
  fails := fun _ _ => trivial
  heldMaster := fun _ _ _ _ _ => trivial
  heldSlave := fun _ _ _ _ _ => trivial

/-- The end of the freeze is for the slave, and changes no log. -/
theorem Sparing.lift (h : Sparing s w) (r : Except ProtocolError Reply) :
    MasterSpared (.sent s.slave.link (.nsFreeze s.space false) r :: w) := h.spared.quiet r rfl

/-! ## Runs -/

/-- A session that nothing has happened to yet, with the baseline of a copy or without one. -/
theorem Watched.start (session : Session Role) (hmaster : session.master.link = .master)
    (hslave : session.slave.link = .slave) (strategy : Strategy) (baseline : Option Snapshot) :
    session.Watched session.space ⟨session.lastSlave, baseline⟩ strategy baseline [] where
  named := rfl
  masterLink := hmaster
  slaveLink := hslave
  lastSlave := rfl
  captured := fun _ hbaseline => .known hbaseline
  warranted := changesWarranted_nil

theorem setsStated_of_warranted {space : String} {start : Start} {strategy : Strategy}
    (hwarranted : ChangesWarranted space start strategy w) (hspared : MasterSpared w) : SetsStated w := by
  intro later link request r earlier heq hset
  have hchanges : request.command.changesLog = true := by rw [hset]; rfl
  cases link with
  | master =>
    have hmem : Event.sent .master request r ∈ w := by
      rw [heq]
      exact List.mem_append_right later List.mem_cons_self
    rw [hspared request r hmem] at hchanges
    cases hchanges
  | slave => exact ⟨rfl, (hwarranted later request r earlier heq hchanges).stated hset⟩

/-- **Entries are read by their grammar, and no value is made up.** A reply is read as an entry exactly where it hands
    that entry out, and an entry has a value unless it is a deletion. So every set that a session sends, in the course of
    a run or in a step on its own, has the key, the value and the marker of the entry that the master has just handed
    out. -/
theorem records_by_grammar :
    (∀ (reply : Reply) (answer : Answer),
      Answer.ofReply .dataRaw reply = .ok answer ↔ ∃ entry, answer = .record entry ∧ reply.IsEntry entry) ∧
    (∀ (reply : Reply) (entry : Record), reply.IsEntry entry → entry.value.isSome = !entry.isDelete) ∧
    ∀ session : Session Role, session.master.link = .master → session.slave.link = .slave →
      (∀ limit q trace, (run limit session).Reaches recording [] q trace → SetsStated trace) ∧
      (∀ q trace, (step session).Reaches recording [] q trace → SetsStated trace) ∧
      ∀ baseline q trace, (copyStep baseline session).Reaches recording [] q trace → SetsStated trace := by
  refine ⟨fun _ _ => Answer.ofReply_dataRaw_eq_ok_iff, fun _ _ h => h.value_isSome, fun session hmaster hslave => ?_⟩
  have hsparing : Sparing session [] := ⟨hslave, masterSpared_nil⟩
  have hwatched := Watched.start session hmaster hslave
  refine ⟨fun limit q trace hrun => ?_, fun q trace hrun => ?_, fun baseline q trace hrun => ?_⟩
  · have hspared := steady_sparing.run unaffected_sparing (fun s w r w' h henv => ?_) limit session [] hsparing
    · have hwarranted := (hwatched session.strategy none).run limit
      exact setsStated_of_warranted (hwarranted.reaches changesWarranted_nil hrun).1
        (hspared.reaches masterSpared_nil hrun).1
    · subst henv
      exact ⟨h.lift r, h.slaveLink, h.lift r⟩
  · have hspared := steady_sparing.step session [] hsparing
    have hwarranted := (hwatched .incremental none).step
    exact setsStated_of_warranted (hwarranted.reaches changesWarranted_nil hrun).1
      (hspared.reaches masterSpared_nil hrun).1
  · have hspared := steady_sparing.copyStep baseline session [] hsparing
    have hwarranted := (hwatched .bulk (some baseline)).copyStep
    exact setsStated_of_warranted (hwarranted.reaches changesWarranted_nil hrun).1
      (hspared.reaches masterSpared_nil hrun).1

/-- A set of the empty value, whose reply has a number with a sign and white space, and one element too many. -/
theorem records_by_grammar_of_padded :
    ∃ (reply : Reply) (entry : Record) (earlier : Trace Role) (session' : Session Role),
      Answer.ofReply .dataRaw reply = .ok (.record entry) ∧ entry.value = some [] ∧
      step.Runs (between .incremental) (.sent .slave (.set entry.key [] entry.marker) (.ok (.bulk entry.key)) ::
        .sent .master (.dataRaw entry.position) (.ok reply) :: earlier) (.ok (.applied entry.position false)) session' ∧
      SetsStated (.sent .slave (.set entry.key [] entry.marker) (.ok (.bulk entry.key)) ::
        .sent .master (.dataRaw entry.position) (.ok reply) :: earlier) := by
  let session : Session Role := between .incremental
  let entry : Record :=
    { key := [107], isDelete := false, position := .zero, marker := Utf8.encode (Decimal.signedText (-7))
      value := some [] }
  let reply : Reply := .array [.bulk [107], .int 0, .bulk (Utf8.encode " +0 "), .simple "0", .int (-7), .bulk [], .nil]
  let m : Namespace := .ofLog [] [⟨[107], some [], 7⟩]
  let s : Namespace := .ofLog [] []
  have hoffset : (Reply.bulk (Utf8.encode " +0 ")).IsNumber 0 :=
    .text (.bulk _) ⟨['+'], [0], .inr rfl, nofun, by decide, rfl⟩
  have hflag : (Reply.simple "0").IsNumber 0 := .text (.simple _) ⟨[], [0], .inl rfl, nofun, by decide, rfl⟩
  have hmarker : (Reply.int (-7)).IsBytes entry.marker := .int (-7)
  have hentry : reply.IsEntry entry := .set (.bulk _) (.int (Int.le_refl 0)) hoffset hflag hmarker (.bulk _)
  obtain ⟨hgrammar, -, hruns⟩ := records_by_grammar
  have hread : Answer.ofReply .dataRaw reply = .ok (.record entry) :=
    (hgrammar reply (.record entry)).mpr ⟨entry, rfl, hentry⟩
  have hreading : Client.reading (.dataRaw .zero) Client.record? (.ok reply) = .ok entry :=
    Client.reading_of_reader (Answer.ofReply_eq_ok hread) rfl
  have hhanded : HandsOver session entry _ :=
    .handed (Client.reading_nsInfo "data" m) (Client.reading_nsInfo "data" s) rfl (by decide) hreading rfl
  obtain ⟨_, _, hstep⟩ := runs_step ⟨rfl, rfl⟩ hhanded (.ok (.bulk [107]))
  rw [Record.settle_of_acknowledges (show Acknowledges (.bulk [107]) entry.request from rfl)] at hstep
  exact ⟨reply, entry, _, _, hread, rfl, hstep, (hruns session rfl rfl).2.1 _ _ hstep⟩

end SegmentSync.Session
