import SegmentSync.Proofs.Session.Writes

/-!
# `SegmentSync.Proofs.Session.Acknowledgement` — what comes of an entry that the slave does not acknowledge

A step that has an entry for the slave ends with the slave's answer to it, whatever that is: the answer acknowledges the
entry, or it is an integrity fault that names the key and the cursor of the entry. Only a failure of the connection goes
on as one, and so does the end of a segment, which no answer to a set or to a deletion should be.

## Contents
- **Faults.** `Record.Fault`: how a slave fails to take over an entry.
- **Verdicts.** `Record.settle` is what a step comes to, by the answer of the slave; one lemma for each kind of answer.
- **Steps.** A step that has an entry to replay ends as the entry is settled (`runs_step`), and the theorem about it,
  `Session.unacknowledged_fault`.
-/

namespace SegmentSync

variable {ι α : Type}

/-! ## Faults -/

/-- The fault of a slave that gives a reason not to take over an entry. -/
def Record.fault (entry : Record) (reason : String) : IntegrityFault :=
  if entry.isDelete then .deletionRejected (Utf8.decodeLossy entry.key) entry.position reason
  else .notAcknowledged (Utf8.decodeLossy entry.key) entry.position reason

/-- How a slave fails to take over an entry: it gives some reason, or acknowledges the set of another key. -/
inductive Record.Fault (entry : Record) : IntegrityFault → Prop where
  | reasoned (reason : String) : Fault entry (entry.fault reason)
  | otherKey {echo : Bytes} (hset : entry.isDelete = false) (hecho : echo ≠ entry.key) :
    Fault entry (.wrongEcho (Utf8.decodeLossy echo) (Utf8.decodeLossy entry.key) entry.position)

/-- What a failed request becomes whose answer has to be an acknowledgement. -/
def ProtocolError.unacknowledged (fault : (reason : String) → IntegrityFault) : ProtocolError → SyncError
  | .server reason => .integrity (fault reason)
  | .unexpectedReply _ mismatch => .integrity (fault mismatch.message)
  | failure => .protocol failure

/-- The failure remains one of the connection, or does not become one. -/
theorem ProtocolError.isTransient_unacknowledged (fault : String → IntegrityFault) (failure : ProtocolError) :
    (failure.unacknowledged fault).isTransient = failure.isTransient := by
  cases failure <;> rfl

/-! ## Verdicts -/

open SegmentSync.Session (Step Acknowledges)

namespace Record

variable {entry : Record}

/-- What a step comes to, by what the slave answers to its entry. -/
def settle (entry : Record) (r : Except ProtocolError Reply) : Except SyncError Step :=
  if entry.isDelete then
    match Client.reading entry.request Client.ack? r with
    | .ok () => .ok (.applied entry.position true)
    | .error failure => .error (failure.unacknowledged entry.fault)
  else
    match Client.reading entry.request Client.blob? r with
    | .ok echo =>
      if echo = entry.key then .ok (.applied entry.position false)
      else .error (.integrity (.wrongEcho (Utf8.decodeLossy echo) (Utf8.decodeLossy entry.key) entry.position))
    | .error failure => .error (failure.unacknowledged entry.fault)

theorem request_of_isDelete (h : entry.isDelete = true) : entry.request = .del entry.key entry.marker := if_pos h

theorem request_of_not_isDelete (h : entry.isDelete = false) :
    entry.request = .set entry.key (entry.value.getD []) entry.marker :=
  if_neg (by rw [h]; exact Bool.false_ne_true)

/-- **A failed request** is a fault, unless its failure is passed on. -/
theorem settle_error (entry : Record) (failure : ProtocolError) :
    entry.settle (.error failure) = .error (failure.unacknowledged entry.fault) := by
  unfold settle
  split <;> rfl

/-- **An acknowledged entry** has been applied. -/
theorem settle_of_acknowledges {reply : Reply} (h : Acknowledges reply entry.request) :
    entry.settle (.ok reply) = .ok (.applied entry.position entry.isDelete) := by
  unfold settle
  cases hdelete : entry.isDelete with
  | true =>
    rw [request_of_isDelete hdelete] at h ⊢
    have hokay : reply.IsOkay := h
    rw [if_pos rfl, Client.reading_of_isOkay rfl hokay]
  | false =>
    rw [request_of_not_isDelete hdelete] at h ⊢
    have hecho : reply.asBytes = .ok entry.key := h
    rw [if_neg Bool.false_ne_true, Client.reading_of_asBytes rfl hecho]
    exact if_pos rfl

/-- **Any other reply** is a fault. -/
theorem settle_of_not_acknowledges {reply : Reply} (h : ¬ Acknowledges reply entry.request) :
    ∃ fault, entry.Fault fault ∧ entry.settle (.ok reply) = .error (.integrity fault) := by
  unfold settle
  cases hdelete : entry.isDelete with
  | true =>
    rw [request_of_isDelete hdelete] at h ⊢
    rw [if_pos rfl]
    cases hreading : Client.reading (.del entry.key entry.marker) Client.ack? (.ok reply) with
    | ok _ =>
      obtain ⟨reply', hreply, hokay⟩ := Client.reading_ack rfl hreading
      obtain rfl := Except.ok.inj hreply
      exact absurd hokay h
    | error failure =>
      obtain ⟨mismatch, rfl⟩ := Client.exists_mismatch hreading
      exact ⟨_, .reasoned mismatch.message, rfl⟩
  | false =>
    rw [request_of_not_isDelete hdelete] at h ⊢
    rw [if_neg Bool.false_ne_true]
    cases hreading :
      Client.reading (.set entry.key (entry.value.getD []) entry.marker) Client.blob? (.ok reply) with
    | ok echo =>
      obtain ⟨reply', hreply, hecho⟩ := Client.reading_blob rfl hreading
      obtain rfl := Except.ok.inj hreply
      have hother : echo ≠ entry.key := fun heq => h (heq ▸ hecho)
      exact ⟨_, .otherKey hdelete hother, if_neg hother⟩
    | error failure =>
      obtain ⟨mismatch, rfl⟩ := Client.exists_mismatch hreading
      exact ⟨_, .reasoned mismatch.message, rfl⟩

end Record

/-! ## Steps -/

namespace Session

variable {s : Session ι}

theorem runs_acknowledged {x : Action (Client ι) ι α} {events : Trace ι} {outcome : Except ProtocolError α}
    (hx : x.Runs s.slave events (outcome.mapError .protocol) s.slave) (fault : String → IntegrityFault) :
    (acknowledged fault x).Runs s events (outcome.mapError fun failure => failure.unacknowledged fault) s := by
  have htold : (onSlave x).Runs s events (outcome.mapError .protocol) s := hx.focus
  refine htold.attempt.finish ?_
  rcases outcome with (_ | _ | _ | _) | _ <;> rfl

/-- **Replaying an entry** is one exchange, by which the entry is settled. -/
theorem runs_replay (hlogin : s.slave.authenticated = true) (entry : Record) (r : Except ProtocolError Reply) :
    (replay entry).Runs s [.sent s.slave.link entry.request r] (entry.settle r) s := by
  have hsent : ∀ request, s.slave.holdsBack request = false := fun request => by
    rw [Client.holdsBack, hlogin, Bool.not_true, Bool.and_false]
  unfold replay Record.settle
  cases hdelete : entry.isDelete with
  | true =>
    rw [Record.request_of_isDelete hdelete, if_pos rfl, if_pos rfl]
    have hfault : entry.fault = .deletionRejected (Utf8.decodeLossy entry.key) entry.position :=
      funext fun _ => if_pos hdelete
    rw [hfault]
    have htold := runs_acknowledged (Client.runs_callFor (hsent (.del entry.key entry.marker)) Client.ack? r)
      (.deletionRejected (Utf8.decodeLossy entry.key) entry.position)
    cases hreading : Client.reading (.del entry.key entry.marker) Client.ack? r with
    | ok _ =>
      rw [hreading] at htold
      exact htold.finish rfl
    | error failure =>
      rw [hreading] at htold
      exact htold.bind_error
  | false =>
    rw [Record.request_of_not_isDelete hdelete, if_neg Bool.false_ne_true, if_neg Bool.false_ne_true]
    have hfault : entry.fault = .notAcknowledged (Utf8.decodeLossy entry.key) entry.position :=
      funext fun _ => if_neg (by rw [hdelete]; exact Bool.false_ne_true)
    rw [hfault]
    have htold := runs_acknowledged
      (Client.runs_callFor (hsent (.set entry.key (entry.value.getD []) entry.marker)) Client.blob? r)
      (.notAcknowledged (Utf8.decodeLossy entry.key) entry.position)
    cases hreading : Client.reading (.set entry.key (entry.value.getD []) entry.marker) Client.blob? r with
    | ok echo =>
      rw [hreading] at htold
      refine htold.finish ?_
      by_cases hecho : echo = entry.key
      · simp only [hecho, ne_eq, not_true_eq_false, if_false, if_true]
        rfl
      · simp only [hecho, ne_eq, not_false_eq_true, if_false, if_true]
        rfl
    | error failure =>
      rw [hreading] at htold
      exact htold.bind_error

/-- What has happened in a step that has come to an entry: both cursors were read, the slave is behind, and the master
    has handed out the entry at the slave's cursor. -/
inductive HandsOver (s : Session ι) (entry : Record) : Trace ι → Prop where
  | handed {seen here : Snapshot} {master slave record : Except ProtocolError Reply}
    (hseen : Client.reading (.nsInfo s.space) Client.info? master = .ok seen)
    (hhere : Client.reading (.nsInfo s.space) Client.info? slave = .ok here)
    (hforward : movedBackwards s.lastSlave here = false) (hbehind : Snapshot.decide seen here = .advance)
    (hentry : Client.reading (.dataRaw here.position) Client.record? record = .ok entry)
    (hat : entry.position = here.position) :
    HandsOver s entry [.sent s.master.link (.dataRaw here.position) record,
      .sent s.slave.link (.nsInfo s.space) slave, .sent s.master.link (.nsInfo s.space) master]

/-- **A step that has come to an entry** sends it to the slave, and ends as the entry is settled by the answer. -/
theorem runs_step {entry : Record} {earlier : Trace ι} (hlogin : s.LoggedIn) (h : s.HandsOver entry earlier)
    (r : Except ProtocolError Reply) :
    ∃ seen here, step.Runs s (.sent s.slave.link entry.request r :: earlier) (entry.settle r)
      { s with lastMaster := some seen, lastSlave := some here } := by
  obtain ⟨hmaster, hslave⟩ := hlogin
  cases h with
  | @handed seen here master slave record hseen hhere hforward hbehind hentry hat =>
    let s₁ : Session ι := { s with lastMaster := some seen }
    let s₂ : Session ι := { s₁ with lastSlave := some here }
    have hmasterInfo : masterInfo.Runs s _ (.ok seen) s₁ := runs_masterInfo_of_reading hmaster hseen
    have hslaveInfo : slaveInfo.Runs s₁ _ (.ok here) s₂ := runs_slaveInfo_of_reading (s := s₁) hslave hhere hforward
    have hsent : s₂.master.holdsBack (.dataRaw here.position) = false := by rw [Client.holdsBack, hmaster]; rfl
    have hfetched := Client.runs_callFor hsent Client.record? record
    rw [hentry] at hfetched
    have hasked : (onMaster (Client.fetchRecord here.position)).Runs s₂
        [.sent s.master.link (.dataRaw here.position) record] (.ok entry) s₂ := hfetched.focus
    let handed : Trace ι :=
      [.sent s.slave.link entry.request r] ++ [.sent s.master.link (.dataRaw here.position) record]
    have hadvance : (advance here.position).Runs s₂ handed (entry.settle r) s₂ := by
      refine hasked.attempt.bind ?_
      dsimp only
      rw [if_neg (not_not_intro hat)]
      exact runs_replay (s := s₂) hslave entry r
    have hstep : step.Runs s (handed ++ [.sent s.slave.link (.nsInfo s.space) slave] ++
        [.sent s.master.link (.nsInfo s.space) master]) (entry.settle r) s₂ := by
      unfold step
      refine hmasterInfo.bind (hslaveInfo.bind ?_)
      rw [hbehind]
      exact hadvance
    exact ⟨seen, here, hstep⟩

/-- **An entry that is not acknowledged is an integrity fault.** Whatever entry the master hands out at the slave's
    cursor and whatever the slave answers to it, the step ends with that answer. A reply that does not acknowledge the
    entry is a fault that names it, and so is every error line but one: the code that stands for the end of a segment is
    passed on as that. A failure of the connection is passed on, and nothing else ends as one. -/
theorem unacknowledged_fault {entry : Record} {earlier : Trace ι} (hlogin : s.LoggedIn)
    (h : s.HandsOver entry earlier) (r : Except ProtocolError Reply) :
    (∃ result s', step.Runs s (.sent s.slave.link entry.request r :: earlier) result s') ∧
      ∀ result s', step.Runs s (.sent s.slave.link entry.request r :: earlier) result s' →
        (∀ reply, r = .ok reply → Acknowledges reply entry.request →
          result = .ok (.applied entry.position entry.isDelete)) ∧
        (∀ reply, r = .ok reply → ¬ Acknowledges reply entry.request →
          ∃ fault, entry.Fault fault ∧ result = .error (.integrity fault)) ∧
        (∀ line, r = .error (.ofErrorLine line) → line.code ≠ "EOF" →
          result = .error (.integrity (entry.fault line.message))) ∧
        (∀ line, r = .error (.ofErrorLine line) → line.code = "EOF" → result = .error (.protocol .eof)) ∧
        (∀ reason, r = .error (.transport reason) → result = .error (.protocol (.transport reason))) ∧
        ∀ failure, result = .error failure → failure.isTransient = true → ∃ reason, r = .error (.transport reason) := by
  obtain ⟨_, _, hstep⟩ := runs_step hlogin h r
  refine ⟨⟨_, _, hstep⟩, fun result s' hrun => ?_⟩
  obtain ⟨rfl, -⟩ := hrun.unique hstep
  refine ⟨?_, ?_, ?_, ?_, ?_, ?_⟩
  · rintro reply rfl hacknowledges
    exact Record.settle_of_acknowledges hacknowledges
  · rintro reply rfl hnot
    exact Record.settle_of_not_acknowledges hnot
  · rintro line rfl hcode
    rw [Record.settle_error, ProtocolError.ofErrorLine, if_neg hcode]
    rfl
  · rintro line rfl hcode
    rw [Record.settle_error, ProtocolError.ofErrorLine, if_pos hcode]
    rfl
  · rintro reason rfl
    exact Record.settle_error entry _
  · intro failure hfailure htransient
    cases r with
    | ok reply =>
      by_cases hacknowledges : Acknowledges reply entry.request
      · rw [Record.settle_of_acknowledges hacknowledges] at hfailure
        cases hfailure
      · obtain ⟨fault, -, hfault⟩ := Record.settle_of_not_acknowledges hacknowledges
        rw [hfault] at hfailure
        obtain rfl := Except.error.inj hfailure
        cases htransient
    | error cause =>
      rw [Record.settle_error] at hfailure
      obtain rfl := Except.error.inj hfailure
      rw [ProtocolError.isTransient_unacknowledged] at htransient
      cases cause with
      | transport reason => exact ⟨reason, rfl⟩
      | eof | server _ | unexpectedReply _ _ => cases htransient

/-- A slave that has nothing is sent the only entry of the master, whose set it must acknowledge. No reply at all is a
    fault; the end of a segment is taken for one. -/
theorem unacknowledged_fault_of_set :
    ∃ (entry : Record) (earlier : Trace Role) (fault : IntegrityFault) (s₁ s₂ : Session Role),
      HandsOver (between .incremental) entry earlier ∧ entry.Fault fault ∧
      step.Runs (between .incremental) (.sent .slave entry.request (.ok .nil) :: earlier) (.error (.integrity fault))
        s₁ ∧
      step.Runs (between .incremental) (.sent .slave entry.request (.error (.ofErrorLine ⟨"EOF", none⟩)) :: earlier)
        (.error (.protocol .eof)) s₂ := by
  let session : Session Role := between .incremental
  let written : Entry := ⟨[107], some [118], 7⟩
  let m : Namespace := .ofLog [] [written]
  let s : Namespace := .ofLog [] []
  have hentry : Client.reading (.dataRaw s.position) Client.record? (.ok (Serve.recordReply written s.position)) =
      .ok (written.record s.position) := Client.reading_dataRaw written (by decide) (by decide)
  have hhanded : HandsOver session (written.record s.position) _ :=
    .handed (Client.reading_nsInfo "data" m) (Client.reading_nsInfo "data" s) rfl (by decide) hentry rfl
  have hlogin : session.LoggedIn := ⟨rfl, rfl⟩
  obtain ⟨⟨missing, s₁, hmissing⟩, hunread⟩ := unacknowledged_fault hlogin hhanded (.ok .nil)
  obtain ⟨-, hfault, -⟩ := hunread missing s₁ hmissing
  obtain ⟨fault, hnamed, rfl⟩ := hfault .nil rfl nofun
  obtain ⟨⟨passed, s₂, hpassed⟩, hline⟩ :=
    unacknowledged_fault hlogin hhanded (.error (.ofErrorLine ⟨"EOF", none⟩))
  obtain ⟨-, -, -, heof, -⟩ := hline passed s₂ hpassed
  obtain rfl := heof ⟨"EOF", none⟩ rfl rfl
  exact ⟨written.record s.position, _, fault, s₁, s₂, hhanded, hnamed, hmissing, hpassed⟩

end Session

end SegmentSync
