import SegmentSync.Proofs.Program.Recorded
import SegmentSync.Proofs.Session.Tally
import SegmentSync.Proofs.Session.Writes

/-!
# `SegmentSync.Proofs.Session.Verdicts` — the answers that a run does not survive

Some answers leave a session nothing to go on with. Which ones, and with which failure the run has to end, can be told
from the answer, from the reading of the slave that was accepted last, and from the one of the master that was taken
last; no look at the session is needed.

## Contents
- **Failures for good.** `ProtocolError.final?` and `ProtocolError.refusal?`, and the verdicts on logins.
- **Reports.** `Report.IsOn` ties a report to the readings that it is on.
- **Verdicts.** `Session.sighting?` is what an event tells about a cursor, `Session.verdict` the failure to which it
  condemns a run, and `Session.Clear` a trace without one.
- **Knowing.** `Session.Knows`: what a session remembers is what has happened. `Session.Standing` is a session that
  nothing has condemned, `Session.Doomed` one that the latest answer has.
- **Logins.** A connect ends logged in, or is the last thing that was asked for.
-/

namespace SegmentSync

open SegmentSync.Session (Failing)

variable {ι α : Type}

/-! ## Failures for good -/

namespace ProtocolError

/-- The failure that comes of a failed request, unless it is recovered from. -/
def final? (failure : ProtocolError) : Option SyncError :=
  if failure.isTransient then none else some (.protocol failure)

/-- The same where any answer but the wanted one is a refusal, which counts for its reason. -/
def refusal? (refused : (reason : String) → SyncError) : ProtocolError → Option SyncError
  | .server reason => some (refused reason)
  | .unexpectedReply _ mismatch => some (refused mismatch.message)
  | failure => failure.final?

end ProtocolError

/-- A failed request is recovered from, or final. -/
theorem Session.failing_protocol {σ ω : Type} {failed : ProtocolError → σ → ω → Prop} {ended : SyncError → σ → ω → Prop}
    {failure : ProtocolError} {s : σ} {w : ω} (hfailed : failure.final? = none → failed failure s w)
    (hended : failure.final? = some (.protocol failure) → ended (.protocol failure) s w) :
    Failing failed ended (.protocol failure) s w := by
  cases failure with
  | transport _ => exact hfailed rfl
  | eof | server _ | unexpectedReply _ _ => exact hended rfl

namespace Client

variable {c : Client ι} {w : Trace ι} {kept : Client ι → Trace ι → Prop}
  {doomed : SyncError → Client ι → Trace ι → Prop}

/-- The failure to which the answer to a request condemns a login at that target. -/
def loginVerdict (target : Target) (request : Request) (r : Except ProtocolError Reply) : Option SyncError :=
  match request.command with
  | .authChallenge =>
    match reading request text? r with
    | .ok _ => none
    | .error (.server _) => some (.auth (.refused target))
    | .error failure => failure.final?
  | _ =>
    match reading request ack? r with
    | .ok () => none
    | .error failure => failure.refusal? fun _ => .auth (.refused target)

/-- The failure to which an event condemns a client that connects. -/
def connectVerdict (target : Target) : Event ι → Option SyncError
  | .sent _ request r => loginVerdict target request r
  | .reopened _ (.error failure) => failure.final?
  | _ => none

/-- What holds of a client while nothing has condemned it, and what holds once something has. -/
structure Tried (kept : Client ι → Trace ι → Prop) (doomed : SyncError → Client ι → Trace ι → Prop) : Prop where
  login : ∀ c w authenticated, kept c w → kept { c with authenticated } w
  event : ∀ c w effect answer, kept c w → c.AsksToConnect effect →
    match connectVerdict c.target ⟨effect, answer⟩ with
    | none => kept c (⟨effect, answer⟩ :: w)
    | some failure => doomed failure c (⟨effect, answer⟩ :: w)
  doomedLogin : ∀ failure c w authenticated, doomed failure c w → doomed failure { c with authenticated } w
  doomedLog : ∀ failure c w level line, doomed failure c w → doomed failure c (⟨.log level line, ()⟩ :: w)

/-- What comes of the question whether a login is accepted. -/
def Accepted (kept : Client ι → Trace ι → Prop) (doomed : SyncError → Client ι → Trace ι → Prop) (target : Target) :
    Bool → Client ι → Trace ι → Prop
  | true => kept
  | false => doomed (.auth (.refused target))

namespace Tried

theorem note (h : Tried kept doomed) (hkept : kept c w) (level : Level) (line : String)
    {fail : SyncError → Client ι → Trace ι → Prop} :
    Action.Ensures recording (fun _ => True) (note level line) (fun _ c' w' => c' = c ∧ kept c w') fail c w :=
  ensures_note fun line _ hw' => ⟨trivial, rfl, hw' ▸ h.event c w (.log level line) () hkept (.log level line)⟩

/-- A refusal is noted. -/
theorem refuse (h : Tried kept doomed) {failure : SyncError} (hdoomed : doomed failure c w) (level : Level)
    (line : String) {post : Bool → Client ι → Trace ι → Prop} {fail : SyncError → Client ι → Trace ι → Prop}
    (hpost : ∀ w', doomed failure c w' → post false c w') :
    Action.Ensures recording (fun _ => True) (do Client.note level line; return false) post fail c w := by
  rw [Action.ensures_bind]
  refine ensures_note fun line w' hw' => ⟨trivial, hpost w' ?_⟩
  subst hw'
  exact h.doomedLog _ c w level line hdoomed

/-- **A step of a login** is granted, or refused for good. -/
theorem granted (h : Tried kept doomed) {request : Request} (hlogin : IsLogin c.target.space request)
    (hchallenge : request.command ≠ .authChallenge) (hkept : kept c w) :
    Action.Ensures recording (fun _ => True) (granted request)
      (fun accepted c' w' => c' = c ∧ Accepted kept doomed c.target accepted c w') (Failing (fun _ => kept) doomed)
      c w := by
  have hheld : c.holdsBack request = false := by
    cases hlogin <;> rfl
  have hverdict : ∀ r, loginVerdict c.target request r = match reading request ack? r with
      | .ok () => none
      | .error failure => failure.refusal? fun _ => .auth (.refused c.target) := by
    intro r
    cases hlogin with
    | challenge => exact absurd rfl hchallenge
    | digest _ | selection _ => rfl
  unfold Client.granted
  rw [Action.ensures_bind, Action.ensures_attempt]
  refine ensures_call (fun h' => absurd (hheld.symm.trans h') nofun) fun r w' hw' => ⟨trivial, ?_⟩
  subst hw'
  have hevent := h.event c w (.execute c.link request) r hkept (.request hlogin)
  simp only [connectVerdict, hverdict r] at hevent
  cases hanswer : r.bind (Answer.ofReply request.command) with
  | ok answer =>
    rw [reading_of_answer hanswer] at hevent
    cases answer with
    | ack => exact ⟨rfl, hevent⟩
    | _ => exact h.refuse hevent _ _ fun _ hdoomed => ⟨rfl, hdoomed⟩
  | error failure =>
    rw [reading_of_failure hanswer] at hevent
    cases failure with
    | server _ | unexpectedReply _ _ => exact h.refuse hevent _ _ fun _ hdoomed => ⟨rfl, hdoomed⟩
    | eof | transport _ => exact hevent

/-- **The handshake** ends logged in, or is refused for good. -/
theorem authenticate (h : Tried kept doomed) (password : String) (hkept : kept c w) :
    Action.Ensures recording (fun _ => True) (authenticate password)
      (fun accepted c' w' => Accepted kept doomed c.target accepted c' w' ∧ (accepted = true → c'.authenticated = true))
      (Failing (fun _ => kept) doomed) c w := by
  let opened : Client ι := { c with authenticated := false }
  have hopened : kept opened w := h.login c w false hkept
  unfold Client.authenticate setAuthenticated requestChallenge
  rw [Action.ensures_bind, Action.ensures_modify, Action.ensures_bind, Action.ensures_attempt]
  refine ensures_callFor (fun h' => absurd h' nofun) fun r w₁ hw₁ => ⟨trivial, ?_⟩
  subst hw₁
  have hevent := h.event opened w (.execute c.link .authChallenge) r hopened (.request .challenge)
  simp only [connectVerdict, loginVerdict, Request.authChallenge] at hevent
  cases hreading : reading .authChallenge text? r with
  | error failure =>
    simp only [Request.authChallenge] at hreading
    rw [hreading] at hevent
    cases failure with
    | server _ => exact h.refuse hevent _ _ fun _ hdoomed => ⟨hdoomed, nofun⟩
    | eof | transport _ | unexpectedReply _ _ => exact hevent
  | ok challenge =>
    simp only [Request.authChallenge] at hreading
    rw [hreading] at hevent
    refine Action.Ensures.andThen (h.granted (.digest _) nofun hevent) ?_
    rintro accepted _ w₂ ⟨rfl, haccepted⟩
    cases accepted with
    | false => exact h.refuse haccepted _ _ fun _ hdoomed => ⟨hdoomed, nofun⟩
    | true =>
      refine (Action.ensures_bind _ _).mpr ?_
      rw [Action.ensures_get]
      refine Action.Ensures.andThen (h.granted (.selection _) nofun haccepted) ?_
      rintro selected _ w₃ ⟨rfl, hselected⟩
      cases selected with
      | false => exact h.refuse hselected _ _ fun _ hdoomed => ⟨hdoomed, nofun⟩
      | true =>
        refine (Action.ensures_bind _ _).mpr ((Action.ensures_modify _).mpr ?_)
        have hdone : kept { opened with authenticated := true } w₃ := h.login _ w₃ true hselected
        refine Action.Ensures.andThen (h.note hdone .info _) ?_
        rintro _ _ w₄ ⟨rfl, hnoted⟩
        exact ⟨hnoted, fun _ => rfl⟩

/-- **A login** ends logged in, if nothing condemns it. -/
theorem establish (h : Tried kept doomed) (hkept : kept c w) :
    Action.Ensures recording (fun _ => True) establish (fun _ c' w' => kept c' w' ∧ c'.authenticated = true)
      (Failing (fun _ => kept) doomed) c w := by
  have hend : ∀ (accepted : Bool) (c' : Client ι) (w' : Trace ι), Accepted kept doomed c.target accepted c' w' →
      (accepted = true → c'.authenticated = true) → Action.Ensures recording (fun _ => True)
        (if !accepted then throw (.auth (.refused c.target)) else pure () : Action (Client ι) ι Unit)
        (fun _ c' w' => kept c' w' ∧ c'.authenticated = true) (Failing (fun _ => kept) doomed) c' w' := by
    intro accepted c' w' haccepted hlogin
    cases accepted with
    | false => exact haccepted
    | true => exact ⟨haccepted, hlogin rfl⟩
  unfold Client.establish
  rw [Action.ensures_bind, Action.ensures_get]
  dsimp only
  cases c.target.password with
  | some password =>
    refine Action.Ensures.andThen (h.authenticate password hkept) ?_
    rintro accepted c' w' ⟨haccepted, hlogin⟩
    exact hend accepted c' w' haccepted hlogin
  | none =>
    refine Action.Ensures.andThen (h.granted (.selection _) nofun hkept) ?_
    rintro selected _ w' ⟨rfl, hselected⟩
    refine (Action.ensures_bind _ _).mpr ((Action.ensures_modify _).mpr ?_)
    cases selected with
    | false => exact hend false _ w' (h.doomedLogin _ _ w' false hselected) nofun
    | true => exact hend true _ w' (h.login _ w' true hselected) fun _ => rfl

/-- **A connect** ends logged in, if nothing condemns it. -/
theorem connect (h : Tried kept doomed) (hkept : kept c w) :
    Action.Ensures recording (fun _ => True) connect (fun _ c' w' => kept c' w' ∧ c'.authenticated = true)
      (Failing (fun _ => kept) doomed) c w := by
  let opened : Client ι := { c with authenticated := false }
  have hopened : kept opened w := h.login c w false hkept
  unfold Client.connect reconnect setAuthenticated
  rw [Action.ensures_bind, Action.ensures_bind, Action.ensures_modify, Action.ensures_bind, Action.ensures_get,
    Action.ensures_bind]
  intro r w₁ hw₁
  subst hw₁
  refine ⟨trivial, (Action.ensures_ofRequest _).mpr ?_⟩
  have hevent := h.event opened w (.reopen c.link) r hopened .reopen
  cases r with
  | ok _ => exact h.establish hevent
  | error failure =>
    refine Session.failing_protocol (fun hfinal => ?_) fun hfinal => ?_
    · simpa only [connectVerdict, hfinal] using hevent
    · simpa only [connectVerdict, hfinal] using hevent

end Tried

end Client

/-! ## Reports -/

/-- The report is on these readings. -/
structure Report.IsOn (report : Report) (current : PairSnapshot) : Prop where
  slave : report.slave = current.slave.position
  master : report.master = current.master.position
  synced : report.synced = current.slave.size
  total : report.total = current.master.size
  percent : report.percent = Progress.percent current.slave.size current.master.size
  growth : ∃ previous elapsed, report.bytesPerSecond = Progress.throughput previous current.slave.size elapsed

theorem Progress.report_isOn (previous current : PairSnapshot) (elapsed : Duration) (phase : Phase) :
    (Progress.report previous current elapsed phase).IsOn current :=
  ⟨rfl, rfl, rfl, rfl, rfl, previous.slave.size, elapsed, rfl⟩

/-! ## Verdicts -/

/-- How a slave can be ahead of what it is compared with. -/
def Strategy.aheadFault : Strategy → CursorFault
  | .bulk => .aheadOfBaseline
  | .incremental => .aheadOfMaster

namespace Session

variable {session s : Session Role} {w earlier : Trace Role} {event : Event Role}

/-- The cursor of a reading; the start of the log where there is none. -/
def cursorOf (reading : Option Snapshot) : Position := (reading.map Snapshot.position).getD .zero

/-- What an event tells about the cursor of one side. -/
def sighting? (role : Role) (space : String) : Event Role → Option Snapshot
  | .sent link request r =>
    if link = role ∧ request = .nsInfo space then (Client.reading request Client.info? r).toOption else none
  | _ => none

theorem sighting_sent (role : Role) (space : String) (r : Except ProtocolError Reply) :
    sighting? role space (.sent role (.nsInfo space) r) =
      (Client.reading (.nsInfo space) Client.info? r).toOption := if_pos ⟨rfl, rfl⟩

theorem sighting_readBy (client : Client Role) (name : String) (ns : Namespace) :
    sighting? client.link name (readBy client name ns) = some ns.snapshot := by
  rw [readBy, sighting_sent, Client.reading_nsInfo]
  rfl

theorem exists_of_sighting {role : Role} {space : String} {snapshot : Snapshot}
    (h : sighting? role space event = some snapshot) :
    ∃ r, event = .sent role (.nsInfo space) r ∧ Client.reading (.nsInfo space) Client.info? r = .ok snapshot := by
  rcases event with ⟨_ | _ | _ | _ | _ | _ | _, r⟩
  case execute link request =>
    obtain ⟨⟨rfl, rfl⟩, hreading⟩ := Option.ite_none_right_eq_some.mp h
    refine ⟨r, rfl, ?_⟩
    cases hcase : Client.reading (.nsInfo space) Client.info? r with
    | ok _ =>
      rw [hcase] at hreading
      exact congrArg _ (Option.some.inj hreading)
    | error _ =>
      rw [hcase] at hreading
      cases hreading
  all_goals cases h

/-- The reading of the master that was taken last. -/
def seen (space : String) (start : Option Snapshot) : Trace Role → Option Snapshot
  | [] => start
  | event :: earlier => (sighting? .master space event).or (seen space start earlier)

/-- The same, for a session from where it is. -/
abbrev seenIn (session : Session Role) (w : Trace Role) : Option Snapshot := seen session.space session.lastMaster w

/-- The reading of the slave that was accepted last. -/
abbrev acceptedIn (session : Session Role) (w : Trace Role) : Option Snapshot :=
  accepted session.space ⟨session.lastSlave, none⟩ w

/-- A reading of the slave is accepted unless it is behind the one before. -/
theorem acceptedIn_cons (session : Session Role) (event : Event Role) (w : Trace Role) :
    session.acceptedIn (event :: w) =
      match sighting? .slave session.space event with
      | some snapshot =>
        if movedBackwards (session.acceptedIn w) snapshot then session.acceptedIn w else some snapshot
      | none => session.acceptedIn w := by
  rcases event with ⟨_ | _ | _ | _ | _ | _ | _, r⟩
  case execute link request =>
    cases link with
    | master => rfl
    | slave =>
      by_cases hread : request = .nsInfo session.space
      · subst hread
        have hsighting : sighting? .slave session.space (.sent .slave (.nsInfo session.space) r) = _ :=
          sighting_sent _ _ _
        rw [hsighting]
        simp only [acceptedIn, accepted, true_and]
        cases Client.reading (.nsInfo session.space) Client.info? r with
        | error _ => rfl
        | ok snapshot =>
          simp only [Except.toOption]
          cases movedBackwards (session.acceptedIn w) snapshot <;> rfl
      · have hnone : sighting? .slave session.space (.sent .slave request r) = none := if_neg fun h => hread h.2
        rw [hnone]
        exact accepted_of_ne hread
  all_goals rfl

/-- The reading of the master that has just been taken. -/
abbrev justSeen (session : Session Role) (w : Trace Role) : Option Snapshot :=
  w.head?.bind (sighting? .master session.space)

/-- A slave must not be ahead of the master that has just been read. -/
def aheadVerdict (session : Session Role) (slave master : Snapshot) : Option SyncError :=
  if master.position < slave.position then
    some (.invariantViolation master.position slave.position session.strategy.aheadFault)
  else none

/-- A slave must not go back either. -/
def cursorVerdict (session : Session Role) (earlier : Trace Role) (slave : Snapshot) : Option SyncError :=
  if movedBackwards (session.acceptedIn earlier) slave then
    some (.invariantViolation (cursorOf (session.seenIn earlier)) slave.position .movedBackwards)
  else (session.justSeen earlier).bind (session.aheadVerdict slave)

/-- An answer that has to be of some shape, whichever. -/
def shapeVerdict (reading : Except ProtocolError α) : Option SyncError :=
  match reading with
  | .ok _ => none
  | .error failure => failure.final?

/-- The failure to which an answer of the master condemns a run. It ends a segment where it has nothing to hand out at
    the slave's cursor; there has to be a segment after it then, unless the slave is where a copy ends. -/
def masterVerdict (session : Session Role) (earlier : Trace Role) (request : Request)
    (r : Except ProtocolError Reply) : Option SyncError :=
  let at_ := cursorOf (session.acceptedIn earlier)
  match request.command with
  | .nsInfo => shapeVerdict (Client.reading request Client.info? r)
  | .dataRaw =>
    match Client.reading request Client.record? r with
    | .ok entry => if entry.position = at_ then none else some (.integrity (.misplaced at_ entry.position))
    | .error .eof => none
    | .error failure => failure.final?
  | .dataExport =>
    match Client.reading request Client.blob? r with
    | .ok _ => none
    | .error .eof =>
      if cursorOf (session.seenIn earlier) ≤ at_ ∨ at_.next?.isSome = true then none else some .segmentOverflow
    | .error failure => failure.final?
  | _ => Client.loginVerdict session.master.target request r

/-- The failure to which an answer of the slave condemns a run. It has to acknowledge what it is told; a set, by the
    key that was set. -/
def slaveVerdict (session : Session Role) (earlier : Trace Role) (request : Request)
    (r : Except ProtocolError Reply) : Option SyncError :=
  let at_ := cursorOf (session.acceptedIn earlier)
  let key := request.arguments.head?.getD []
  match request.command with
  | .nsInfo =>
    match Client.reading request Client.info? r with
    | .ok snapshot => session.cursorVerdict earlier snapshot
    | .error failure => failure.final?
  | .set =>
    match Client.reading request Client.blob? r with
    | .ok echo =>
      if echo = key then none
      else some (.integrity (.wrongEcho (Utf8.decodeLossy echo) (Utf8.decodeLossy key) at_))
    | .error failure => failure.refusal? fun reason => .integrity (.notAcknowledged (Utf8.decodeLossy key) at_ reason)
  | .del =>
    match Client.reading request Client.ack? r with
    | .ok () => none
    | .error failure =>
      failure.refusal? fun reason => .integrity (.deletionRejected (Utf8.decodeLossy key) at_ reason)
  | .nsSet | .nsJump | .dataImport => shapeVerdict (Client.reading request Client.ack? r)
  | _ => Client.loginVerdict session.slave.target request r

/-- The failure to which an event condemns a run, after what has happened before. -/
def verdict (session : Session Role) (earlier : Trace Role) : Event Role → Option SyncError
  | .sent .master request r => session.masterVerdict earlier request r
  | .sent .slave request r => session.slaveVerdict earlier request r
  | .reopened _ (.error failure) => failure.final?
  | _ => none

section

variable {at_ : Position} {key : Bytes} (r : Except ProtocolError Reply)

theorem verdict_dataRaw (hcursor : cursorOf (session.acceptedIn earlier) = at_) :
    session.verdict earlier (.sent .master (.dataRaw at_) r) =
      match Client.reading (.dataRaw at_) Client.record? r with
      | .ok entry => if entry.position = at_ then none else some (.integrity (.misplaced at_ entry.position))
      | .error .eof => none
      | .error failure => failure.final? := by
  subst hcursor
  rfl

theorem verdict_dataExport {baseline : Position} (hcursor : cursorOf (session.acceptedIn earlier) = at_)
    (hbaseline : cursorOf (session.seenIn earlier) = baseline) :
    session.verdict earlier (.sent .master (.dataExport at_) r) =
      match Client.reading (.dataExport at_) Client.blob? r with
      | .ok _ => none
      | .error .eof => if baseline ≤ at_ ∨ at_.next?.isSome = true then none else some .segmentOverflow
      | .error failure => failure.final? := by
  subst hcursor hbaseline
  rfl

theorem verdict_set {value marker : Bytes} (hcursor : cursorOf (session.acceptedIn earlier) = at_) :
    session.verdict earlier (.sent .slave (.set key value marker) r) =
      match Client.reading (.set key value marker) Client.blob? r with
      | .ok echo =>
        if echo = key then none
        else some (.integrity (.wrongEcho (Utf8.decodeLossy echo) (Utf8.decodeLossy key) at_))
      | .error failure =>
        failure.refusal? fun reason => .integrity (.notAcknowledged (Utf8.decodeLossy key) at_ reason) := by
  subst hcursor
  rfl

theorem verdict_del {marker : Bytes} (hcursor : cursorOf (session.acceptedIn earlier) = at_) :
    session.verdict earlier (.sent .slave (.del key marker) r) =
      match Client.reading (.del key marker) Client.ack? r with
      | .ok () => none
      | .error failure =>
        failure.refusal? fun reason => .integrity (.deletionRejected (Utf8.decodeLossy key) at_ reason) := by
  subst hcursor
  rfl

end

theorem verdict_slaveInfo (session : Session Role) (earlier : Trace Role) (r : Except ProtocolError Reply) :
    session.verdict earlier (.sent .slave (.nsInfo session.space) r) =
      match Client.reading (.nsInfo session.space) Client.info? r with
      | .ok snapshot => session.cursorVerdict earlier snapshot
      | .error failure => failure.final? :=
  rfl

/-- The verdict on a reading of the slave is one on its cursor. -/
theorem verdict_of_sighting {snapshot : Snapshot} (h : sighting? .slave session.space event = some snapshot) :
    session.verdict earlier event = session.cursorVerdict earlier snapshot := by
  obtain ⟨r, rfl, hreading⟩ := exists_of_sighting h
  rw [verdict_slaveInfo, hreading]

/-- A slave that has gone back condemns a session, whatever its strategy is. -/
theorem verdict_of_movedBackwards {snapshot : Snapshot}
    (hsighting : sighting? .slave session.space event = some snapshot)
    (hback : movedBackwards (session.acceptedIn earlier) snapshot = true) :
    session.verdict earlier event =
      some (.invariantViolation (cursorOf (session.seenIn earlier)) snapshot.position .movedBackwards) :=
  (verdict_of_sighting hsighting).trans (if_pos hback)

theorem verdict_of_isLog (h : event.isLog = true) : session.verdict earlier event = none := by
  obtain ⟨effect, answer⟩ := event
  cases effect <;> first | rfl | exact absurd h nofun

/-- The verdicts on logins are those on their clients. -/
theorem verdict_connect {client : Client Role} {effect : Effect Role} (h : client.AsksToConnect effect)
    (answer : effect.Answer)
    (hside : client.link = .master ∧ client.target = session.master.target ∨
      client.link = .slave ∧ client.target = session.slave.target) :
    session.verdict earlier ⟨effect, answer⟩ = Client.connectVerdict client.target ⟨effect, answer⟩ := by
  obtain ⟨link, target, authenticated⟩ := client
  rcases hside with ⟨rfl, rfl⟩ | ⟨rfl, rfl⟩
  all_goals
    cases h with
    | request hlogin => cases hlogin <;> rfl
    | reopen => cases answer <;> rfl
    | log _ _ => rfl

/-- Nothing has condemned the run. -/
def Clear (session : Session Role) (w : Trace Role) : Prop :=
  w.Each fun earlier event => session.verdict earlier event = none

/-! ## Knowing -/

/-- Every report is on what was read last of the master, and accepted last of the slave. -/
def ReportsRead (session : Session Role) (w : Trace Role) : Prop :=
  w.Each fun earlier event => ∀ report, event.effect.report? = some report →
    ∃ current : PairSnapshot, session.seenIn earlier = some current.master ∧
      session.acceptedIn earlier = some current.slave ∧ report.IsOn current

/-- The event is neither a reading of a cursor nor a report. -/
structure Plain (space : String) (event : Event Role) : Prop where
  sighting : ∀ role, sighting? role space event = none
  report : event.effect.report? = none

theorem plain_sent {space : String} {role : Role} {request : Request} {r : Except ProtocolError Reply}
    (h : request ≠ .nsInfo space) : Plain space (.sent role request r) :=
  ⟨fun _ => if_neg fun hread => h hread.2, rfl⟩

/-- A reading that has failed is none. -/
theorem plain_of_failed {space : String} {role : Role} {r : Except ProtocolError Reply} {failure : ProtocolError}
    (h : Client.reading (.nsInfo space) Client.info? r = .error failure) :
    Plain space (.sent role (.nsInfo space) r) := by
  refine ⟨fun role' => ?_, rfl⟩
  by_cases hrole : role = role'
  · subst hrole
    rw [sighting_sent, h]
    rfl
  · exact if_neg fun hread => hrole hread.1

theorem plain_connect {space : String} {client : Client Role} {effect : Effect Role} (h : client.AsksToConnect effect)
    (answer : effect.Answer) : Plain space ⟨effect, answer⟩ := by
  cases h with
  | request hlogin => cases hlogin <;> exact plain_sent nofun
  | reopen | log _ _ => exact ⟨fun _ => rfl, rfl⟩

theorem plain_log {space : String} (level : Level) (line : String) : Plain space ⟨.log level line, ()⟩ :=
  ⟨fun _ => rfl, rfl⟩

namespace Plain

theorem seen (h : Plain session.space event) : session.seenIn (event :: w) = session.seenIn w := by
  rw [seenIn, Session.seen, h.sighting]
  rfl

theorem accepted (h : Plain session.space event) : session.acceptedIn (event :: w) = session.acceptedIn w := by
  rw [acceptedIn_cons, h.sighting]

theorem justSeen (h : Plain session.space event) : session.justSeen (event :: w) = none := h.sighting .master

end Plain

/-- What a session remembers of its sides, and what it has reported, is what has happened since it was `session`. -/
structure Knows (session s : Session Role) (w : Trace Role) : Prop where
  space : s.space = session.space
  masterLink : s.master.link = .master
  slaveLink : s.slave.link = .slave
  masterTarget : s.master.target = session.master.target
  slaveTarget : s.slave.target = session.slave.target
  lastMaster : s.lastMaster = session.seenIn w
  lastSlave : s.lastSlave = session.acceptedIn w
  reports : session.ReportsRead w

theorem Knows.plain (h : Knows session s w) (hevent : Plain session.space event) : Knows session s (event :: w) :=
  { h with
    lastMaster := h.lastMaster.trans hevent.seen.symm
    lastSlave := h.lastSlave.trans hevent.accepted.symm
    reports := h.reports.cons fun _ heq => absurd (hevent.report.symm.trans heq) nofun }

/-- Nothing has condemned the session. It is logged in if `login` says so, and a copy has its baseline. -/
structure Standing (session : Session Role) (login : Prop) (baseline : Option Snapshot) (s : Session Role)
    (w : Trace Role) : Prop extends Knows session s w where
  clear : session.Clear w
  loggedIn : login → s.LoggedIn
  baseline : ∀ snapshot, baseline = some snapshot → s.lastMaster = some snapshot

/-- A session between two attempts: it has not just read its master. -/
structure Poised (session : Session Role) (login : Prop) (baseline : Option Snapshot) (s : Session Role)
    (w : Trace Role) : Prop extends Standing session login baseline s w where
  idle : session.justSeen w = none

/-- A session that nothing has happened to yet, whichever way it is to go. -/
theorem Poised.start (strategy : Strategy) (hmaster : session.master.link = .master)
    (hslave : session.slave.link = .slave) : Poised { session with strategy } False none session [] where
  space := rfl
  masterLink := hmaster
  slaveLink := hslave
  masterTarget := rfl
  slaveTarget := rfl
  lastMaster := rfl
  lastSlave := rfl
  reports := .nil
  clear := .nil
  loggedIn := nofun
  baseline := nofun
  idle := rfl

/-- The latest answer has condemned the session to a failure. -/
structure Doomed (session : Session Role) (failure : SyncError) (s : Session Role) (w : Trace Role) : Prop
    extends Knows session s w where
  cause : ∃ logs event earlier, w = logs ++ event :: earlier ∧ (∀ log ∈ logs, log.isLog = true) ∧
    session.verdict earlier event = some failure ∧ session.Clear earlier

/-- How an attempt fails: its connection has, or the latest answer condemns it, or a request was held back for want of a
    login. -/
abbrev Fails (session : Session Role) (login : Prop) (baseline : Option Snapshot) :
    SyncError → Session Role → Trace Role → Prop :=
  Failing (fun _ => Poised session False baseline)
    fun failure s w => Doomed session failure s w ∨ ¬ login ∧ Standing session False none s w

variable {login : Prop} {baseline : Option Snapshot} {failure : SyncError}

namespace Standing

theorem forget (h : Standing session login baseline s w) : Standing session False none s w :=
  { h with loggedIn := nofun, baseline := nofun }

theorem passed (h : Standing session login baseline s w) (hknows : Knows session s (event :: w))
    (hidle : session.justSeen (event :: w) = none) (hverdict : session.verdict w event = none) :
    Poised session login baseline s (event :: w) :=
  { hknows with
    clear := h.clear.cons hverdict
    loggedIn := h.loggedIn
    baseline := h.baseline
    idle := hidle }

theorem condemned (h : Standing session login baseline s w) (hknows : Knows session s (event :: w))
    (hverdict : session.verdict w event = some failure) : Doomed session failure s (event :: w) :=
  { hknows with cause := ⟨[], event, w, rfl, List.forall_mem_nil _, hverdict, h.clear⟩ }

theorem failed (h : Standing session login baseline s w) (hknows : Knows session s (event :: w))
    (hidle : session.justSeen (event :: w) = none) {failure : ProtocolError}
    (hverdict : session.verdict w event = failure.final?) :
    Fails session login baseline (.protocol failure) s (event :: w) := by
  refine failing_protocol (fun hfinal => ?_) fun hfinal => ?_
  · exact { h.passed hknows hidle (hverdict.trans hfinal) with loggedIn := nofun }
  · exact .inl (h.condemned hknows (hverdict.trans hfinal))

end Standing

theorem Standing.log (h : Standing session login baseline s w) (level : Level) (line : String) :
    Poised session login baseline s (⟨.log level line, ()⟩ :: w) :=
  h.passed (h.toKnows.plain (plain_log level line)) rfl rfl

theorem Doomed.log (h : Doomed session failure s w) (level : Level) (line : String) :
    Doomed session failure s (⟨.log level line, ()⟩ :: w) := by
  have hknows := h.toKnows.plain (plain_log level line)
  obtain ⟨logs, event, earlier, rfl, hlogs, hverdict, hclear⟩ := h.cause
  exact { hknows with
    cause := ⟨_ :: logs, event, earlier, rfl, List.forall_mem_cons.mpr ⟨rfl, hlogs⟩, hverdict, hclear⟩ }

/-- However an attempt fails, the latest answer has condemned the session, or nothing has. -/
theorem Fails.judged (h : Fails session login baseline failure s w) :
    Standing session False none s w ∨ Doomed session failure s w := by
  unfold Fails Failing at h
  split at h
  · exact .inl h.toStanding.forget
  · exact h.elim .inr fun hheld => .inl hheld.2

/-- The event that has condemned a session is the only one. -/
theorem Doomed.last (h : Doomed session failure s w) {later : Trace Role} (heq : w = later ++ event :: earlier)
    {failure' : SyncError} (hverdict : session.verdict earlier event = some failure') :
    failure' = failure ∧ ∀ event ∈ later, event.isLog = true := by
  obtain ⟨logs, event', earlier', rfl, hlogs, hverdict', hclear⟩ := h.cause
  -- The event is a line of the log, the one that has condemned the session, or one before it.
  rcases Trace.append_eq_append_cons heq with ⟨m, rfl, -⟩ | ⟨m, rfl, hm⟩
  · have hlog : session.verdict earlier event = none := verdict_of_isLog (hlogs event (by simp))
    rw [hlog] at hverdict
    cases hverdict
  · rcases List.cons_eq_append_iff.mp hm with ⟨rfl, hm⟩ | ⟨m, rfl, rfl⟩
    · obtain ⟨rfl, rfl⟩ := List.cons.inj hm
      rw [hverdict'] at hverdict
      refine ⟨(Option.some.inj hverdict).symm, ?_⟩
      rwa [List.append_nil]
    · rw [hclear m event earlier rfl] at hverdict
      cases hverdict

/-! ## Logins -/

/-- An action of which is known how it goes on while nothing condemns the session. -/
abbrev Bears (x : Action (Session Role) Role α) (post : α → Session Role → Trace Role → Prop)
    (fail : SyncError → Session Role → Trace Role → Prop) (s : Session Role) (w : Trace Role) : Prop :=
  Action.Ensures recording (fun _ => True) x post fail s w

theorem Poised.connecting (h : Poised session login baseline s w) {client : Client Role} {effect : Effect Role}
    (hasks : client.AsksToConnect effect) (answer : effect.Answer)
    (hside : client.link = .master ∧ client.target = session.master.target ∨
      client.link = .slave ∧ client.target = session.slave.target) :
    match Client.connectVerdict client.target ⟨effect, answer⟩ with
    | none => Poised session login baseline s (⟨effect, answer⟩ :: w)
    | some failure => Doomed session failure s (⟨effect, answer⟩ :: w) := by
  have hverdict : session.verdict w ⟨effect, answer⟩ = Client.connectVerdict client.target ⟨effect, answer⟩ :=
    verdict_connect hasks answer hside
  have hplain : Plain session.space ⟨effect, answer⟩ := plain_connect hasks answer
  rw [← hverdict]
  cases hcase : session.verdict w ⟨effect, answer⟩ with
  | none => exact h.passed (h.toKnows.plain hplain) hplain.justSeen hcase
  | some failure => exact h.condemned (h.toKnows.plain hplain) hcase

theorem tried_master (session s : Session Role) (baseline : Option Snapshot) :
    Client.Tried (fun c w => Poised session False baseline { s with master := c } w)
      fun failure c w => Doomed session failure { s with master := c } w where
  login := fun _ _ _ h => { h with loggedIn := nofun }
  event := fun _ _ _ answer h hasks => h.connecting hasks answer (.inl ⟨h.masterLink, h.masterTarget⟩)
  doomedLogin := fun _ _ _ _ h => { h with }
  doomedLog := fun _ _ _ level line h => h.log level line

theorem tried_slave (session s : Session Role) (baseline : Option Snapshot) :
    Client.Tried (fun c w => Poised session False baseline { s with slave := c } w)
      fun failure c w => Doomed session failure { s with slave := c } w where
  login := fun _ _ _ h => { h with loggedIn := nofun }
  event := fun _ _ _ answer h hasks => h.connecting hasks answer (.inr ⟨h.slaveLink, h.slaveTarget⟩)
  doomedLogin := fun _ _ _ _ h => { h with }
  doomedLog := fun _ _ _ level line h => h.log level line

/-- **Opening both sides again** leaves them logged in, if nothing condemns the session. -/
theorem Poised.reopen (h : Poised session False baseline s w) :
    Bears reopen (fun _ => Poised session True baseline) (Fails session True baseline) s w := by
  unfold Session.reopen onMaster onSlave
  refine (Action.ensures_bind _ _).mpr ((Action.ensures_focus _ _ _ _).mpr ?_)
  refine ((tried_master session s baseline).connect h).mono ?_ ?_
  · rintro _ master w₁ ⟨h₁, hmaster⟩
    refine (Action.ensures_focus _ _ _ _).mpr ?_
    refine ((tried_slave session { s with master } baseline).connect h₁).mono ?_ ?_
    · rintro _ slave w₂ ⟨h₂, hslave⟩
      exact { h₂ with loggedIn := fun _ => ⟨hmaster, hslave⟩ }
    · exact fun _ _ _ hfailing => hfailing.imp (fun _ _ h' => h') fun _ hdoomed => .inl hdoomed
  · exact fun _ _ _ hfailing => hfailing.imp (fun _ _ h' => h') fun _ hdoomed => .inl hdoomed

end Session

end SegmentSync
