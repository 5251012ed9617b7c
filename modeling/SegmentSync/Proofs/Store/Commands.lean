import SegmentSync.Proofs.Number.Decimal
import SegmentSync.Proofs.Text.Utf8
import SegmentSync.Store.Service

/-!
# `SegmentSync.Proofs.Store.Commands` — what each command does to a namespace

Nobody who reasons about replication should have to open the service of a store. This module says once what a
command answers and what it leaves behind.

## Contents
- **Readings of a namespace.** What a store says of a namespace that it has.
- **Service, applied.** `Serve.on` runs a part of the service on a store and a connection; one equation for each
  building block.
- **Commands.** One equation for each command, on a connection that has the namespace selected
  (`Serving.Shows`).
- **Requests.** `execute_cases`: a request is either turned away, with a failure that is not the end of a segment
  and without a trace in any namespace, or dispatched.
- **Good connections.** `execute_of_permits`: what a connection may send is dispatched. On a good connection to a store
  without orders to misbehave that is everything.
-/

namespace SegmentSync

/-- The command adds to the log of a namespace. -/
def Command.changesLog : Command → Bool
  | .nsJump | .dataImport | .set | .del => true
  | .nsInfo | .nsSet | .dataExport | .dataRaw | .authChallenge | .authSecure | .select => false

/-! ## Readings of a namespace -/

namespace Store

variable {store : Store} {name : String} {ns : Namespace}

theorem position_of_found (h : store.namespaces.find? name = some ns) : store.position name = ns.position := by
  unfold position
  rw [h]
  rfl

theorem size_of_found (h : store.namespaces.find? name = some ns) : store.size name = ns.size := by
  unfold size
  rw [h]
  rfl

theorem segments_of_found (h : store.namespaces.find? name = some ns) : store.segments name = ns.segments := by
  unfold segments
  rw [h]
  rfl

theorem get?_of_found (h : store.namespaces.find? name = some ns) (key : Bytes) :
    store.get? name key = ns.keys.find? key := by
  unfold get?
  rw [h]
  rfl

end Store

/-! ## Service, applied -/

namespace Serve

variable {α β : Type}

/-- What a part of the service answers, and the store and the connection after it. -/
def on (x : Serve α) (s : Serving) : Except ProtocolError α × Serving := x s

@[simp] theorem on_pure (a : α) (s : Serving) : (pure a : Serve α).on s = (.ok a, s) := rfl

@[simp] theorem on_throw (e : ProtocolError) (s : Serving) :
    (throw e : Serve α).on s = (.error e, s) := rfl

@[simp] theorem on_refuse (reason : String) (s : Serving) :
    (refuse reason : Serve α).on s = (.error (.server reason), s) := rfl

@[simp] theorem on_get (s : Serving) : (get : Serve Serving).on s = (.ok s, s) := rfl

@[simp] theorem on_set (s' s : Serving) : (set s' : Serve Unit).on s = (.ok (), s') := rfl

@[simp] theorem on_liftExcept (x : Except ProtocolError α) (s : Serving) :
    (liftM x : Serve α).on s = (x, s) := by cases x <;> rfl

theorem on_bind (x : Serve α) (f : α → Serve β) (s : Serving) :
    (x >>= f).on s = match x.on s with
      | (.ok a, s') => (f a).on s'
      | (.error e, s') => (.error e, s') := by
  show (match x s with
    | (a, s') => ExceptT.bindCont f a s') = _
  unfold on
  rcases x s with ⟨_ | _, _⟩ <;> rfl

end Serve

/-! ## Changes of the store -/

namespace Serving

/-- With a command in the log. -/
def logged (s : Serving) (command : Command) : Serving :=
  { s with store := { s.store with log := s.store.log ++ [command] } }

/-- With a namespace in the place of the one of that name. -/
def put (s : Serving) (name : String) (ns : Namespace) : Serving :=
  { s with store := { s.store with namespaces := s.store.namespaces.insert name ns } }

/-- With a marker used up. -/
def marked (s : Serving) : Serving :=
  { s with store := { s.store with markers := s.store.markers + 1 } }

/-- With a further challenge handed out. -/
def challenged (s : Serving) : Serving where
  store := { s.store with challenges := s.store.challenges + 1 }
  connection := { s.connection with challenge := some (Serve.challengeText (s.store.challenges + 1)) }

/-- With the challenge answered; the connection is logged in or not. -/
def answered (s : Serving) (admin : Bool) : Serving :=
  { s with connection := { s.connection with challenge := none, admin } }

/-- With a namespace selected. -/
def selecting (s : Serving) (name : String) : Serving :=
  { s with connection := { s.connection with selected := some name } }

/-- The connection has a namespace selected, and this is it. -/
structure Shows (s : Serving) (name : String) (ns : Namespace) : Prop where
  found : s.store.namespaces.find? name = some ns
  selected : s.connection.selected = some name

variable {s : Serving} {name : String} {ns ns' : Namespace}

theorem Shows.logged (h : s.Shows name ns) (command : Command) : (s.logged command).Shows name ns :=
  ⟨h.found, h.selected⟩

theorem Shows.marked (h : s.Shows name ns) : s.marked.Shows name ns := ⟨h.found, h.selected⟩

theorem Shows.put (h : s.Shows name ns) (ns' : Namespace) : (s.put name ns').Shows name ns' :=
  ⟨by simp [Serving.put], h.selected⟩

/-- The marker that an argument stands for: its number, or the next one of the store where it is none. -/
def markerOf (s : Serving) (argument : Bytes) : UInt64 :=
  (Decimal.readUInt64 (Utf8.decodeCharsLossy argument)).toOption.getD (s.store.markers + 1)

@[simp] theorem markerOf_digits (s : Serving) (marker : UInt64) :
    s.markerOf (Utf8.encodeChars (Decimal.digits marker.toNat)) = marker := by
  unfold markerOf
  rw [Utf8.decodeCharsLossy_encodeChars, Decimal.readUInt64_digits]
  rfl

end Serving

/-! ## Arguments -/

namespace Serve

theorem textArgument_encode (text : String) (rest : List Bytes) :
    textArgument (Utf8.encode text :: rest) 0 = text := by
  simp [textArgument]

theorem numberArgument?_digits {α : Type} {readNumber : List Char → Except Decimal.Fault α} {n : Nat} {a : α}
    (h : readNumber (Decimal.digits n) = .ok a) {arguments : List Bytes} {index : Nat}
    (hindex : arguments[index]? = some (Utf8.encodeChars (Decimal.digits n))) :
    numberArgument? readNumber arguments index = some a := by
  unfold numberArgument?
  rw [hindex, Option.bind_some, Utf8.decodeCharsLossy_encodeChars, h]
  rfl

@[simp] theorem on_cursorArgument (at_ : Position) (rest : List Bytes) (s : Serving) :
    (cursorArgument (Request.cursor at_ ++ rest)).on s = (.ok at_, s) := by
  unfold cursorArgument
  rw [numberArgument?_digits (Decimal.readUInt32_digits at_.segment) rfl,
    numberArgument?_digits (Decimal.readUInt64_digits at_.offset) rfl]
  rfl

/-! ## Commands -/

variable {s : Serving} {name : String} {ns : Namespace}

theorem on_namespaceOf (h : s.store.namespaces.find? name = some ns) :
    (namespaceOf name).on s = (.ok ns, s) := by
  unfold namespaceOf
  simp only [on_bind, on_get, h, on_pure]

theorem on_selectedNamespace (h : s.Shows name ns) : selectedNamespace.on s = (.ok (name, ns), s) := by
  unfold selectedNamespace
  simp only [on_bind, on_get, h.selected, on_namespaceOf h.found, on_pure]

@[simp] theorem on_putNamespace (name : String) (ns : Namespace) (s : Serving) :
    (putNamespace name ns).on s = (.ok (), s.put name ns) := rfl

@[simp] theorem on_nextMarker (s : Serving) :
    nextMarker.on s = (.ok (s.store.markers + 1), s.marked) := rfl

theorem on_serveInfo (h : s.store.namespaces.find? name = some ns) :
    (serveInfo (Request.nsInfo name).arguments).on s = (.ok (.bulk (Utf8.encode (ns.info name))), s) := by
  unfold serveInfo
  simp only [Request.nsInfo, textArgument_encode, on_bind, on_namespaceOf h, on_pure]

/-- The flag travels as a text. -/
theorem flagArgument_nsFreeze (name : String) (enabled : Bool) :
    decide ((Request.nsFreeze name enabled).arguments[2]?.map Utf8.decodeLossy = some "1") = enabled := by
  cases enabled <;> simp [Request.nsFreeze]

theorem on_serveFreeze (h : s.store.namespaces.find? name = some ns) (enabled : Bool) :
    (serveFreeze (Request.nsFreeze name enabled).arguments).on s =
      (.ok .okay, s.put name { ns with frozen := enabled }) := by
  unfold serveFreeze
  rw [flagArgument_nsFreeze]
  simp only [Request.nsFreeze, textArgument_encode, on_bind, on_namespaceOf h, on_putNamespace, on_pure]

theorem on_serveJump (h : s.Shows name ns) : serveJump.on s = (.ok .okay, s.put name ns.jump) := by
  unfold serveJump
  simp only [on_bind, on_selectedNamespace h, on_putNamespace, on_pure]

/-- The answer to an export: the entries behind the cursor, of which there must be one. -/
def exported (ns : Namespace) (at_ : Position) : Except ProtocolError Reply :=
  match ns.entriesFrom? at_ with
  | .ok [] => .error .eof
  | .ok (entry :: rest) => .ok (.bulk (Blob.write (entry :: rest)))
  | .error failure => .error failure

theorem on_serveExport (h : s.Shows name ns) (at_ : Position) :
    (serveExport (Request.dataExport at_).arguments).on s = (exported ns at_, s) := by
  have harguments : (Request.dataExport at_).arguments = Request.cursor at_ ++ [] := by
    rw [List.append_nil]; rfl
  unfold serveExport exported
  rw [harguments]
  simp only [on_bind, on_cursorArgument, on_selectedNamespace h, on_liftExcept]
  cases ns.entriesFrom? at_ with
  | error failure => rfl
  | ok entries => cases entries <;> rfl

/-- An import at the end of the log adds the entries of its blob. -/
theorem on_serveImport (h : s.Shows name ns) (at_ : Position) (blob : Bytes) :
    (serveImport (Request.dataImport at_ blob).arguments).on s =
      if ns.position = at_ then
        match Blob.read? blob with
        | none => (.error (.server "Invalid payload: not a list of entries"), s)
        | some entries => (.ok .okay, s.put name (entries.foldl Namespace.append ns))
      else (.error (.server ("Import position " ++ at_.text ++ " does not match " ++ ns.position.text)), s) := by
  unfold serveImport
  simp only [Request.dataImport, on_bind, on_cursorArgument, on_selectedNamespace h, ne_eq, ite_not]
  rw [show bytesArgument (Request.cursor at_ ++ [blob]) 2 = blob from rfl]
  split
  · cases Blob.read? blob <;> rfl
  · rfl

/-- An entry as it is handed out at a cursor. -/
def recordReply (entry : Entry) (at_ : Position) : Reply :=
  .array [.bulk entry.key, .int at_.segment.toNat, .int at_.offset.toInt64.toInt,
    .int (if entry.value.isSome then 0 else 1), .int entry.marker.toInt64.toInt, entry.value.elim .nil .bulk]

/-- The answer to a request for a record: the entry at the cursor. -/
def recorded (ns : Namespace) (at_ : Position) : Except ProtocolError Reply :=
  match ns.entriesFrom? at_ with
  | .ok [] => .error .eof
  | .ok (entry :: _) => .ok (recordReply entry at_)
  | .error failure => .error failure

theorem on_serveRecord (h : s.Shows name ns) (at_ : Position) :
    (serveRecord (Request.dataRaw at_).arguments).on s = (recorded ns at_, s) := by
  have harguments : (Request.dataRaw at_).arguments = Request.cursor at_ ++ [] := by
    rw [List.append_nil]; rfl
  unfold serveRecord recorded
  rw [harguments]
  simp only [on_bind, on_cursorArgument, on_selectedNamespace h, on_liftExcept]
  cases ns.entriesFrom? at_ with
  | error failure => rfl
  | ok entries => cases entries <;> rfl

/-- How a set is acknowledged: by its key, unless there is an order to misbehave. -/
def echo (key : Bytes) : Option Fault → Reply
  | some (.wrongEcho other) => .bulk other
  | some .nilEcho => .nil
  | _ => .bulk key

/-- A set adds an entry under the marker that it brings, if the namespace is not frozen. -/
theorem on_serveSet_argument (h : s.Shows name ns) (key value argument : Bytes) (fault : Option Fault) :
    (serveSet (Request.set key value argument).arguments fault).on s =
      if ns.frozen then (.error (.server "Namespace is temporarily frozen"), s.marked)
      else (.ok (echo key fault), s.marked.put name (ns.append ⟨key, some value, s.markerOf argument⟩)) := by
  have hmarker : (numberArgument? Decimal.readUInt64 (Request.set key value argument).arguments 2).getD
      (s.store.markers + 1) = s.markerOf argument := rfl
  unfold serveSet
  simp only [on_bind, on_nextMarker, on_selectedNamespace h.marked, hmarker]
  cases ns.frozen with
  | true => rfl
  | false =>
    match fault with
    | none | some .disconnect | some (.wrongEcho _) | some .nilEcho | some (.reject _) => rfl

theorem on_serveSet (h : s.Shows name ns) (key value : Bytes) (marker : UInt64) (fault : Option Fault) :
    (serveSet (Request.set key value (Utf8.encodeChars (Decimal.digits marker.toNat))).arguments fault).on s =
      if ns.frozen then (.error (.server "Namespace is temporarily frozen"), s.marked)
      else (.ok (echo key fault), s.marked.put name (ns.append ⟨key, some value, marker⟩)) := by
  rw [on_serveSet_argument h, Serving.markerOf_digits]

/-- A deletion adds an entry under the marker that it brings, if the namespace is not frozen and has the key. -/
theorem on_serveDelete_argument (h : s.Shows name ns) (key argument : Bytes) :
    (serveDelete (Request.del key argument).arguments).on s =
      if ns.frozen then (.error (.server "Namespace is temporarily frozen"), s.marked)
      else if ns.keys.contains key then
        (.ok .okay, s.marked.put name (ns.append ⟨key, none, s.markerOf argument⟩))
      else (.error (.server "Key not found"), s.marked) := by
  have hmarker : (numberArgument? Decimal.readUInt64 (Request.del key argument).arguments 1).getD
      (s.store.markers + 1) = s.markerOf argument := rfl
  unfold serveDelete
  simp only [on_bind, on_nextMarker, on_selectedNamespace h.marked, hmarker]
  rw [show bytesArgument (Request.del key argument).arguments 0 = key from rfl]
  cases ns.frozen with
  | true => rfl
  | false => cases ns.keys.contains key <;> rfl

theorem on_serveDelete (h : s.Shows name ns) (key : Bytes) (marker : UInt64) :
    (serveDelete (Request.del key (Utf8.encodeChars (Decimal.digits marker.toNat))).arguments).on s =
      if ns.frozen then (.error (.server "Namespace is temporarily frozen"), s.marked)
      else if ns.keys.contains key then
        (.ok .okay, s.marked.put name (ns.append ⟨key, none, marker⟩))
      else (.error (.server "Key not found"), s.marked) := by
  rw [on_serveDelete_argument h, Serving.markerOf_digits]

/-! ## Logins -/

theorem on_adminPassword {password : String} (h : s.store.admin = some password) :
    adminPassword.on s = (.ok password, s) := by
  unfold adminPassword
  simp only [on_bind, on_get, h, on_pure]

theorem on_adminPassword_of_none (h : s.store.admin = none) :
    adminPassword.on s = (.error (.server "Authentication disabled"), s) := by
  unfold adminPassword
  simp only [on_bind, on_get, h, on_refuse]

theorem on_serveChallenge_of_none (h : s.store.admin = none) :
    serveChallenge.on s = (.error (.server "Authentication disabled"), s) := by
  unfold serveChallenge
  simp only [on_bind, on_adminPassword_of_none h]

theorem on_serveChallenge {password : String} (h : s.store.admin = some password) :
    serveChallenge.on s = (.ok (.simple (challengeText (s.store.challenges + 1))), s.challenged) := by
  unfold serveChallenge
  simp only [on_bind, on_adminPassword h, on_get, on_set, on_pure]
  rfl

/-- A challenge is used up, whether its answer is accepted or not. -/
theorem on_serveLogin {password challenge : String} (h : s.store.admin = some password)
    (hchallenge : s.connection.challenge = some challenge) (digest : String) :
    (serveLogin (Request.authSecure digest).arguments).on s =
      if digest = challengeDigest challenge password then (.ok .okay, s.answered true)
      else (.error (.server "Access denied"), s.answered s.connection.admin) := by
  unfold serveLogin
  simp only [Request.authSecure, textArgument_encode, on_bind, on_adminPassword h, on_get, hchallenge]
  split <;> rfl

theorem on_serveSelect (h : s.store.namespaces.find? name = some ns) (password : Option String) :
    (serveSelect (Request.select name password).arguments).on s =
      if ns.password.isSome && ns.password ≠ password then (.error (.server "Access denied"), s)
      else (.ok .okay, s.selecting name) := by
  have hpassword : ((Request.select name password).arguments[1]?.map Utf8.decodeLossy) = password := by
    cases password <;> simp [Request.select]
  unfold serveSelect
  rw [hpassword]
  simp only [Request.select, textArgument_encode, on_bind, on_namespaceOf h]
  split <;> rfl

theorem on_serveSelect_of_missing (h : s.store.namespaces.find? name = none) (password : Option String) :
    (serveSelect (Request.select name password).arguments).on s = (.error (.server "Namespace not found"), s) := by
  unfold serveSelect
  simp only [Request.select, textArgument_encode, on_bind, namespaceOf, on_get, h, on_refuse]

/-- A part of the service that leaves every namespace, and what is selected, as they are. -/
def Quiet (x : Serve α) : Prop :=
  ∀ s, (x.on s).2.store.namespaces = s.store.namespaces ∧
    (x.on s).2.connection.selected = s.connection.selected

theorem adminPassword_state (s : Serving) : (adminPassword.on s).2 = s := by
  unfold adminPassword
  simp only [on_bind, on_get]
  cases s.store.admin <;> rfl

theorem quiet_serveChallenge : Quiet serveChallenge := by
  intro s
  unfold serveChallenge
  have hstate := adminPassword_state s
  rw [on_bind]
  rcases h : adminPassword.on s with ⟨_ | _, s'⟩ <;> rw [h] at hstate <;> subst hstate <;> exact ⟨rfl, rfl⟩

theorem quiet_serveLogin (arguments : List Bytes) : Quiet (serveLogin arguments) := by
  intro s
  unfold serveLogin
  have hstate := adminPassword_state s
  rw [on_bind]
  rcases h : adminPassword.on s with ⟨_ | password, s'⟩ <;> rw [h] at hstate <;> subst hstate
  · exact ⟨rfl, rfl⟩
  · simp only [on_bind, on_get]
    cases s'.connection.challenge with
    | none => exact ⟨rfl, rfl⟩
    | some challenge =>
      simp only
      split <;> exact ⟨rfl, rfl⟩

/-- A selection changes no namespace, and selects what it names if anything. -/
theorem serveSelect_state (arguments : List Bytes) (s : Serving) :
    ((serveSelect arguments).on s).2.store.namespaces = s.store.namespaces ∧
      (((serveSelect arguments).on s).2.connection.selected = s.connection.selected ∨
        ((serveSelect arguments).on s).2.connection.selected = some (textArgument arguments 0)) := by
  unfold serveSelect
  simp only [on_bind, namespaceOf, on_get]
  cases s.store.namespaces.find? (textArgument arguments 0) with
  | none => exact ⟨rfl, Or.inl rfl⟩
  | some ns =>
    simp only [on_pure]
    split
    · exact ⟨rfl, Or.inl rfl⟩
    · exact ⟨rfl, Or.inr rfl⟩

/-! ## Requests -/

/-- A request is turned away: it fails, but not because it stands at the end of a segment. -/
def Refused {α : Type} (r : Except ProtocolError α) : Prop := ∃ failure, r = .error failure ∧ failure ≠ .eof

theorem refused_server {α : Type} (reason : String) : Refused (.error (.server reason) : Except _ α) :=
  ⟨_, rfl, by simp⟩

theorem refused_transport {α : Type} (reason : String) :
    Refused (.error (.transport reason) : Except _ α) :=
  ⟨_, rfl, by simp⟩

/-- **A request is turned away, or it is dispatched.** Before that, there is only another log and other faults to come;
    and the connection may have been closed when the request is turned away. -/
theorem execute_forms (request : Request) (s : Serving) :
    ∃ faults log,
      (∃ r isOpen, (execute request).on s =
          (r, ⟨{ s.store with faults, log }, { s.connection with isOpen }⟩) ∧ Refused r) ∨
        ∃ fault, (execute request).on s = (dispatch request fault).on ⟨{ s.store with faults, log }, s.connection⟩ := by
  unfold execute
  simp only [on_bind, on_get]
  cases hopen : s.connection.isOpen with
  | false => exact ⟨_, _, .inl ⟨_, _, rfl, refused_transport _⟩⟩
  | true =>
    simp only [Bool.not_true, Bool.false_eq_true, if_false]
    -- A fault that breaks the connection does so before the command is served.
    rcases Store.takeFault request.command s.store.faults with ⟨fault, faults⟩
    by_cases hbreak : fault = some .disconnect
    · simp only [hbreak, if_true]
      exact ⟨_, _, .inl ⟨_, _, rfl, refused_transport _⟩⟩
    · simp only [hbreak, if_false, on_bind, on_set, handle]
      split
      · exact ⟨_, _, .inl ⟨_, _, rfl, refused_server _⟩⟩
      · simp only [on_bind, on_get]
        split
        · exact ⟨_, _, .inl ⟨_, _, rfl, refused_server _⟩⟩
        · exact ⟨_, _, .inr ⟨fault, rfl⟩⟩

/-- **A request is turned away without a trace in any namespace, or it is dispatched.** -/
theorem execute_cases (request : Request) (s : Serving) :
    (∃ r s', (execute request).on s = (r, s') ∧ Refused r ∧
      s'.store.namespaces = s.store.namespaces ∧ s'.connection.selected = s.connection.selected) ∨
    (∃ fault s', (execute request).on s = (dispatch request fault).on s' ∧
      s'.store.namespaces = s.store.namespaces ∧ s'.connection = s.connection) := by
  obtain ⟨faults, log, ⟨r, isOpen, h, hrefused⟩ | ⟨fault, h⟩⟩ := execute_forms request s
  · exact .inl ⟨r, _, h, hrefused, rfl, rfl⟩
  · exact .inr ⟨fault, _, h, rfl, rfl⟩

/-- The commands that work on the selected namespace. -/
def needsSelection : Command → Bool
  | .nsJump | .dataExport | .dataImport | .dataRaw | .set | .del => true
  | .nsInfo | .nsSet | .authChallenge | .authSecure | .select => false

theorem on_cursorArgument_or (arguments : List Bytes) (s : Serving) :
    (∃ at_, (cursorArgument arguments).on s = (.ok at_, s)) ∨
      ∃ reason, (cursorArgument arguments).on s = (.error (.server reason), s) := by
  unfold cursorArgument
  split
  · exact Or.inl ⟨_, rfl⟩
  · exact Or.inr ⟨_, rfl⟩

/-- Without a selection the commands that need one are turned away. -/
theorem dispatch_of_unselected {request : Request} (hneeds : needsSelection request.command = true)
    (hs : s.connection.selected = none) (fault : Option Fault) :
    ∃ r s', (dispatch request fault).on s = (r, s') ∧ Refused r ∧
      s'.store.namespaces = s.store.namespaces ∧ s'.connection.selected = none := by
  have hselected : ∀ s : Serving, s.connection.selected = none →
      selectedNamespace.on s = (.error (.server "No namespace selected"), s) := by
    intro s hs
    unfold selectedNamespace
    simp only [on_bind, on_get, hs, on_refuse]
  have hcursor := on_cursorArgument_or request.arguments s
  unfold dispatch
  cases hc : request.command with
  | nsInfo | nsSet | authChallenge | authSecure | select => rw [hc] at hneeds; exact absurd hneeds (by decide)
  | nsJump =>
    simp only [serveJump, on_bind, hselected s hs]
    exact ⟨_, _, rfl, refused_server _, rfl, hs⟩
  | dataExport | dataImport | dataRaw =>
    simp only [serveExport, serveImport, serveRecord, on_bind]
    rcases hcursor with ⟨at_, h⟩ | ⟨reason, h⟩
    · simp only [h, hselected s hs]; exact ⟨_, _, rfl, refused_server _, rfl, hs⟩
    · simp only [h]; exact ⟨_, _, rfl, refused_server _, rfl, hs⟩
  | set | del =>
    simp only [serveSet, serveDelete, on_bind, on_nextMarker, hselected s.marked hs]
    exact ⟨_, _, rfl, refused_server _, rfl, hs⟩

end Serve

/-! ## Good connections -/

/-- No fault waits for a command. -/
def Store.Faultless (store : Store) (command : Command) : Prop := ∀ fault, (command, fault) ∉ store.faults

theorem Store.takeFault_of_not_mem {command : Command} {faults : List (Command × Fault)}
    (h : ∀ fault, (command, fault) ∉ faults) : takeFault command faults = (none, faults) := by
  induction faults with
  | nil => rfl
  | cons head rest ih =>
    obtain ⟨command', fault⟩ := head
    have hne : command' ≠ command := by
      rintro rfl
      exact h fault (List.mem_cons_self ..)
    rw [takeFault, if_neg hne, ih fun fault hmem => h fault (List.mem_cons_of_mem _ hmem)]

/-- The connection may send a command: it is open, logged in where that is necessary, and no fault waits for the
    command. -/
structure Serving.Permits (s : Serving) (command : Command) : Prop where
  isOpen : s.connection.isOpen = true
  faultless : s.store.Faultless command
  admin : command.requiresAuth = true → s.store.admin.isSome = true → s.connection.admin = true

/-- A good connection to a store without orders to misbehave: it is open, and logged in where the store
    demands that. -/
structure Serving.Calm (s : Serving) : Prop where
  isOpen : s.connection.isOpen = true
  faults : s.store.faults = []
  admin : s.store.admin.isSome = true → s.connection.admin = true

namespace Serving

variable {s : Serving}

theorem Calm.logged (h : s.Calm) (command : Command) : (s.logged command).Calm := ⟨h.isOpen, h.faults, h.admin⟩

theorem Calm.marked (h : s.Calm) : s.marked.Calm := ⟨h.isOpen, h.faults, h.admin⟩

theorem Calm.put (h : s.Calm) (name : String) (ns : Namespace) : (s.put name ns).Calm :=
  ⟨h.isOpen, h.faults, h.admin⟩

theorem faultless_of_nil (hfaults : s.store.faults = []) (command : Command) : s.store.Faultless command := by
  intro fault
  rw [hfaults]
  exact List.not_mem_nil

theorem Calm.permits (h : s.Calm) (command : Command) : s.Permits command :=
  ⟨h.isOpen, faultless_of_nil h.faults command, fun _ => h.admin⟩

end Serving

namespace Serve

/-- **A command that a connection may send is dispatched.** -/
theorem execute_of_permits {s : Serving} {request : Request} (h : s.Permits request.command) :
    (execute request).on s = (dispatch request none).on (s.logged request.command) := by
  have hadmin : (request.command.requiresAuth && s.store.admin.isSome && !s.connection.admin) = false := by
    cases hrequires : request.command.requiresAuth with
    | false => rfl
    | true =>
      cases ha : s.store.admin.isSome with
      | false => rfl
      | true => simp [h.admin hrequires ha]
  unfold execute
  simp only [on_bind, on_get, h.isOpen, Bool.not_true, Bool.false_eq_true, if_false,
    Store.takeFault_of_not_mem h.faultless, reduceCtorEq, on_set, handle, hadmin]
  rfl

/-- A request that makes sense before a login needs none. -/
theorem execute_of_login {s : Serving} (hopen : s.connection.isOpen = true) (hfaults : s.store.faults = [])
    {request : Request} (hlogin : request.command.requiresAuth = false) :
    (execute request).on s = (dispatch request none).on (s.logged request.command) :=
  execute_of_permits ⟨hopen, Serving.faultless_of_nil hfaults _, fun h => absurd (hlogin.symm.trans h) nofun⟩

/-- **A good connection has every request dispatched.** -/
theorem execute_of_calm {s : Serving} (h : s.Calm) (request : Request) :
    (execute request).on s = (dispatch request none).on (s.logged request.command) :=
  execute_of_permits (h.permits request.command)

end Serve

end SegmentSync
