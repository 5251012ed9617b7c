import SegmentSync.Proofs.Store.Challenges
import SegmentSync.Proofs.Store.Site

/-!
# `SegmentSync.Proofs.Store.Dealing` — what one operation does to the challenges of a site

A site hands out a challenge for each request for one, and takes it back with the answer. All else that happens to a
site leaves its challenges alone, or loses some: a connection that is opened again has none. So there are three kinds of
operations, and nothing more has to be known of any of them to follow the challenges of a site through a run.

## Contents
- **Requests.** What a request leaves as it is.
- **History.** `Site.Moment` and `Site.moments`: a run, operation by operation. Challenges are handed out
  (`Moment.issued?`) and used up (`Moment.usedUp?`).
- **Connections.** Whoever is served, the challenges of all other connections stay as they are.
- **One operation.** `Moment.Deals` is what an operation does to the challenges of a site, and `Site.deals` that every
  operation does one of these things.
-/

namespace SegmentSync

namespace Serve

variable {request : Request} {s : Serving}

/-! ## Requests -/

theorem apart_admin : Apart fun s => s.store.admin := ⟨fun _ _ => rfl, fun _ _ => rfl, fun _ _ => rfl⟩

theorem spares_admin_serveChallenge : Spares (fun s => s.store.admin) serveChallenge := by
  intro s
  cases hsecret : s.store.admin with
  | none => simp only [on_serveChallenge_of_none hsecret]
  | some secret => simp only [on_serveChallenge hsecret]; rfl

theorem spares_admin_serveLogin (arguments : List Bytes) : Spares (fun s => s.store.admin) (serveLogin arguments) := by
  intro s
  unfold serveLogin
  cases hsecret : s.store.admin with
  | none => simp only [on_bind, on_adminPassword_of_none hsecret]
  | some secret =>
    simp only [on_bind, on_adminPassword hsecret, on_get]
    cases s.connection.challenge with
    | none => rfl
    | some challenge =>
      dsimp only
      split <;> rfl

theorem spares_admin_dispatch (request : Request) (fault : Option Fault) :
    Spares (fun s => s.store.admin) (dispatch request fault) := by
  by_cases hchallenge : request.command = .authChallenge
  · unfold dispatch
    rw [hchallenge]
    exact spares_admin_serveChallenge
  by_cases hsecure : request.command = .authSecure
  · unfold dispatch
    rw [hsecure]
    exact spares_admin_serveLogin _
  · exact apart_admin.dispatch hchallenge hsecure fault

/-- The password of the store stays what it is. -/
theorem admin_execute (request : Request) (s : Serving) :
    ((execute request).on s).2.store.admin = s.store.admin := by
  obtain ⟨faults, log, ⟨r, isOpen, h, -⟩ | ⟨fault, h⟩⟩ := execute_forms request s
  · rw [h]
  · rw [h]
    exact spares_admin_dispatch request fault _

/-- Nothing is served over a connection that is closed. -/
theorem execute_of_closed (request : Request) (h : s.connection.isOpen = false) :
    (execute request).on s = (.error brokenConnection, s) := by
  unfold execute
  simp only [on_bind, on_get, h, Bool.not_false, if_true, on_throw]

/-- A fresh connection has no challenge, and one that is refused is closed. The store only counts the refusal. -/
theorem reopen_login (s : Serving) :
    ((reopen.on s).2.connection.isOpen = true → (reopen.on s).2.connection.challenge = none) ∧
      (reopen.on s).2.store.challenges = s.store.challenges ∧ (reopen.on s).2.store.admin = s.store.admin := by
  unfold reopen
  simp only [on_bind, on_get]
  cases s.store.refused with
  | zero => exact ⟨fun _ => rfl, rfl, rfl⟩
  | succ refused => exact ⟨nofun, rfl, rfl⟩

end Serve

namespace Site

/-! ## History -/

/-- An operation, and the site that it meets. -/
structure Moment where
  site : Site
  operation : Operation

/-- The operations of a run, each with the site that those before it have left. -/
def moments (site : Site) : List Operation → List Moment
  | [] => []
  | operation :: rest => ⟨site, operation⟩ :: (site.perform operation).moments rest

/-- What has happened before an operation is a run of its own. -/
theorem exists_run_before {site : Site} {operations : List Operation} {past later : List Moment} {m : Moment}
    (h : site.moments operations = past ++ m :: later) :
    ∃ before, past = site.moments before ∧ m.site = site.run before := by
  induction operations generalizing site past with
  | nil => exact absurd h.symm (List.append_ne_nil_of_right_ne_nil _ (List.cons_ne_nil _ _))
  | cons operation rest ih =>
    rcases List.cons_eq_append_iff.mp h with ⟨rfl, hm⟩ | ⟨past, rfl, hrest⟩
    · obtain ⟨rfl, -⟩ := List.cons.inj hm
      exact ⟨[], rfl, rfl⟩
    · obtain ⟨before, rfl, hsite⟩ := ih hrest
      exact ⟨operation :: before, rfl, hsite⟩

/-- What is answered to a request over the connection of that number, if there is one. -/
def answer? (site : Site) (index : Nat) (request : Request) : Option (Except ProtocolError Reply) :=
  site.connections[index]?.map fun connection => ((Serve.execute request).on ⟨site.store, connection⟩).1

/-- The challenge of the connection of that number. -/
def challenge? (site : Site) (index : Nat) : Option String := site.connections[index]?.bind Connection.challenge

/-- The challenge of the connection of that number, if that is open. -/
def pending? (site : Site) (index : Nat) : Option String :=
  site.connections[index]?.bind fun connection => if connection.isOpen then connection.challenge else none

namespace Moment

/-- The site after the operation. -/
def after (m : Moment) : Site := m.site.perform m.operation

/-- The challenge that is handed out, with the number of the connection. -/
def issued? (m : Moment) : Option (Nat × String) :=
  match m.operation with
  | .request index request =>
    match request.command, m.site.answer? index request with
    | .authChallenge, some (.ok (.simple challenge)) => some (index, challenge)
    | _, _ => none
  | _ => none

/-- The challenge that is used up by an answer to it, with the number of the connection. -/
def usedUp? (m : Moment) : Option (Nat × String) :=
  match m.operation with
  | .request index request =>
    if request.command = .authSecure ∧ m.after.challenge? index = none then
      (m.site.challenge? index).map fun challenge => (index, challenge)
    else none
  | _ => none

/-- A digest is accepted as the answer to a challenge. -/
def Accepts (m : Moment) (digest : String) : Prop :=
  ∃ index request reply, m.operation = .request index request ∧ request.command = .authSecure ∧
    Serve.textArgument request.arguments 0 = digest ∧ m.site.answer? index request = some (.ok reply)

end Moment

/-! ## Connections -/

variable {site : Site} {index : Nat} {request : Request} {connection : Connection}

theorem serve_of_none {α : Type} {x : Serve α} (h : site.connections[index]? = none) : site.serve index x = site := by
  unfold serve
  rw [h]

section Serve

variable {α : Type} {x : Serve α} {s' : Serving} (hconnection : site.connections[index]? = some connection)
  (hserved : (x.on ⟨site.store, connection⟩).2 = s')
include hconnection hserved

theorem serve_of_some :
    site.serve index x = { store := s'.store, connections := site.connections.set index s'.connection } := by
  unfold serve
  simp only [hconnection, hserved]

theorem store_serve : (site.serve index x).store = s'.store := by
  rw [serve_of_some hconnection hserved]

theorem connections_serve_self : (site.serve index x).connections[index]? = some s'.connection := by
  obtain ⟨hlt, -⟩ := List.getElem?_eq_some_iff.mp hconnection
  rw [serve_of_some hconnection hserved]
  exact List.getElem?_set_self hlt

theorem challenge?_serve : (site.serve index x).challenge? index = s'.connection.challenge := by
  unfold challenge?
  rw [connections_serve_self hconnection hserved]
  rfl

/-- Only the connection that is served can have gained or lost a challenge. -/
theorem pending?_serve {other : Nat} {challenge : String}
    (h : (site.serve index x).pending? other = some challenge) :
    (other = index ∧ s'.connection.isOpen = true ∧ s'.connection.challenge = some challenge) ∨
      (other ≠ index ∧ site.pending? other = some challenge) := by
  unfold pending? at h ⊢
  by_cases hother : other = index
  · subst hother
    rw [connections_serve_self hconnection hserved, Option.bind_some] at h
    cases hopen : s'.connection.isOpen with
    | false => rw [hopen] at h; cases h
    | true =>
      rw [hopen] at h
      exact .inl ⟨rfl, rfl, h⟩
  · rw [serve_of_some hconnection hserved, List.getElem?_set_ne (Ne.symm hother)] at h
    exact .inr ⟨hother, h⟩

end Serve

theorem pending?_of_open (hconnection : site.connections[index]? = some connection) (hopen : connection.isOpen = true) :
    site.pending? index = connection.challenge := by
  unfold pending?
  rw [hconnection, Option.bind_some, if_pos hopen]

/-! ## One operation -/

/-- What an operation does to the challenges of a site. -/
inductive Moment.Deals (m : Moment) : Prop where
  | beside (hissued : m.issued? = none) (hused : m.usedUp? = none)
      (hcount : m.after.store.challenges = m.site.store.challenges)
      (hpending : ∀ index challenge, m.after.pending? index = some challenge →
        m.site.pending? index = some challenge ∧ m.operation ≠ .reopen index) : Deals m
  /-- A challenge is handed out. It takes the place of one that may have been there. -/
  | issues (index : Nat) (hissued : m.issued? = some (index, m.site.store.nextChallenge)) (hused : m.usedUp? = none)
      (hcount : m.after.store.challenges = m.site.store.challenges + 1)
      (hpending : ∀ other challenge, m.after.pending? other = some challenge →
        other = index ∧ challenge = m.site.store.nextChallenge ∨
          m.site.pending? other = some challenge ∧ m.operation ≠ .reopen other) : Deals m
  /-- A challenge is used up. -/
  | usesUp (index : Nat) (challenge : String) (hissued : m.issued? = none) (hused : m.usedUp? = some (index, challenge))
      (hbefore : m.site.pending? index = some challenge)
      (hcount : m.after.store.challenges = m.site.store.challenges)
      (hpending : ∀ other challenge', m.after.pending? other = some challenge' →
        other ≠ index ∧ m.site.pending? other = some challenge' ∧ m.operation ≠ .reopen other) : Deals m

/-! ### Requests -/

section Request

variable {s' : Serving} {r : Except ProtocolError Reply} (hconnection : site.connections[index]? = some connection)
  (hserved : (Serve.execute request).on ⟨site.store, connection⟩ = (r, s'))
include hconnection hserved

theorem answer?_eq : site.answer? index request = some r := by
  unfold answer?
  rw [hconnection, Option.map_some, hserved]

theorem issued?_of_refused (h : request.command = .authChallenge → Serve.Refused r) :
    (Moment.mk site (.request index request)).issued? = none := by
  unfold Moment.issued?
  dsimp only
  rw [answer?_eq hconnection hserved]
  split
  · rename_i hcommand hr
    obtain ⟨failure, hfailure, -⟩ := h hcommand
    rw [hfailure] at hr
    cases hr
  · rfl

theorem after_challenge? :
    (Moment.mk site (.request index request)).after.challenge? index = s'.connection.challenge :=
  challenge?_serve hconnection (congrArg Prod.snd hserved)

theorem after_challenges :
    (Moment.mk site (.request index request)).after.store.challenges = s'.store.challenges :=
  congrArg Store.challenges (store_serve hconnection (congrArg Prod.snd hserved))

theorem usedUp?_eq : (Moment.mk site (.request index request)).usedUp? =
    if request.command = .authSecure ∧ s'.connection.challenge = none then
      connection.challenge.map fun challenge => (index, challenge)
    else none := by
  unfold Moment.usedUp?
  dsimp only
  rw [after_challenge? hconnection hserved]
  unfold challenge?
  rw [hconnection]
  rfl

/-- A request that leaves the challenge of its connection alone. -/
theorem deals_spared (hissued : request.command = .authChallenge → Serve.Refused r)
    (hchallenge : s'.connection.challenge = connection.challenge)
    (hopen : s'.connection.isOpen = true → connection.isOpen = true)
    (hcount : s'.store.challenges = site.store.challenges) : Moment.Deals ⟨site, .request index request⟩ := by
  refine .beside (issued?_of_refused hconnection hserved hissued) ?_ ?_ fun other challenge hother => ⟨?_, nofun⟩
  · rw [usedUp?_eq hconnection hserved, hchallenge]
    split
    · rename_i hused
      rw [hused.2]
      rfl
    · rfl
  · rw [after_challenges hconnection hserved, hcount]
  · rcases pending?_serve hconnection (congrArg Prod.snd hserved) hother with ⟨rfl, hopen', hsome⟩ | ⟨-, hsome⟩
    · rw [pending?_of_open hconnection (hopen hopen'), ← hchallenge, hsome]
    · exact hsome

/-- A request by which a challenge is handed out. -/
theorem deals_challenged (hcommand : request.command = .authChallenge)
    (hr : r = .ok (.simple site.store.nextChallenge))
    (hchallenge : s'.connection.challenge = some site.store.nextChallenge)
    (hcount : s'.store.challenges = site.store.challenges + 1) : Moment.Deals ⟨site, .request index request⟩ := by
  refine .issues index ?_ ?_ ?_ fun other challenge hother => ?_
  · unfold Moment.issued?
    dsimp only
    rw [answer?_eq hconnection hserved, hcommand, hr]
  · rw [usedUp?_eq hconnection hserved, hcommand]
    rfl
  · rw [after_challenges hconnection hserved, hcount]
  · rcases pending?_serve hconnection (congrArg Prod.snd hserved) hother with ⟨rfl, -, hsome⟩ | ⟨-, hsome⟩
    · rw [hchallenge] at hsome
      exact .inl ⟨rfl, (Option.some.inj hsome).symm⟩
    · exact .inr ⟨hsome, nofun⟩

/-- A request that answers a challenge, rightly or wrongly. -/
theorem deals_answered {challenge : String} (hopen : connection.isOpen = true) (hcommand : request.command = .authSecure)
    (hbefore : connection.challenge = some challenge) (hchallenge : s'.connection.challenge = none)
    (hcount : s'.store.challenges = site.store.challenges) : Moment.Deals ⟨site, .request index request⟩ := by
  refine .usesUp index challenge ?_ ?_ ?_ ?_ fun other challenge' hother => ?_
  · exact issued?_of_refused hconnection hserved fun h => absurd (hcommand.symm.trans h) nofun
  · rw [usedUp?_eq hconnection hserved, if_pos ⟨hcommand, hchallenge⟩, hbefore]
    rfl
  · rw [pending?_of_open hconnection hopen, hbefore]
  · rw [after_challenges hconnection hserved, hcount]
  · rcases pending?_serve hconnection (congrArg Prod.snd hserved) hother with ⟨rfl, -, hsome⟩ | ⟨hne, hsome⟩
    · rw [hchallenge] at hsome
      cases hsome
    · exact ⟨hne, hsome, nofun⟩

/-- A request over an open connection hands out a challenge, answers one, or leaves the challenge as it is. -/
theorem deals_served (hopen : connection.isOpen = true) : Moment.Deals ⟨site, .request index request⟩ := by
  have hlogs : Serve.LogsIn request ⟨site.store, connection⟩ r s' := by
    have hlogs := Serve.logsIn request ⟨site.store, connection⟩
    rwa [hserved] at hlogs
  cases hlogs with
  | spared hlogin hrefused =>
    obtain ⟨hchallenge, hrest⟩ := Prod.mk.inj hlogin
    exact deals_spared hconnection hserved (fun h => hrefused (.inl h)) hchallenge (fun _ => hopen)
      (Prod.mk.inj hrest).2
  | challenged hcommand hsecret hlogin =>
    obtain ⟨hchallenge, hrest⟩ := Prod.mk.inj hlogin
    exact deals_challenged hconnection hserved hcommand rfl hchallenge (Prod.mk.inj hrest).2
  | accepted hcommand hsecret hbefore hdigest hlogin | denied hcommand hsecret hbefore hdigest hlogin =>
    obtain ⟨hchallenge, hrest⟩ := Prod.mk.inj hlogin
    exact deals_answered hconnection hserved hopen hcommand hbefore hchallenge (Prod.mk.inj hrest).2

end Request

theorem deals_request (site : Site) (index : Nat) (request : Request) :
    Moment.Deals ⟨site, .request index request⟩ := by
  cases hconnection : site.connections[index]? with
  | none =>
    have hsame : (Moment.mk site (.request index request)).after = site := serve_of_none hconnection
    refine .beside ?_ ?_ (by rw [hsame]) fun other challenge hother => ⟨by rwa [hsame] at hother, nofun⟩
    · unfold Moment.issued? answer?
      dsimp only
      rw [hconnection]
      split <;> trivial
    · unfold Moment.usedUp? challenge?
      dsimp only
      rw [hconnection]
      split <;> rfl
  | some connection =>
    cases hopen : connection.isOpen with
    | true => exact deals_served hconnection rfl hopen
    | false =>
      have hclosed : (Serve.execute request).on ⟨site.store, connection⟩ = _ := Serve.execute_of_closed request hopen
      exact deals_spared hconnection hclosed (fun _ => Serve.refused_transport _) rfl (fun h => h) rfl

/-! ### Other operations -/

theorem deals_reopen (site : Site) (index : Nat) : Moment.Deals ⟨site, .reopen index⟩ := by
  cases hconnection : site.connections[index]? with
  | none =>
    have hsame : (Moment.mk site (.reopen index)).after = site := serve_of_none hconnection
    refine .beside rfl rfl (by rw [hsame]) fun other challenge hother => ?_
    rw [hsame] at hother
    refine ⟨hother, fun heq => ?_⟩
    obtain rfl := Operation.reopen.inj heq
    unfold pending? at hother
    rw [hconnection] at hother
    cases hother
  | some connection =>
    obtain ⟨hlost, hcount, -⟩ := Serve.reopen_login ⟨site.store, connection⟩
    refine .beside rfl rfl ?_ fun other challenge hother => ?_
    · exact (congrArg Store.challenges (store_serve hconnection rfl)).trans hcount
    · rcases pending?_serve hconnection rfl hother with ⟨rfl, hopen, hsome⟩ | ⟨hne, hsome⟩
      · rw [hlost hopen] at hsome
        cases hsome
      · exact ⟨hsome, fun heq => hne (Operation.reopen.inj heq).symm⟩

theorem suffer_login (store : Store) (incident : Incident) :
    (store.suffer incident).admin = store.admin ∧ (store.suffer incident).challenges = store.challenges := by
  have hupdate : ∀ (store : Store) (name : String) change,
      (store.update name change).admin = store.admin ∧ (store.update name change).challenges = store.challenges := by
    intro store name change
    unfold Store.update
    cases store.namespaces.find? name <;> exact ⟨rfl, rfl⟩
  cases incident with
  | set name key value => exact hupdate { store with markers := store.markers + 1 } name _
  | delete name key => exact hupdate { store with markers := store.markers + 1 } name _
  | rollover name => exact hupdate store name _
  | inject command fault => exact ⟨rfl, rfl⟩
  | refuse count => exact ⟨rfl, rfl⟩

/-- **What an operation does to challenges**: it hands one out, uses one up, or neither. -/
theorem deals (site : Site) (operation : Operation) : Moment.Deals ⟨site, operation⟩ := by
  cases operation with
  | create name password => exact .beside rfl rfl rfl fun _ _ h => ⟨h, nofun⟩
  | befall incident => exact .beside rfl rfl (suffer_login site.store incident).2 fun _ _ h => ⟨h, nofun⟩
  | clearLog => exact .beside rfl rfl rfl fun _ _ h => ⟨h, nofun⟩
  | connect =>
    refine .beside rfl rfl rfl fun index challenge h => ⟨?_, nofun⟩
    replace h : ((site.connections ++ [({} : Connection)])[index]?.bind fun connection =>
        if connection.isOpen then connection.challenge else none) = some challenge := h
    rcases Nat.lt_or_ge index site.connections.length with hold | hnew
    · rwa [List.getElem?_append_left hold] at h
    · -- The connection that is new has no challenge.
      rw [List.getElem?_append_right hnew] at h
      cases hindex : index - site.connections.length with
      | zero => rw [hindex] at h; cases h
      | succ n => rw [hindex] at h; cases h
  | request index request => exact deals_request site index request
  | reopen index => exact deals_reopen site index

end Site

end SegmentSync
