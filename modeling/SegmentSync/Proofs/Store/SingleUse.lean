import Mathlib.Data.List.Nodup
import SegmentSync.Proofs.Store.Dealing
import SegmentSync.Proofs.Text.Hex

/-!
# `SegmentSync.Proofs.Store.SingleUse` — no challenge is used twice

A store hands out its challenges over any number of connections, whose requests come in any order. It counts them, and
writes each count in a way of its own. So no challenge is handed out twice, and one that has been answered is never
answered again, over whichever connection.

## Contents
- **Challenges.** Their text, and that different counts have different ones.
- **What a run keeps.** `Site.Kept` is what is known of a site after a run, `Site.Kept.step` that one operation keeps it,
  and `Site.Kept.run` that a run does.
- **Answers.** `Site.Moment.Accepts.exists_usedUp`: what is accepted uses up a challenge.
- **Runs.** `Site.challenges_used_once`, the theorem.
-/

namespace SegmentSync

namespace Serve

/-! ## Challenges -/

/-- The factor of a challenge has an inverse, so that different counts have different challenges. -/
theorem challengeText_injective {n n' : UInt64} (h : challengeText n = challengeText n') : n = n' := by
  have hproduct : n * 0x9e3779b97f4a7c15 = n' * 0x9e3779b97f4a7c15 := Bytes.ofUInt64_injective (Bytes.hex_injective h)
  have hinverse : (0x9e3779b97f4a7c15 : UInt64) * 0xf1de83e19937733d = 1 := by decide
  have hback : ∀ m : UInt64, m * 0x9e3779b97f4a7c15 * 0xf1de83e19937733d = m := by
    intro m
    rw [UInt64.mul_assoc, hinverse, UInt64.mul_one]
  rw [← hback n, hproduct, hback]

/-- The text has the form of a challenge: sixteen lowercase hexadecimal digits. -/
def IsChallenge (text : String) : Prop := text.toList.length = 16 ∧ ∀ c ∈ text.toList, c ∈ Bytes.hexAlphabet

theorem isChallenge_challengeText (n : UInt64) : IsChallenge (challengeText n) :=
  ⟨Bytes.hex_length _, fun _ hc => Bytes.mem_hexAlphabet_of_mem_hex hc⟩

end Serve

namespace Site

variable {site : Site} {index : Nat}

/-! ## What a run keeps -/

/-- The challenges that were handed out, the first one first. -/
def issued (past : List Moment) : List (Nat × String) := past.filterMap Moment.issued?

/-- The challenges that were used up, the first one first. -/
def usedUp (past : List Moment) : List (Nat × String) := past.filterMap Moment.usedUp?

/-- The challenge that is handed out after `n` others. -/
def challengeAt (n : Nat) : String := Serve.challengeText (UInt64.ofNat (n + 1))

theorem challengeAt_injective {n n' : Nat} (hn : n + 1 < 2 ^ 64) (hn' : n' + 1 < 2 ^ 64)
    (h : challengeAt n = challengeAt n') : n = n' := by
  have hcount := congrArg UInt64.toNat (Serve.challengeText_injective h)
  rw [UInt64.toNat_ofNat', UInt64.toNat_ofNat', Nat.mod_eq_of_lt hn, Nat.mod_eq_of_lt hn'] at hcount
  omega

theorem issued_append (past later : List Moment) : issued (past ++ later) = issued past ++ issued later :=
  List.filterMap_append

theorem issued_concat (past : List Moment) (m : Moment) : issued (past ++ [m]) = issued past ++ m.issued?.toList := by
  unfold issued
  simp only [List.filterMap_eq_flatMap_toList, List.flatMap_append, List.flatMap_singleton]

theorem usedUp_concat (past : List Moment) (m : Moment) : usedUp (past ++ [m]) = usedUp past ++ m.usedUp?.toList := by
  unfold usedUp
  simp only [List.filterMap_eq_flatMap_toList, List.flatMap_append, List.flatMap_singleton]

theorem issued_concat_of_none {m : Moment} (h : m.issued? = none) (past : List Moment) :
    issued (past ++ [m]) = issued past := by
  rw [issued_concat, h, Option.toList_none, List.append_nil]

theorem usedUp_concat_of_none {m : Moment} (h : m.usedUp? = none) (past : List Moment) :
    usedUp (past ++ [m]) = usedUp past := by
  rw [usedUp_concat, h, Option.toList_none, List.append_nil]

/-- What is known of a site after a run: each challenge was handed out once and used up once at most, and those that
    can be answered are among those that were handed out. -/
structure Kept (past : List Moment) (site : Site) : Prop where
  count : site.store.challenges = UInt64.ofNat (issued past).length
  texts : (issued past).map Prod.snd = (List.range (issued past).length).map challengeAt
  once : ((usedUp past).map Prod.snd).Nodup
  usedIssued : ∀ challenge ∈ (usedUp past).map Prod.snd, challenge ∈ (issued past).map Prod.snd
  unused : ∀ index challenge, site.pending? index = some challenge → challenge ∉ (usedUp past).map Prod.snd
  apart : ∀ index index' challenge, site.pending? index = some challenge → site.pending? index' = some challenge →
    index = index'
  since : ∀ index challenge, site.pending? index = some challenge →
    ∃ earlier m between, past = earlier ++ m :: between ∧ m.issued? = some (index, challenge) ∧
      ∀ m' ∈ between, m'.operation ≠ .reopen index

namespace Kept

variable {past : List Moment} {m : Moment} {challenge : String}

theorem next_eq (h : Kept past site) : site.store.nextChallenge = challengeAt (issued past).length := by
  unfold Store.nextChallenge challengeAt
  rw [h.count, UInt64.ofNat_add]
  rfl

/-- A challenge that can be answered was handed out. -/
theorem pendingIssued (h : Kept past site) (hpending : site.pending? index = some challenge) :
    challenge ∈ (issued past).map Prod.snd := by
  obtain ⟨earlier, m, between, rfl, hissued, -⟩ := h.since index challenge hpending
  refine List.mem_map.mpr ⟨(index, challenge), ?_, rfl⟩
  exact List.mem_filterMap.mpr ⟨m, List.mem_append_right _ List.mem_cons_self, hissued⟩

/-- What can still be answered was handed out before, and its connection was not opened again since. -/
theorem since_concat (h : Kept past m.site) (hpending : m.site.pending? index = some challenge)
    (hoperation : m.operation ≠ .reopen index) :
    ∃ earlier m' between, past ++ [m] = earlier ++ m' :: between ∧ m'.issued? = some (index, challenge) ∧
      ∀ m'' ∈ between, m''.operation ≠ .reopen index := by
  obtain ⟨earlier, m', between, rfl, hissued, hbetween⟩ := h.since index challenge hpending
  refine ⟨earlier, m', between ++ [m], ?_, hissued, fun m'' hm'' => ?_⟩
  · rw [List.append_assoc, List.cons_append]
  · rcases List.mem_append.mp hm'' with hold | hnew
    · exact hbetween m'' hold
    · rw [List.mem_singleton.mp hnew]
      exact hoperation

/-- The next challenge is a new one. -/
theorem next_notMem (h : Kept past site) (hfew : (issued past).length + 1 < 2 ^ 64) :
    site.store.nextChallenge ∉ (issued past).map Prod.snd := by
  rw [h.next_eq, h.texts]
  intro hmem
  obtain ⟨n, hn, heq⟩ := List.mem_map.mp hmem
  have hlt := List.mem_range.mp hn
  exact absurd (challengeAt_injective (by omega) hfew heq) (by omega)

/-- Nothing happens to any challenge. -/
theorem beside (h : Kept past m.site) (hissued : m.issued? = none) (hused : m.usedUp? = none)
    (hcount : m.after.store.challenges = m.site.store.challenges)
    (hpending : ∀ index challenge, m.after.pending? index = some challenge →
      m.site.pending? index = some challenge ∧ m.operation ≠ .reopen index) : Kept (past ++ [m]) m.after := by
  have hissues := issued_concat_of_none hissued past
  have huses := usedUp_concat_of_none hused past
  constructor
  case count =>
    rw [hissues, hcount, h.count]
  case texts =>
    rw [hissues, h.texts]
  case once =>
    rw [huses]
    exact h.once
  case usedIssued =>
    rw [hissues, huses]
    exact h.usedIssued
  case unused =>
    intro index challenge hsome
    rw [huses]
    exact h.unused index challenge (hpending index challenge hsome).1
  case apart =>
    intro index index' challenge hsome hsome'
    exact h.apart index index' challenge (hpending index challenge hsome).1 (hpending index' challenge hsome').1
  case since =>
    intro index challenge hsome
    obtain ⟨hbefore, hoperation⟩ := hpending index challenge hsome
    exact h.since_concat hbefore hoperation

/-- A challenge is handed out that was not handed out before. -/
theorem issues (h : Kept past m.site) (hfew : (issued past).length + 1 < 2 ^ 64)
    (hissued : m.issued? = some (index, m.site.store.nextChallenge)) (hused : m.usedUp? = none)
    (hcount : m.after.store.challenges = m.site.store.challenges + 1)
    (hpending : ∀ other challenge, m.after.pending? other = some challenge →
      other = index ∧ challenge = m.site.store.nextChallenge ∨
        m.site.pending? other = some challenge ∧ m.operation ≠ .reopen other) : Kept (past ++ [m]) m.after := by
  have hissues : issued (past ++ [m]) = issued past ++ [(index, m.site.store.nextChallenge)] := by
    rw [issued_concat, hissued, Option.toList_some]
  have huses := usedUp_concat_of_none hused past
  have hlength : (issued (past ++ [m])).length = (issued past).length + 1 := by
    rw [hissues, List.length_append, List.length_singleton]
  have hnew := h.next_notMem hfew
  constructor
  case count =>
    rw [hlength, hcount, h.count, UInt64.ofNat_add]
    rfl
  case texts =>
    rw [hlength, List.range_succ, List.map_append, ← h.texts, hissues, List.map_append, List.map_singleton,
      List.map_singleton, h.next_eq]
  case once =>
    rw [huses]
    exact h.once
  case usedIssued =>
    intro challenge hmem
    rw [huses] at hmem
    rw [hissues, List.map_append]
    exact List.mem_append_left _ (h.usedIssued challenge hmem)
  case unused =>
    intro other challenge hsome
    rw [huses]
    rcases hpending other challenge hsome with ⟨-, rfl⟩ | ⟨hbefore, -⟩
    · exact fun hmem => hnew (h.usedIssued _ hmem)
    · exact h.unused other challenge hbefore
  case apart =>
    intro other other' challenge hsome hsome'
    -- The new challenge is not one that could be answered before.
    rcases hpending other challenge hsome with ⟨rfl, rfl⟩ | ⟨hbefore, -⟩
    · rcases hpending other' _ hsome' with ⟨rfl, -⟩ | ⟨hbefore', -⟩
      · rfl
      · exact absurd (h.pendingIssued hbefore') hnew
    · rcases hpending other' _ hsome' with ⟨-, rfl⟩ | ⟨hbefore', -⟩
      · exact absurd (h.pendingIssued hbefore) hnew
      · exact h.apart other other' challenge hbefore hbefore'
  case since =>
    intro other challenge hsome
    rcases hpending other challenge hsome with ⟨rfl, rfl⟩ | ⟨hbefore, hoperation⟩
    · exact ⟨past, m, [], rfl, hissued, List.forall_mem_nil _⟩
    · exact h.since_concat hbefore hoperation

/-- A challenge is used up that could be answered, and that was not used up before. -/
theorem usesUp (h : Kept past m.site) (hissued : m.issued? = none) (hused : m.usedUp? = some (index, challenge))
    (hbefore : m.site.pending? index = some challenge)
    (hcount : m.after.store.challenges = m.site.store.challenges)
    (hpending : ∀ other challenge', m.after.pending? other = some challenge' →
      other ≠ index ∧ m.site.pending? other = some challenge' ∧ m.operation ≠ .reopen other) :
    Kept (past ++ [m]) m.after := by
  have hissues := issued_concat_of_none hissued past
  have huses : (usedUp (past ++ [m])).map Prod.snd = (usedUp past).map Prod.snd ++ [challenge] := by
    rw [usedUp_concat, hused, Option.toList_some, List.map_append, List.map_singleton]
  constructor
  case count =>
    rw [hissues, hcount, h.count]
  case texts =>
    rw [hissues, h.texts]
  case once =>
    rw [huses, ← List.concat_eq_append]
    exact List.Nodup.concat (h.unused index challenge hbefore) h.once
  case usedIssued =>
    intro challenge' hmem
    rw [huses] at hmem
    rw [hissues]
    rcases List.mem_append.mp hmem with hold | hnew
    · exact h.usedIssued challenge' hold
    · rw [List.mem_singleton.mp hnew]
      exact h.pendingIssued hbefore
  case unused =>
    intro other challenge' hsome hmem
    obtain ⟨hne, hsome', -⟩ := hpending other challenge' hsome
    rw [huses] at hmem
    rcases List.mem_append.mp hmem with hold | hnew
    · exact h.unused other challenge' hsome' hold
    · rw [List.mem_singleton.mp hnew] at hsome'
      exact hne (h.apart other index challenge hsome' hbefore)
  case apart =>
    intro other other' challenge' hsome hsome'
    exact h.apart other other' challenge' (hpending other challenge' hsome).2.1 (hpending other' challenge' hsome').2.1
  case since =>
    intro other challenge' hsome
    obtain ⟨-, hsome', hoperation⟩ := hpending other challenge' hsome
    exact h.since_concat hsome' hoperation

/-- **One operation keeps all this**, as long as the count does not run over. -/
theorem step (h : Kept past site) (operation : Operation)
    (hfew : (issued (past ++ [⟨site, operation⟩])).length < 2 ^ 64) :
    Kept (past ++ [⟨site, operation⟩]) (site.perform operation) := by
  rw [issued_concat] at hfew
  cases deals site operation with
  | beside hissued hused hcount hpending => exact beside h hissued hused hcount hpending
  | issues index hissued hused hcount hpending =>
    rw [hissued, Option.toList_some, List.length_append, List.length_singleton] at hfew
    exact issues h hfew hissued hused hcount hpending
  | usesUp index challenge hissued hused hbefore hcount hpending =>
    exact usesUp h hissued hused hbefore hcount hpending

/-- **So does a run.** -/
theorem run (h : Kept past site) (operations : List Operation)
    (hfew : (issued (past ++ site.moments operations)).length < 2 ^ 64) :
    Kept (past ++ site.moments operations) (site.run operations) := by
  induction operations generalizing past site with
  | nil =>
    rw [moments, List.append_nil]
    exact h
  | cons operation rest ih =>
    have hsplit : past ++ site.moments (operation :: rest) =
        past ++ [⟨site, operation⟩] ++ (site.perform operation).moments rest := by
      rw [List.append_assoc]
      rfl
    rw [hsplit] at hfew ⊢
    have hfew' : (issued (past ++ [⟨site, operation⟩])).length < 2 ^ 64 := by
      rw [issued_append, List.length_append] at hfew
      omega
    exact ih (h.step operation hfew') hfew

end Kept

theorem kept_fresh (admin : Option String) : Kept [] (fresh admin) :=
  ⟨rfl, rfl, List.nodup_nil, fun _ hmem => absurd hmem List.not_mem_nil, nofun, nofun, nofun⟩

theorem kept_run {admin : Option String} {operations : List Operation}
    (hfew : (issued ((fresh admin).moments operations)).length < 2 ^ 64) :
    Kept ((fresh admin).moments operations) ((fresh admin).run operations) :=
  (kept_fresh admin).run operations hfew

/-! ## Answers -/

/-- What is used up could be answered until then. -/
theorem pending_of_usedUp {m : Moment} {challenge : String} (h : m.usedUp? = some (index, challenge)) :
    m.site.pending? index = some challenge := by
  cases deals m.site m.operation with
  | beside _ hused _ _ | issues _ _ hused _ _ =>
    rw [hused] at h
    cases h
  | usesUp index' challenge' _ hused hbefore _ _ =>
    rw [hused] at h
    obtain ⟨rfl, rfl⟩ := Prod.mk.inj (Option.some.inj h)
    exact hbefore

/-- What is accepted as an answer is the digest of a challenge that is used up. -/
theorem Moment.Accepts.exists_usedUp {m : Moment} {digest : String} (h : m.Accepts digest) :
    ∃ index challenge secret, m.site.store.admin = some secret ∧ m.usedUp? = some (index, challenge) ∧
      digest = challengeDigest challenge secret := by
  obtain ⟨site, operation⟩ := m
  obtain ⟨index, request, reply, rfl, hcommand, hdigest, hanswer⟩ := h
  unfold answer? at hanswer
  obtain ⟨connection, hconnection, hreply⟩ := Option.map_eq_some_iff.mp hanswer
  have hserved : (Serve.execute request).on ⟨site.store, connection⟩ =
      (.ok reply, ((Serve.execute request).on ⟨site.store, connection⟩).2) := Prod.ext hreply rfl
  have hlogs := Serve.logsIn request ⟨site.store, connection⟩
  rw [hreply] at hlogs
  cases hlogs with
  | spared _ hrefused =>
    obtain ⟨failure, hfailure, -⟩ := hrefused (.inr hcommand)
    cases hfailure
  | challenged hchallenge _ _ => exact absurd (hcommand.symm.trans hchallenge) nofun
  | @accepted _ secret challenge _ hsecret hbefore hdigest' hlogin =>
    refine ⟨index, challenge, secret, hsecret, ?_, hdigest.symm.trans hdigest'⟩
    rw [usedUp?_eq hconnection hserved, if_pos ⟨hcommand, (Prod.mk.inj hlogin).1⟩, hbefore]
    rfl

/-! ## Runs -/

/-- The password of a store stays what it is. -/
theorem admin_perform (site : Site) (operation : Operation) :
    (site.perform operation).store.admin = site.store.admin := by
  cases operation with
  | create name password => rfl
  | befall incident => exact (suffer_login site.store incident).1
  | clearLog | connect => rfl
  | request index request =>
    exact serve_store (P := fun store => store.admin = site.store.admin) rfl
      (fun connection => Serve.admin_execute request ⟨site.store, connection⟩) index
  | reopen index =>
    exact serve_store (P := fun store => store.admin = site.store.admin) rfl
      (fun connection => (Serve.reopen_login ⟨site.store, connection⟩).2.2) index

theorem admin_run (site : Site) (operations : List Operation) :
    (site.run operations).store.admin = site.store.admin := by
  induction operations generalizing site with
  | nil => rfl
  | cons operation rest ih => exact (ih (site.perform operation)).trans (admin_perform site operation)

theorem admin_of_split {admin : Option String} {operations : List Operation} {past later : List Moment} {m : Moment}
    (h : (fresh admin).moments operations = past ++ m :: later) : m.site.store.admin = admin := by
  obtain ⟨before, -, hsite⟩ := exists_run_before h
  rw [hsite]
  exact admin_run (fresh admin) before

/-- **Challenges are never repeated.** Whatever happens at a store and over its connections, in whichever order, the
    challenges that it hands out are all different, as long as there are fewer than its count can tell apart. Each is
    used up by one answer at most, over the connection that it was handed out to, which has not been opened again
    meanwhile. So a digest is accepted again only if it is the digest of another challenge, too. -/
theorem challenges_used_once {admin : Option String} {operations : List Operation} {history : List Moment}
    (hhistory : (fresh admin).moments operations = history) (hfew : (issued history).length < 2 ^ 64) :
    ((issued history).map Prod.snd).Nodup ∧
    (∀ index challenge, (index, challenge) ∈ issued history → Serve.IsChallenge challenge) ∧
    ((usedUp history).map Prod.snd).Nodup ∧
    (∀ past m later index challenge, history = past ++ m :: later → m.usedUp? = some (index, challenge) →
      ∃ earlier m' between, past = earlier ++ m' :: between ∧ m'.issued? = some (index, challenge) ∧
        ∀ m'' ∈ between, m''.operation ≠ .reopen index) ∧
    ∀ past m between m' later digest, history = past ++ m :: (between ++ m' :: later) →
      m.Accepts digest → m'.Accepts digest →
      ∃ secret index index' challenge challenge', admin = some secret ∧
        m.usedUp? = some (index, challenge) ∧ m'.usedUp? = some (index', challenge') ∧ challenge ≠ challenge' ∧
        digest = challengeDigest challenge secret ∧ digest = challengeDigest challenge' secret := by
  subst hhistory
  have hkept := kept_run hfew
  refine ⟨?_, ?_, hkept.once, ?_, ?_⟩
  · rw [hkept.texts]
    refine List.Nodup.map_on (fun n hn n' hn' heq => ?_) List.nodup_range
    have hlt := List.mem_range.mp hn
    have hlt' := List.mem_range.mp hn'
    exact challengeAt_injective (by omega) (by omega) heq
  · intro index challenge hmem
    have htext : challenge ∈ (issued ((fresh admin).moments operations)).map Prod.snd :=
      List.mem_map.mpr ⟨(index, challenge), hmem, rfl⟩
    rw [hkept.texts] at htext
    obtain ⟨n, -, rfl⟩ := List.mem_map.mp htext
    exact Serve.isChallenge_challengeText _
  · intro past m later index challenge hsplit hused
    obtain ⟨before, rfl, hsite⟩ := exists_run_before hsplit
    have hfew' : (issued ((fresh admin).moments before)).length < 2 ^ 64 := by
      rw [hsplit, issued_append, List.length_append] at hfew
      omega
    have hpending := pending_of_usedUp hused
    rw [hsite] at hpending
    exact (kept_run hfew').since index challenge hpending
  · intro past m between m' later digest hsplit haccepts haccepts'
    obtain ⟨index, challenge, secret, hsecret, hused, hdigest⟩ := haccepts.exists_usedUp
    obtain ⟨index', challenge', secret', hsecret', hused', hdigest'⟩ := haccepts'.exists_usedUp
    have hadmin : m.site.store.admin = admin := admin_of_split hsplit
    have hsplit' : (fresh admin).moments operations = (past ++ m :: between) ++ m' :: later := by
      rw [hsplit, List.append_assoc, List.cons_append]
    have hadmin' : m'.site.store.admin = admin := admin_of_split hsplit'
    rw [hadmin] at hsecret
    rw [hadmin', hsecret] at hsecret'
    obtain rfl := Option.some.inj hsecret'
    have honce := hkept.once
    unfold usedUp at honce
    rw [hsplit, List.filterMap_append, List.filterMap_cons_some hused, List.filterMap_append,
      List.filterMap_cons_some hused', List.map_append, List.map_cons, List.map_append, List.map_cons] at honce
    have hne : challenge ≠ challenge' := by
      have hlater := (List.nodup_cons.mp (List.nodup_append.mp honce).2.1).1
      rintro rfl
      exact hlater (List.mem_append_right _ List.mem_cons_self)
    exact ⟨secret, index, index', challenge, challenge', hsecret, hused, hused', hne, hdigest, hdigest'⟩

/-- Two connections ask for a challenge each, and the answer of the first one is sent again over the second one. Both
    challenges are used up, and they are not the same. -/
theorem challenges_used_once_over_two_connections :
    let digest := challengeDigest (Serve.challengeText 1) "secret"
    let operations : List Operation := [.connect, .connect, .request 0 .authChallenge, .request 1 .authChallenge,
      .request 0 (.authSecure digest), .request 1 (.authSecure digest)]
    let history := (fresh (some "secret")).moments operations
    issued history = [(0, Serve.challengeText 1), (1, Serve.challengeText 2)] ∧
      usedUp history = [(0, Serve.challengeText 1), (1, Serve.challengeText 2)] ∧
      Serve.challengeText 1 ≠ Serve.challengeText 2 := by
  intro digest operations history
  have hissued : issued history = [(0, Serve.challengeText 1), (1, Serve.challengeText 2)] := by decide +kernel
  have hused : usedUp history = [(0, Serve.challengeText 1), (1, Serve.challengeText 2)] := by decide +kernel
  have hfew : (issued history).length < 2 ^ 64 := by
    rw [hissued]
    decide
  have hnodup := (challenges_used_once rfl hfew).1
  rw [hissued] at hnodup
  refine ⟨hissued, hused, fun heq => ?_⟩
  exact (List.nodup_cons.mp hnodup).1 (List.mem_singleton.mpr heq)

end Site

end SegmentSync
