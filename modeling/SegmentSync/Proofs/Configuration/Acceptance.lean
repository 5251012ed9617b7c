import Mathlib.Data.List.Basic
import Mathlib.Tactic.NormNum
import SegmentSync.Configuration.Basic
import SegmentSync.Proofs.Number.Binary64

/-!
# `SegmentSync.Proofs.Configuration.Acceptance` — which configurations are accepted, and what is said of the others

What a configuration must meet is a list of demands, each with the fault that is reported when it is not met. The
demands of the sessions stand in the order of the sessions, those of the options after all of them. Checks that are
made one after the other go through such a list (`Judges`): they end with the fault of the first demand that is not
met, and pass when there is none.

What the demands come to is `IsAcceptable`. The names that a session must not repeat are those of the sessions before
it, so that all sessions together ask for names without repetition.

## Contents
- **Paths.** `SamePath` and `SameAddress`: which paths lead to the same socket.
- **Demands.** `Demand`, `Judges`, `IsFirstFault`.
- **Options.** `IsMultiplier`, the demands of the options.
- **Sessions.** The demands of one session and of all.
- **Configurations.** `IsAcceptable` and `validate_accepts_or_first_fault`.
-/

namespace SegmentSync

/-! ## Paths -/

namespace Endpoint

/-- What has been read of the current piece stands before what is still to come of it. -/
theorem pieces_go_eq (piece rest : List Char) : pieces.go piece rest = (rest.splitOn '/').modifyHead (piece ++ ·) := by
  induction rest generalizing piece with
  | nil => simp [pieces.go, List.splitOn_nil]
  | cons c rest ih =>
    rw [pieces.go, List.splitOn_cons_eq_if_modifyHead]
    by_cases h : c = '/'
    · rw [if_pos h, ih, if_pos (by simpa using h)]
      have hrest : List.modifyHead ([] ++ ·) (rest.splitOn '/') = rest.splitOn '/' :=
        congrFun List.modifyHead_id (rest.splitOn '/')
      rw [hrest, List.modifyHead_cons, List.append_nil]
    · rw [if_neg h, ih, if_neg (by simpa using h), List.modifyHead_modifyHead]
      simp [Function.comp_def]

theorem pieces_eq_splitOn (path : List Char) : pieces path = path.splitOn '/' := by
  rw [pieces, pieces_go_eq]
  exact congrFun List.modifyHead_id (path.splitOn '/')

/-- The names that a path passes through: what stands between its slashes, without nothing at all and without `.`. -/
def names (path : List Char) : List (List Char) :=
  (path.splitOn '/').filter fun piece => piece ≠ [] ∧ piece ≠ ['.']

/-- Two paths are the same but for slashes and `.` that lead nowhere: a slash at the start matters, so does `.` at the
start, and so do the names. -/
structure SamePath (a b : List Char) : Prop where
  root : a.head? = some '/' ↔ b.head? = some '/'
  here : (a.splitOn '/').head? = some ['.'] ↔ (b.splitOn '/').head? = some ['.']
  names : names a = names b

/-- Two endpoints have the same address. -/
inductive SameAddress : Endpoint → Endpoint → Prop where
  | tcp (host : String) (port : UInt16) : SameAddress (.tcp host port) (.tcp host port)
  | socket {path path' : String} (same : SamePath path.toList path'.toList) :
    SameAddress (.socket path) (.socket path')

/-- A slash and another one right after it are as good as one. -/
theorem samePath_doubled_slash (a b : List Char) : SamePath (a ++ '/' :: '/' :: b) (a ++ '/' :: b) := by
  have hdoubled : (a ++ '/' :: '/' :: b).splitOn '/' = a.splitOn '/' ++ [] :: b.splitOn '/' := by
    rw [List.splitOn_append_cons_self, List.splitOn_cons_eq_if_modifyHead]
    simp
  have hsingle : (a ++ '/' :: b).splitOn '/' = a.splitOn '/' ++ b.splitOn '/' := List.splitOn_append_cons_self a b
  constructor
  · cases a <;> simp
  · rw [hdoubled, hsingle, List.head?_append_of_ne_nil _ (List.splitOn_ne_nil _ _),
      List.head?_append_of_ne_nil _ (List.splitOn_ne_nil _ _)]
  · simp [names, hdoubled, hsingle]

/-- A path that starts in `.` does not start with a slash. -/
theorem head_ne_slash {path : List Char} (h : (path.splitOn '/').head? = some ['.']) : path.head? ≠ some '/' := by
  intro hhead
  cases path with
  | nil => simp at hhead
  | cons c rest =>
    obtain rfl : c = '/' := by simpa using hhead
    simp [List.splitOn_cons_eq_if_modifyHead] at h

theorem components_eq (path : String) : components path =
    (decide (path.toList.head? = some '/'),
      (if (path.toList.splitOn '/').head? = some ['.'] then [['.']] else []) ++ names path.toList) := by
  unfold components names
  rw [pieces_eq_splitOn]
  by_cases hhere : (path.toList.splitOn '/').head? = some ['.']
  · simp [hhere, head_ne_slash hhere]
  · simp [hhere]

/-- Paths are compared by their components. -/
theorem components_eq_iff (a b : String) : components a = components b ↔ SamePath a.toList b.toList := by
  have hdot : ∀ path, ['.'] ∉ names path := by simp [names]
  rw [components_eq, components_eq]
  constructor
  · intro h
    obtain ⟨hroot, hnames⟩ := Prod.mk.inj h
    have hhere : (a.toList.splitOn '/').head? = some ['.'] ↔ (b.toList.splitOn '/').head? = some ['.'] := by
      have := congrArg (['.'] ∈ ·) hnames
      simpa [hdot] using this
    refine ⟨by simpa using hroot, hhere, ?_⟩
    simp only [hhere] at hnames
    exact List.append_cancel_left hnames
  · rintro ⟨hroot, hhere, hnames⟩
    simp only [hroot, hhere, hnames]

theorem sameAddress_iff (a b : Endpoint) : a.sameAddress b = true ↔ SameAddress a b := by
  constructor
  · intro h
    cases a <;> cases b <;> simp only [sameAddress, Bool.and_eq_true, decide_eq_true_eq, Bool.false_eq_true] at h
    · obtain ⟨rfl, rfl⟩ := h
      exact .tcp _ _
    · exact .socket ((components_eq_iff _ _).mp h)
  · rintro (_ | same)
    · simp [sameAddress]
    · simpa [sameAddress] using (components_eq_iff _ _).mpr same

end Endpoint

/-! ## Demands -/

/-- What a configuration must meet, and the fault that is reported when it does not. -/
structure Demand where
  holds : Prop
  fault : ConfigFault

/-- A check goes through demands in their order, and stops at one that is not met. -/
inductive Judges : List Demand → Except ConfigFault Unit → Prop where
  | accepts : Judges [] (.ok ())
  | refuses {demand : Demand} (rest : List Demand) (unmet : ¬ demand.holds) :
    Judges (demand :: rest) (.error demand.fault)
  | goesOn {demand : Demand} {rest : List Demand} {result : Except ConfigFault Unit} (met : demand.holds)
    (later : Judges rest result) : Judges (demand :: rest) result

/-- The fault belongs to a demand that is not met, after demands that are. -/
def IsFirstFault (demands : List Demand) (fault : ConfigFault) : Prop :=
  ∃ met unmet rest, demands = met ++ unmet :: rest ∧ (∀ demand ∈ met, demand.holds) ∧ ¬ unmet.holds ∧
    unmet.fault = fault

section

variable {demands later : List Demand} {demand : Demand} {result result' : Except ConfigFault Unit}

/-- One test stands for one demand. -/
theorem Judges.test {holds p : Prop} [Decidable p] {fault : ConfigFault} (htest : holds ↔ ¬ p)
    (h : Judges demands result) : Judges (⟨holds, fault⟩ :: demands) (if p then .error fault else result) := by
  by_cases hp : p
  · rw [if_pos hp]
    exact .refuses demands fun hmet => htest.mp hmet hp
  · rw [if_neg hp]
    exact .goesOn (htest.mpr hp) h

/-- One check after the other goes through the demands of both. -/
theorem Judges.andThen (h : Judges demands result) (h' : Judges later result') :
    Judges (demands ++ later) (result >>= fun _ => result') := by
  induction h with
  | accepts => exact h'
  | refuses rest unmet => exact .refuses (rest ++ later) unmet
  | goesOn met _ ih => exact .goesOn met ih

theorem isFirstFault_cons_iff {fault : ConfigFault} : IsFirstFault (demand :: demands) fault ↔
    ¬ demand.holds ∧ demand.fault = fault ∨ demand.holds ∧ IsFirstFault demands fault := by
  constructor
  · rintro ⟨met, unmet, rest, heq, hmet, hunmet, hfault⟩
    cases met with
    | nil =>
      obtain ⟨rfl, rfl⟩ := List.cons.inj heq
      exact .inl ⟨hunmet, hfault⟩
    | cons first met =>
      obtain ⟨rfl, rfl⟩ := List.cons.inj heq
      rw [List.forall_mem_cons] at hmet
      exact .inr ⟨hmet.1, met, unmet, rest, rfl, hmet.2, hunmet, hfault⟩
  · rintro (⟨hunmet, hfault⟩ | ⟨hmet, met, unmet, rest, rfl, hrest, hunmet, hfault⟩)
    · exact ⟨[], demand, demands, rfl, by simp, hunmet, hfault⟩
    · exact ⟨demand :: met, unmet, rest, rfl, List.forall_mem_cons.mpr ⟨hmet, hrest⟩, hunmet, hfault⟩

/-- **A check accepts what meets all demands.** -/
theorem Judges.eq_ok_iff (h : Judges demands result) : result = .ok () ↔ ∀ demand ∈ demands, demand.holds := by
  induction h with
  | accepts => simp
  | refuses rest unmet => simp [unmet]
  | goesOn met _ ih => simp [met, ih]

/-- **A check that refuses reports the first demand that is not met.** -/
theorem Judges.eq_error_iff (h : Judges demands result) (fault : ConfigFault) :
    result = .error fault ↔ IsFirstFault demands fault := by
  induction h with
  | accepts => simp [IsFirstFault]
  | refuses rest unmet => simp [isFirstFault_cons_iff, unmet]
  | goesOn met _ ih => simp [isFirstFault_cons_iff, met, ih]

end

/-! ## Options -/

/-- A multiplier is a number, and its value lies between one and a hundred. -/
structure IsMultiplier (x : Float) : Prop where
  notNaN : x.isNaN = false
  notInf : x.isInf = false
  ge : 1 ≤ Binary64.value x
  le : Binary64.value x ≤ 100

theorem value_one : Binary64.value 1 = 1 := by
  have hmantissa : Binary64.mantissa 1 = 2 ^ 52 := by decide
  have hexponent : Binary64.exponent 1 = -52 := by decide
  rw [Binary64.value, if_neg (by decide), Binary64.absValue, hmantissa, hexponent]
  norm_num

theorem value_maxMultiplier : Binary64.value maxMultiplier = 100 := by
  have hmantissa : Binary64.mantissa maxMultiplier = 100 * 2 ^ 46 := by decide
  have hexponent : Binary64.exponent maxMultiplier = -46 := by decide
  rw [Binary64.value, if_neg (by decide), Binary64.absValue, hmantissa, hexponent]
  norm_num

/-- The bounds are finite, so that nothing else than a number lies between them. -/
theorem isMultiplier_iff (x : Float) : IsMultiplier x ↔ 1 ≤ x ∧ x ≤ maxMultiplier := by
  rw [Binary64.between_iff (by decide) (by decide), Binary64.isFinite_iff_not_special, value_one,
    value_maxMultiplier]
  constructor
  · rintro ⟨hnan, hinf, hge, hle⟩
    exact ⟨⟨hnan, hinf⟩, hge, hle⟩
  · rintro ⟨⟨hnan, hinf⟩, hge, hle⟩
    exact ⟨hnan, hinf, hge, hle⟩

namespace Options

/-- What options must meet. -/
def demands (options : Options) : List Demand :=
  [⟨0 < options.poll.intervalMs, .zeroPollInterval⟩,
   ⟨0 < options.retry.initialDelayMs, .zeroRetryDelay⟩,
   ⟨IsMultiplier options.poll.multiplier, .multiplierOutOfRange "poll.multiplier" options.poll.multiplier⟩,
   ⟨IsMultiplier options.retry.multiplier, .multiplierOutOfRange "retry.multiplier" options.retry.multiplier⟩]

theorem judges_checkMultiplier (field : String) (x : Float) :
    Judges [⟨IsMultiplier x, .multiplierOutOfRange field x⟩] (checkMultiplier field x) := by
  have htest : IsMultiplier x ↔ (1 ≤ x && x ≤ maxMultiplier) = true := by
    rw [isMultiplier_iff, Bool.and_eq_true, decide_eq_true_eq, decide_eq_true_eq]
  unfold checkMultiplier
  by_cases h : IsMultiplier x
  · rw [if_pos (htest.mp h)]
    exact .goesOn h .accepts
  · rw [if_neg (mt htest.mpr h)]
    exact .refuses [] h

theorem judges_validate (options : Options) : Judges options.demands options.validate := by
  have hmultipliers := (judges_checkMultiplier "poll.multiplier" options.poll.multiplier).andThen
    (judges_checkMultiplier "retry.multiplier" options.retry.multiplier)
  exact .test UInt64.pos_iff_ne_zero (.test UInt64.pos_iff_ne_zero hmultipliers)

end Options

/-! ## Sessions -/

/-- A session that can be run, for all that it says itself. -/
structure SessionEntry.IsAcceptable (entry : SessionEntry) : Prop where
  named : entry.name ≠ ""
  spaced : entry.space ≠ ""
  apart : ¬ Endpoint.SameAddress entry.master.endpoint entry.slave.endpoint

/-- What a session must meet; `earlier` are the names of the sessions before it. -/
def SessionEntry.demands (earlier : List String) (entry : SessionEntry) : List Demand :=
  [⟨entry.name ≠ "", .emptyName⟩,
   ⟨entry.name ∉ earlier, .duplicateName entry.name⟩,
   ⟨entry.space ≠ "", .noNamespace entry.name⟩,
   ⟨¬ Endpoint.SameAddress entry.master.endpoint entry.slave.endpoint,
    .selfReplication entry.name entry.master.endpoint⟩]

theorem SessionEntry.forall_demands_iff (earlier : List String) (entry : SessionEntry) :
    (∀ demand ∈ entry.demands earlier, demand.holds) ↔ entry.IsAcceptable ∧ entry.name ∉ earlier := by
  simp only [SessionEntry.demands, List.forall_mem_cons]
  constructor
  · rintro ⟨hname, hearlier, hspace, hapart, -⟩
    exact ⟨⟨hname, hspace, hapart⟩, hearlier⟩
  · rintro ⟨⟨hname, hspace, hapart⟩, hearlier⟩
    exact ⟨hname, hearlier, hspace, hapart, by simp⟩

namespace Configuration

theorem judges_checkSession {seen earlier : List String} {entry : SessionEntry}
    (h : entry.name ∈ seen ↔ entry.name ∈ earlier) : Judges (entry.demands earlier) (checkSession seen entry) := by
  have hname : entry.name ≠ "" ↔ ¬ entry.name.isEmpty = true := not_congr String.isEmpty_iff.symm
  have hspace : entry.space ≠ "" ↔ ¬ entry.space.isEmpty = true := not_congr String.isEmpty_iff.symm
  have hself := not_congr (Endpoint.sameAddress_iff entry.master.endpoint entry.slave.endpoint).symm
  exact .test hname (.test (not_congr h.symm) (.test hspace (.test hself .accepts)))

/-- What sessions must meet, in their order; `earlier` are the names of the sessions before all of them. -/
def sessionDemands (earlier : List String) (sessions : List SessionEntry) : List Demand :=
  (sessions.mapIdx fun i entry => entry.demands (earlier ++ (sessions.take i).map (·.name))).flatten

theorem sessionDemands_cons (earlier : List String) (entry : SessionEntry) (rest : List SessionEntry) :
    sessionDemands earlier (entry :: rest) =
      entry.demands earlier ++ sessionDemands (earlier ++ [entry.name]) rest := by
  simp [sessionDemands, List.mapIdx_cons]

/-- The names that were seen are those of the sessions before, whatever their order. -/
theorem judges_checkSessions (sessions : List SessionEntry) {seen earlier : List String}
    (h : ∀ name, name ∈ seen ↔ name ∈ earlier) :
    Judges (sessionDemands earlier sessions) (checkSessions seen sessions) := by
  induction sessions generalizing seen earlier with
  | nil => exact .accepts
  | cons entry rest ih =>
    have hseen : ∀ name, name ∈ entry.name :: seen ↔ name ∈ earlier ++ [entry.name] := by
      intro name
      rw [List.mem_cons, List.mem_append, List.mem_singleton, h name, or_comm]
    rw [sessionDemands_cons]
    exact (judges_checkSession (h entry.name)).andThen (ih hseen)

/-- The demands that look at earlier sessions come to names that are all different. -/
theorem forall_sessionDemands_iff (earlier : List String) (sessions : List SessionEntry) :
    (∀ demand ∈ sessionDemands earlier sessions, demand.holds) ↔
      (∀ entry ∈ sessions, entry.IsAcceptable) ∧ (sessions.map (·.name)).Nodup ∧
        ∀ entry ∈ sessions, entry.name ∉ earlier := by
  induction sessions generalizing earlier with
  | nil => simp [sessionDemands]
  | cons entry rest ih =>
    rw [sessionDemands_cons, List.forall_mem_append, SessionEntry.forall_demands_iff, ih]
    simp only [List.map_cons, List.nodup_cons, List.mem_map, List.forall_mem_cons, List.mem_append,
      List.mem_singleton, not_or, not_exists, not_and]
    constructor
    · rintro ⟨⟨haccept, hearlier⟩, hall, hnodup, hnew⟩
      exact ⟨⟨haccept, hall⟩, ⟨fun other hother => (hnew other hother).2, hnodup⟩, hearlier,
        fun other hother => (hnew other hother).1⟩
    · rintro ⟨⟨haccept, hall⟩, ⟨hother, hnodup⟩, hearlier, hrest⟩
      exact ⟨⟨haccept, hearlier⟩, hall, hnodup, fun other hmem => ⟨hrest other hmem, hother other hmem⟩⟩

/-! ## Configurations -/

/-- What a configuration must meet, in the order in which it is checked. -/
def demands (configuration : Configuration) : List Demand :=
  ⟨configuration.sessions ≠ [], .noSessions⟩ ::
    (sessionDemands [] configuration.sessions ++ configuration.options.demands)

/-- **A configuration that can be run.** -/
structure IsAcceptable (configuration : Configuration) : Prop where
  nonempty : configuration.sessions ≠ []
  each : ∀ entry ∈ configuration.sessions, entry.IsAcceptable
  distinct : (configuration.sessions.map (·.name)).Nodup
  pollInterval : 0 < configuration.options.poll.intervalMs
  retryDelay : 0 < configuration.options.retry.initialDelayMs
  pollMultiplier : IsMultiplier configuration.options.poll.multiplier
  retryMultiplier : IsMultiplier configuration.options.retry.multiplier

theorem judges_validate (configuration : Configuration) : Judges configuration.demands configuration.validate := by
  have hrest := (judges_checkSessions configuration.sessions fun name => Iff.refl (name ∈ [])).andThen
    (Options.judges_validate configuration.options)
  exact .test (not_congr List.isEmpty_iff.symm) hrest

theorem forall_demands_iff (configuration : Configuration) :
    (∀ demand ∈ configuration.demands, demand.holds) ↔ configuration.IsAcceptable := by
  rw [demands, List.forall_mem_cons, List.forall_mem_append, forall_sessionDemands_iff]
  constructor
  · rintro ⟨hnonempty, ⟨heach, hdistinct, -⟩, hoptions⟩
    simp only [Options.demands, List.forall_mem_cons] at hoptions
    obtain ⟨hpoll, hretry, hpollMultiplier, hretryMultiplier, -⟩ := hoptions
    exact ⟨hnonempty, heach, hdistinct, hpoll, hretry, hpollMultiplier, hretryMultiplier⟩
  · intro h
    refine ⟨h.nonempty, ⟨h.each, h.distinct, by simp⟩, ?_⟩
    simp [Options.demands, h.pollInterval, h.retryDelay, h.pollMultiplier, h.retryMultiplier]

/-- **A configuration is accepted exactly when it can be run**, and otherwise the first demand that it does not meet is
what is reported. Whether two paths are the same does not depend on doubled slashes. -/
theorem validate_accepts_or_first_fault (configuration : Configuration) :
    (configuration.validate = .ok () ↔ configuration.IsAcceptable) ∧
      (∀ fault, configuration.validate = .error fault ↔ IsFirstFault configuration.demands fault) ∧
      ∀ a b : List Char, Endpoint.SamePath (a ++ '/' :: '/' :: b) (a ++ '/' :: b) := by
  have hjudges := judges_validate configuration
  refine ⟨?_, hjudges.eq_error_iff, Endpoint.samePath_doubled_slash⟩
  rw [hjudges.eq_ok_iff, forall_demands_iff]

end Configuration

end SegmentSync
