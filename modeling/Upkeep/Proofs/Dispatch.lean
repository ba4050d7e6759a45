import Upkeep.Dispatch

/-! Which handlers of a table are ready. Active flags select from the rules, in the order in which
they were registered, those whose conditions they meet, and of each its handler: main statement
`ready_exactly_met`. What is ready hangs on the flags that rules mention and on nothing else; more
active flags make more ready, but for rules that forbid one of them. -/
namespace Upkeep

/-- One rule as it is registered. -/
inductive Registration (Handler : Type) where
  /-- A rule that forbids nothing. -/
  | when (requires : List String) (handler : Handler)
  /-- A rule with flags that must not be active. -/
  | whenNot (requires forbids : List String) (handler : Handler)

namespace Registration

variable {Handler : Type}

/-- What runs. -/
def handler : Registration Handler → Handler
  | when _ handler => handler
  | whenNot _ _ handler => handler

/-- Flags that all have to be active. -/
def requires : Registration Handler → List String
  | when requires _ => requires
  | whenNot requires _ _ => requires

/-- Flags of which none may be active. -/
def forbids : Registration Handler → List String
  | when _ _ => []
  | whenNot _ forbids _ => forbids

/-- The flags that a rule mentions. -/
def flags (r : Registration Handler) : List String :=
  r.requires ++ r.forbids

/-- The rule. -/
def rule (r : Registration Handler) : Rule Handler :=
  ⟨r.handler, r.requires, r.forbids⟩

/-- Active flags meet the conditions of a rule. -/
structure Met (r : Registration Handler) (active : ActiveFlags) : Prop where
  /-- Every required flag is active. -/
  required : ∀ flag ∈ r.requires, active.contains flag = true
  /-- No forbidden flag is. -/
  free : ∀ flag ∈ r.forbids, active.contains flag = false

end Registration

/-- The handlers that active flags select from rules: one for each rule whose conditions are met, in
the order of the rules. -/
inductive Selects {Handler : Type} (active : ActiveFlags) :
    List (Registration Handler) → List Handler → Prop where
  | nil : Selects active [] []
  | take {r : Registration Handler} {registrations : List (Registration Handler)}
      {handlers : List Handler} (met : r.Met active) (rest : Selects active registrations handlers) :
      Selects active (r :: registrations) (r.handler :: handlers)
  | skip {r : Registration Handler} {registrations : List (Registration Handler)}
      {handlers : List Handler} (unmet : ¬ r.Met active)
      (rest : Selects active registrations handlers) : Selects active (r :: registrations) handlers

namespace DispatchTable

variable {Handler : Type} {registrations : List (Registration Handler)} {r : Registration Handler}
  {active a b : ActiveFlags} {handlers : List Handler}

/-- Registers a rule. -/
def register (t : DispatchTable Handler) : Registration Handler → DispatchTable Handler
  | .when requires handler => t.when requires handler
  | .whenNot requires forbids handler => t.whenNot requires forbids handler

/-- The table in which rules were registered one after the other. -/
def ofRegistrations (registrations : List (Registration Handler)) : DispatchTable Handler :=
  registrations.foldl register ∅

theorem rules_register (t : DispatchTable Handler) (r : Registration Handler) :
    (t.register r).rules = t.rules ++ [r.rule] := by
  cases r <;> rfl

theorem rules_ofRegistrations (registrations : List (Registration Handler)) :
    (ofRegistrations registrations).rules = registrations.map Registration.rule := by
  have onTop (t : DispatchTable Handler) : (registrations.foldl register t).rules =
      t.rules ++ registrations.map Registration.rule := by
    induction registrations generalizing t with
    | nil => exact (List.append_nil t.rules).symm
    | cons r rest ih =>
      rw [List.foldl_cons, ih, rules_register, List.append_assoc, List.singleton_append, List.map_cons]
  exact onTop ∅

/-- A rule lets its handler run just if its conditions are met. -/
theorem holds_iff_met : r.rule.holds active = true ↔ r.Met active := by
  simp only [Rule.holds, Registration.rule, Bool.and_eq_true, List.all_eq_true, Bool.not_eq_true', List.any_eq_false,
    Bool.not_eq_true]
  exact ⟨fun ⟨required, free⟩ => ⟨required, free⟩, fun met => ⟨met.required, met.free⟩⟩

theorem ready_append (first second : List (Registration Handler)) :
    (ofRegistrations (first ++ second)).ready active =
      (ofRegistrations first).ready active ++ (ofRegistrations second).ready active := by
  simp only [ready, rules_ofRegistrations, List.map_append, List.filter_append]

theorem ready_cons_of_met (met : r.Met active) :
    (ofRegistrations (r :: registrations)).ready active =
      r.handler :: (ofRegistrations registrations).ready active := by
  simp only [ready, rules_ofRegistrations, List.map_cons, List.filter_cons, holds_iff_met.mpr met,
    ↓reduceIte]
  rfl

theorem ready_cons_of_unmet (unmet : ¬ r.Met active) :
    (ofRegistrations (r :: registrations)).ready active = (ofRegistrations registrations).ready active := by
  simp only [ready, rules_ofRegistrations, List.map_cons, List.filter_cons, mt holds_iff_met.mp unmet,
    Bool.false_eq_true, ↓reduceIte]

theorem selects_ready (registrations : List (Registration Handler)) (active : ActiveFlags) :
    Selects active registrations ((ofRegistrations registrations).ready active) := by
  induction registrations with
  | nil => exact .nil
  | cons r rest ih =>
    by_cases met : r.Met active
    · rw [ready_cons_of_met met]
      exact .take met ih
    · rw [ready_cons_of_unmet met]
      exact .skip met ih

/-- Nothing but what is ready is selected. -/
theorem ready_of_selects (selects : Selects active registrations handlers) :
    (ofRegistrations registrations).ready active = handlers := by
  induction selects with
  | nil => rfl
  | take met rest ih => rw [ready_cons_of_met met, ih]
  | skip unmet rest ih => rw [ready_cons_of_unmet unmet, ih]

theorem met_of_agree (agree : ∀ flag ∈ r.flags, a.contains flag = b.contains flag) (met : r.Met a) :
    r.Met b where
  required flag member := agree flag (List.mem_append_left _ member) ▸ met.required flag member
  free flag member := agree flag (List.mem_append_right _ member) ▸ met.free flag member

theorem met_congr (agree : ∀ flag ∈ r.flags, a.contains flag = b.contains flag) : r.Met a ↔ r.Met b :=
  ⟨met_of_agree agree, met_of_agree fun flag member => (agree flag member).symm⟩

/-- Rules with the same conditions met have the same handlers ready. -/
theorem ready_congr (same : ∀ r ∈ registrations, r.Met a ↔ r.Met b) :
    (ofRegistrations registrations).ready a = (ofRegistrations registrations).ready b := by
  induction registrations with
  | nil => rfl
  | cons r rest ih =>
    obtain ⟨first, later⟩ := List.forall_mem_cons.mp same
    by_cases met : r.Met a
    · rw [ready_cons_of_met met, ready_cons_of_met (first.mp met), ih later]
    · rw [ready_cons_of_unmet met, ready_cons_of_unmet (mt first.mpr met), ih later]

/-- Where each rule that is met stays met, what was ready stays ready. -/
theorem ready_sublist (kept : ∀ r ∈ registrations, r.Met a → r.Met b) :
    ((ofRegistrations registrations).ready a).Sublist ((ofRegistrations registrations).ready b) := by
  induction registrations with
  | nil => exact List.Sublist.refl _
  | cons r rest ih =>
    obtain ⟨first, later⟩ := List.forall_mem_cons.mp kept
    by_cases met : r.Met a
    · rw [ready_cons_of_met met, ready_cons_of_met (first met)]
      exact (ih later).cons_cons r.handler
    · rw [ready_cons_of_unmet met]
      by_cases now : r.Met b
      · rw [ready_cons_of_met now]
        exact (ih later).cons r.handler
      · rw [ready_cons_of_unmet now]
        exact ih later

/-- A rule that more flags keep from being met forbids one of those that were added. -/
theorem exists_forbidden (more : ∀ flag, a.contains flag = true → b.contains flag = true)
    (met : r.Met a) (unmet : ¬ r.Met b) :
    ∃ flag ∈ r.forbids, b.contains flag = true ∧ a.contains flag = false := by
  have taken : ¬ ∀ flag ∈ r.forbids, b.contains flag = false :=
    fun free => unmet ⟨fun flag member => more flag (met.required flag member), free⟩
  obtain ⟨flag, other⟩ := Classical.not_forall.mp taken
  obtain ⟨member, active⟩ := Classical.not_imp.mp other
  exact ⟨flag, member, Bool.not_eq_false _ ▸ active, met.free flag member⟩

/-- A rule that forbids what it requires is never met. -/
theorem not_met_of_contradictory {flag : String} (required : flag ∈ r.requires)
    (forbidden : flag ∈ r.forbids) : ¬ r.Met active := by
  intro met
  cases (met.required flag required).symm.trans (met.free flag forbidden)

/-- The handlers that are ready are those of the rules whose conditions the active flags meet, one for
each of these rules and in their order. So a rule that forbids what it requires might as well not be
there; flags that no rule mentions make no difference; more flags make more ready where nothing is
forbidden, and a rule that they take away forbids one that was added; and one more rule leaves what is
ready of the others in front. -/
theorem ready_exactly_met (registrations : List (Registration Handler)) :
    (∀ active handlers, (ofRegistrations registrations).ready active = handlers ↔
      Selects active registrations handlers) ∧
    (∀ before r after flag, registrations = before ++ r :: after → flag ∈ r.requires →
      flag ∈ r.forbids → ∀ active, r.rule.holds active = false ∧
        (ofRegistrations registrations).ready active = (ofRegistrations (before ++ after)).ready active) ∧
    (∀ a b : ActiveFlags, (∀ r ∈ registrations, ∀ flag ∈ r.flags, a.contains flag = b.contains flag) →
      (ofRegistrations registrations).ready a = (ofRegistrations registrations).ready b) ∧
    (∀ a b : ActiveFlags, (∀ flag, a.contains flag = true → b.contains flag = true) →
      ((∀ r ∈ registrations, r.forbids = []) →
        ((ofRegistrations registrations).ready a).Sublist ((ofRegistrations registrations).ready b)) ∧
      ∀ rule ∈ (ofRegistrations registrations).rules, rule.holds a = true → rule.holds b = false →
        ∃ flag ∈ rule.forbids, b.contains flag = true ∧ a.contains flag = false) ∧
    ∀ r active, (ofRegistrations registrations).ready active <+:
      (ofRegistrations (registrations ++ [r])).ready active := by
  refine ⟨?_, ?_, ?_, ?_, ?_⟩
  · intro active handlers
    exact ⟨fun same => same ▸ selects_ready registrations active, ready_of_selects⟩
  · rintro before r after flag rfl required forbidden active
    have unmet : ¬ r.Met active := not_met_of_contradictory required forbidden
    refine ⟨Bool.eq_false_iff.mpr (mt holds_iff_met.mp unmet), ?_⟩
    rw [ready_append, ready_cons_of_unmet unmet, ← ready_append]
  · intro a b agree
    exact ready_congr fun r member => met_congr (agree r member)
  · intro a b more
    constructor
    · intro free
      refine ready_sublist fun r member met => ?_
      refine ⟨fun flag required => more flag (met.required flag required), ?_⟩
      rw [free r member]
      exact fun _ none => nomatch none
    · intro rule member first later
      rw [rules_ofRegistrations] at member
      obtain ⟨r, -, rfl⟩ := List.mem_map.mp member
      exact exists_forbidden more (holds_iff_met.mp first) (mt holds_iff_met.mpr (Bool.eq_false_iff.mp later))
  · intro r active
    exact ⟨_, (ready_append registrations [r]).symm⟩

/-- A table that waits for a database until there is one, with a rule that contradicts itself. -/
theorem ready_while_waiting :
    let table := [.when ["ready", "database"] 1, .whenNot ["ready"] ["database"] 2,
      .whenNot ["ready"] ["ready"] 3, .when ["ready"] 4]
    let waiting : ActiveFlags := .ofNames ["ready"]
    let complete : ActiveFlags := .ofNames ["database", "ready"]
    Selects waiting table [2, 4] ∧ Selects complete table [1, 4] ∧
      (ofRegistrations table).ready complete =
        (ofRegistrations [.when ["ready", "database"] 1, .whenNot ["ready"] ["database"] 2,
          .when ["ready"] 4]).ready complete ∧
      (ofRegistrations table).ready (complete.addAll ["other"]) = [1, 4] ∧
      (∃ flag ∈ ["database"], complete.contains flag = true ∧ waiting.contains flag = false) ∧
      ((ofRegistrations [.when ["ready", "database"] 1, .when ["ready"] 4]).ready waiting).Sublist
        ((ofRegistrations [.when ["ready", "database"] 1, .when ["ready"] 4]).ready complete) := by
  intro table waiting complete
  obtain ⟨selected, contradictory, unmentioned, added, -⟩ := ready_exactly_met table
  obtain ⟨-, -, -, monotone, -⟩ := ready_exactly_met [.when ["ready", "database"] 1, .when ["ready"] 4]
  have more (flag : String) (active : waiting.contains flag = true) : complete.contains flag = true := by
    rcases SortedMap.contains_insertAll.mp active with none | given
    · cases none
    · exact SortedMap.contains_insertAll.mpr (.inr (List.mem_cons_of_mem _ given))
  refine ⟨(selected waiting [2, 4]).mp (by decide), (selected complete [1, 4]).mp (by decide), ?_, ?_, ?_, ?_⟩
  · exact (contradictory [.when ["ready", "database"] 1, .whenNot ["ready"] ["database"] 2]
      (.whenNot ["ready"] ["ready"] 3) [.when ["ready"] 4] "ready" rfl (by decide) (by decide) complete).2
  · rw [← unmentioned complete]
    · decide
    · decide
  · exact (added waiting complete more).2 ⟨2, ["ready"], ["database"]⟩ (by decide) (by decide) (by decide)
  · exact (monotone waiting complete more).1 (by decide)

end DispatchTable

end Upkeep
