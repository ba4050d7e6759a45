import Mathlib.Data.String.Basic
import Upkeep.Render

/-! Settings that arrive in some order. Only the last value that each name is given counts: sequences
which agree in these make the same map, whether the settings are made one after the other or all at
once, and so the same unit and the same settings file, or the same fault. -/
namespace Upkeep

namespace SortedMap

variable {α : Type} {name : String} {pairs pairs' : List (String × α)}

/-- The value that a sequence of settings gives a name at last. -/
def lastValue? (pairs : List (String × α)) (name : String) : Option α :=
  (pairs.filter fun pair => pair.1 = name).getLast?.map (·.2)

/-- Both sequences give each name the same value at last. -/
def SameAtLast (pairs pairs' : List (String × α)) : Prop :=
  ∀ name, lastValue? pairs name = lastValue? pairs' name

/-- The last pair for each name, where pairs with the same name stand together. -/
def lastOfEach : List (String × α) → List (String × α)
  | [] => []
  | [pair] => [pair]
  | pair :: next :: rest =>
    if pair.1 = next.1 then lastOfEach (next :: rest) else pair :: lastOfEach (next :: rest)

/-- Whether a pair may stand before another in the order of names. -/
def atMostByName (a b : String × α) : Bool :=
  decide (a.1 ≤ b.1)

/-- Pairs in the order of their names, those with the same name as they came. -/
def byName (pairs : List (String × α)) : List (String × α) :=
  pairs.mergeSort atMostByName

theorem lastValue?_cons (pair : String × α) (pairs : List (String × α)) (name : String) :
    lastValue? (pair :: pairs) name =
      (lastValue? pairs name).or (if pair.1 = name then some pair.2 else none) := by
  by_cases same : pair.1 = name
  · cases later : (pairs.filter fun pair => pair.1 = name).getLast? <;>
      simp [lastValue?, same, later, List.getLast?_cons]
  · simp [lastValue?, same]

theorem lastValue?_eq_none_iff : lastValue? pairs name = none ↔ ∀ pair ∈ pairs, pair.1 ≠ name := by
  simp [lastValue?]

/-- Settings on top of a map: the last value counts, or else the one in the map. -/
theorem get?_insertAll_eq (m : SortedMap α) (pairs : List (String × α)) (name : String) :
    (m.insertAll pairs).get? name = (lastValue? pairs name).or (m.get? name) := by
  induction pairs generalizing m with
  | nil => rfl
  | cons pair rest ih =>
    rw [insertAll_cons, ih, get?_insert, lastValue?_cons, Option.or_assoc]
    by_cases same : pair.1 = name <;> simp [same]

theorem atMostByName_trans (a b c : String × α) (first : atMostByName a b = true)
    (second : atMostByName b c = true) : atMostByName a c = true := by
  simp only [atMostByName, decide_eq_true_eq] at *
  exact String.le_trans first second

theorem atMostByName_total (a b : String × α) : (atMostByName a b || atMostByName b a) = true := by
  simpa [atMostByName] using String.le_total a.1 b.1

theorem pairwise_byName (pairs : List (String × α)) :
    (byName pairs).Pairwise fun a b => a.1 ≤ b.1 :=
  (List.pairwise_mergeSort atMostByName_trans atMostByName_total pairs).imp of_decide_eq_true

/-- Sorting leaves the pairs for one name in their order. -/
theorem filter_byName (pairs : List (String × α)) (name : String) :
    (byName pairs).filter (fun pair => pair.1 = name) = pairs.filter fun pair => pair.1 = name := by
  have alike : (pairs.filter fun pair => pair.1 = name).Pairwise
      fun a b => atMostByName a b = true := by
    refine List.pairwise_of_forall_mem_list fun a first b second => ?_
    simp only [List.mem_filter, atMostByName, decide_eq_true_eq] at first second ⊢
    exact (first.2.trans second.2.symm).le
  have kept : (pairs.filter fun pair => pair.1 = name).Sublist (byName pairs) :=
    List.sublist_mergeSort atMostByName_trans atMostByName_total alike List.filter_sublist
  have inside := kept.filter fun pair => decide (pair.1 = name)
  rw [List.filter_filter] at inside
  simp only [Bool.and_self] at inside
  refine (inside.eq_of_length ?_).symm
  exact ((List.mergeSort_perm pairs _).filter _).length_eq.symm

theorem lastValue?_byName (pairs : List (String × α)) (name : String) :
    lastValue? (byName pairs) name = lastValue? pairs name := by
  rw [lastValue?, filter_byName, lastValue?]

theorem mem_of_mem_lastOfEach {pair : String × α} (member : pair ∈ lastOfEach pairs) :
    pair ∈ pairs := by
  fun_induction lastOfEach pairs with
  | case1 => exact member
  | case2 => exact member
  | case3 first next rest same ih => exact List.mem_cons_of_mem _ (ih member)
  | case4 first next rest other ih =>
    rcases List.mem_cons.mp member with rfl | later
    · exact List.mem_cons_self
    · exact List.mem_cons_of_mem _ (ih later)

/-- A name that differs from the next one in order comes before all that follow. -/
theorem lt_of_next {first next : String × α} {rest : List (String × α)}
    (sorted : (first :: next :: rest).Pairwise fun a b => a.1 ≤ b.1) (other : first.1 ≠ next.1) :
    ∀ pair ∈ next :: rest, first.1 < pair.1 := by
  obtain ⟨below, following⟩ := List.pairwise_cons.mp sorted
  have least : first.1 < next.1 := lt_of_le_of_ne (below next List.mem_cons_self) other
  intro pair member
  rcases List.mem_cons.mp member with rfl | later
  · exact least
  · exact lt_of_lt_of_le least ((List.pairwise_cons.mp following).1 pair later)

theorem ascending_lastOfEach (sorted : pairs.Pairwise fun a b => a.1 ≤ b.1) :
    Assoc.Ascending (lastOfEach pairs) := by
  fun_induction lastOfEach pairs with
  | case1 => exact List.Pairwise.nil
  | case2 pair => exact List.pairwise_singleton _ pair
  | case3 first next rest same ih => exact ih sorted.of_cons
  | case4 first next rest other ih =>
    exact List.pairwise_cons.mpr
      ⟨fun pair member => lt_of_next sorted other pair (mem_of_mem_lastOfEach member), ih sorted.of_cons⟩

theorem find?_lastOfEach (sorted : pairs.Pairwise fun a b => a.1 ≤ b.1) (name : String) :
    Assoc.find? name (lastOfEach pairs) = lastValue? pairs name := by
  fun_induction lastOfEach pairs with
  | case1 => rfl
  | case2 pair =>
    rw [lastValue?_cons]
    rfl
  | case3 first next rest same ih =>
    rw [ih sorted.of_cons, lastValue?_cons first, lastValue?_cons next, Option.or_assoc, same]
    by_cases named : next.1 = name <;> simp [named]
  | case4 first next rest other ih =>
    rw [Assoc.find?, ih sorted.of_cons, lastValue?_cons first]
    by_cases named : first.1 = name
    · have absent : lastValue? (next :: rest) name = none :=
        lastValue?_eq_none_iff.mpr fun pair member same =>
          (lt_of_next sorted other pair member).ne (named.trans same.symm)
      rw [absent, if_pos named, Option.none_or]
    · rw [if_neg named, if_neg named, Option.or_none]

/-- The map of some pairs that are collected at once: they are put in order, and of those for one name
the last is kept. -/
def collect (pairs : List (String × α)) : SortedMap α :=
  ⟨lastOfEach (byName pairs), ascending_lastOfEach (pairwise_byName pairs)⟩

/-- To collect pairs is to set them one after the other. -/
theorem collect_eq_insertAll (pairs : List (String × α)) :
    collect pairs = (∅ : SortedMap α).insertAll pairs := by
  apply ext
  intro name
  calc (collect pairs).get? name = lastValue? (byName pairs) name :=
        find?_lastOfEach (pairwise_byName pairs) name
    _ = lastValue? pairs name := lastValue?_byName pairs name
    _ = ((∅ : SortedMap α).insertAll pairs).get? name := by
      rw [get?_insertAll_eq, get?_empty, Option.or_none]

/-- Sequences that agree in the last values change a map alike. -/
theorem SameAtLast.insertAll_eq (same : SameAtLast pairs pairs') (m : SortedMap α) :
    m.insertAll pairs = m.insertAll pairs' := by
  apply ext
  intro name
  rw [get?_insertAll_eq, get?_insertAll_eq, same]

/-- What a map says that some pairs were set in: under each name the value set at last, each name
once, in strictly ascending order. -/
structure Holds (m : SortedMap α) (pairs : List (String × α)) : Prop where
  get?_eq : ∀ name, m.get? name = lastValue? pairs name
  ascending : m.names.Pairwise (· < ·)
  mem_iff : ∀ name value, (name, value) ∈ m.toList ↔ lastValue? pairs name = some value

theorem holds_insertAll (pairs : List (String × α)) :
    ((∅ : SortedMap α).insertAll pairs).Holds pairs := by
  have told (name : String) :
      ((∅ : SortedMap α).insertAll pairs).get? name = lastValue? pairs name := by
    rw [get?_insertAll_eq, get?_empty, Option.or_none]
  refine ⟨told, List.pairwise_map.mpr (insertAll ∅ pairs).ascending, fun name value => ?_⟩
  rw [mem_toList_iff, told]

end SortedMap

open SortedMap in
/-- Settings that agree in the last values give the same environment and the same configuration, in
whatever order they arrive and whether one after the other or at once. Both say of each name the value
set at last, and name it once, in ascending order; units and settings files come out the same, or fail
with the same fault. -/
theorem settings_in_any_order (sets sets' : List (String × String))
    (settings settings' : List (String × Yaml.Value)) (same : SameAtLast sets sets')
    (same_settings : SameAtLast settings settings') :
    ((∅ : Environment).insertAll sets = (∅ : Environment).insertAll sets' ∧
      SortedMap.Holds ((∅ : Environment).insertAll sets) sets ∧
      (collect sets : Environment) = (∅ : Environment).insertAll sets ∧
      ∀ u : ServiceUnit, ({ u with environment := (∅ : Environment).insertAll sets }).render =
        ({ u with environment := collect sets' }).render) ∧
    ((∅ : Config).insertAll settings = (∅ : Config).insertAll settings' ∧
      SortedMap.Holds ((∅ : Config).insertAll settings) settings ∧
      (collect settings : Config) = (∅ : Config).insertAll settings ∧
      Config.settings ((∅ : Config).insertAll settings) = Config.settings (collect settings')) := by
  refine ⟨⟨same.insertAll_eq ∅, holds_insertAll sets, collect_eq_insertAll sets, fun u => ?_⟩,
    same_settings.insertAll_eq ∅, holds_insertAll settings, collect_eq_insertAll settings, ?_⟩
  · rw [collect_eq_insertAll, same.insertAll_eq]
  · rw [collect_eq_insertAll, same_settings.insertAll_eq]

open SortedMap in
/-- Two ways to set two variables and two settings, with values that are overwritten on the way. -/
theorem settings_in_two_orders :
    SameAtLast [("ZONE", "eu"), ("MODE", "cluster"), ("ZONE", "us")]
        [("MODE", "standalone"), ("ZONE", "us"), ("MODE", "cluster")] ∧
      SameAtLast [("title", Yaml.Value.text "Vault"), ("port", .int 80), ("port", .int 8080)]
        [("port", .int 8080), ("title", .text "Vault")] ∧
      (∅ : Environment).insertAll [("ZONE", "eu"), ("MODE", "cluster"), ("ZONE", "us")] =
        (∅ : Environment).insertAll [("MODE", "standalone"), ("ZONE", "us"), ("MODE", "cluster")] ∧
      ((∅ : Environment).insertAll [("ZONE", "eu"), ("MODE", "cluster"), ("ZONE", "us")]).get? "ZONE" =
        some "us" := by
  have same : SameAtLast [("ZONE", "eu"), ("MODE", "cluster"), ("ZONE", "us")]
      [("MODE", "standalone"), ("ZONE", "us"), ("MODE", "cluster")] := by
    intro name
    rcases eq_or_ne name "ZONE" with rfl | zone
    · rfl
    · rcases eq_or_ne name "MODE" with rfl | mode
      · rfl
      · simp [lastValue?, zone.symm, mode.symm]
  have same_settings : SameAtLast [("title", Yaml.Value.text "Vault"), ("port", .int 80), ("port", .int 8080)]
      [("port", .int 8080), ("title", .text "Vault")] := by
    intro name
    rcases eq_or_ne name "title" with rfl | title
    · rfl
    · rcases eq_or_ne name "port" with rfl | port
      · rfl
      · simp [lastValue?, title.symm, port.symm]
  obtain ⟨⟨environments, told, -⟩, -⟩ := settings_in_any_order _ _ _ _ same same_settings
  exact ⟨same, same_settings, environments, told.get?_eq "ZONE"⟩

end Upkeep
