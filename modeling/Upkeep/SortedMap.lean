/-! Maps from names to values, kept as a list in strictly ascending name order. The order is
that of code points, which is also the byte order of the encoded names. Order and uniqueness
of the names are part of the type, so a map is determined by what it answers (`ext`). -/
namespace Upkeep

namespace Assoc

variable {α : Type}

/-- Sets one name in an ascending list of pairs. -/
def put (name : String) (value : α) : List (String × α) → List (String × α)
  | [] => [(name, value)]
  | (key, old) :: rest =>
    if name < key then (name, value) :: (key, old) :: rest
    else if name = key then (name, value) :: rest
    else (key, old) :: put name value rest

/-- The pairs are in strictly ascending name order. -/
def Ascending (pairs : List (String × α)) : Prop :=
  pairs.Pairwise fun a b => a.1 < b.1

theorem mem_put {name : String} {value : α} {pair : String × α} {pairs : List (String × α)}
    (h : pair ∈ put name value pairs) : pair = (name, value) ∨ pair ∈ pairs := by
  induction pairs with
  | nil => simpa [put] using h
  | cons head rest ih =>
    obtain ⟨key, old⟩ := head
    simp only [put] at h
    split at h
    · simpa using h
    · split at h
      · rcases List.mem_cons.1 h with h | h
        · exact .inl h
        · exact .inr (List.mem_cons_of_mem _ h)
      · rcases List.mem_cons.1 h with h | h
        · exact .inr (h ▸ List.mem_cons_self)
        · rcases ih h with h | h
          · exact .inl h
          · exact .inr (List.mem_cons_of_mem _ h)

theorem lt_of_not_lt_of_ne {a b : String} (h : ¬ a < b) (ne : a ≠ b) : b < a := by
  rcases String.le_total a b with le | le
  · exact absurd (String.le_antisymm le (String.not_lt.1 h)) ne
  · rcases Decidable.em (b < a) with lt | nlt
    · exact lt
    · exact absurd (String.le_antisymm (String.not_lt.1 nlt) le) ne

theorem ascending_put {name : String} {value : α} {pairs : List (String × α)}
    (h : Ascending pairs) : Ascending (put name value pairs) := by
  induction pairs with
  | nil => simp [put, Ascending]
  | cons head rest ih =>
    obtain ⟨key, old⟩ := head
    have ⟨below, sorted⟩ := List.pairwise_cons.1 h
    simp only [put]
    split
    · rename_i lt
      refine List.pairwise_cons.2 ⟨?_, h⟩
      intro pair mem
      rcases List.mem_cons.1 mem with rfl | mem
      · exact lt
      · exact String.lt_trans lt (below pair mem)
    · rename_i nlt
      split
      · rename_i same
        subst same
        exact List.pairwise_cons.2 ⟨below, sorted⟩
      · rename_i ne
        refine List.pairwise_cons.2 ⟨?_, ih sorted⟩
        intro pair mem
        rcases mem_put mem with rfl | mem
        · exact lt_of_not_lt_of_ne nlt ne
        · exact below pair mem

/-- The first value stored under a name. -/
def find? (name : String) : List (String × α) → Option α
  | [] => none
  | (key, value) :: rest => if key = name then some value else find? name rest

theorem find?_put (name other : String) (value : α) (pairs : List (String × α)) :
    find? other (put name value pairs) = if name = other then some value else find? other pairs := by
  induction pairs with
  | nil => rfl
  | cons head rest ih =>
    obtain ⟨key, old⟩ := head
    simp only [put]
    split
    · rfl
    · split
      · rename_i same
        subst same
        by_cases h : name = other <;> simp [find?, h]
      · rename_i ne
        by_cases h : name = other
        · subst h
          have : ¬ key = name := fun e => ne e.symm
          simp [find?, this, ih]
        · by_cases hk : key = other <;> simp [find?, hk, ih, h]

theorem find?_append (name : String) (first second : List (String × α)) :
    find? name (first ++ second) = (find? name first).or (find? name second) := by
  induction first with
  | nil => rfl
  | cons head rest ih =>
    obtain ⟨key, value⟩ := head
    by_cases h : key = name <;> simp [find?, h, ih]

theorem find?_eq_none_of_below {name : String} {pairs : List (String × α)}
    (h : ∀ pair ∈ pairs, name < pair.1) : find? name pairs = none := by
  induction pairs with
  | nil => rfl
  | cons head rest ih =>
    obtain ⟨key, value⟩ := head
    have ne : ¬ key = name := fun e => by
      have := h _ List.mem_cons_self
      subst e
      exact String.lt_irrefl _ this
    simp [find?, ne, ih fun pair mem => h pair (List.mem_cons_of_mem _ mem)]

theorem find?_eq_some_of_mem {pairs : List (String × α)} (h : Ascending pairs)
    {name : String} {value : α} (mem : (name, value) ∈ pairs) : find? name pairs = some value := by
  induction pairs with
  | nil => simp at mem
  | cons head rest ih =>
    obtain ⟨key, old⟩ := head
    have ⟨below, sorted⟩ := List.pairwise_cons.1 h
    rcases List.mem_cons.1 mem with e | mem
    · obtain ⟨rfl, rfl⟩ : name = key ∧ value = old := by simpa using e
      simp [find?]
    · have ne : ¬ key = name := fun e => by
        have := below _ mem
        subst e
        exact String.lt_irrefl _ this
      simp [find?, ne, ih sorted mem]

theorem mem_of_find?_eq_some {pairs : List (String × α)} {name : String} {value : α}
    (h : find? name pairs = some value) : (name, value) ∈ pairs := by
  induction pairs with
  | nil => simp [find?] at h
  | cons head rest ih =>
    obtain ⟨key, old⟩ := head
    by_cases e : key = name
    · subst e
      simp [find?] at h
      simp [h]
    · simp [find?, e] at h
      exact List.mem_cons_of_mem _ (ih h)

theorem eq_of_find?_eq {left right : List (String × α)} (hl : Ascending left)
    (hr : Ascending right) (same : ∀ name, find? name left = find? name right) : left = right := by
  induction left generalizing right with
  | nil =>
    cases right with
    | nil => rfl
    | cons head rest =>
      have := same head.1
      simp [find?] at this
  | cons head rest ih =>
    obtain ⟨key, value⟩ := head
    have ⟨below, sorted⟩ := List.pairwise_cons.1 hl
    cases right with
    | nil =>
      have := same key
      simp [find?] at this
    | cons head' rest' =>
      obtain ⟨key', value'⟩ := head'
      have ⟨below', sorted'⟩ := List.pairwise_cons.1 hr
      have inRight : (key, value) ∈ (key', value') :: rest' :=
        mem_of_find?_eq_some (by rw [← same key]; simp [find?])
      have inLeft : (key', value') ∈ (key, value) :: rest :=
        mem_of_find?_eq_some (by rw [same key']; simp [find?])
      have keys : key = key' := by
        rcases List.mem_cons.1 inRight with e | mem
        · exact (Prod.mk.inj e).1
        · rcases List.mem_cons.1 inLeft with e | mem'
          · exact (Prod.mk.inj e).1.symm
          · exact absurd (below' _ mem) (String.lt_asymm (below _ mem'))
      subst keys
      have values : value = value' := by
        have := same key
        simpa [find?] using this
      subst values
      congr 1
      refine ih sorted sorted' fun name => ?_
      by_cases e : key = name
      · subst e
        rw [find?_eq_none_of_below below, find?_eq_none_of_below below']
      · have := same name
        simpa [find?, e] using this

end Assoc

/-- A map from names to values whose entries stand in strictly ascending name order. -/
structure SortedMap (α : Type) where
  /-- The pairs of the map. -/
  entries : List (String × α)
  /-- Names ascend strictly, so each occurs once. -/
  ascending : Assoc.Ascending entries

namespace SortedMap

variable {α : Type}

instance [DecidableEq α] : DecidableEq (SortedMap α) := fun a b =>
  if h : a.entries = b.entries then
    .isTrue (by cases a; cases b; simp_all)
  else .isFalse fun e => h (e ▸ rfl)

instance : EmptyCollection (SortedMap α) := ⟨⟨[], .nil⟩⟩

instance : Inhabited (SortedMap α) := ⟨∅⟩

/-- Sets a name, replacing the value it had. -/
def insert (m : SortedMap α) (name : String) (value : α) : SortedMap α :=
  ⟨Assoc.put name value m.entries, Assoc.ascending_put m.ascending⟩

/-- The value of a name. -/
def get? (m : SortedMap α) (name : String) : Option α :=
  Assoc.find? name m.entries

/-- Whether a name has a value. -/
def contains (m : SortedMap α) (name : String) : Bool :=
  (m.get? name).isSome

/-- The pairs in ascending name order. -/
def toList (m : SortedMap α) : List (String × α) :=
  m.entries

/-- The names in ascending order. -/
def names (m : SortedMap α) : List String :=
  m.entries.map (·.1)

/-- The number of names. -/
def size (m : SortedMap α) : Nat :=
  m.entries.length

/-- Whether the map has no name. -/
def isEmpty (m : SortedMap α) : Bool :=
  m.entries.isEmpty

/-- Sets the pairs one after the other, so a later pair wins over an earlier one. -/
def insertAll (m : SortedMap α) (pairs : List (String × α)) : SortedMap α :=
  pairs.foldl (fun m pair => m.insert pair.1 pair.2) m

/-- The map of some pairs, of which the last one for a name counts. -/
def ofList (pairs : List (String × α)) : SortedMap α :=
  (∅ : SortedMap α).insertAll pairs

/-- The map with the entries that pass a test. -/
def filter (keep : String → α → Bool) (m : SortedMap α) : SortedMap α :=
  ⟨m.entries.filter fun pair => keep pair.1 pair.2, m.ascending.filter _⟩

/-- Forgets a name. -/
def erase (m : SortedMap α) (name : String) : SortedMap α :=
  m.filter fun key _ => key ≠ name

/-- Two maps that answer alike are equal. -/
theorem ext {a b : SortedMap α} (same : ∀ name, a.get? name = b.get? name) : a = b := by
  obtain ⟨left, hl⟩ := a
  obtain ⟨right, hr⟩ := b
  have := Assoc.eq_of_find?_eq hl hr same
  subst this
  rfl

@[simp]
theorem get?_empty (name : String) : (∅ : SortedMap α).get? name = none :=
  rfl

@[simp]
theorem get?_insert (m : SortedMap α) (name other : String) (value : α) :
    (m.insert name value).get? other = if name = other then some value else m.get? other :=
  Assoc.find?_put name other value m.entries

@[simp]
theorem insertAll_nil (m : SortedMap α) : m.insertAll [] = m :=
  rfl

@[simp]
theorem insertAll_cons (m : SortedMap α) (pair : String × α) (pairs : List (String × α)) :
    m.insertAll (pair :: pairs) = (m.insert pair.1 pair.2).insertAll pairs :=
  rfl

/-- The last of the pairs for a name gives its value. -/
theorem get?_insertAll (m : SortedMap α) (pairs : List (String × α)) (name : String) :
    (m.insertAll pairs).get? name = (Assoc.find? name pairs.reverse).or (m.get? name) := by
  induction pairs generalizing m with
  | nil => rfl
  | cons pair rest ih =>
    obtain ⟨key, value⟩ := pair
    rw [insertAll_cons, ih, get?_insert, List.reverse_cons, Assoc.find?_append, Option.or_assoc]
    by_cases same : key = name <;> simp [Assoc.find?, same]

/-- Pairs that are set once more change nothing. -/
@[simp]
theorem insertAll_insertAll_self (m : SortedMap α) (pairs : List (String × α)) :
    (m.insertAll pairs).insertAll pairs = m.insertAll pairs := by
  apply ext
  intro name
  rw [get?_insertAll, get?_insertAll]
  cases Assoc.find? name pairs.reverse <;> rfl

/-- Setting ascending pairs gives each name its one value. -/
theorem get?_insertAll_of_ascending {m : SortedMap α} {pairs : List (String × α)} {name : String}
    (ascending : Assoc.Ascending pairs) :
    (m.insertAll pairs).get? name = (Assoc.find? name pairs).or (m.get? name) := by
  induction pairs generalizing m with
  | nil => rfl
  | cons pair rest ih =>
    obtain ⟨key, value⟩ := pair
    have ⟨below, sorted⟩ := List.pairwise_cons.1 ascending
    rw [insertAll_cons, ih sorted, get?_insert]
    by_cases same : key = name
    · subst same
      simp [Assoc.find?, Assoc.find?_eq_none_of_below below]
    · simp [Assoc.find?, same]

/-- A name has a value after some are set if it had one or is among them. -/
theorem contains_insertAll {m : SortedMap α} {pairs : List (String × α)} {name : String} :
    (m.insertAll pairs).contains name = true ↔
      m.contains name = true ∨ name ∈ pairs.map (·.1) := by
  induction pairs generalizing m with
  | nil => simp
  | cons pair rest ih =>
    rw [insertAll_cons, ih, List.map_cons, List.mem_cons, ← or_assoc]
    apply or_congr_left
    by_cases same : pair.1 = name
    · simp [contains, same]
    · have other : ¬ name = pair.1 := fun e => same e.symm
      simp [contains, same, other]

/-- A map is the map of its pairs. -/
@[simp]
theorem ofList_toList (m : SortedMap α) : ofList m.toList = m := by
  apply ext
  intro name
  calc (ofList m.toList).get? name = (Assoc.find? name m.entries).or ((∅ : SortedMap α).get? name) :=
        get?_insertAll_of_ascending m.ascending
    _ = m.get? name := by rw [get?_empty, Option.or_none]; rfl

theorem mem_toList_iff {m : SortedMap α} {name : String} {value : α} :
    (name, value) ∈ m.toList ↔ m.get? name = some value :=
  ⟨Assoc.find?_eq_some_of_mem m.ascending, Assoc.mem_of_find?_eq_some⟩

theorem get?_filter (keep : String → α → Bool) (m : SortedMap α) (name : String) :
    (m.filter keep).get? name = (m.get? name).filter (keep name) := by
  refine Option.ext fun value => ?_
  rw [← mem_toList_iff, Option.filter_eq_some_iff, ← mem_toList_iff]
  exact List.mem_filter

@[simp]
theorem get?_erase (m : SortedMap α) (name other : String) :
    (m.erase name).get? other = if name = other then none else m.get? other := by
  rw [erase, get?_filter]
  by_cases h : name = other
  · subst h
    cases m.get? name <;> simp
  · have : ¬ other = name := fun e => h e.symm
    cases m.get? other <;> simp [h, this]

end SortedMap

end Upkeep
