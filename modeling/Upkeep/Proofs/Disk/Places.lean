import Upkeep.Disk.Replace

/-! Places by their keys. A disk keeps its entries under keys, which are texts; two places whose
names are names of directory entries have the same key only if they are the same place. -/
namespace Upkeep

/-- What an entry of a directory may be called. -/
structure IsEntryName (name : String) : Prop where
  notEmpty : name ≠ ""
  noSlash : '/' ∉ name.toList

namespace Location

/-- Every name on the way to a place is one that an entry may have. -/
def Proper (l : Location) : Prop :=
  ∀ name ∈ l.names, IsEntryName name

theorem Proper.above {l : Location} (proper : l.Proper) : l.above.Proper :=
  fun name member => proper name (List.dropLast_subset _ member)

theorem Proper.child {l : Location} {name : String} (proper : l.Proper) (own : IsEntryName name) :
    (l.child name).Proper := by
  intro other member
  rcases List.mem_append.mp member with member | member
  · exact proper other member
  · exact List.mem_singleton.mp member ▸ own

@[simp]
theorem names_child_ne_nil (l : Location) (name : String) : (l.child name).names ≠ [] := by
  simp [child]

@[simp]
theorem above_child (l : Location) (name : String) : (l.child name).above = l := by
  simp [child, above]

/-- The text of names starts with the first of them. -/
private theorem intercalate_eq_cons {name : String} {names : List String} (own : IsEntryName name) :
    ∃ first rest, first ≠ '/' ∧
      ['/'].intercalate ((name :: names).map String.toList) = first :: rest := by
  cases chars : name.toList with
  | nil => exact absurd (String.toList_eq_nil_iff.mp chars) own.notEmpty
  | cons first rest =>
    have noSlash := own.noSlash
    rw [chars] at noSlash
    have other : first ≠ '/' := fun same => noSlash (same ▸ List.mem_cons_self)
    cases names with
    | nil => exact ⟨first, rest, other, by simp [chars]⟩
    | cons next names => exact ⟨first, _, other, by simp [chars]; rfl⟩

private theorem names_of_intercalate {names others : List String}
    (proper : ∀ name ∈ names, IsEntryName name) (proper' : ∀ name ∈ others, IsEntryName name)
    (same : ['/'].intercalate (names.map String.toList) =
      ['/'].intercalate (others.map String.toList)) : names = others := by
  cases names with
  | nil =>
    cases others with
    | nil => rfl
    | cons other others =>
      obtain ⟨first, rest, -, text⟩ := intercalate_eq_cons (proper' other List.mem_cons_self)
      cases same.trans text
  | cons name names =>
    cases others with
    | nil =>
      obtain ⟨first, rest, -, text⟩ := intercalate_eq_cons (proper name List.mem_cons_self)
      cases text.symm.trans same
    | cons other others =>
      have pieces := congrArg (List.splitOn '/') same
      rw [List.splitOn_intercalate _ ?_ (by simp), List.splitOn_intercalate _ ?_ (by simp)] at pieces
      · exact (List.map_inj_right fun _ _ => String.toList_inj.mp).mp pieces
      · intro chars member
        obtain ⟨name, listed, rfl⟩ := List.mem_map.mp member
        exact (proper' name listed).noSlash
      · intro chars member
        obtain ⟨name, listed, rfl⟩ := List.mem_map.mp member
        exact (proper name listed).noSlash

private theorem relative_ne_absolute {names others : List String}
    (proper : ∀ name ∈ names, IsEntryName name)
    (same : ['/'].intercalate (names.map String.toList) =
      '/' :: ['/'].intercalate (others.map String.toList)) : False := by
  cases names with
  | nil => cases same
  | cons name names =>
    obtain ⟨first, rest, other, text⟩ := intercalate_eq_cons (proper name List.mem_cons_self)
    exact other (List.cons.inj (text.symm.trans same)).1

private theorem toList_key (l : Location) : l.key.toList =
    (if l.absolute then ['/'] else []) ++ ['/'].intercalate (l.names.map String.toList) := by
  unfold key
  cases l.absolute <;> simp

/-- Proper places with the same key are the same place. -/
theorem key_injective {l m : Location} (properL : l.Proper) (properM : m.Proper)
    (same : l.key = m.key) : l = m := by
  have chars := congrArg String.toList same
  rw [toList_key, toList_key] at chars
  obtain ⟨absolute, names⟩ := l
  obtain ⟨absolute', names'⟩ := m
  cases absolute <;> cases absolute'
  · exact congrArg (Location.mk false) (names_of_intercalate properL properM chars)
  · exact (relative_ne_absolute properL chars).elim
  · exact (relative_ne_absolute properM chars.symm).elim
  · exact congrArg (Location.mk true)
      (names_of_intercalate properL properM (List.cons.inj chars).2)

end Location

end Upkeep
