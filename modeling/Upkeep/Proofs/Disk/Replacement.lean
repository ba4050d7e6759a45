import Upkeep.Proofs.Disk.Walk

/-! What replacing a file does to a disk. A replacement that fails has at most made directories; one
that goes well has put the file in place besides. The temporary file is gone in either case. -/
namespace Upkeep.Disk

variable {d d' : Disk} {l m : Location} {e : Entry} {name : String} {names : List String}
  {p q : Path} {content : ByteArray} {mode : Nat}

/-- Every entry lies in a directory. -/
def Grounded (d : Disk) : Prop :=
  ∀ l : Location, l.Proper → l.names ≠ [] → (d.get? l).isSome = true →
    d.get? l.above = some .directory

theorem LeadsTo.proper (leads : LeadsTo d p l name) : (l.child name).Proper := by
  obtain ⟨above, steps, walk⟩ := leads.steps
  have own : ∀ other ∈ above ++ [name], IsEntryName other :=
    fun other member => isEntryName_of_mem_stepsOf (steps ▸ member)
  obtain ⟨before, last⟩ := List.forall_mem_append.mp own
  exact (proper_of_walk (startOf_proper p) before walk).child (last name List.mem_cons_self)

theorem get?_put_of_kept (inner : l.names ≠ []) (kept : d.get? l ≠ some .directory)
    (directory : d.get? m = some .directory) : (d.put l e).get? m = some .directory := by
  by_cases top : m.names = []
  · simp only [get?, top, ↓reduceIte]
  · rw [get?_put top]
    split
    · rename_i same
      rw [get?_of_inner top, ← same, ← get?_of_inner inner] at directory
      exact absurd directory kept
    · exact directory

/-- A disk stays grounded when an entry is put into a directory in place of what is none. -/
theorem Grounded.put_child (grounded : d.Grounded) (proper : (l.child name).Proper)
    (directory : d.get? l = some .directory) (kept : d.get? (l.child name) ≠ some .directory) :
    (d.put (l.child name) e).Grounded := by
  intro m properM inner there
  refine get?_put_of_kept (Location.names_child_ne_nil l name) kept ?_
  rw [get?_put inner] at there
  split at there
  · rename_i same
    rw [← Location.key_injective proper properM same, Location.above_child]
    exact directory
  · exact grounded m properM inner there

theorem grounded_empty : (∅ : Disk).Grounded := by
  intro l proper inner there
  rw [get?_of_inner inner] at there
  cases there

/-- A disk with all the entries of another one, and directories besides. -/
structure Extends (d d' : Disk) : Prop where
  kept : ∀ {l e}, d.get? l = some e → d'.get? l = some e
  made : ∀ {l e}, d'.get? l = some e → d.get? l = some e ∨ e = .directory
  grounded : d.Grounded → d'.Grounded

namespace Extends

theorem refl (d : Disk) : Extends d d :=
  ⟨id, .inl, id⟩

theorem trans {d'' : Disk} (first : Extends d d') (second : Extends d' d'') : Extends d d'' where
  kept there := second.kept (first.kept there)
  made there := by
    rcases second.made there with there | made
    · exact first.made there
    · exact .inr made
  grounded start := second.grounded (first.grounded start)

theorem put_directory (leads : LeadsTo d p l name) (free : d.get? (l.child name) = none) :
    Extends d (d.put (l.child name) .directory) where
  kept {m e} there := by
    by_cases top : m.names = []
    · simpa only [get?, top, ↓reduceIte] using there
    · rw [get?_put top]
      split
      · rename_i same
        rw [get?_of_inner top, ← same, ← get?_of_inner (Location.names_child_ne_nil l name)] at there
        cases free.symm.trans there
      · exact there
  made {m e} there := by
    by_cases top : m.names = []
    · simp only [get?, top, ↓reduceIte] at there
      exact .inr (Option.some.inj there).symm
    · rw [get?_put top] at there
      split at there
      · exact .inr (Option.some.inj there).symm
      · exact .inl there
  grounded start := start.put_child leads.proper leads.directory (by simp [free])

end Extends

/-- A directory that is made stands at a place that was free. -/
theorem leadsTo_of_makeDirectory (made : d.makeDirectory p = .ok d') :
    ∃ l name, LeadsTo d p l name ∧ d.get? (l.child name) = none ∧
      d' = d.put (l.child name) .directory := by
  unfold makeDirectory at made
  cases resolved : d.resolveNew p with
  | error fault => simp [resolved, bind, Except.bind] at made
  | ok place =>
    obtain ⟨l, name⟩ := place
    cases name with
    | none => simp [resolved, bind, Except.bind] at made
    | some name =>
      simp only [resolved, bind, Except.bind] at made
      split at made
      · cases made
      · rename_i free
        cases made
        exact ⟨l, name, leadsTo_of_resolveNew resolved, by simpa using free, rfl⟩

theorem extends_of_makeDirectory (made : d.makeDirectory p = .ok d') : Extends d d' := by
  obtain ⟨l, name, leads, free, rfl⟩ := leadsTo_of_makeDirectory made
  exact .put_directory leads free

theorem extends_makeDirectoriesWith (fuel : Nat) (d : Disk) (p : Path) :
    Extends d (makeDirectoriesWith fuel d p).1 := by
  induction fuel generalizing d p with
  | zero => exact .refl d
  | succ fuel ih =>
    unfold makeDirectoriesWith
    split
    · exact .refl d
    · split
      · rename_i made done
        exact extends_of_makeDirectory done
      · split
        · exact .refl d
        · rename_i parent above
          have first := ih d parent
          split
          · rename_i failed
            exact failed ▸ first
          · rename_i made parents
            rw [parents] at first
            split
            · rename_i done
              exact first.trans (extends_of_makeDirectory done)
            · split <;> exact first
      · split <;> exact .refl d

theorem extends_makeDirectories (d : Disk) (p : Path) : Extends d (d.makeDirectories p).1 :=
  extends_makeDirectoriesWith _ d p

private theorem temporaryName_injective {n k : Nat} (same : temporaryName n = temporaryName k) :
    n = k := by
  unfold temporaryName at same
  have digits : Nat.toDigits 10 n = Nat.toDigits 10 k := by
    simpa using congrArg String.toList same
  rw [← Nat.ofDigitChars_toDigits (by decide : 1 < 10) (by decide : 10 ≤ 10) (n := n), digits,
    Nat.ofDigitChars_toDigits (by decide) (by decide)]

/-- Children of one place differ in their keys as they differ in their names. -/
private theorem name_of_key_child {other : String} (same : (l.child name).key = (l.child other).key) :
    name = other := by
  have text := (String.append_right_inj _).mp same
  by_cases top : l.names = []
  · simpa [Location.child, top] using text
  · simp only [Location.child, String.intercalate_append_of_ne_nil top (List.cons_ne_nil _ _),
      String.intercalate_singleton] at text
    exact (String.append_right_inj _).mp text

/-- Of so many names, one is free for the temporary file and is not that of the target. -/
theorem freshName_spec (d : Disk) (l : Location) (target : String) :
    d.freshName l target ≠ target ∧ d.get? (l.child (d.freshName l target)) = none := by
  unfold freshName
  generalize names : (List.range (d.entries.size + 2)).map temporaryName = candidates
  cases found : candidates.find? fun name => name != target && (d.get? (l.child name)).isNone with
  | some name =>
    have free := List.find?_some found
    simp only [Bool.and_eq_true, bne_iff_ne, Option.isNone_iff_eq_none] at free
    simpa only [found, Option.getD_some] using free
  | none =>
    -- were every name taken, the disk would have more keys than entries
    have distinct : candidates.Nodup := by
      rw [← names]
      exact List.pairwise_map.mpr (List.nodup_range.imp fun differ same =>
        differ (temporaryName_injective same))
    have taken : ((candidates.erase target).map fun name => (l.child name).key) ⊆ d.entries.names := by
      intro key member
      obtain ⟨name, listed, rfl⟩ := List.mem_map.mp member
      rw [distinct.erase_eq_filter] at listed
      obtain ⟨candidate, other⟩ := List.mem_filter.mp listed
      have there := List.find?_eq_none.mp found name candidate
      simp only [other, Bool.true_and, Option.isNone_iff_eq_none] at there
      rw [get?_of_inner (Location.names_child_ne_nil l name)] at there
      obtain ⟨entry, there⟩ := Option.ne_none_iff_exists'.mp there
      exact List.mem_map.mpr ⟨(_, entry), SortedMap.mem_toList_iff.mpr there, rfl⟩
    have keys : ((candidates.erase target).map fun name => (l.child name).key).Nodup :=
      List.pairwise_map.mpr ((distinct.erase target).imp fun differ same =>
        differ (name_of_key_child same))
    have few := keys.length_le_of_subset taken
    have many : candidates.length = d.entries.size + 2 := by simp [← names]
    simp only [List.length_map, List.length_erase, SortedMap.names] at few
    unfold SortedMap.size at many
    split at few <;> omega

theorem get?_temporary (d : Disk) (l : Location) (p : Path) : d.get? (d.temporary l p) = none :=
  (d.freshName_spec l _).2

theorem clear_put (free : d.get? l = none) (inner : l.names ≠ []) :
    (d.put l e).clear l = d := by
  refine congrArg Disk.mk (SortedMap.ext fun key => ?_)
  rw [get?_of_inner inner] at free
  simp only [put, SortedMap.get?_erase, SortedMap.get?_insert]
  split
  · rename_i same
    rw [← same, free]
  · rfl

theorem put_put (e' : Entry) : (d.put l e).put l e' = d.put l e' := by
  refine congrArg Disk.mk (SortedMap.ext fun key => ?_)
  simp only [put, SortedMap.get?_insert]
  split <;> rfl

/-- A path at which a file was put in place: it does not end in a slash or a dot, and the last of its
names leads from a directory to the place of the file. -/
structure Placed (d : Disk) (p : Path) (content : ByteArray) (mode : Nat) (d' : Disk) : Prop where
  place : ∃ l name, LeadsTo d p l name ∧ d.get? (l.child name) ≠ some .directory ∧
    d' = d.put (l.child name) (.file (keptMode mode) content)
  closed : endsOpen p = false

/-- What a replacement leaves behind. -/
inductive Replacing (d : Disk) (p : Path) (content : ByteArray) (mode : Nat) :
    Disk × Except Fault Unit → Prop where
  | failed {made : Disk} (grown : Extends d made) (fault : Fault) :
      Replacing d p content mode (made, .error fault)
  | done {made d' : Disk} (grown : Extends d made) (placed : Placed made p content mode d') :
      Replacing d p content mode (d', .ok ())

private theorem mapError_ok {ε δ α : Type} (f : ε → δ) (a : α) :
    (Except.ok a).mapError f = .ok a :=
  rfl

private theorem mapError_error {ε δ α : Type} (f : ε → δ) (e : ε) :
    (Except.error e : Except ε α).mapError f = .error (f e) :=
  rfl

theorem renameTarget_eq_ok (found : d.renameTarget p = .ok m) :
    ∃ l name, LeadsTo d p l name ∧ p.text.toList.getLast? ≠ some '/' ∧
      d.get? (l.child name) ≠ some .directory ∧ m = l.child name := by
  unfold renameTarget at found
  cases resolved : d.resolveNew p with
  | error fault => simp [resolved, bind, Except.bind, mapError_error] at found
  | ok place =>
    obtain ⟨l, name⟩ := place
    cases name with
    | none => simp [resolved, bind, Except.bind, mapError_ok] at found
    | some name =>
      simp only [resolved, bind, Except.bind, mapError_ok] at found
      split at found
      · cases found
      · rename_i noSlash
        split at found
        · cases found
        · rename_i noDirectory
          cases found
          exact ⟨l, name, leadsTo_of_resolveNew resolved, by simpa using noSlash,
            by simpa using noDirectory, rfl⟩

/-- A file at a free place hides no directory and makes none. -/
private theorem directory_put_file (free : d.get? l = none) (inner : l.names ≠ []) :
    (d.put l (.file mode content)).get? m = some .directory ↔ d.get? m = some .directory := by
  refine ⟨fun directory => ?_, get?_put_of_kept inner (by simp [free])⟩
  by_cases top : m.names = []
  · simp only [get?, top, ↓reduceIte]
  · rw [get?_put top] at directory
    split at directory
    · cases directory
    · exact directory

/-- A file that was renamed to a path is in place, and gone from where it was. -/
theorem placed_of_rename {t : Location} (free : d.get? t = none) (inner : t.names ≠ [])
    (renamed : (d.put t (.file (keptMode mode) content)).rename t p = .ok d') :
    Placed d p content mode d' := by
  unfold rename at renamed
  cases found : (d.put t (.file (keptMode mode) content)).renameTarget p with
  | error fault => simp [found, bind, Except.bind] at renamed
  | ok target =>
    obtain ⟨l, name, leads, noSlash, noDirectory, rfl⟩ := renameTarget_eq_ok found
    simp only [found, bind, Except.bind, get?_put inner, ↓reduceIte, clear_put free inner] at renamed
    cases renamed
    refine ⟨⟨l, name, ?_, ?_, rfl⟩, leads.closed noSlash⟩
    · exact leads.of_directories fun m => (directory_put_file free inner).mp
    · exact fun directory => noDirectory ((directory_put_file free inner).mpr directory)

/-- Whatever the system refuses, a replacement puts the file in place or has at most made
directories. -/
theorem replacing (refuse : ReplaceStep → Option Fault) (d : Disk) (p : Path) (content : ByteArray)
    (mode : Nat) : Replacing d p content mode (replaceWith refuse d p content mode) := by
  have parents := extends_makeDirectories d p.directory
  unfold replaceWith
  split
  · exact .failed (.refl d) _
  · rename_i made fault allowed failed
    exact .failed (by simpa [failed] using parents) _
  · rename_i made allowed done
    have parents : Extends d made := by simpa [done] using parents
    split
    · exact .failed parents _
    · exact .failed parents _
    · rename_i l _ _
      have free := get?_temporary made l p
      have inner : (made.temporary l p).names ≠ [] := Location.names_child_ne_nil _ _
      simp only [withTemporary, put_put, clear_put free inner]
      split
      · exact .failed parents _
      · exact .failed parents _
      · exact .failed parents _
      · exact .failed parents _
      · rename_i renamed
        exact .done parents (placed_of_rename free inner renamed)

/-- A replacement that fails leaves the disk as it was, or with the directories above the path. -/
theorem eq_of_refused {refuse : ReplaceStep → Option Fault} {fault : Fault}
    (refused : replaceWith refuse d p content mode = (d', .error fault)) :
    d' = d ∨ d' = (d.makeDirectories p.directory).1 := by
  unfold replaceWith at refused
  split at refused
  · cases refused
    exact .inl rfl
  · rename_i made reason allowed failed
    cases refused
    exact .inr (by rw [failed])
  · rename_i made allowed done
    right
    rw [done]
    split at refused
    · cases refused
      rfl
    · cases refused
      rfl
    · rename_i l _ _
      have free := get?_temporary made l p
      have inner : (made.temporary l p).names ≠ [] := Location.names_child_ne_nil _ _
      simp only [withTemporary, put_put, clear_put free inner] at refused
      split at refused <;> cases refused <;> rfl

/-- Where no temporary file can be made, the directories above the path are all that is left. -/
theorem exists_refused (d : Disk) (p : Path) (content : ByteArray) (mode : Nat) :
    ∃ refuse fault, replaceWith refuse d p content mode =
      ((d.makeDirectories p.directory).1, .error fault) := by
  refine ⟨fun step => if step = .createTemporary then some .denied else none, ?_⟩
  simp only [replaceWith, reduceCtorEq, ↓reduceIte]
  cases ran : d.makeDirectories p.directory with
  | mk made result =>
    cases result with
    | error fault => exact ⟨fault, rfl⟩
    | ok done => exact ⟨.denied, rfl⟩

end Upkeep.Disk
