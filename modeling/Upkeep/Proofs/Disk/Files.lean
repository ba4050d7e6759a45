import Upkeep.Proofs.Disk.Contents
import Upkeep.Proofs.Path

/-! Files by their places. A path that leads anywhere leads to one place, which the path alone
decides. Replacing what one path names concerns the file at its place and no other file, also where
paths go up again and where directories have to be made first. -/
namespace Upkeep

/-- The place that is one name further; two dots lead up. -/
def Location.next (l : Location) (name : String) : Location :=
  if name = ".." then l.above else l.child name

/-- The place that a path leads to if it leads anywhere. -/
def Path.place (p : Path) : Location :=
  (Disk.stepsOf p).foldl Location.next (Disk.startOf p)

/-- The mode and the content of the file at a place, if there is a file. -/
def Disk.file? (d : Disk) (l : Location) : Option (Nat × ByteArray) :=
  match d.get? l with
  | some (.file mode content) => some (mode, content)
  | _ => none

namespace Location

variable {l : Location} {name : String} {names : List String}

theorem next_of_ne (notUp : name ≠ "..") : l.next name = l.child name := by
  simp only [next, notUp, ↓reduceIte]

theorem Proper.next (proper : l.Proper) (own : IsEntryName name) : (l.next name).Proper := by
  unfold Location.next
  split
  · exact proper.above
  · exact proper.child own

theorem Proper.foldl_next (proper : l.Proper) (own : ∀ name ∈ names, IsEntryName name) :
    (names.foldl Location.next l).Proper := by
  induction names generalizing l with
  | nil => exact proper
  | cons name names ih =>
    obtain ⟨first, later⟩ := List.forall_mem_cons.mp own
    exact ih (proper.next first) later

end Location

namespace Disk

variable {d d' : Disk} {l m : Location} {name : String} {names : List String} {p q : Path}
  {content other : ByteArray} {mode : Nat}

theorem place_proper (p : Path) : p.place.Proper :=
  (startOf_proper p).foldl_next fun _ => isEntryName_of_mem_stepsOf

/-- The last name on the way to a place ends as the path does, unless the path is open. -/
theorem getLast?_place {last : Char} (ends : p.text.toList.getLast? = some last)
    (noSlash : last ≠ '/') (noDot : last ≠ '.') :
    ∃ name, p.place.names.getLast? = some name ∧ name.toList.getLast? = some last := by
  obtain ⟨piece, within, free⟩ := Path.EndsIn.exists_piece p.text.toList
  have own : piece.getLast? = some last := by
    rw [within.getLast?_eq (by rw [ends]; simpa using noSlash), ends]
  obtain ⟨above, pieces⟩ := List.getLast?_eq_some_iff.mp (within.getLast?_splitOn free)
  have said : Path.isEmptyPiece piece = false := by
    refine Bool.or_eq_false_iff.mpr ⟨beq_eq_false_iff_ne.mpr ?_, beq_eq_false_iff_ne.mpr ?_⟩
    · rintro rfl
      cases own
    · rintro rfl
      exact noDot (Option.some.inj own).symm
  have notUp : String.ofList piece ≠ ".." := by
    intro up
    have chars : piece = ['.', '.'] := by simpa using congrArg String.toList up
    rw [chars] at own
    exact noDot (Option.some.inj own).symm
  refine ⟨String.ofList piece, ?_, by rw [String.toList_ofList, own]⟩
  unfold Path.place stepsOf
  rw [pieces, List.filter_append, List.map_append, List.foldl_append]
  simp [said, Location.next_of_ne notUp, Location.child]

theorem file?_eq_some {file : Nat × ByteArray} :
    d.file? l = some file ↔ d.get? l = some (.file file.1 file.2) := by
  unfold file?
  split
  · rename_i mode content there
    rw [there, Option.some.injEq, Option.some.injEq, Entry.file.injEq, Prod.ext_iff]
  · rename_i noFile
    constructor
    · intro found
      cases found
    · intro there
      exact absurd there (noFile file.1 file.2)

/-- A step that succeeds goes to the place that the name decides. -/
theorem eq_of_step (step : d.step l name = .ok m) : m = l.next name := by
  obtain ⟨-, ⟨rfl, rfl⟩ | ⟨notUp, -, -, rfl⟩⟩ := step_eq_ok.mp step
  · rfl
  · exact (Location.next_of_ne notUp).symm

/-- A walk that succeeds ends at the place that the names decide. -/
theorem eq_of_walk (walk : d.walk l names = .ok m) : m = names.foldl Location.next l := by
  induction names generalizing l with
  | nil =>
    cases walk
    rfl
  | cons name names ih =>
    obtain ⟨next, step, rest⟩ := walk_cons_eq_ok.mp walk
    rw [ih rest, eq_of_step step]
    rfl

theorem LeadsTo.place_eq (leads : LeadsTo d p l name) : p.place = l.child name := by
  obtain ⟨above, steps, walk⟩ := leads.steps
  unfold Path.place
  rw [steps, List.foldl_append, ← eq_of_walk walk, List.foldl_cons, List.foldl_nil,
    Location.next_of_ne leads.notUp]

/-- A path that resolves can be walked. -/
theorem walk_of_resolve (resolved : d.resolve p = .ok l) : d.walk (startOf p) (stepsOf p) = .ok l := by
  unfold resolve at resolved
  cases accepted : accept p with
  | error fault => simp [accepted, bind, Except.bind] at resolved
  | ok done =>
    cases walk : d.walk (startOf p) (stepsOf p) with
    | error fault => simp [accepted, walk, bind, Except.bind] at resolved
    | ok m =>
      simp only [accepted, walk, bind, Except.bind] at resolved
      split at resolved
      · split at resolved
        · cases resolved
        · exact resolved
      · exact resolved

/-- A path that resolves leads to its place. -/
theorem eq_of_resolve (resolved : d.resolve p = .ok l) : l = p.place :=
  eq_of_walk (walk_of_resolve resolved)

/-- A path whose content can be read names the file at its place. -/
theorem file?_of_content? (found : d.content? p = some content) :
    ∃ mode, d.file? p.place = some (mode, content) := by
  obtain ⟨-, -, l, mode, walk, there⟩ := read_eq_ok.mp (content?_eq_some.mp found)
  refine ⟨mode, file?_eq_some.mpr ?_⟩
  rw [← there]
  exact congrArg d.get? (eq_of_walk walk).symm

/-- Directories that are made leave all files as they are. -/
theorem Extends.file?_eq (grown : Extends d d') : d'.file? l = d.file? l := by
  apply Option.ext
  intro file
  rw [file?_eq_some, file?_eq_some]
  constructor
  · intro there
    rcases grown.made there with kept | directory
    · exact kept
    · cases directory
  · exact grown.kept

/-- The path of a file that was put in place leads to the file. -/
theorem Placed.resolve (placed : Placed d p content mode d') :
    d'.resolve p = .ok p.place ∧ d'.get? p.place = some (.file (keptMode mode) content) := by
  obtain ⟨accepted, m, walk, there⟩ := placed.walk
  obtain rfl : m = p.place := eq_of_walk walk
  refine ⟨?_, there⟩
  unfold Disk.resolve
  simp only [accepted, walk, there, placed.closed, bind, Except.bind, Bool.false_eq_true, ↓reduceIte]

theorem Placed.file?_self (placed : Placed d p content mode d') :
    d'.file? p.place = some (keptMode mode, content) :=
  file?_eq_some.mpr placed.resolve.2

theorem Placed.file?_other (placed : Placed d p content mode d') (proper : l.Proper)
    (apart : l ≠ p.place) : d'.file? l = d.file? l := by
  obtain ⟨⟨m, name, leads, -, rfl⟩, -⟩ := placed
  rw [leads.place_eq] at apart
  have elsewhere : (m.child name).key ≠ l.key := by
    intro same
    exact apart (Location.key_injective leads.proper proper same).symm
  unfold file?
  by_cases top : l.names = []
  · simp only [get?, top, ↓reduceIte]
  · rw [get?_put top, if_neg elsewhere]

/-- However a replacement ends, the files at all other places are as they were. -/
theorem Replacing.file?_other {result : Except Fault Unit}
    (replacing : Replacing d p content mode (d', result)) (proper : l.Proper)
    (apart : l ≠ p.place) : d'.file? l = d.file? l := by
  cases replacing with
  | failed grown fault => exact grown.file?_eq
  | done grown placed => rw [placed.file?_other proper apart, grown.file?_eq]

theorem file?_replace (proper : l.Proper) (apart : l ≠ p.place) :
    (d.replace p content mode).1.file? l = d.file? l := by
  have replacing : Replacing d p content mode (d.replace p content mode) := replacing _ d p content mode
  exact replacing.file?_other proper apart

/-- However a replacement ends, the file is as it was or as it shall be. -/
theorem Replacing.file?_self {result : Except Fault Unit}
    (replacing : Replacing d p content mode (d', result)) :
    d'.file? p.place = d.file? p.place ∨
      result = .ok () ∧ d'.file? p.place = some (keptMode mode, content) := by
  cases replacing with
  | failed grown fault => exact .inl grown.file?_eq
  | done grown placed => exact .inr ⟨rfl, placed.file?_self⟩

/-- A disk that has the directories of another one, and no fewer entries. -/
structure Passable (d d' : Disk) : Prop where
  directories : ∀ l, d.get? l = some .directory → d'.get? l = some .directory
  entries : ∀ l, (d.get? l).isSome = true → (d'.get? l).isSome = true

/-- A walk leads to the same place on such a disk. -/
theorem Passable.walk (passable : Passable d d') (walk : d.walk l names = .ok m) :
    d'.walk l names = .ok m := by
  induction names generalizing l with
  | nil => exact walk
  | cons name names ih =>
    obtain ⟨next, step, rest⟩ := walk_cons_eq_ok.mp walk
    refine walk_cons_eq_ok.mpr ⟨next, ?_, ih rest⟩
    obtain ⟨start, up | ⟨notUp, short, there, rfl⟩⟩ := step_eq_ok.mp step
    · exact step_eq_ok.mpr ⟨passable.directories l start, .inl up⟩
    · exact step_eq_ok.mpr
        ⟨passable.directories l start, .inr ⟨notUp, short, passable.entries _ there, rfl⟩⟩

/-- A path that could be read can be read as before if its file is the same. -/
theorem Passable.content?_eq (passable : Passable d d')
    (same : d'.file? q.place = d.file? q.place) (found : d.content? q = some other) :
    d'.content? q = some other := by
  obtain ⟨fileMode, file⟩ := file?_of_content? found
  rw [← same, file?_eq_some] at file
  obtain ⟨accepted, closed, l, mode, walk, there⟩ := read_eq_ok.mp (content?_eq_some.mp found)
  rw [content?_eq_some, read_eq_ok]
  refine ⟨accepted, closed, l, fileMode, passable.walk walk, ?_⟩
  rw [eq_of_walk walk]
  exact file

theorem Extends.passable (grown : Extends d d') : Passable d d' where
  directories _ := grown.kept
  entries l there := by
    obtain ⟨e, entry⟩ := Option.isSome_iff_exists.mp there
    rw [grown.kept entry]
    rfl

theorem Placed.passable (placed : Placed d p content mode d') : Passable d d' := by
  obtain ⟨⟨m, name, leads, noDirectory, rfl⟩, -⟩ := placed
  constructor
  · intro l
    exact get?_put_of_kept (Location.names_child_ne_nil m name) noDirectory
  · intro l there
    by_cases top : l.names = []
    · simpa only [get?, top, ↓reduceIte] using there
    · rw [get?_put top]
      split
      · rfl
      · exact there

theorem Replacing.passable {result : Except Fault Unit}
    (replacing : Replacing d p content mode (d', result)) : Passable d d' := by
  cases replacing with
  | failed grown fault => exact grown.passable
  | done grown placed =>
    constructor
    · intro l directory
      exact placed.passable.directories l (grown.passable.directories l directory)
    · intro l there
      exact placed.passable.entries l (grown.passable.entries l there)

/-- However a replacement ends, a path that names another file can be read as before. -/
theorem Replacing.content?_other {result : Except Fault Unit}
    (replacing : Replacing d p content mode (d', result)) (apart : q.place ≠ p.place)
    (found : d.content? q = some other) : d'.content? q = some other :=
  replacing.passable.content?_eq (replacing.file?_other (place_proper q) apart) found

/-- However a replacement ends, a file that had the content already still has it. -/
theorem Replacing.content?_again {result : Except Fault Unit}
    (replacing : Replacing d p content mode (d', result)) (found : d.content? p = some content) :
    d'.content? p = some content := by
  cases replacing with
  | failed grown fault => exact grown.passable.content?_eq grown.file?_eq found
  | done grown placed => exact placed.content?_self

end Disk

end Upkeep
