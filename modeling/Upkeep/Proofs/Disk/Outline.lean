import Upkeep.Proofs.Disk.Files

/-! The outline of a disk: its directories, and its files with their modes but without what they
hold. Where paths lead, which directories are made and whether a file can be replaced is told by the
outline alone, so disks of one outline can only be told apart by reading their files. -/
namespace Upkeep

namespace SortedMap

variable {α β : Type} {f : α → β} {m : SortedMap α} {name : String} {value : α}

/-- A map with other values under the same names. -/
def map (f : α → β) (m : SortedMap α) : SortedMap β :=
  ⟨m.entries.map fun (name, value) => (name, f value), by
    unfold Assoc.Ascending
    exact List.pairwise_map.mpr m.ascending⟩

@[simp]
theorem get?_map : (m.map f).get? name = (m.get? name).map f := by
  change Assoc.find? name (m.entries.map _) = (Assoc.find? name m.entries).map f
  induction m.entries with
  | nil => rfl
  | cons pair rest ih =>
    obtain ⟨key, value⟩ := pair
    by_cases same : key = name
    · simp [Assoc.find?, same]
    · simpa [Assoc.find?, same] using ih

theorem map_insert : (m.insert name value).map f = (m.map f).insert name (f value) := by
  apply ext
  intro other
  rw [get?_map, get?_insert, get?_insert, get?_map]
  split <;> rfl

theorem map_erase : (m.erase name).map f = (m.map f).erase name := by
  apply ext
  intro other
  rw [get?_map, get?_erase, get?_erase, get?_map]
  split <;> rfl

theorem size_map : (m.map f).size = m.size :=
  List.length_map _

end SortedMap

/-- An entry without what it holds. -/
def Entry.outline : Entry → Entry
  | directory => directory
  | file mode _ => file mode .empty

namespace Disk

/-- A disk without what its files hold. -/
def outline (d : Disk) : Disk :=
  ⟨d.entries.map Entry.outline⟩

variable {d d' : Disk} {l : Location} {e : Entry} {p : Path} {content content' : ByteArray}
  {mode : Nat}

@[simp]
theorem get?_outline : d.outline.get? l = (d.get? l).map Entry.outline := by
  unfold get?
  split
  · rfl
  · exact SortedMap.get?_map

theorem outline_put : (d.put l e).outline = d.outline.put l e.outline :=
  congrArg Disk.mk SortedMap.map_insert

theorem outline_clear : (d.clear l).outline = d.outline.clear l :=
  congrArg Disk.mk SortedMap.map_erase

theorem step_outline (d : Disk) : d.outline.step = d.step := by
  funext l name
  unfold step
  rw [get?_outline, get?_outline, Option.isSome_map]
  cases d.get? l with
  | none => rfl
  | some e => cases e <;> rfl

theorem walk_outline (d : Disk) : d.outline.walk = d.walk := by
  funext l names
  rw [walk, walk, step_outline]

theorem resolve_outline (d : Disk) : d.outline.resolve = d.resolve := by
  funext p
  unfold resolve
  rw [walk_outline]
  refine congrArg _ (funext fun accepted => congrArg _ (funext fun l => ?_))
  rw [get?_outline]
  cases d.get? l with
  | none => rfl
  | some e => cases e <;> rfl

theorem isDirectory_outline : d.outline.isDirectory p = d.isDirectory p := by
  unfold isDirectory
  rw [resolve_outline]
  cases d.resolve p with
  | error fault => rfl
  | ok l =>
    simp only [get?_outline]
    cases d.get? l with
    | none => rfl
    | some e => cases e <;> rfl

theorem resolveNew_outline (d : Disk) : d.outline.resolveNew = d.resolveNew := by
  funext p
  unfold resolveNew
  rw [walk_outline]
  refine congrArg _ (funext fun accepted => ?_)
  dsimp only
  split
  · rfl
  · refine congrArg _ (funext fun l => ?_)
    rw [get?_outline]
    cases d.get? l with
    | none => rfl
    | some e => cases e <;> rfl

theorem makeDirectory_outline :
    d.outline.makeDirectory p = (d.makeDirectory p).map outline := by
  unfold makeDirectory
  rw [resolveNew_outline]
  cases d.resolveNew p with
  | error fault => rfl
  | ok place =>
    obtain ⟨l, name⟩ := place
    cases name with
    | none => rfl
    | some name =>
      simp only [bind, Except.bind, get?_outline, Option.isSome_map]
      split
      · rfl
      · exact congrArg Except.ok (outline_put (e := .directory)).symm

/-- What making directories does to the outline of a disk. -/
theorem makeDirectoriesWith_outline (fuel : Nat) (d : Disk) (p : Path) :
    d.outline.makeDirectoriesWith fuel p =
      ((d.makeDirectoriesWith fuel p).1.outline, (d.makeDirectoriesWith fuel p).2) := by
  induction fuel generalizing d p with
  | zero => rfl
  | succ fuel ih =>
    unfold makeDirectoriesWith
    split
    · rfl
    · rw [makeDirectory_outline, isDirectory_outline]
      cases d.makeDirectory p with
      | ok made => rfl
      | error fault =>
        simp only [Except.map]
        split
        · rename_i same
          cases same
        · cases p.parent? with
          | none => rfl
          | some parent =>
            dsimp only
            rw [ih d parent]
            generalize makeDirectoriesWith fuel d parent = parents
            obtain ⟨made, refused | done⟩ := parents
            · rfl
            · dsimp only
              rw [makeDirectory_outline, isDirectory_outline]
              cases made.makeDirectory p with
              | ok made => rfl
              | error fault =>
                simp only [Except.map]
                split <;> rfl
        · split <;> rfl

theorem makeDirectories_outline (d : Disk) (p : Path) : d.outline.makeDirectories p =
    ((d.makeDirectories p).1.outline, (d.makeDirectories p).2) :=
  makeDirectoriesWith_outline _ d p

theorem temporary_outline : d.outline.temporary l p = d.temporary l p := by
  have size : d.outline.entries.size = d.entries.size := SortedMap.size_map
  have free (name : String) :
      (d.outline.get? (l.child name)).isNone = (d.get? (l.child name)).isNone := by
    rw [get?_outline, Option.isNone_map]
  simp only [temporary, freshName, size, free]

theorem renameTarget_outline (d : Disk) : d.outline.renameTarget = d.renameTarget := by
  funext p
  unfold renameTarget
  rw [resolveNew_outline]
  refine congrArg _ (funext fun place => ?_)
  obtain ⟨l, name⟩ := place
  cases name with
  | none => rfl
  | some name =>
    have directory : (d.outline.get? (l.child name) == some .directory) =
        (d.get? (l.child name) == some .directory) := by
      rw [get?_outline]
      cases d.get? (l.child name) with
      | none => rfl
      | some e => cases e <;> rfl
    simp only [directory]

theorem rename_outline : d.outline.rename l p = (d.rename l p).map outline := by
  unfold rename
  rw [renameTarget_outline]
  cases d.renameTarget p with
  | error fault => rfl
  | ok target =>
    simp only [bind, Except.bind, get?_outline]
    cases d.get? l with
    | none => rfl
    | some e =>
      refine congrArg Except.ok ?_
      rw [outline_put, outline_clear]

/-- Replacing a file goes by the outline of a disk, whatever is written. -/
theorem replaceWith_outline (refuse : ReplaceStep → Option Fault) (d : Disk) (p : Path)
    (content : ByteArray) (mode : Nat) : d.outline.replaceWith refuse p .empty mode =
      ((d.replaceWith refuse p content mode).1.outline, (d.replaceWith refuse p content mode).2) := by
  unfold replaceWith
  rw [makeDirectories_outline]
  generalize d.makeDirectories p.directory = parents
  obtain ⟨made, fault | done⟩ := parents
  · cases refuse .makeDirectories <;> rfl
  · cases refuse .makeDirectories with
    | some fault => rfl
    | none =>
      dsimp only
      rw [resolve_outline]
      cases refuse .createTemporary with
      | some fault => rfl
      | none =>
        cases made.resolve p.directory with
        | error fault => rfl
        | ok l =>
          have file (d : Disk) (t : Location) (mode : Nat) (content : ByteArray) :
              d.outline.withTemporary t mode .empty = (d.withTemporary t mode content).outline :=
            (outline_put (e := .file mode content)).symm
          dsimp only
          rw [temporary_outline, file made _ _ .empty, file _ _ _ content, file _ _ _ content,
            rename_outline, ← outline_clear, ← outline_clear, ← outline_clear]
          generalize made.temporary l p = t
          generalize ((made.withTemporary t temporaryMode .empty).withTemporary t temporaryMode
            content).withTemporary t (keptMode mode) content = ready
          cases refuse .write with
          | some fault => rfl
          | none =>
            cases refuse .setMode with
            | some fault => rfl
            | none =>
              cases refuse .rename with
              | some fault => rfl
              | none => cases ready.rename t p <;> rfl

/-- On disks of one outline, a file is replaced on both or on neither, and what is left has one
outline again, whatever is written. -/
theorem replace_of_outline (same : d'.outline = d.outline) (p : Path) (content content' : ByteArray)
    (mode : Nat) :
    (d'.replace p content' mode).1.outline = (d.replace p content mode).1.outline ∧
      (d'.replace p content' mode).2 = (d.replace p content mode).2 := by
  have first := replaceWith_outline (fun _ => none) d p content mode
  have second := replaceWith_outline (fun _ => none) d' p content' mode
  rw [same, first] at second
  exact ⟨(congrArg Prod.fst second).symm, (congrArg Prod.snd second).symm⟩

/-- A file is replaced on both disks of one outline, or all files stay as they are on both. -/
theorem replace_cases_of_outline (same : d'.outline = d.outline) (p : Path)
    (content content' : ByteArray) (mode : Nat) :
    (∀ l, (d.replace p content mode).1.file? l = d.file? l ∧
        (d'.replace p content' mode).1.file? l = d'.file? l) ∨
      (d.replace p content mode).1.file? p.place = some (keptMode mode, content) ∧
        (d'.replace p content' mode).1.file? p.place = some (keptMode mode, content') := by
  have results := (replace_of_outline same p content content' mode).2
  have first : Replacing d p content mode (d.replace p content mode) := replacing _ d p content mode
  have second : Replacing d' p content' mode (d'.replace p content' mode) :=
    replacing _ d' p content' mode
  generalize d.replace p content mode = ended at first results
  generalize d'.replace p content' mode = ended' at second results
  cases first with
  | failed grown fault =>
    cases second with
    | failed grown' fault' => exact .inl fun l => ⟨grown.file?_eq, grown'.file?_eq⟩
    | done grown' placed' => cases results
  | done grown placed =>
    cases second with
    | failed grown' fault' => cases results
    | done grown' placed' => exact .inr ⟨placed.file?_self, placed'.file?_self⟩

/-- A path reads on both disks of one outline, or fails alike on both. -/
theorem read_cases (same : d'.outline = d.outline) (p : Path) :
    (∃ fault, d.read p = .error fault ∧ d'.read p = .error fault) ∨
      ∃ mode content content', d.read p = .ok content ∧ d'.read p = .ok content' ∧
        d.file? p.place = some (mode, content) ∧ d'.file? p.place = some (mode, content') := by
  have resolved : d'.resolve p = d.resolve p := by
    rw [← resolve_outline d', same, resolve_outline]
  unfold read
  rw [resolved]
  cases found : d.resolve p with
  | error fault => exact .inl ⟨fault, rfl, rfl⟩
  | ok l =>
    have entries : (d'.get? l).map Entry.outline = (d.get? l).map Entry.outline := by
      rw [← get?_outline, same, get?_outline]
    rw [← eq_of_resolve found]
    unfold file?
    simp only [bind, Except.bind]
    match here : d.get? l, there : d'.get? l with
    | none, none => exact .inl ⟨.noSuchFile, rfl, rfl⟩
    | some .directory, some .directory => exact .inl ⟨.isDirectory, rfl, rfl⟩
    | some (.file mode content), some (.file mode' content') =>
      rw [here, there] at entries
      cases entries
      exact .inr ⟨mode, content, content', rfl, rfl, rfl, rfl⟩
    | none, some e => simp [here, there] at entries
    | some e, none => simp [here, there] at entries
    | some .directory, some (.file mode content) => simp [here, there, Entry.outline] at entries
    | some (.file mode content), some .directory => simp [here, there, Entry.outline] at entries

/-- Where the same file lies at the place of a path, the path reads alike. -/
theorem read_of_outline (same : d'.outline = d.outline) (file : d'.file? p.place = d.file? p.place) :
    d'.read p = d.read p := by
  rcases read_cases same p with ⟨fault, failed, failed'⟩ | ⟨mode, content, content', ok, ok', there, there'⟩
  · rw [failed, failed']
  · rw [there, there'] at file
    cases file
    rw [ok, ok']

end Disk

end Upkeep
