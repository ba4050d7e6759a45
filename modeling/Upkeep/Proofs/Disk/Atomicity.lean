import Upkeep.Proofs.Disk.Agreement

/-! Replacing a file, step by step. The system makes directories, makes a temporary file, writes to it,
gives it its mode and renames it, and may refuse any of these steps, in the midst of a write as well.
Whoever looks at the disk in between finds the target as it was or as it shall be, and when the call has
come to its end, it has replaced the file or left nothing but directories. -/
namespace Upkeep

/-- A path, and the paths above it. -/
inductive Path.UpFrom (p : Path) : Path → Prop where
  | here : UpFrom p p
  | above {q r : Path} (lower : UpFrom p q) (parent : q.parent? = some r) : UpFrom p r

theorem Path.UpFrom.mem_way {p q : Path} {l : Location} (above : p.UpFrom q) (member : l ∈ q.way) :
    l ∈ p.way := by
  induction above with
  | here => exact member
  | above lower parent ih => exact ih (mem_way_of_parent? parent member)

namespace Disk

/-- How far the replacement of a file has come. -/
inductive ReplaceStage where
  /-- Directories that are missing are made. -/
  | paving
  /-- So many bytes have been written to the temporary file. -/
  | writing (temporary : Location) (count : Nat)
  /-- The content will outlast a crash. -/
  | synced (temporary : Location)
  /-- The temporary file has the mode of the target. -/
  | ready (temporary : Location)
  /-- A step was refused, and the temporary file is to be removed. -/
  | failed (temporary : Location) (fault : Fault)
  /-- The call has come to its end. -/
  | ended (result : Except Fault Unit)

/-- The temporary file that is worked on. -/
def ReplaceStage.working? : ReplaceStage → Option Location
  | writing t _ | synced t | ready t => some t
  | paving | failed _ _ | ended _ => none

/-- A name for a temporary file beside the target. -/
structure IsFreshName (d : Disk) (l : Location) (p : Path) (name : String) : Prop where
  own : IsEntryName name
  free : d.get? (l.child name) = none
  other : name ≠ (stepsOf p).getLastD ""

/-- The name that is picked for the temporary file is such a name. -/
theorem isFreshName_freshName (d : Disk) (l : Location) (p : Path) :
    d.IsFreshName l p (d.freshName l ((stepsOf p).getLastD "")) where
  own := d.isEntryName_freshName l _
  free := (d.freshName_spec l _).2
  other := (d.freshName_spec l _).1

/-- What the system may do next, and what that does to the disk. It works on what is there: a write adds
to the bytes of the temporary file, a change of the mode keeps them. -/
inductive ReplaceMove (p : Path) (content : ByteArray) (mode : Nat) :
    ReplaceStage → Disk → ReplaceStage → Disk → Prop where
  | paved {d d' : Disk} {q : Path} (above : p.directory.UpFrom q) (made : d.makeDirectory q = .ok d') :
      ReplaceMove p content mode .paving d .paving d'
  | unpaved (d : Disk) (fault : Fault) : ReplaceMove p content mode .paving d (.ended (.error fault)) d
  | created {d : Disk} {l : Location} {name : String} (resolved : d.resolve p.directory = .ok l)
      (fresh : d.IsFreshName l p name) :
      ReplaceMove p content mode .paving d (.writing (l.child name) 0)
        (d.withTemporary (l.child name) temporaryMode .empty)
  | wrote {d : Disk} {t : Location} {n k fileMode : Nat} {part : ByteArray} (more : n ≤ k)
      (within : k ≤ content.size) (there : d.get? t = some (.file fileMode part)) :
      ReplaceMove p content mode (.writing t n) d (.writing t k)
        (d.withTemporary t fileMode (part ++ content.extract n k))
  | synced (d : Disk) (t : Location) :
      ReplaceMove p content mode (.writing t content.size) d (.synced t) d
  | modeSet {d : Disk} {t : Location} {fileMode : Nat} {part : ByteArray}
      (there : d.get? t = some (.file fileMode part)) :
      ReplaceMove p content mode (.synced t) d (.ready t) (d.withTemporary t (keptMode mode) part)
  | renamed {d d' : Disk} {t : Location} (done : d.rename t p = .ok d') :
      ReplaceMove p content mode (.ready t) d (.ended (.ok ())) d'
  | refused {stage : ReplaceStage} {t : Location} (d : Disk) (working : stage.working? = some t)
      (fault : Fault) : ReplaceMove p content mode stage d (.failed t fault) d
  | removed (d : Disk) (t : Location) (fault : Fault) :
      ReplaceMove p content mode (.failed t fault) d (.ended (.error fault)) (d.clear t)

/-- What a disk may have become when a replacement has come so far. -/
inductive ReplaceCourse (p : Path) (content : ByteArray) (mode : Nat) (d : Disk) :
    ReplaceStage → Disk → Prop where
  | start : ReplaceCourse p content mode d .paving d
  | move {stage stage' : ReplaceStage} {now next : Disk} (before : ReplaceCourse p content mode d stage now)
      (move : ReplaceMove p content mode stage now stage' next) :
      ReplaceCourse p content mode d stage' next

variable {d d' now next : Disk} {p : Path} {l t : Location} {e : Entry} {content : ByteArray}
  {mode : Nat} {stage stage' : ReplaceStage}

/-! ## What is left -/

/-- A disk with all that was there before, and besides only directories on the way to the directory of
a path. -/
structure Paved (p : Path) (d d' : Disk) : Prop where
  kept : ∀ key e, d.entries.get? key = some e → d'.entries.get? key = some e
  made : ∀ key e, d'.entries.get? key = some e → d.entries.get? key = some e ∨
    e = .directory ∧ ∃ l ∈ p.directory.way, l.key = key

/-- A disk on which a path names a file with a content and a mode, where it named no directory. All else
is as it was before, but for directories on the way. -/
structure Installed (p : Path) (content : ByteArray) (mode : Nat) (d d' : Disk) : Prop where
  resolve : d'.resolve p = .ok p.place
  file : d'.get? p.place = some (.file (keptMode mode) content)
  noDirectory : d.get? p.place ≠ some .directory
  kept : ∀ key e, key ≠ p.place.key → d.entries.get? key = some e → d'.entries.get? key = some e
  made : ∀ key e, d'.entries.get? key = some e → d.entries.get? key = some e ∨ key = p.place.key ∨
    e = .directory ∧ ∃ l ∈ p.directory.way, l.key = key

namespace Paved

theorem refl (p : Path) (d : Disk) : Paved p d d :=
  ⟨fun _ _ => id, fun _ _ => .inl⟩

theorem trans {d'' : Disk} (first : Paved p d d') (second : Paved p d' d'') : Paved p d d'' where
  kept key e there := second.kept key e (first.kept key e there)
  made key e there := by
    rcases second.made key e there with there | made
    · exact first.made key e there
    · exact .inr made

theorem get?_kept (paved : Paved p d d') (there : d.get? l = some e) : d'.get? l = some e := by
  by_cases top : l.names = []
  · simpa only [get?, top, ↓reduceIte] using there
  · rw [get?_of_inner top] at there ⊢
    exact paved.kept l.key e there

theorem of_makeDirectory {q : Path} (above : p.directory.UpFrom q) (made : d.makeDirectory q = .ok d') :
    Paved p d d' := by
  obtain ⟨l, name, leads, free, rfl⟩ := leadsTo_of_makeDirectory made
  rw [get?_of_inner (Location.names_child_ne_nil l name)] at free
  constructor
  · intro key e there
    rw [entries_put, if_neg]
    · exact there
    · rintro rfl
      cases free.symm.trans there
  · intro key e there
    rw [entries_put] at there
    split at there
    · rename_i same
      refine .inr ⟨(Option.some.inj there).symm, l.child name, above.mem_way ?_, same⟩
      exact leads.place_eq ▸ q.place_mem_way
    · exact .inl there

end Paved

/-- A disk that is paved and has a temporary file besides. It lies off the way of the path. -/
structure Holding (p : Path) (d : Disk) (t : Location) (mode : Nat) (part : ByteArray) (d' : Disk) :
    Prop where
  paved : ∃ made, Paved p d made ∧ made.get? t = none ∧ d' = made.put t (.file mode part)
  proper : t.Proper
  inner : t.names ≠ []
  off : t ∉ p.way

namespace Holding

variable {fileMode otherMode : Nat} {part other : ByteArray}

/-- A temporary file is made in the directory of the path. -/
theorem of_created {name : String} (paved : Paved p d now) (resolved : now.resolve p.directory = .ok l)
    (fresh : now.IsFreshName l p name) :
    Holding p d (l.child name) fileMode part (now.withTemporary (l.child name) fileMode part) where
  paved := ⟨now, paved, fresh.free, rfl⟩
  proper := (proper_of_walk (startOf_proper _) (fun _ => isEntryName_of_mem_stepsOf)
    (walk_of_resolve resolved)).child fresh.own
  inner := Location.names_child_ne_nil l name
  off := child_off_way resolved (by simp [fresh.free]) fresh.other

theorem get?_self (holding : Holding p d t fileMode part now) :
    now.get? t = some (.file fileMode part) := by
  obtain ⟨made, -, -, rfl⟩ := holding.paved
  rw [get?_put holding.inner, if_pos rfl]

theorem rewritten (holding : Holding p d t fileMode part now) :
    Holding p d t otherMode other (now.withTemporary t otherMode other) where
  paved := by
    obtain ⟨made, paved, free, rfl⟩ := holding.paved
    exact ⟨made, paved, free, put_put _⟩
  proper := holding.proper
  inner := holding.inner
  off := holding.off

theorem cleared (holding : Holding p d t fileMode part now) : Paved p d (now.clear t) := by
  obtain ⟨made, paved, free, rfl⟩ := holding.paved
  rwa [clear_put free holding.inner]

end Holding

/-- What is put in place is not on the way to its own directory. -/
theorem Placed.off_way (placed : Placed d p content mode d') : p.place ∉ p.directory.way := by
  obtain ⟨⟨l, name, leads, noDirectory, -⟩, -⟩ := placed
  obtain ⟨above, steps, walk⟩ := leads.steps
  obtain ⟨before, absolute⟩ := Path.stepsOf_directory p
  rw [steps, List.dropLast_concat] at before
  intro member
  obtain ⟨names, first, place⟩ := Path.mem_way.mp member
  have start : startOf p.directory = startOf p := by
    unfold startOf
    rw [absolute (by simp [steps])]
  rw [start, leads.place_eq] at place
  exact foldl_next_ne_child walk noDirectory (before ▸ first) place

/-- A temporary file that is renamed to its target is in place. -/
theorem Holding.installed (holding : Holding p d t (keptMode mode) content now)
    (renamed : now.rename t p = .ok d') :
    Installed p content mode d d' ∧ p.place ∉ p.directory.way := by
  obtain ⟨made, paved, free, rfl⟩ := holding.paved
  have placed := placed_of_rename free holding.inner renamed
  refine ⟨⟨placed.resolve.1, placed.resolve.2, ?_, ?_, ?_⟩, placed.off_way⟩
  · intro directory
    obtain ⟨⟨l, name, leads, noDirectory, -⟩, -⟩ := placed
    exact noDirectory (leads.place_eq ▸ paved.get?_kept directory)
  · intro key e other there
    obtain ⟨⟨l, name, leads, -, rfl⟩, -⟩ := placed
    rw [leads.place_eq] at other
    rw [entries_put, if_neg (Ne.symm other)]
    exact paved.kept key e there
  · intro key e there
    obtain ⟨⟨l, name, leads, -, rfl⟩, -⟩ := placed
    rw [entries_put] at there
    split at there
    · rename_i same
      exact .inr (.inl (leads.place_eq ▸ same.symm))
    · rcases paved.made key e there with old | directory
      · exact .inl old
      · exact .inr (.inr directory)

/-! ## What holds at every stage -/

/-- What the disk is like at each stage. -/
def ReplaceStage.Fits (p : Path) (content : ByteArray) (mode : Nat) (d : Disk) :
    ReplaceStage → Disk → Prop
  | paving, now => Paved p d now
  | writing t n, now => Holding p d t temporaryMode (content.extract 0 n) now
  | synced t, now => Holding p d t temporaryMode content now
  | ready t, now => Holding p d t (keptMode mode) content now
  | failed t _, now => ∃ fileMode n, (fileMode = temporaryMode ∨ fileMode = keptMode mode) ∧
      Holding p d t fileMode (content.extract 0 n) now
  | ended (.ok ()), now => Installed p content mode d now ∧ p.place ∉ p.directory.way
  | ended (.error _), now => Paved p d now

/-- A temporary file that is worked on holds what has been written so far. -/
theorem ReplaceStage.Fits.holding (fits : stage.Fits p content mode d now)
    (working : stage.working? = some t) :
    ∃ fileMode n, (fileMode = temporaryMode ∨ fileMode = keptMode mode) ∧
      Holding p d t fileMode (content.extract 0 n) now := by
  cases stage with
  | writing t' n =>
    cases working
    exact ⟨temporaryMode, n, .inl rfl, fits⟩
  | synced t' =>
    cases working
    exact ⟨temporaryMode, content.size, .inl rfl, ByteArray.extract_zero_size ▸ fits⟩
  | ready t' =>
    cases working
    exact ⟨keptMode mode, content.size, .inr rfl, ByteArray.extract_zero_size ▸ fits⟩
  | paving => cases working
  | failed t' fault => cases working
  | ended result => cases working

/-- Each step keeps it so. -/
theorem ReplaceStage.Fits.move (fits : stage.Fits p content mode d now)
    (move : ReplaceMove p content mode stage now stage' next) : stage'.Fits p content mode d next := by
  cases move with
  | paved above made => exact Paved.trans fits (.of_makeDirectory above made)
  | unpaved _ fault => exact fits
  | created resolved fresh =>
    change Holding p d _ temporaryMode (content.extract 0 0) _
    rw [ByteArray.extract_same]
    exact .of_created fits resolved fresh
  | @wrote _ t n k _ _ more within there =>
    obtain ⟨rfl, rfl⟩ := Entry.file.inj (Option.some.inj (there.symm.trans (Holding.get?_self fits)))
    rw [ByteArray.extract_append_extract, Nat.min_eq_left (Nat.zero_le n), Nat.max_eq_right more]
    exact Holding.rewritten fits
  | synced _ t =>
    change Holding p d t temporaryMode (content.extract 0 content.size) now at fits
    rwa [ByteArray.extract_zero_size] at fits
  | modeSet there =>
    obtain ⟨rfl, rfl⟩ := Entry.file.inj (Option.some.inj (there.symm.trans (Holding.get?_self fits)))
    exact Holding.rewritten fits
  | renamed done => exact Holding.installed fits done
  | refused _ working fault => exact fits.holding working
  | removed _ t fault =>
    obtain ⟨fileMode, n, -, holding⟩ := fits
    exact holding.cleared

/-- So it is throughout a replacement. -/
theorem ReplaceCourse.fits (course : ReplaceCourse p content mode d stage now) :
    stage.Fits p content mode d now := by
  induction course with
  | start => exact Paved.refl p d
  | move before move ih => exact ih.move move

/-! ## What is seen on the way -/

/-- At each stage the disk is paved, with or without a temporary file, or the target is in place. -/
theorem ReplaceStage.Fits.cases (fits : stage.Fits p content mode d now) :
    Paved p d now ∨
      (∃ t fileMode n, (fileMode = temporaryMode ∨ fileMode = keptMode mode) ∧
        Holding p d t fileMode (content.extract 0 n) now) ∨
      Installed p content mode d now := by
  cases working : stage.working? with
  | some t => exact .inr (.inl ⟨t, fits.holding working⟩)
  | none =>
    cases stage with
    | paving => exact .inl fits
    | failed t fault => exact .inr (.inl ⟨t, fits⟩)
    | ended result =>
      cases result with
      | error fault => exact .inl fits
      | ok done => exact .inr (.inr fits.1)
    | writing t n => cases working
    | synced t => cases working
    | ready t => cases working

/-- The target is as it was before a replacement, or as it shall be. Only if it is missing, and is one
of the directories that are missing above itself, it may be seen as a directory. -/
inductive Sighted (p : Path) (content : ByteArray) (mode : Nat) (d now : Disk) : Prop where
  | old (same : now.get? p.place = d.get? p.place)
  | new (file : now.get? p.place = some (.file (keptMode mode) content))
  | above (missing : d.get? p.place = none) (directory : now.get? p.place = some .directory)
      (own : p.place ∈ p.directory.way)

theorem Paved.sighted (paved : Paved p d now) : Sighted p content mode d now := by
  by_cases top : p.place.names = []
  · refine .old ?_
    simp only [get?, top, ↓reduceIte]
  · cases before : d.get? p.place with
    | some e => exact .old ((paved.get?_kept before).trans before.symm)
    | none =>
      cases after : now.get? p.place with
      | none => exact .old (after.trans before.symm)
      | some e =>
        have missing := before
        rw [get?_of_inner top] at before after
        rcases paved.made _ e after with old | ⟨rfl, l, member, same⟩
        · cases before.symm.trans old
        · obtain rfl := Location.key_injective (Path.proper_of_mem_way member) (place_proper p) same
          exact .above missing (get?_of_inner top ▸ after) member

/-- Nobody ever sees a target that is half written. -/
theorem ReplaceStage.Fits.sighted (fits : stage.Fits p content mode d now) :
    Sighted p content mode d now := by
  rcases fits.cases with paved | ⟨t, fileMode, n, -, holding⟩ | installed
  · exact paved.sighted
  · obtain ⟨made, paved, -, rfl⟩ := holding.paved
    have beside : (made.put t (.file fileMode (content.extract 0 n))).get? p.place =
        made.get? p.place := by
      refine (get?_put_cases (place_proper p) holding.proper).resolve_right fun same => ?_
      exact holding.off (same ▸ p.place_mem_way)
    have target : Sighted p content mode d made := paved.sighted
    cases target with
    | old same => exact .old (beside.trans same)
    | new file => exact .new (beside.trans file)
    | above missing directory own => exact .above missing (beside.trans directory) own
  · exact .new installed.file

/-- Any file that was not there before holds the start of the content, and is either for the owner only
or has the mode that was asked for. -/
theorem ReplaceStage.Fits.file_mode (fits : stage.Fits p content mode d now) {key : String}
    {fileMode : Nat} {bytes : ByteArray} (there : now.entries.get? key = some (.file fileMode bytes)) :
    d.entries.get? key = some (.file fileMode bytes) ∨
      (fileMode = temporaryMode ∨ fileMode = keptMode mode) ∧ ∃ n, bytes = content.extract 0 n := by
  have of_paved {made : Disk} (paved : Paved p d made)
      (there : made.entries.get? key = some (.file fileMode bytes)) :
      d.entries.get? key = some (.file fileMode bytes) := by
    rcases paved.made _ _ there with old | ⟨directory, -⟩
    · exact old
    · cases directory
  rcases fits.cases with paved | ⟨t, otherMode, n, modes, holding⟩ | installed
  · exact .inl (of_paved paved there)
  · obtain ⟨made, paved, -, rfl⟩ := holding.paved
    rw [entries_put] at there
    split at there
    · cases there
      exact .inr ⟨modes, n, rfl⟩
    · exact .inl (of_paved paved there)
  · rcases installed.made _ _ there with old | rfl | ⟨directory, -⟩
    · exact .inl old
    · have file := installed.file
      have inner : p.place.names ≠ [] := by
        intro top
        rw [get?, if_pos top] at file
        cases file
      rw [get?_of_inner inner, there] at file
      cases file
      exact .inr ⟨.inr rfl, content.size, ByteArray.extract_zero_size.symm⟩
    · cases directory

/-! ## Replacements are such courses -/

namespace ReplaceCourse

/-- Directories are made one after the other. -/
theorem makeDirectoriesWith {q : Path} (above : p.directory.UpFrom q) (fuel : Nat)
    (course : ReplaceCourse p content mode d .paving now) :
    ReplaceCourse p content mode d .paving (now.makeDirectoriesWith fuel q).1 := by
  induction fuel generalizing now q with
  | zero => exact course
  | succ fuel ih =>
    unfold Disk.makeDirectoriesWith
    split
    · exact course
    · split
      · rename_i made done
        exact course.move (.paved above done)
      · split
        · exact course
        · rename_i parent higher
          have first := ih (above.above higher) course
          split
          · rename_i stopped
            exact stopped ▸ first
          · rename_i made parents
            rw [parents] at first
            split
            · rename_i done
              exact first.move (.paved above done)
            · split <;> exact first
      · split <;> exact course

theorem makeDirectories (d : Disk) (p : Path) (content : ByteArray) (mode : Nat) :
    ReplaceCourse p content mode d .paving (d.makeDirectories p.directory).1 :=
  makeDirectoriesWith .here _ .start

/-- A stage with a temporary file may be the last one but for its removal. -/
theorem stopped (course : ReplaceCourse p content mode d stage now) (working : stage.working? = some t)
    (fault : Fault) : ReplaceCourse p content mode d (.ended (.error fault)) (now.clear t) :=
  (course.move (.refused now working fault)).move (.removed now t fault)

variable {made : Disk}

-- The three disks that a replacement goes through once its directories are there: with an empty
-- temporary file, with the content in it, and with its mode.

theorem created (course : ReplaceCourse p content mode d .paving made)
    (resolved : made.resolve p.directory = .ok l) :
    ReplaceCourse p content mode d (.writing (made.temporary l p) 0)
      (made.withTemporary (made.temporary l p) temporaryMode .empty) :=
  course.move (.created resolved (isFreshName_freshName made l p))

theorem written (course : ReplaceCourse p content mode d .paving made)
    (resolved : made.resolve p.directory = .ok l) :
    ReplaceCourse p content mode d (.synced (made.temporary l p))
      ((made.withTemporary (made.temporary l p) temporaryMode .empty).withTemporary
        (made.temporary l p) temporaryMode content) := by
  have created := course.created resolved
  have whole : content.extract 0 0 ++ content.extract 0 content.size = content := by
    rw [ByteArray.extract_append_extract, Nat.min_self, Nat.max_eq_right (Nat.zero_le _),
      ByteArray.extract_zero_size]
  have wrote := created.move (.wrote (Nat.zero_le content.size) (Nat.le_refl _)
    (Holding.get?_self created.fits))
  rw [whole] at wrote
  exact wrote.move (.synced _ _)

theorem ready (course : ReplaceCourse p content mode d .paving made)
    (resolved : made.resolve p.directory = .ok l) :
    ReplaceCourse p content mode d (.ready (made.temporary l p))
      (((made.withTemporary (made.temporary l p) temporaryMode .empty).withTemporary
        (made.temporary l p) temporaryMode content).withTemporary
          (made.temporary l p) (keptMode mode) content) := by
  have written := course.written resolved
  exact written.move (.modeSet (Holding.get?_self written.fits))

/-- Whatever the system refuses, a replacement takes such a course. -/
theorem of_replaceWith (refuse : ReplaceStep → Option Fault) (d : Disk) (p : Path)
    (content : ByteArray) (mode : Nat) :
    ReplaceCourse p content mode d (.ended (d.replaceWith refuse p content mode).2)
      (d.replaceWith refuse p content mode).1 := by
  have parents := makeDirectories d p content mode
  unfold replaceWith
  split
  · exact .move .start (.unpaved d _)
  · rename_i made fault allowed failed
    rw [failed] at parents
    exact parents.move (.unpaved made fault)
  · rename_i made allowed done
    rw [done] at parents
    split
    · exact parents.move (.unpaved made _)
    · exact parents.move (.unpaved made _)
    · rename_i l allowed resolved
      dsimp only
      split
      · exact (parents.created resolved).stopped rfl _
      · exact (parents.written resolved).stopped rfl _
      · exact (parents.ready resolved).stopped rfl _
      · exact (parents.ready resolved).stopped rfl _
      · rename_i renamed
        exact (parents.ready resolved).move (.renamed renamed)

end ReplaceCourse

/-- Replacing a file is all or nothing. Whatever is refused on the way, a call that succeeds has put
the file in place, and one that fails leaves all entries as they were; nothing else is new but
directories on the way to the target's. At every stage the target is whole, as it was or as it shall
be, unless it is one of the missing directories above itself, where no call succeeds; and a file that
was not there before is for the owner only or has the mode that was asked for. -/
theorem replace_all_or_nothing (d : Disk) (p : Path) (content : ByteArray) (mode : Nat) :
    (∀ refuse, ReplaceCourse p content mode d (.ended (d.replaceWith refuse p content mode).2)
        (d.replaceWith refuse p content mode).1) ∧
      (∀ now, ReplaceCourse p content mode d (.ended (.ok ())) now →
        Installed p content mode d now ∧ p.place ∉ p.directory.way) ∧
      (∀ now fault, ReplaceCourse p content mode d (.ended (.error fault)) now → Paved p d now) ∧
      ∀ stage now, ReplaceCourse p content mode d stage now →
        Sighted p content mode d now ∧
          ∀ key fileMode bytes, now.entries.get? key = some (.file fileMode bytes) →
            d.entries.get? key = some (.file fileMode bytes) ∨
              (fileMode = temporaryMode ∨ fileMode = keptMode mode) ∧
                ∃ n, bytes = content.extract 0 n := by
  refine ⟨fun refuse => .of_replaceWith refuse d p content mode, ?_, ?_, ?_⟩
  · intro now course
    exact course.fits
  · intro now fault course
    exact course.fits
  · intro stage now course
    exact ⟨course.fits.sighted, fun key fileMode bytes => course.fits.file_mode⟩

/-- A disk with one file. -/
def oneFile : Disk :=
  (∅ : Disk).put ⟨false, ["kept"]⟩ (.file 0o755 "old".toUTF8)

/-- A file in a directory that has to be made is put in place, or nothing but the directory is left
where the file cannot be renamed. -/
theorem replace_all_or_nothing_nested :
    Installed ⟨"etc/new"⟩ "text".toUTF8 0o640 oneFile
        (oneFile.replace ⟨"etc/new"⟩ "text".toUTF8 0o640).1 ∧
      Paved ⟨"etc/new"⟩ oneFile (oneFile.replaceWith
        (fun step => if step = .rename then some .denied else none) ⟨"etc/new"⟩ "text".toUTF8 0o640).1 := by
  obtain ⟨courses, succeeded, failed, -⟩ :=
    replace_all_or_nothing oneFile ⟨"etc/new"⟩ "text".toUTF8 0o640
  constructor
  · have course := courses fun _ => none
    have ended : (oneFile.replace ⟨"etc/new"⟩ "text".toUTF8 0o640).2.toOption = some () := by
      decide +kernel
    unfold replace at ended ⊢
    cases result : (oneFile.replaceWith (fun _ => none) ⟨"etc/new"⟩ "text".toUTF8 0o640).2 with
    | error fault =>
      rw [result] at ended
      cases ended
    | ok done =>
      rw [result] at course
      exact (succeeded _ course).1
  · have course := courses fun step => if step = .rename then some .denied else none
    have ended : (oneFile.replaceWith (fun step => if step = .rename then some .denied else none)
        ⟨"etc/new"⟩ "text".toUTF8 0o640).2.toOption = none := by
      decide +kernel
    cases result : (oneFile.replaceWith (fun step => if step = .rename then some .denied else none)
        ⟨"etc/new"⟩ "text".toUTF8 0o640).2 with
    | ok done =>
      rw [result] at ended
      cases ended
    | error fault =>
      rw [result] at course
      exact failed _ fault course

/-- Of a mode of more than twelve bits the file keeps twelve; and a missing target that is above itself
becomes a directory. -/
theorem replace_not_as_asked :
    ((∅ : Disk).replace ⟨"a"⟩ "x".toUTF8 0o10644).2.toOption = some () ∧
      ((∅ : Disk).replace ⟨"a"⟩ "x".toUTF8 0o10644).1.get? (Path.mk "a").place ≠
        some (.file 0o10644 "x".toUTF8) ∧
      ((∅ : Disk).replace ⟨"a/b/../../a"⟩ "x".toUTF8 0o644).1.get? (Path.mk "a/b/../../a").place ≠
        (∅ : Disk).get? (Path.mk "a/b/../../a").place ∧
      ((∅ : Disk).replace ⟨"a/b/../../a"⟩ "x".toUTF8 0o644).1.get? (Path.mk "a/b/../../a").place ≠
        some (.file 0o644 "x".toUTF8) := by
  decide +kernel

end Disk

end Upkeep
