import Upkeep.Proofs.Disk.Making

/-! Disks that agree but for what a file leaves that was written to one of them only: the file itself
and directories that were made for it. Paths that steer clear of these cannot tell the disks apart. A
path may lead through such directories, as long as it goes straight on to something else: where they
are missing, so is all that would be in them, and where something is to be written there they are made
again. -/
namespace Upkeep

variable {spill target : Location → Prop}

/-- Two disks agree but for some places where something was left: there no files differ, but targets. -/
structure Disk.AgreeBut (spill target : Location → Prop) (d d' : Disk) : Prop
    extends AgreeOff spill d d' where
  files : ∀ l, l.Proper → ¬ target l → d'.file? l = d.file? l
  grounded : d.Grounded
  grounded' : d'.Grounded

/-- A path steers clear of what was left if it avoids all of it, or if it goes straight on, past all
targets, to a place where nothing was left. -/
inductive Path.Clear (spill target : Location → Prop) (p : Path) : Prop where
  | avoids (away : p.Avoids spill)
  | passes (plain : p.Plain) (past : ∀ l ∈ p.way, ¬ target l) (elsewhere : ¬ spill p.place)

instance (p : Path) [DecidablePred spill] [DecidablePred target] : Decidable (p.Clear spill target) :=
  decidable_of_iff (p.Avoids spill ∨
      p.Plain ∧ (∀ l ∈ p.way, ¬ target l) ∧ ¬ spill p.place)
    ⟨fun clear => clear.elim .avoids fun ⟨plain, past, elsewhere⟩ => .passes plain past elsewhere,
      fun clear => match clear with
        | .avoids away => .inl away
        | .passes plain past elsewhere => .inr ⟨plain, past, elsewhere⟩⟩

/-- A path leads to the same in two disks. -/
structure Path.LeadsAlike (p : Path) (d d' : Disk) : Prop where
  resolve : d'.resolve p = d.resolve p
  entry : ∀ l, d.resolve p = .ok l → d'.get? l = d.get? l

namespace Disk

variable {d d' : Disk} {l m : Location} {e : Entry} {names : List String} {p : Path}
  {content : ByteArray} {mode : Nat}

theorem AgreeAlong.leadsAlike (along : AgreeAlong p d d') : p.LeadsAlike d d' :=
  ⟨along.resolve, fun _ => along.get?_of_resolve⟩

/-- Where something is, all places above it are directories. -/
theorem Grounded.directory_of_descend {name : String} (grounded : d.Grounded) (proper : l.Proper)
    (own : ∀ other ∈ name :: names, IsEntryName other)
    (there : (d.get? (l.descend (name :: names))).isSome = true) : d.get? l = some .directory := by
  obtain ⟨first, later⟩ := List.forall_mem_cons.mp own
  rw [Location.descend_cons] at there
  have child := isSome_of_descend grounded (proper.child first) later there
  have directory := grounded _ (proper.child first) (Location.names_child_ne_nil l name) child
  rwa [Location.above_child] at directory

namespace AgreeBut

theorem symm (agree : AgreeBut spill target d d') : AgreeBut spill target d' d where
  toAgreeOff := agree.toAgreeOff.symm
  files l proper other := (agree.files l proper other).symm
  grounded := agree.grounded'
  grounded' := agree.grounded

/-- Where a place on the way of a plain path is missing from one disk only, the way meets no file on
either, and what the path leads to is missing from both. -/
private theorem open_of_absent (agree : AgreeBut spill target d d') (plain : p.Plain)
    (past : ∀ l ∈ p.way, ¬ target l) (member : l ∈ p.way)
    (absent : d.get? l = none) (there : (d'.get? l).isSome = true) :
    (∀ m ∈ p.way, d.file? m = none) ∧ d.get? p.place = none := by
  have straight {names : List String} (first : names <+: stepsOf p) :
      names.foldl Location.next (startOf p) = (startOf p).descend names :=
    foldl_next_of_straight fun up => plain.notUp (first.subset up)
  have own {names : List String} (first : names <+: stepsOf p) : ∀ name ∈ names, IsEntryName name :=
    fun name member => isEntryName_of_mem_stepsOf (first.subset member)
  obtain ⟨names, first, rfl⟩ := Path.mem_way.mp member
  have proper {names : List String} (first : names <+: stepsOf p) :
      ((startOf p).descend names).Proper :=
    straight first ▸ (startOf_proper p).foldl_next (own first)
  rw [straight first] at absent there
  have below {others : List String} (other : others <+: stepsOf p) (more : names <+: others) :
      d.get? (others.foldl Location.next (startOf p)) = none := by
    obtain ⟨rest, rfl⟩ := more
    rw [← Option.not_isSome_iff_eq_none, straight other, Location.descend_append]
    intro found
    have named : ∀ name ∈ rest, IsEntryName name :=
      fun name member => own other name (List.mem_append_right _ member)
    have kept := isSome_of_descend agree.grounded (proper first) named found
    rw [absent] at kept
    cases kept
  refine ⟨fun m member => ?_, below (List.prefix_refl _) first⟩
  obtain ⟨others, other, rfl⟩ := Path.mem_way.mp member
  rcases List.prefix_or_prefix_of_prefix first other with more | ⟨rest, less⟩
  · exact file?_eq_none.mpr (.inl (below other more))
  · cases rest with
    | nil =>
      rw [List.append_nil] at less
      exact file?_eq_none.mpr (.inl (below other (less ▸ List.prefix_refl _)))
    | cons name rest =>
      rw [← agree.files _ (Path.proper_of_mem_way member) (past _ member), straight other]
      rw [← less, Location.descend_append] at there
      have named : ∀ own ∈ name :: rest, IsEntryName own :=
        fun name member => own first name (less ▸ List.mem_append_right _ member)
      exact file?_eq_none.mpr
        (.inr (agree.grounded'.directory_of_descend (proper other) named there))

/-- Along a plain path that steers clear, two disks agree, or the way meets no file on either and what
the path leads to is missing from both. -/
theorem along_or_open (agree : AgreeBut spill target d d') (plain : p.Plain)
    (past : ∀ l ∈ p.way, ¬ target l) (elsewhere : ¬ spill p.place) : AgreeAlong p d d' ∨
      (∀ l ∈ p.way, d.file? l = none ∧ d'.file? l = none) ∧
        d.get? p.place = none ∧ d'.get? p.place = none := by
  by_cases along : AgreeAlong p d d'
  · exact .inl along
  right
  obtain ⟨l, more⟩ := not_forall.mp along
  obtain ⟨member, differ⟩ := Classical.not_imp.mp more
  have proper {m : Location} (member : m ∈ p.way) := Path.proper_of_mem_way member
  have files {m : Location} (member : m ∈ p.way) : d'.file? m = d.file? m :=
    agree.files m (proper member) (past m member)
  have place : d'.get? p.place = d.get? p.place := agree.same _ (place_proper p) elsewhere
  have open' : (∀ m ∈ p.way, d.file? m = none) ∧ d.get? p.place = none := by
    cases absent : d.get? l with
    | none =>
      refine open_of_absent agree plain past member absent ?_
      rw [absent] at differ
      exact Option.isSome_iff_ne_none.mpr differ
    | some e =>
      have absent' : d'.get? l = none := by
        have same := files member
        rw [absent] at differ
        cases e with
        | directory =>
          rw [file?_eq_none.mpr (.inr absent)] at same
          exact (file?_eq_none.mp same).resolve_right differ
        | file mode content =>
          have found : d.file? l = some (mode, content) := file?_eq_some.mpr absent
          rw [found] at same
          exact absurd (file?_eq_some.mp same) differ
      obtain ⟨noFile, none⟩ := open_of_absent agree.symm plain past member absent'
        (by rw [absent]; rfl)
      exact ⟨fun m member => (files member).symm.trans (noFile m member), place.symm.trans none⟩
  exact ⟨fun m member => ⟨open'.1 m member, (files member).trans (open'.1 m member)⟩, open'.2,
    place.trans open'.2⟩

end AgreeBut

/-- A plain path that meets no file leads nowhere where its last place is missing. -/
theorem resolve_of_open (plain : p.Plain) (noFile : ∀ l ∈ p.way, d.file? l = none)
    (absent : d.get? p.place = none) :
    d.resolve p = (accept p >>= fun _ => .error .noSuchFile) := by
  have walk : d.walk (startOf p) (stepsOf p) = .error .noSuchFile :=
    walk_of_missing plain.notUp plain.short (if_pos rfl)
      (fun before first => noFile _ (Path.mem_way.mpr ⟨before, first, rfl⟩))
      ⟨stepsOf p, List.prefix_refl _, absent⟩
  unfold resolve
  rw [walk]
  rfl

theorem directory_replace (p : Path) (content : ByteArray) (mode : Nat)
    (directory : d.get? l = some .directory) :
    (d.replace p content mode).1.get? l = some .directory := by
  have replacing : Replacing d p content mode (d.replace p content mode) := replacing _ d p content mode
  exact replacing.passable.directories l directory

theorem grounded_replace (grounded : d.Grounded) (p : Path) (content : ByteArray) (mode : Nat) :
    (d.replace p content mode).1.Grounded := by
  have replacing : Replacing d p content mode (d.replace p content mode) := replacing _ d p content mode
  generalize d.replace p content mode = ended at replacing
  cases replacing with
  | failed grown fault => exact grown.grounded grounded
  | done grown placed => exact placed.grounded (grown.grounded grounded)

namespace AgreeBut

/-- Paths that steer clear lead to the same. -/
theorem leadsAlike (agree : AgreeBut spill target d d') (clear : p.Clear spill target) :
    p.LeadsAlike d d' := by
  cases clear with
  | avoids away => exact (agree.along away).leadsAlike
  | passes plain past elsewhere =>
    rcases agree.along_or_open plain past elsewhere with along | ⟨noFile, absent, absent'⟩
    · exact along.leadsAlike
    · have nowhere := resolve_of_open plain (fun l member => (noFile l member).1) absent
      have nowhere' := resolve_of_open plain (fun l member => (noFile l member).2) absent'
      refine ⟨nowhere'.trans nowhere.symm, fun l resolved => ?_⟩
      rw [nowhere] at resolved
      cases accepted : accept p with
      | error fault => simp [accepted, bind, Except.bind] at resolved
      | ok done => simp [accepted, bind, Except.bind] at resolved

/-- A file that is put where a path leads on both disks makes no difference. -/
theorem put (agree : AgreeBut spill target d d') (found : d.renameTarget p = .ok l)
    (found' : d'.renameTarget p = .ok l) :
    AgreeBut spill target (d.put l (.file mode content)) (d'.put l (.file mode content)) := by
  refine ⟨agree.toAgreeOff.put, fun m proper other => ?_, ?_, ?_⟩
  · have files := agree.files m proper other
    unfold file? at files ⊢
    by_cases top : m.names = []
    · simp only [get?, top, ↓reduceIte]
    · rw [get?_put top, get?_put top]
      by_cases same : l.key = m.key
      · simp only [same, ↓reduceIte]
      · simp only [same, ↓reduceIte]
        exact files
  · obtain ⟨above, name, leads, -, noDirectory, rfl⟩ := renameTarget_eq_ok found
    exact agree.grounded.put_child leads.proper leads.directory noDirectory
  · obtain ⟨above, name, leads, -, noDirectory, rfl⟩ := renameTarget_eq_ok found'
    exact agree.grounded'.put_child leads.proper leads.directory noDirectory

/-- What a path names is replaced alike where two disks agree along it. -/
theorem replace_of_along (agree : AgreeBut spill target d d') (along : AgreeAlong p d d') :
    EndPaired (AgreeBut spill target) (d.replace p content mode) (d'.replace p content mode) := by
  have only : AgreeOff (· ∉ p.way) d d' := ⟨fun l _ on => along l (not_not.mp on)⟩
  have avoids : p.Avoids (· ∉ p.way) := fun l member _ off => off member
  obtain ⟨same, after⟩ : EndPaired (AgreeOff (· ∉ p.way)) (d.replace p content mode)
      (d'.replace p content mode) := only.replace avoids
  refine ⟨same, ⟨fun l proper away => ?_⟩, fun l proper other => ?_,
    grounded_replace agree.grounded p content mode, grounded_replace agree.grounded' p content mode⟩
  · by_cases on : l ∈ p.way
    · exact after.same l proper (not_not.mpr on)
    · rw [get?_replace d p content mode proper fun changeable => on changeable.1,
        get?_replace d' p content mode proper fun changeable => on changeable.1]
      exact agree.same l proper away
  · by_cases own : l = p.place
    · unfold file?
      rw [after.same l proper (not_not.mpr (own ▸ p.place_mem_way))]
    · rw [file?_replace proper own, file?_replace proper own]
      exact agree.files l proper other

/-- So it is where the way to it meets no file on either disk. -/
private theorem replace_of_open (agree : AgreeBut spill target d d') (plain : p.Plain)
    (elsewhere : ¬ spill p.place) (noFile : ∀ l ∈ p.way, d.file? l = none ∧ d'.file? l = none) :
    EndPaired (AgreeBut spill target) (d.replace p content mode) (d'.replace p content mode) := by
  have noFile (l : Location) (member : l ∈ p.directory.way) : d.file? l = none ∧ d'.file? l = none := by
    rcases Path.mem_way_of_directory member with on | top
    · exact noFile l on
    · exact ⟨file?_eq_none.mpr (.inr (if_pos top)), file?_eq_none.mpr (.inr (if_pos top))⟩
  have more := directory_text_ne p
  rw [replace_eq, replace_eq]
  cases accepted : accept p.directory with
  | error fault =>
    rw [makeDirectories_of_refused accepted more, makeDirectories_of_refused accepted more]
    exact ⟨rfl, agree⟩
  | ok done =>
    obtain ⟨made, ran, way⟩ := makeDirectories_directory accepted plain fun l member =>
      (noFile l member).1
    obtain ⟨made', ran', way'⟩ := makeDirectories_directory accepted plain fun l member =>
      (noFile l member).2
    have grown : Extends d made := by
      have grown := extends_makeDirectories d p.directory
      rwa [ran] at grown
    have grown' : Extends d' made' := by
      have grown := extends_makeDirectories d' p.directory
      rwa [ran'] at grown
    have after : AgreeBut spill target made made' := by
      refine ⟨⟨fun l proper away => ?_⟩, fun l proper other => ?_, grown.grounded agree.grounded,
        grown'.grounded agree.grounded'⟩
      · by_cases on : l ∈ p.directory.way
        · rw [way l on, way' l on]
        · have kept := get?_makeDirectories d p.directory proper on
          have kept' := get?_makeDirectories d' p.directory proper on
          rw [ran] at kept
          rw [ran'] at kept'
          rw [kept, kept', agree.same l proper away]
      · rw [grown.file?_eq, grown'.file?_eq, agree.files l proper other]
    have along : AgreeAlong p made made' := by
      intro l member
      rcases mem_directory_way member with rfl | on
      · exact after.same _ (place_proper p) elsewhere
      · rw [way l on, way' l on]
    have above : AgreeAlong p.directory made made' := fun l on => by rw [way l on, way' l on]
    rw [ran, ran']
    dsimp only
    rw [along.renameTarget, above.resolve]
    cases made.resolve p.directory with
    | error fault => exact ⟨rfl, after⟩
    | ok holder =>
      cases found : made.renameTarget p with
      | error fault => exact ⟨rfl, after⟩
      | ok place => exact ⟨rfl, after.put found (along.renameTarget.trans found)⟩

/-- What a path names that steers clear is replaced alike. -/
theorem replace (agree : AgreeBut spill target d d') (clear : p.Clear spill target) :
    EndPaired (AgreeBut spill target) (d.replace p content mode) (d'.replace p content mode) := by
  cases clear with
  | avoids away => exact agree.replace_of_along (agree.along away)
  | passes plain past elsewhere =>
    rcases agree.along_or_open plain past elsewhere with along | ⟨noFile, -⟩
    · exact agree.replace_of_along along
    · exact agree.replace_of_open plain elsewhere noFile

/-- Disks still agree when the target is written to one of them, as far as that spills. -/
theorem spill_left (agree : AgreeBut spill target d d') (spills : ∀ l, d.Changeable p l → spill l)
    (own : target p.place) : AgreeBut spill target (d.replace p content mode).1 d' where
  same l proper away := by
    rw [get?_replace d p content mode proper fun changeable => away (spills l changeable)]
    exact agree.same l proper away
  files l proper other := by
    rw [file?_replace proper fun same => other (same ▸ own)]
    exact agree.files l proper other
  grounded := grounded_replace agree.grounded p content mode
  grounded' := agree.grounded'

end AgreeBut

/-- Removes the file that a path names, if it names one. -/
def remove (d : Disk) (p : Path) : Disk :=
  match d.resolve p with
  | .ok l =>
    match d.get? l with
    | some (.file _ _) => d.clear l
    | _ => d
  | .error _ => d

theorem directory_clear (file : d.get? l = some (.file mode content))
    (directory : d.get? m = some .directory) : (d.clear l).get? m = some .directory := by
  by_cases top : m.names = []
  · simp only [get?, top, ↓reduceIte]
  · have inner : l.names ≠ [] := by
      intro top
      rw [get?, if_pos top] at file
      cases file
    rw [get?_clear top, if_neg]
    · exact directory
    · intro same
      rw [get?_of_inner top, ← same, ← get?_of_inner inner, file] at directory
      cases directory

/-- Removing a file removes no directory. -/
theorem directory_remove (directory : d.get? m = some .directory) :
    (d.remove p).get? m = some .directory := by
  unfold remove
  split
  · split
    · rename_i there
      exact directory_clear there directory
    · exact directory
  · exact directory

theorem Grounded.clear (grounded : d.Grounded) (file : d.get? l = some (.file mode content)) :
    (d.clear l).Grounded := by
  intro m proper inner there
  refine directory_clear file ?_
  rw [get?_clear inner] at there
  split at there
  · cases there
  · exact grounded m proper inner there

namespace AgreeBut

/-- The file that a path names that steers clear is removed from both disks or from none. -/
theorem remove (agree : AgreeBut spill target d d') (clear : p.Clear spill target) :
    AgreeBut spill target (d.remove p) (d'.remove p) := by
  have alike := agree.leadsAlike clear
  unfold Disk.remove
  rw [alike.resolve]
  cases resolved : d.resolve p with
  | error fault => exact agree
  | ok l =>
    have same := alike.entry l resolved
    dsimp only
    rw [same]
    split
    · rename_i mode content there
      refine ⟨⟨fun m proper away => ?_⟩, fun m proper other => ?_, agree.grounded.clear there,
        agree.grounded'.clear (same.trans there)⟩
      · by_cases top : m.names = []
        · simp only [get?, top, ↓reduceIte]
        · rw [get?_clear top, get?_clear top, agree.same m proper away]
      · have files := agree.files m proper other
        unfold file? at files ⊢
        by_cases top : m.names = []
        · simp only [get?, top, ↓reduceIte]
        · rw [get?_clear top, get?_clear top]
          by_cases own : l.key = m.key
          · simp only [own, ↓reduceIte]
          · simp only [own, ↓reduceIte]
            exact files
    · exact agree

end AgreeBut

end Disk

end Upkeep
