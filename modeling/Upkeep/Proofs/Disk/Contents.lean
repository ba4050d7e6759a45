import Upkeep.Proofs.Disk.Replacement
import Upkeep.Proofs.Surroundings

/-! What a replacement does to the contents of files. Where every entry lies in a directory and a
path never goes up, what the path names is told by one entry, so contents can be followed entry by
entry. -/
namespace Upkeep

/-- A path that never goes up leads through the places of its names. -/
structure Path.Straight (p : Path) : Prop where
  notUp : ".." ∉ Disk.stepsOf p

/-- The place further down that names lead to. -/
def Location.descend (l : Location) (names : List String) : Location :=
  { l with names := l.names ++ names }

namespace Location

variable {l : Location} {name : String} {names : List String}

@[simp]
theorem descend_nil : l.descend [] = l := by
  simp [descend]

theorem descend_cons : l.descend (name :: names) = (l.child name).descend names := by
  simp [descend, child]

theorem descend_append {more : List String} :
    l.descend (names ++ more) = (l.descend names).descend more := by
  simp [descend]

end Location

/-- Bytes are the text that they encode. -/
theorem Text.fromUTF8?_eq_some {bytes : ByteArray} {text : String} :
    String.fromUTF8? bytes = some text ↔ bytes = text.toUTF8 := by
  unfold String.fromUTF8?
  constructor
  · intro decoded
    split at decoded
    · cases decoded
      rfl
    · cases decoded
  · rintro rfl
    exact dif_pos text.isValidUTF8

namespace Disk

variable {d d' : Disk} {l m : Location} {e : Entry} {name : String} {names : List String}
  {p q : Path} {content : ByteArray} {mode : Nat}

theorem content?_eq_some : d.content? p = some content ↔ d.read p = .ok content := by
  unfold content?
  cases d.read p <;> simp [Except.toOption]

private theorem descend_of_walk (notUp : ".." ∉ names) (walk : d.walk l names = .ok m) :
    m = l.descend names ∧ ∀ name ∈ names, name.utf8ByteSize ≤ nameLimit := by
  induction names generalizing l with
  | nil =>
    cases walk
    exact ⟨Location.descend_nil.symm, List.forall_mem_nil _⟩
  | cons name names ih =>
    obtain ⟨next, step, rest⟩ := walk_cons_eq_ok.mp walk
    simp only [List.mem_cons, not_or] at notUp
    obtain ⟨-, ⟨up, -⟩ | ⟨-, short, -, rfl⟩⟩ := step_eq_ok.mp step
    · exact absurd up.symm notUp.1
    · obtain ⟨rfl, later⟩ := ih notUp.2 rest
      exact ⟨Location.descend_cons.symm, List.forall_mem_cons.mpr ⟨short, later⟩⟩

/-- All that lies above an entry is there. -/
theorem isSome_of_descend (grounded : d.Grounded) (proper : l.Proper)
    (own : ∀ name ∈ names, IsEntryName name) (there : (d.get? (l.descend names)).isSome = true) :
    (d.get? l).isSome = true := by
  induction names generalizing l with
  | nil => simpa using there
  | cons name names ih =>
    obtain ⟨first, later⟩ := List.forall_mem_cons.mp own
    rw [Location.descend_cons] at there
    have child := ih (proper.child first) later there
    have directory := grounded _ (proper.child first) (Location.names_child_ne_nil l name) child
    rw [Location.above_child] at directory
    simp [directory]

private theorem walk_of_grounded (grounded : d.Grounded) (proper : l.Proper)
    (own : ∀ name ∈ names, IsEntryName name) (notUp : ".." ∉ names)
    (short : ∀ name ∈ names, name.utf8ByteSize ≤ nameLimit)
    (there : (d.get? (l.descend names)).isSome = true) : d.walk l names = .ok (l.descend names) := by
  induction names generalizing l with
  | nil => simp [walk, pure, Except.pure]
  | cons name names ih =>
    obtain ⟨first, later⟩ := List.forall_mem_cons.mp own
    obtain ⟨shortFirst, shortLater⟩ := List.forall_mem_cons.mp short
    simp only [List.mem_cons, not_or] at notUp
    rw [Location.descend_cons] at there ⊢
    have child := isSome_of_descend grounded (proper.child first) later there
    have directory := grounded _ (proper.child first) (Location.names_child_ne_nil l name) child
    rw [Location.above_child] at directory
    have step : d.step l name = .ok (l.child name) :=
      step_eq_ok.mpr ⟨directory, .inr ⟨Ne.symm notUp.1, shortFirst, child, rfl⟩⟩
    exact walk_cons_eq_ok.mpr ⟨_, step, ih (proper.child first) later notUp.2 shortLater there⟩

/-- On a grounded disk, what a straight path names is told by the entry of one place. -/
theorem content?_of_straight (grounded : d.Grounded) (straight : p.Straight) :
    d.content? p = some content ↔ accept p = .ok () ∧ endsOpen p = false ∧
      (∀ name ∈ stepsOf p, name.utf8ByteSize ≤ nameLimit) ∧
      ∃ mode, d.get? ((startOf p).descend (stepsOf p)) = some (.file mode content) := by
  rw [content?_eq_some, read_eq_ok]
  refine and_congr_right fun _ => and_congr_right fun _ => ⟨?_, ?_⟩
  · rintro ⟨l, mode, walk, file⟩
    obtain ⟨rfl, short⟩ := descend_of_walk straight.notUp walk
    exact ⟨short, mode, file⟩
  · rintro ⟨short, mode, file⟩
    refine ⟨_, mode, walk_of_grounded grounded (startOf_proper p)
      (fun name => isEntryName_of_mem_stepsOf) straight.notUp short ?_, file⟩
    simp [file]

/-- Contents are the same on grounded disks with the same files at the place of a path. -/
private theorem content?_congr (grounded : d.Grounded) (grounded' : d'.Grounded)
    (straight : p.Straight)
    (same : ∀ mode content, d'.get? ((startOf p).descend (stepsOf p)) = some (.file mode content) ↔
      d.get? ((startOf p).descend (stepsOf p)) = some (.file mode content)) :
    d'.content? p = d.content? p := by
  refine Option.ext fun content => ?_
  rw [content?_of_straight grounded straight, content?_of_straight grounded' straight]
  simp only [same]

/-- Directories that are made leave all contents as they are. -/
theorem Extends.content?_eq (grown : Extends d d') (grounded : d.Grounded)
    (straight : p.Straight) : d'.content? p = d.content? p := by
  refine content?_congr grounded (grown.grounded grounded) straight fun mode content => ?_
  refine ⟨fun file => ?_, grown.kept⟩
  rcases grown.made file with file | made
  · exact file
  · cases made

/-- The walk along the path of a file that was put in place leads to the file. -/
theorem Placed.walk (placed : Placed d p content mode d') : accept p = .ok () ∧
    ∃ m, d'.walk (startOf p) (stepsOf p) = .ok m ∧
      d'.get? m = some (.file (keptMode mode) content) := by
  obtain ⟨⟨l, name, leads, noDirectory, rfl⟩, -⟩ := placed
  obtain ⟨above, steps, walk⟩ := leads.steps
  have inner := Location.names_child_ne_nil l name
  have kept {m : Location} (directory : d.get? m = some .directory) :
      (d.put (l.child name) (.file (keptMode mode) content)).get? m = some .directory :=
    get?_put_of_kept inner noDirectory directory
  refine ⟨leads.accepted, l.child name, ?_, by rw [get?_put inner, if_pos rfl]⟩
  refine steps ▸ walk_append_eq_ok.mpr ⟨l, walk_of_directories (fun _ => kept) walk leads.directory, ?_⟩
  rw [walk_singleton]
  refine step_eq_ok.mpr ⟨kept leads.directory, .inr ⟨leads.notUp, leads.short, ?_, rfl⟩⟩
  rw [get?_put inner, if_pos rfl]
  rfl

/-- A file that was put in place is what its path names. -/
theorem Placed.content?_self (placed : Placed d p content mode d') :
    d'.content? p = some content := by
  obtain ⟨accepted, m, walk, there⟩ := placed.walk
  rw [content?_eq_some, read_eq_ok]
  exact ⟨accepted, placed.closed, m, keptMode mode, walk, there⟩

theorem Placed.grounded (placed : Placed d p content mode d') (grounded : d.Grounded) :
    d'.Grounded := by
  obtain ⟨⟨l, name, leads, noDirectory, rfl⟩, -⟩ := placed
  exact grounded.put_child leads.proper leads.directory noDirectory

/-- A file that was put in place leaves alone what a path with another last name names. -/
theorem Placed.content?_other (placed : Placed d p content mode d') (grounded : d.Grounded)
    (straight : q.Straight) (other : (stepsOf q).getLast? ≠ (stepsOf p).getLast?) :
    d'.content? q = d.content? q := by
  refine content?_congr grounded (placed.grounded grounded) straight fun mode content => ?_
  obtain ⟨⟨l, name, leads, noDirectory, rfl⟩, -⟩ := placed
  obtain ⟨above, steps, -⟩ := leads.steps
  have proper : ((startOf q).descend (stepsOf q)).Proper :=
    fun name member => isEntryName_of_mem_stepsOf member
  by_cases top : ((startOf q).descend (stepsOf q)).names = []
  · simp only [get?, top, ↓reduceIte]
  · rw [get?_put top, if_neg]
    intro same
    have place := congrArg Location.names (Location.key_injective leads.proper proper same)
    have last : l.names ++ [name] = stepsOf q := place
    exact other (by rw [← last, steps]; simp)

end Disk

end Upkeep
