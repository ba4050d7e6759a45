import Upkeep.Proofs.Disk.Places

/-! Following paths. A walk only looks at directories until its last name, so it leads to the same
place on every disk that has those directories. -/
namespace Upkeep.Disk

variable {d d' : Disk} {l m : Location} {e : Entry} {name : String} {names : List String} {p : Path}

theorem entries_put (key : String) : (d.put l e).entries.get? key =
    if l.key = key then some e else d.entries.get? key :=
  SortedMap.get?_insert d.entries l.key key e

@[simp]
theorem get?_put (inner : m.names ≠ []) :
    (d.put l e).get? m = if l.key = m.key then some e else d.get? m := by
  simp only [get?, put, inner, ↓reduceIte, SortedMap.get?_insert]

@[simp]
theorem get?_clear (inner : m.names ≠ []) :
    (d.clear l).get? m = if l.key = m.key then none else d.get? m := by
  simp only [get?, clear, inner, ↓reduceIte, SortedMap.get?_erase]

theorem get?_of_inner (inner : l.names ≠ []) : d.get? l = d.entries.get? l.key := by
  simp only [get?, inner, ↓reduceIte]

theorem step_eq_ok : d.step l name = .ok m ↔ d.get? l = some .directory ∧
    (name = ".." ∧ m = l.above ∨ name ≠ ".." ∧ name.utf8ByteSize ≤ nameLimit ∧
      (d.get? (l.child name)).isSome = true ∧ m = l.child name) := by
  unfold step
  cases d.get? l with
  | none => simp
  | some e =>
    cases e with
    | file mode content => simp
    | directory =>
      simp only [true_and]
      split
      · rename_i up
        refine ⟨fun same => .inl ⟨up, (Except.ok.inj same).symm⟩, ?_⟩
        rintro (⟨-, rfl⟩ | ⟨notUp, -⟩)
        · rfl
        · exact absurd up notUp
      · rename_i notUp
        split
        · rename_i long
          simp [notUp, Nat.not_le.mpr long]
        · rename_i short
          split
          · rename_i there
            simp [notUp, there, Nat.le_of_not_lt short, eq_comm]
          · rename_i missing
            simp [notUp, missing]

theorem walk_cons : d.walk l (name :: names) = d.step l name >>= (d.walk · names) :=
  List.foldlM_cons

theorem walk_append {more : List String} :
    d.walk l (names ++ more) = d.walk l names >>= (d.walk · more) :=
  List.foldlM_append

theorem walk_cons_eq_ok : d.walk l (name :: names) = .ok m ↔
    ∃ next, d.step l name = .ok next ∧ d.walk next names = .ok m := by
  rw [walk_cons]
  cases d.step l name <;> simp [bind, Except.bind]

theorem walk_append_eq_ok {more : List String} : d.walk l (names ++ more) = .ok m ↔
    ∃ next, d.walk l names = .ok next ∧ d.walk next more = .ok m := by
  rw [walk_append]
  cases d.walk l names <;> simp [bind, Except.bind]

theorem walk_singleton : d.walk l [name] = d.step l name := by
  rw [walk_cons]
  cases d.step l name <;> rfl

/-- A walk that ends in a directory starts in one. -/
private theorem directory_of_walk (walk : d.walk l names = .ok m)
    (directory : d.get? m = some .directory) : d.get? l = some .directory := by
  cases names with
  | nil =>
    cases walk
    exact directory
  | cons name names =>
    obtain ⟨next, step, -⟩ := walk_cons_eq_ok.mp walk
    exact (step_eq_ok.mp step).1

/-- A walk to a directory leads there on every disk that has the same directories. -/
theorem walk_of_directories
    (kept : ∀ l, d.get? l = some .directory → d'.get? l = some .directory)
    (walk : d.walk l names = .ok m) (directory : d.get? m = some .directory) :
    d'.walk l names = .ok m := by
  induction names generalizing l with
  | nil => exact walk
  | cons name names ih =>
    obtain ⟨next, step, rest⟩ := walk_cons_eq_ok.mp walk
    refine walk_cons_eq_ok.mpr ⟨next, ?_, ih rest⟩
    have there := kept next (directory_of_walk rest directory)
    obtain ⟨start, up | ⟨notUp, short, -, rfl⟩⟩ := step_eq_ok.mp step
    · exact step_eq_ok.mpr ⟨kept l start, .inl up⟩
    · exact step_eq_ok.mpr ⟨kept l start, .inr ⟨notUp, short, there ▸ rfl, rfl⟩⟩

theorem proper_of_walk (proper : l.Proper) (own : ∀ name ∈ names, IsEntryName name)
    (walk : d.walk l names = .ok m) : m.Proper := by
  induction names generalizing l with
  | nil =>
    cases walk
    exact proper
  | cons name names ih =>
    obtain ⟨next, step, rest⟩ := walk_cons_eq_ok.mp walk
    obtain ⟨first, later⟩ := List.forall_mem_cons.mp own
    refine ih ?_ later rest
    obtain ⟨-, ⟨-, rfl⟩ | ⟨-, -, -, rfl⟩⟩ := step_eq_ok.mp step
    · exact proper.above
    · exact proper.child first

/-- No piece of a text holds what the text was cut at. -/
theorem not_mem_of_mem_splitOn {c : Char} {text piece : List Char}
    (member : piece ∈ text.splitOn c) : c ∉ piece := by
  induction text generalizing piece with
  | nil =>
    rw [List.splitOn_nil] at member
    simp [List.mem_singleton.mp member]
  | cons head rest ih =>
    rw [List.splitOn_cons_eq_if_modifyHead] at member
    split at member
    · rcases List.mem_cons.mp member with rfl | member
      · exact List.not_mem_nil
      · exact ih member
    · rename_i other
      cases pieces : rest.splitOn c with
      | nil => exact absurd pieces (List.splitOn_ne_nil c rest)
      | cons first later =>
        rw [pieces, List.modifyHead_cons] at member
        rcases List.mem_cons.mp member with rfl | member
        · have fresh := ih (pieces ▸ List.mem_cons_self)
          simp only [List.mem_cons, not_or]
          exact ⟨fun same => other (beq_iff_eq.mpr same.symm), fresh⟩
        · exact ih (pieces ▸ List.mem_cons_of_mem first member)

private theorem isEntryName_of_piece {text piece : List Char} (member : piece ∈ text.splitOn '/')
    (notEmpty : piece ≠ []) : IsEntryName (String.ofList piece) := by
  refine ⟨fun same => notEmpty ?_, ?_⟩
  · simpa using congrArg String.toList same
  · simpa using not_mem_of_mem_splitOn member

theorem isEntryName_of_mem_stepsOf (member : name ∈ stepsOf p) : IsEntryName name := by
  obtain ⟨piece, listed, rfl⟩ := List.mem_map.mp member
  obtain ⟨cut, notEmpty⟩ := List.mem_filter.mp listed
  refine isEntryName_of_piece cut fun empty => ?_
  simp [empty, Path.isEmptyPiece] at notEmpty

theorem startOf_proper (p : Path) : (startOf p).Proper :=
  List.forall_mem_nil _

/-- How a path leads to a new entry. -/
structure LeadsTo (d : Disk) (p : Path) (l : Location) (name : String) : Prop where
  accepted : accept p = .ok ()
  noDot : (p.text.toList.splitOn '/').getLast? ≠ some ['.']
  steps : ∃ above, stepsOf p = above ++ [name] ∧ d.walk (startOf p) above = .ok l
  directory : d.get? l = some .directory
  notUp : name ≠ ".."
  short : name.utf8ByteSize ≤ nameLimit

theorem stepsOf_eq (p : Path) : stepsOf p =
    (((p.text.toList.splitOn '/').filter (· != [])).filter
      fun piece => !Path.isEmptyPiece piece).map String.ofList := by
  rw [stepsOf, List.filter_filter]
  congr 2
  funext piece
  cases piece <;> simp [Path.isEmptyPiece]

theorem leadsTo_of_resolveNew (resolved : d.resolveNew p = .ok (l, some name)) :
    LeadsTo d p l name := by
  have steps := stepsOf_eq p
  have notEmpty : ∀ piece ∈ (p.text.toList.splitOn '/').filter (· != []), piece ≠ [] :=
    fun piece member => bne_iff_ne.mp (List.mem_filter.mp member).2
  have dot (ends : (p.text.toList.splitOn '/').getLast? = some ['.']) :
      ((p.text.toList.splitOn '/').filter (· != [])).getLast? = some ['.'] := by
    obtain ⟨before, pieces⟩ := List.getLast?_eq_some_iff.mp ends
    simp [pieces]
  unfold resolveNew at resolved
  generalize (p.text.toList.splitOn '/').filter (· != []) = pieces at resolved steps notEmpty dot
  cases accepted : accept p with
  | error fault => simp [accepted, bind, Except.bind] at resolved
  | ok done =>
    cases ends : pieces.getLast? with
    | none => simp [accepted, ends, bind, Except.bind, pure, Except.pure] at resolved
    | some last =>
      obtain ⟨before, rfl⟩ := List.getLast?_eq_some_iff.mp ends
      simp only [accepted, ends, bind, Except.bind, List.dropLast_concat] at resolved
      cases walk : d.walk (startOf p)
          ((before.filter fun piece => !Path.isEmptyPiece piece).map String.ofList) with
      | error fault => simp [walk] at resolved
      | ok above =>
        simp only [walk] at resolved
        split at resolved
        · rename_i directory
          split at resolved
          · cases resolved
          · rename_i named
            simp only [Bool.or_eq_true, decide_eq_true_eq, not_or] at named
            have notEmpty := notEmpty last (List.mem_append_right _ List.mem_cons_self)
            split at resolved
            · cases resolved
            · rename_i short
              cases resolved
              refine ⟨accepted, fun same => named.1 ?_, ⟨_, ?_, walk⟩, directory,
                fun same => named.2 ?_, Nat.le_of_not_lt short⟩
              · simpa using dot same
              · simpa [Path.isEmptyPiece, notEmpty, named.1] using steps
              · simpa using congrArg String.toList same
        · cases resolved
        · cases resolved

theorem LeadsTo.of_directories
    (kept : ∀ l, d.get? l = some .directory → d'.get? l = some .directory)
    (leads : LeadsTo d p l name) : LeadsTo d' p l name where
  accepted := leads.accepted
  noDot := leads.noDot
  steps := by
    obtain ⟨above, steps, walk⟩ := leads.steps
    exact ⟨above, steps, walk_of_directories kept walk leads.directory⟩
  directory := kept l leads.directory
  notUp := leads.notUp
  short := leads.short

/-- A text whose last piece is empty is empty itself or ends in what it was cut at. -/
private theorem getLast?_of_open {c : Char} {text : List Char}
    (ends : (text.splitOn c).getLast? = some []) : text = [] ∨ text.getLast? = some c := by
  induction text with
  | nil => exact .inl rfl
  | cons head rest ih =>
    refine .inr ?_
    rw [List.getLast?_cons, Option.some.injEq]
    rw [List.splitOn_cons_eq_if_modifyHead] at ends
    cases pieces : rest.splitOn c with
    | nil => exact absurd pieces (List.splitOn_ne_nil c rest)
    | cons first later =>
      rw [pieces] at ends ih
      split at ends
      · rename_i same
        rcases ih (by simpa using ends) with rfl | last
        · exact beq_iff_eq.mp same
        · simp [last]
      · cases later with
        | nil => simp at ends
        | cons next later =>
          rcases ih (by simpa using ends) with rfl | last
          · simp at pieces
          · simp [last]

/-- A path that leads to an entry and does not end in a slash cannot only name a directory. -/
theorem LeadsTo.closed (leads : LeadsTo d p l name) (noSlash : p.text.toList.getLast? ≠ some '/') :
    endsOpen p = false := by
  have noDot := leads.noDot
  unfold endsOpen
  cases ends : (p.text.toList.splitOn '/').getLast? with
  | none => simp at ends
  | some piece =>
    rw [ends] at noDot
    have notEmpty : piece ≠ [] := by
      rintro rfl
      rcases getLast?_of_open ends with empty | slash
      · have accepted := leads.accepted
        simp [accept, String.toList_eq_nil_iff.mp empty] at accepted
      · exact noSlash slash
    have notDot : piece ≠ ['.'] := fun same => noDot (same ▸ rfl)
    simp [Path.isEmptyPiece, notEmpty, notDot]

/-- Reading looks up what the walk along a path leads to. -/
theorem read_eq_ok {content : ByteArray} : d.read p = .ok content ↔
    accept p = .ok () ∧ endsOpen p = false ∧ ∃ l mode,
      d.walk (startOf p) (stepsOf p) = .ok l ∧ d.get? l = some (.file mode content) := by
  unfold read resolve
  cases accept p with
  | error fault => simp [bind, Except.bind]
  | ok done =>
    cases d.walk (startOf p) (stepsOf p) with
    | error fault => simp [bind, Except.bind]
    | ok l =>
      simp only [bind, Except.bind, true_and, Except.ok.injEq]
      cases entry : d.get? l with
      | none => simp [entry]
      | some e =>
        cases e with
        | directory => simp [entry]
        | file mode found =>
          cases endsOpen p <;> simp [entry, pure, Except.pure]

end Upkeep.Disk
