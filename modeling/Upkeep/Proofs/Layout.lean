import Upkeep.Collaborators
import Upkeep.Proofs.Disk.Ways
import Upkeep.Service

/-! Where the files of services lie. What joining does to the components of a path tells the paths of
a layout apart: those of the two files of a service by the names that they end in, and those of two
services by the components that come of their names, which differ even for names like `.` and `..`. -/
namespace Upkeep

namespace Path

variable {left p : Path} {right : String} {piece piece' text : List Char}

/-- The mark that a path starts with: a slash, or a dot that is a component of its own. -/
def mark : List Char → List Component
  | [] => []
  | first :: rest =>
    if first = '/' then [.root]
    else if first = '.' ∧ (rest = [] ∨ rest.head? = some '/') then [.here]
    else []

/-- The components that the start of a split path says. -/
def opening : List Char → List Component
  | ['/'] => [.root]
  | ['.'] => [.here]
  | _ => []

/-- The component that a piece says. -/
def componentOf (piece : List Char) : Component :=
  if piece == ['.', '.'] then .up else .name (String.ofList piece)

/-- The components that follow the mark. -/
def namedIn (text : List Char) : List Component :=
  (namesIn text).map componentOf

/-- A path is split behind its mark. -/
theorem Split.opening_eq {start : List Char} {pieces : List (List Char)}
    (split : Split p (start, pieces)) : opening start = mark p.text.toList := by
  cases split with
  | root chars => rw [chars]; rfl
  | dot chars => rw [chars]; rfl
  | here chars => rw [chars]; rfl
  | plain relative noDot notHere =>
    cases chars : p.text.toList with
    | nil => rfl
    | cons first rest =>
      rw [chars] at relative noDot notHere
      have notRoot : first ≠ '/' := by simpa using relative
      rw [mark, if_neg notRoot, if_neg]
      · rfl
      · rintro ⟨rfl, rfl | slash⟩
        · exact noDot rfl
        · obtain ⟨after, rfl⟩ := List.head?_eq_some_iff.mp slash
          exact notHere after rfl

theorem components_eq (p : Path) : p.components = mark p.text.toList ++ namedIn p.text.toList := by
  have split := split_cases p
  unfold components namedIn
  generalize p.split = cut at split
  obtain ⟨start, pieces⟩ := cut
  rw [← split.opening_eq, ← split.namesIn_eq]
  rfl

/-- What comes behind a slash leaves the mark. -/
theorem mark_append {rest : List Char} (notEmpty : text ≠ [])
    (cut : text.getLast? = some '/' ∨ rest.head? = some '/') : mark (text ++ rest) = mark text := by
  cases text with
  | nil => exact absurd rfl notEmpty
  | cons first more =>
    cases more with
    | nil => 
      rcases cut with slash | slash
      · obtain rfl : first = '/' := by simpa using slash
        rfl
      · simp [mark, slash]
    | cons second more => simp [mark]

theorem namedIn_append (first rest : List Char) :
    namedIn (first ++ '/' :: rest) = namedIn first ++ namedIn rest := by
  unfold namedIn
  rw [namesIn_append, List.map_append]

/-- A path that says something is continued by components. -/
theorem components_joinText (said : left.text ≠ "") (relative : (mk right).isAbsolute = false) :
    (left.joinText right).components = left.components ++ namedIn right.toList := by
  have notEmpty : left.text.toList ≠ [] := fun empty => said (String.toList_eq_nil_iff.mp empty)
  have more : left.text.isEmpty = false := Bool.eq_false_iff.mpr (mt String.isEmpty_iff.mp said)
  rw [components_eq left, components_eq, joinText, join, relative, more]
  by_cases open_ : left.text.toList.getLast? = some '/'
  · obtain ⟨before, chars⟩ := List.getLast?_eq_some_iff.mp open_
    have joined : (left.text ++ right).toList = before ++ '/' :: right.toList := by
      rw [String.toList_append, chars, List.append_assoc, List.singleton_append]
    have alone : namedIn left.text.toList = namedIn before := by
      rw [chars, namedIn_append]
      exact List.append_nil _
    simp only [open_, Bool.false_eq_true, BEq.rfl, Bool.false_or, ↓reduceIte]
    rw [alone, List.append_assoc, ← namedIn_append, ← joined, String.toList_append,
      mark_append notEmpty (.inl open_)]
  · have joined : (left.text ++ "/" ++ right).toList = left.text.toList ++ '/' :: right.toList := by
      simp
    simp only [beq_eq_false_iff_ne.mpr open_, Bool.false_eq_true, Bool.or_self, ↓reduceIte]
    rw [joined, mark_append notEmpty (.inr rfl), namedIn_append, List.append_assoc]

theorem text_joinText_ne_empty (left : Path) (said : right ≠ "") : (left.joinText right).text ≠ "" := by
  intro empty
  have last := getLast?_joinText left said
  rw [empty] at last
  exact said (String.toList_eq_nil_iff.mp (List.getLast?_eq_none_iff.mp last.symm))

theorem joinText_of_empty (empty : left.text = "") : left.joinText right = ⟨right⟩ := by
  rw [joinText, join, empty]
  simp

/-- Pieces that say the same are the same. -/
theorem componentOf_injective (same : componentOf piece = componentOf piece') : piece = piece' := by
  unfold componentOf at same
  split at same <;> split at same
  · rename_i up up'
    exact (beq_iff_eq.mp up).trans (beq_iff_eq.mp up').symm
  · cases same
  · cases same
  · simpa using congrArg String.toList (Component.name.inj same)

/-- No piece says the dot at the start. -/
theorem componentOf_ne_here (piece : List Char) : componentOf piece ≠ .here := by
  unfold componentOf
  split <;> simp

/-- A piece says one component, but for a dot. -/
theorem namedIn_piece (notEmpty : piece ≠ []) (noSlash : '/' ∉ piece) :
    namedIn piece = if piece = ['.'] then [] else [componentOf piece] := by
  unfold namedIn
  rw [namesIn_of_noSlash noSlash]
  split <;> simp_all [isEmptyPiece]

/-- Pieces with the same components are the same. -/
theorem namedIn_injective (notEmpty : piece ≠ []) (noSlash : '/' ∉ piece) (notEmpty' : piece' ≠ [])
    (noSlash' : '/' ∉ piece') (same : namedIn piece = namedIn piece') : piece = piece' := by
  rw [namedIn_piece notEmpty noSlash, namedIn_piece notEmpty' noSlash'] at same
  split at same <;> split at same
  · rename_i dot dot'
    exact dot.trans dot'.symm
  · cases same
  · cases same
  · exact componentOf_injective (List.singleton_inj.mp same)

/-- A piece that is a whole path is one component, a dot included. -/
theorem components_piece (notEmpty : piece ≠ []) (noSlash : '/' ∉ piece) :
    (mk (String.ofList piece)).components =
      if piece = ['.'] then [.here] else [componentOf piece] := by
  rw [components_eq, String.toList_ofList, namedIn_piece notEmpty noSlash]
  cases piece with
  | nil => exact absurd rfl notEmpty
  | cons first rest =>
    have notRoot : first ≠ '/' := fun same => noSlash (same ▸ List.mem_cons_self)
    have noHead : rest.head? ≠ some '/' := fun same =>
      noSlash (List.mem_cons_of_mem _ (List.mem_of_head? same))
    simp only [mark, notRoot, noHead, or_false, ↓reduceIte, List.cons.injEq]
    split <;> rfl

end Path

theorem slash_not_mem_of_isUnitName {name : String} (accepted : isUnitName name = true) :
    '/' ∉ name.toList := by
  unfold isUnitName at accepted
  intro slash
  exact absurd (List.all_eq_true.mp (Bool.and_eq_true_iff.mp accepted).2 '/' slash) (by decide)

theorem isAbsolute_of_isUnitName {name : String} (accepted : isUnitName name = true) :
    (Path.mk name).isAbsolute = false :=
  beq_eq_false_iff_ne.mpr fun root => slash_not_mem_of_isUnitName accepted (List.mem_of_head? root)

theorem ne_empty_of_isUnitName {name : String} (accepted : isUnitName name = true) : name ≠ "" := by
  rintro rfl
  cases accepted

theorem toList_ne_nil_of_isUnitName {name : String} (accepted : isUnitName name = true) :
    name.toList ≠ [] :=
  fun empty => ne_empty_of_isUnitName accepted (String.toList_eq_nil_iff.mp empty)

namespace Layout

variable {name name' : String} {base units : Path}

/-- The unit file ends in what the name of the service ends in, and the type of a unit. -/
theorem fileName?_unitPath (name : String) (base units : Path) :
    ∃ piece, Path.EndsIn piece name.toList ∧ '/' ∉ piece ∧
      (ofService name base units).unitPath.fileName? = some (String.ofList piece ++ ".service") := by
  obtain ⟨piece, ends, noSlash⟩ := Path.EndsIn.exists_piece name.toList
  refine ⟨piece, ends, noSlash, ?_⟩
  have type : ".service".toList = ['.', 's', 'e', 'r', 'v', 'i', 'c', 'e'] := by decide
  have joined := Path.endsIn_joinText units (name ++ ".service")
  rw [String.toList_append] at joined
  have named := Path.fileName?_of_closed ((ends.append _).trans joined) ?_ ?_ ?_
  · rw [String.ofList_append, String.ofList_toList] at named
    exact named
  · rw [type, List.mem_append, not_or]
    exact ⟨noSlash, by decide⟩
  · simp [type]
  · simp [type]

/-- For a name of a unit, that is the whole name. -/
theorem fileName?_unitPath_of_accepted (accepted : isUnitName name = true) (base units : Path) :
    (ofService name base units).unitPath.fileName? = some (name ++ ".service") := by
  obtain ⟨piece, ends, -, named⟩ := fileName?_unitPath name base units
  have noSlash := slash_not_mem_of_isUnitName accepted
  have same : piece = name.toList := by
    generalize name.toList = chars at ends noSlash
    cases ends with
    | whole => rfl
    | slash before => exact absurd (List.mem_append_right _ List.mem_cons_self) noSlash
  rw [named, same, String.ofList_toList]

/-- The settings file has its own name. -/
theorem fileName?_configPath (name : String) (base units : Path) :
    (ofService name base units).configPath.fileName? = some settingsName := by
  have noSlash : '/' ∉ settingsName.toList := by decide
  have closed : settingsName.toList.getLast? ≠ some '.' := by decide
  have notEmpty : settingsName.toList ≠ [] := by decide
  simp only [ofService]
  exact Path.fileName?_joinText _ noSlash notEmpty closed

/-- The components of the directory with the files of a service. -/
theorem components_tree (accepted : isUnitName name = true) (base : Path) :
    (base.joinText name).components =
      if base.text = "" then (if name = "." then [.here] else [Path.componentOf name.toList])
      else base.components ++ Path.namedIn name.toList := by
  split
  · rename_i empty
    have alone := Path.components_piece (toList_ne_nil_of_isUnitName accepted)
      (slash_not_mem_of_isUnitName accepted)
    have dot : name.toList = ['.'] ↔ name = "." := by
      rw [← String.toList_inj]
      rfl
    rw [String.ofList_toList] at alone
    rw [Path.joinText_of_empty empty, alone]
    simp only [dot]
  · rename_i said
    exact Path.components_joinText said (isAbsolute_of_isUnitName accepted)

/-- The two files of a service lie at different places, whatever its name is and wherever it lies. -/
theorem place_unitPath_ne (serviceName : String) (base units : Path) :
    (ofService serviceName base units).unitPath.place ≠
      (ofService serviceName base units).configPath.place := by
  have unit : (ofService serviceName base units).unitPath.text.toList.getLast? = some 'e' := by
    simp only [ofService]
    rw [Path.getLast?_joinText _ (by simp)]
    simp
  have settings : (ofService serviceName base units).configPath.text.toList.getLast? = some 'l' := by
    simp only [ofService]
    rw [Path.getLast?_joinText _ (by decide)]
    decide
  obtain ⟨name, last, ends⟩ := Disk.getLast?_place unit (by decide) (by decide)
  obtain ⟨name', last', ends'⟩ := Disk.getLast?_place settings (by decide) (by decide)
  intro same
  rw [same, last'] at last
  cases last
  cases ends.symm.trans ends'

/-- The components of the settings file. -/
theorem components_configPath (accepted : isUnitName name = true) (base units : Path) :
    (ofService name base units).configPath.components =
      (base.joinText name).components ++ [.name "etc", .name "settings.yaml"] := by
  have said := Path.text_joinText_ne_empty base (ne_empty_of_isUnitName accepted)
  have directory : Path.namedIn "etc".toList = [.name "etc"] := by decide
  have file : Path.namedIn settingsName.toList = [.name "settings.yaml"] := by decide
  simp only [ofService]
  rw [Path.components_joinText (Path.text_joinText_ne_empty _ (by decide)) (by decide),
    Path.components_joinText said (by decide), directory, file, List.append_assoc]
  rfl

/-- The components of the program. -/
theorem components_execPath (accepted : isUnitName name = true) (base units : Path) :
    (ofService name base units).execPath.components =
      (base.joinText name).components ++
        (.name "code" :: .name "current" :: Path.namedIn name.toList) := by
  have said := Path.text_joinText_ne_empty base (ne_empty_of_isUnitName accepted)
  have code : Path.namedIn "code".toList = [.name "code"] := by decide
  have current : Path.namedIn "current".toList = [.name "current"] := by decide
  simp only [execPath, ofService]
  rw [Path.components_joinText (Path.text_joinText_ne_empty _ (by decide)) (isAbsolute_of_isUnitName accepted),
    Path.components_joinText (Path.text_joinText_ne_empty _ (by decide)) (by decide),
    Path.components_joinText said (by decide), code, current, List.append_assoc, List.append_assoc]
  rfl

/-- Services whose directories are the same have the same name. -/
theorem eq_of_tree (accepted : isUnitName name = true) (accepted' : isUnitName name' = true)
    (same : (base.joinText name).components = (base.joinText name').components) : name = name' := by
  have notEmpty := toList_ne_nil_of_isUnitName accepted
  have notEmpty' := toList_ne_nil_of_isUnitName accepted'
  have noSlash := slash_not_mem_of_isUnitName accepted
  have noSlash' := slash_not_mem_of_isUnitName accepted'
  rw [components_tree accepted, components_tree accepted'] at same
  apply String.toList_inj.mp
  split at same
  · split at same <;> split at same
    · rename_i dot dot'
      rw [dot, dot']
    · exact absurd (List.singleton_inj.mp same).symm (Path.componentOf_ne_here _)
    · exact absurd (List.singleton_inj.mp same) (Path.componentOf_ne_here _)
    · exact Path.componentOf_injective (List.singleton_inj.mp same)
  · exact Path.namedIn_injective notEmpty noSlash notEmpty' noSlash' (List.append_cancel_left same)

/-- Services with the same program have the same name. The components of the name stand in the path
twice, or once where the path starts with it, so names of different lengths are told apart. -/
theorem eq_of_execPath (accepted : isUnitName name = true) (accepted' : isUnitName name' = true)
    (same : (ofService name base units).execPath.components =
      (ofService name' base units).execPath.components) : name = name' := by
  rw [components_execPath accepted, components_execPath accepted'] at same
  have lengths := congrArg List.length same
  rw [components_tree accepted, components_tree accepted'] at lengths
  have within : (Path.namedIn name.toList).length = (Path.namedIn name'.toList).length := by
    simp only [List.length_append, List.length_cons] at lengths
    split at lengths
    · split at lengths <;> split at lengths <;> simp only [List.length_singleton] at lengths <;> omega
    · simp only [List.length_append] at lengths
      omega
  have ends := List.append_inj_right' same (by simp only [List.length_cons, within])
  have last : Path.namedIn name.toList = Path.namedIn name'.toList :=
    (List.cons.inj (List.cons.inj ends).2).2
  exact String.toList_inj.mp (Path.namedIn_injective (toList_ne_nil_of_isUnitName accepted)
    (slash_not_mem_of_isUnitName accepted) (toList_ne_nil_of_isUnitName accepted')
    (slash_not_mem_of_isUnitName accepted') last)

/-- Paths of layouts do not collide. The two files of a service end in different names, whatever the
service is called and wherever its files lie, so on no disk do they lead to the same place. And no
path of one service is that of another, for different names of units under the same directories. -/
theorem paths_never_collide :
    (∀ (name : String) (base units : Path), ∃ unit,
      (ofService name base units).unitPath.components.getLast? = some (.name unit) ∧
      (ofService name base units).configPath.components.getLast? = some (.name settingsName) ∧
      unit ≠ settingsName ∧
      ∀ (d : Disk) (l l' : Location), d.resolve (ofService name base units).unitPath = .ok l →
        d.resolve (ofService name base units).configPath = .ok l' → l ≠ l') ∧
    ∀ (name name' : String) (base units : Path), isUnitName name = true → isUnitName name' = true →
      name ≠ name' →
      (ofService name base units).unitPath.components ≠ (ofService name' base units).unitPath.components ∧
      (ofService name base units).configPath.components ≠
        (ofService name' base units).configPath.components ∧
      (ofService name base units).execPath.components ≠ (ofService name' base units).execPath.components := by
  constructor
  · intro name base units
    obtain ⟨piece, -, -, named⟩ := fileName?_unitPath name base units
    refine ⟨_, Path.fileName?_eq_some.mp named, Path.fileName?_eq_some.mp (fileName?_configPath _ _ _), ?_, ?_⟩
    · intro same
      have last := congrArg (fun text => text.toList.getLast?) same
      simp [settingsName] at last
    · intro d l l' resolved resolved' same
      rw [Disk.eq_of_resolve resolved, Disk.eq_of_resolve resolved'] at same
      exact place_unitPath_ne name base units same
  · intro name name' base units accepted accepted' other
    refine ⟨?_, ?_, ?_⟩
    · intro same
      have named := fileName?_unitPath_of_accepted accepted base units
      have named' := fileName?_unitPath_of_accepted accepted' base units
      rw [Path.fileName?_eq_some, same, ← Path.fileName?_eq_some, named', Option.some.injEq] at named
      exact other (String.append_left_inj _ |>.mp named.symm)
    · intro same
      rw [components_configPath accepted, components_configPath accepted'] at same
      exact other (eq_of_tree accepted accepted' (List.append_cancel_right same))
    · intro same
      exact other (eq_of_execPath accepted accepted' same)

/-- Two names that say nothing or lead up, under a directory that is the current one. -/
theorem dotted_paths_differ :
    isUnitName "." = true ∧ isUnitName ".." = true ∧ "." ≠ ".." ∧
      (ofService "." ⟨""⟩ ⟨"/units/"⟩).unitPath.components ≠
        (ofService ".." ⟨""⟩ ⟨"/units/"⟩).unitPath.components ∧
      (ofService "." ⟨""⟩ ⟨"/units/"⟩).configPath.components ≠
        (ofService ".." ⟨""⟩ ⟨"/units/"⟩).configPath.components ∧
      (ofService "." ⟨""⟩ ⟨"/units/"⟩).execPath.components ≠
        (ofService ".." ⟨""⟩ ⟨"/units/"⟩).execPath.components := by
  have accepted : isUnitName "." = true := by decide
  have accepted' : isUnitName ".." = true := by decide
  have other : "." ≠ ".." := by decide
  exact ⟨accepted, accepted', other, paths_never_collide.2 "." ".." ⟨""⟩ ⟨"/units/"⟩ accepted accepted' other⟩

end Layout

end Upkeep
