import Upkeep.Path

/-! Paths that are continued by a text. Whatever the path is, it then ends in the text, and a text
without slashes is the name that it ends in. -/
namespace Upkeep

namespace Path

variable {p left : Path} {text piece : List Char} {right : String}

/-- A path that is continued by a text ends in that text. -/
theorem getLast?_joinText (left : Path) (notEmpty : right ≠ "") :
    (left.joinText right).text.toList.getLast? = right.toList.getLast? := by
  cases chars : right.toList with
  | nil => exact absurd (String.toList_eq_nil_iff.mp chars) notEmpty
  | cons first rest =>
    unfold joinText join
    split
    · rw [chars]
    · split <;> simp [chars, List.getLast?_cons]

/-- A character other than a slash is in a path that is continued by a text if it is in that text, or
in the path unless the text starts at the root. -/
theorem mem_joinText {c : Char} (other : c ≠ '/') :
    c ∈ (left.joinText right).text.toList ↔
      c ∈ right.toList ∨ c ∈ left.text.toList ∧ (mk right).isAbsolute = false := by
  unfold joinText join
  cases absolute : (mk right).isAbsolute with
  | true => simp
  | false =>
    simp only [Bool.false_eq_true, ↓reduceIte, and_true]
    split
    · rw [String.toList_append, List.mem_append, or_comm]
    · have slash : "/".toList = ['/'] := by decide
      simp only [String.toList_append, List.mem_append, slash, List.mem_singleton, other, or_false]
      exact or_comm

/-- The name that a path ends in. -/
def fileName? (p : Path) : Option String :=
  match p.components.getLast? with
  | some (.name name) => some name
  | _ => none

theorem fileName?_eq_some {name : String} :
    p.fileName? = some name ↔ p.components.getLast? = some (.name name) := by
  unfold fileName?
  split
  · rename_i last
    rw [last, Option.some.injEq, Option.some.injEq, Component.name.injEq]
  · rename_i noName
    constructor
    · intro found
      cases found
    · intro last
      exact absurd last (noName name)

/-- What a text ends in when it is cut at slashes. -/
inductive EndsIn (piece : List Char) : List Char → Prop where
  | whole : EndsIn piece piece
  | slash (before : List Char) : EndsIn piece (before ++ '/' :: piece)

theorem EndsIn.getLast?_splitOn (ends : EndsIn piece text) (noSlash : '/' ∉ piece) :
    (text.splitOn '/').getLast? = some piece := by
  cases ends with
  | whole => rw [List.splitOn_eq_singleton noSlash, List.getLast?_singleton]
  | slash before =>
    rw [List.splitOn_append_cons_self, List.splitOn_eq_singleton noSlash, List.getLast?_concat]

/-- Every text ends in something without slashes. -/
theorem EndsIn.exists_piece (text : List Char) : ∃ piece, EndsIn piece text ∧ '/' ∉ piece := by
  induction text with
  | nil => exact ⟨[], .whole, List.not_mem_nil⟩
  | cons c rest ih =>
    obtain ⟨piece, ends, noSlash⟩ := ih
    cases ends with
    | whole =>
      by_cases slash : c = '/'
      · exact ⟨rest, slash ▸ .slash [], noSlash⟩
      · exact ⟨c :: rest, .whole, by simp [noSlash, Ne.symm slash]⟩
    | slash before => exact ⟨piece, .slash (c :: before), noSlash⟩

/-- Unless a text ends in a slash, its last character is that of the piece it ends in. -/
theorem EndsIn.getLast?_eq (ends : EndsIn piece text) (closed : text.getLast? ≠ some '/') :
    piece.getLast? = text.getLast? := by
  cases ends with
  | whole => rfl
  | slash before =>
    cases piece with
    | nil => simp at closed
    | cons first rest => simp [List.getLast?_cons]

/-- What ends in a text ends in what that text ends in. -/
theorem EndsIn.trans {inner : List Char} (ends : EndsIn inner piece) (outer : EndsIn piece text) :
    EndsIn inner text := by
  cases outer with
  | whole => exact ends
  | slash before =>
    cases ends with
    | whole => exact .slash before
    | slash between =>
      have joined : EndsIn inner ((before ++ '/' :: between) ++ '/' :: inner) := .slash _
      rwa [List.append_assoc, List.cons_append] at joined

theorem EndsIn.append (ends : EndsIn piece text) (more : List Char) :
    EndsIn (piece ++ more) (text ++ more) := by
  cases ends with
  | whole => exact .whole
  | slash before =>
    rw [List.append_assoc]
    exact .slash before

/-- What is more than the piece still ends in it without its first character. -/
theorem EndsIn.tail {first : Char} (ends : EndsIn piece (first :: text)) (more : piece ≠ first :: text) :
    EndsIn piece text := by
  generalize whole : first :: text = source at ends more
  cases ends with
  | whole => exact absurd rfl more
  | slash before =>
    cases before with
    | nil =>
      cases whole
      exact .whole
    | cons first rest =>
      cases whole
      exact .slash rest

/-- A path that ends in a name has it for its last component. -/
theorem fileName?_of_endsIn (ends : EndsIn piece p.text.toList) (noSlash : '/' ∉ piece)
    (said : isEmptyPiece piece = false) (notUp : piece ≠ ['.', '.']) :
    p.fileName? = some (String.ofList piece) := by
  have last : p.split.2.getLast? = some piece := by
    unfold split
    split
    · rename_i rest absolute
      rw [absolute] at ends
      refine (ends.tail ?_).getLast?_splitOn noSlash
      rintro rfl
      exact noSlash List.mem_cons_self
    · rename_i dot
      rw [dot] at ends
      have only := ends.getLast?_splitOn noSlash
      rw [List.splitOn_eq_singleton (by decide), List.getLast?_singleton, Option.some.injEq] at only
      subst only
      cases said
    · rename_i rest dotted
      rw [dotted] at ends
      refine (ends.tail ?_).getLast?_splitOn noSlash
      rintro rfl
      exact noSlash (List.mem_cons_of_mem _ List.mem_cons_self)
    · exact ends.getLast?_splitOn noSlash
  obtain ⟨above, pieces⟩ := List.getLast?_eq_some_iff.mp last
  have up : (piece == ['.', '.']) = false := beq_eq_false_iff_ne.mpr notUp
  simp only [fileName?, components, pieces, List.filter_append, List.filter_cons, said, Bool.not_false,
    ↓reduceIte, List.filter_nil, List.map_append, List.map_cons, List.map_nil, up, Bool.false_eq_true,
    ← List.append_assoc, List.getLast?_concat]

/-- A path that is continued by a text ends in it, at a slash or as a whole. -/
theorem endsIn_joinText (left : Path) (right : String) :
    EndsIn right.toList (left.joinText right).text.toList := by
  unfold joinText join
  split
  · exact .whole
  · split
    · rename_i joined
      rw [String.toList_append]
      rcases Bool.or_eq_true_iff.mp joined with empty | slash
      · rw [String.isEmpty_iff.mp empty]
        exact .whole
      · obtain ⟨before, same⟩ := List.getLast?_eq_some_iff.mp (beq_iff_eq.mp slash)
        rw [same, List.append_assoc]
        exact .slash before
    · rw [String.toList_append, String.toList_append, List.append_assoc]
      exact .slash left.text.toList

/-- A path that ends in something that does not end in a dot has it for its last component. -/
theorem fileName?_of_closed (ends : EndsIn piece p.text.toList) (noSlash : '/' ∉ piece)
    (notEmpty : piece ≠ []) (closed : piece.getLast? ≠ some '.') :
    p.fileName? = some (String.ofList piece) := by
  have said : isEmptyPiece piece = false := by
    refine Bool.or_eq_false_iff.mpr ⟨beq_eq_false_iff_ne.mpr notEmpty, beq_eq_false_iff_ne.mpr ?_⟩
    intro dot
    exact closed (by rw [dot]; rfl)
  have notUp : piece ≠ ['.', '.'] := by
    intro up
    exact closed (by rw [up]; rfl)
  exact fileName?_of_endsIn ends noSlash said notUp

/-- A path that is continued by a name ends in it, whatever the path is. -/
theorem fileName?_joinText (left : Path) (noSlash : '/' ∉ right.toList)
    (notEmpty : right.toList ≠ []) (closed : right.toList.getLast? ≠ some '.') :
    (left.joinText right).fileName? = some right := by
  have named := fileName?_of_closed (endsIn_joinText left right) noSlash notEmpty closed
  rwa [String.ofList_toList] at named

end Path

end Upkeep
