import Mathlib.Data.List.Infix
import Upkeep.Proofs.Disk.Files

/-! The ways that paths lead. What comes of following a path is told by the entries of the places on
its way alone, and replacing what a path names changes nothing off its way. So disks that agree but
for some places cannot be told apart by paths that avoid these places. -/
namespace Upkeep

namespace Path

variable {p q : Path} {text rest : List Char} {pieces above : List (List Char)} {last : List Char}

/-- The pieces of a text between slashes that say something. -/
def namesIn (text : List Char) : List (List Char) :=
  (text.splitOn '/').filter fun piece => !isEmptyPiece piece

theorem namesIn_append (first : List Char) : namesIn (first ++ '/' :: rest) =
    namesIn first ++ namesIn rest := by
  unfold namesIn
  rw [List.splitOn_append_cons_self, List.filter_append]

theorem namesIn_slash : namesIn ('/' :: rest) = namesIn rest :=
  namesIn_append []

theorem namesIn_of_noSlash {piece : List Char} (noSlash : '/' ∉ piece) :
    namesIn piece = [piece].filter fun piece => !isEmptyPiece piece := by
  unfold namesIn
  rw [List.splitOn_eq_singleton noSlash]

/-- Pieces that are put together again are the names that they were. -/
theorem namesIn_intercalate (noSlash : ∀ piece ∈ pieces, '/' ∉ piece) :
    namesIn (['/'].intercalate pieces) = pieces.filter fun piece => !isEmptyPiece piece := by
  induction pieces with
  | nil => rfl
  | cons piece rest ih =>
    obtain ⟨first, later⟩ := List.forall_mem_cons.mp noSlash
    cases rest with
    | nil => simpa using namesIn_of_noSlash first
    | cons next rest =>
      rw [List.intercalate_cons_cons, List.append_assoc, List.singleton_append, namesIn_append,
        namesIn_of_noSlash first, ih later, ← List.filter_append, List.singleton_append]

/-- The ways to split a path. -/
inductive Split (p : Path) : List Char × List (List Char) → Prop where
  | root {rest : List Char} (chars : p.text.toList = '/' :: rest) :
      Split p (['/'], rest.splitOn '/')
  | dot (chars : p.text.toList = ['.']) : Split p (['.'], [[]])
  | here {rest : List Char} (chars : p.text.toList = '.' :: '/' :: rest) :
      Split p (['.'], [] :: rest.splitOn '/')
  | plain (relative : p.text.toList.head? ≠ some '/') (noDot : p.text.toList ≠ ['.'])
      (notHere : ∀ rest, p.text.toList ≠ '.' :: '/' :: rest) :
      Split p ([], p.text.toList.splitOn '/')

theorem split_cases (p : Path) : Split p p.split := by
  unfold split
  split
  · rename_i rest chars
    exact .root chars
  · rename_i chars
    exact .dot chars
  · rename_i rest chars
    have cut : ('/' :: rest).splitOn '/' = [] :: rest.splitOn '/' := by
      rw [← List.nil_append ('/' :: rest), List.splitOn_append_cons_self, List.splitOn_nil]
      rfl
    rw [cut]
    exact .here chars
  · rename_i other noDot notHere
    refine .plain (fun slash => ?_) noDot notHere
    obtain ⟨rest, chars⟩ := List.head?_eq_some_iff.mp slash
    exact other rest chars

private theorem exists_of_dropWhile {α : Type} {f : α → Bool} {list rest : List α}
    (cut : list.dropWhile f = rest) : ∃ front, list = front ++ rest ∧ ∀ a ∈ front, f a = true := by
  refine ⟨list.takeWhile f, ?_, fun a member => ?_⟩
  · rw [← cut, List.takeWhile_append_dropWhile]
  · exact List.all_eq_true.mp List.all_takeWhile a member

/-- The last piece that says something, with those before it up to the one that says something. -/
theorem cut_pieces (cut : pieces.reverse.dropWhile isEmptyPiece = last :: above) :
    ∃ between after, pieces = (above.dropWhile isEmptyPiece).reverse ++ between ++ last :: after ∧
      isEmptyPiece last = false ∧ ∀ piece ∈ between ++ after, isEmptyPiece piece = true := by
  obtain ⟨after, whole, empties⟩ := exists_of_dropWhile cut
  obtain ⟨between, rest, others⟩ : ∃ front, above = front ++ above.dropWhile isEmptyPiece ∧
      ∀ piece ∈ front, isEmptyPiece piece = true := exists_of_dropWhile rfl
  have said : isEmptyPiece last = false := by
    have head := List.head?_dropWhile_not isEmptyPiece pieces.reverse
    rw [cut] at head
    simpa using head
  refine ⟨between.reverse, after.reverse, ?_, said, ?_⟩
  · rw [← List.reverse_append, ← rest, ← List.reverse_reverse pieces, whole]
    simp
  · intro piece member
    rcases List.mem_append.mp member with member | member
    · exact others piece (List.mem_reverse.mp member)
    · exact empties piece (List.mem_reverse.mp member)

theorem filter_of_cut_nil (cut : pieces.reverse.dropWhile isEmptyPiece = []) :
    (pieces.filter fun piece => !isEmptyPiece piece) = [] := by
  obtain ⟨front, whole, empties⟩ := exists_of_dropWhile cut
  rw [List.append_nil] at whole
  have all : ∀ piece ∈ pieces.reverse, isEmptyPiece piece = true := whole ▸ empties
  exact List.filter_eq_nil_iff.mpr fun piece member => by simp [all piece (List.mem_reverse.mpr member)]

/-- The pieces of a split say what the text says. -/
theorem Split.namesIn_eq {start : List Char} (split : Split p (start, pieces)) :
    (pieces.filter fun piece => !isEmptyPiece piece) = namesIn p.text.toList := by
  cases split with
  | root chars => rw [chars, namesIn_slash, namesIn]
  | dot chars => rw [chars]; rfl
  | @here rest chars =>
    rw [chars]
    exact (namesIn_append ['.']).symm
  | plain relative => rfl

theorem Split.noSlash {start : List Char} (split : Split p (start, pieces)) :
    ∀ piece ∈ pieces, '/' ∉ piece := by
  cases split with
  | root chars => exact fun piece member => Disk.not_mem_of_mem_splitOn member
  | dot chars => simp
  | here chars =>
    exact List.forall_mem_cons.mpr ⟨List.not_mem_nil, fun piece => Disk.not_mem_of_mem_splitOn⟩
  | plain relative => exact fun piece member => Disk.not_mem_of_mem_splitOn member

/-- Pieces that are put together after the start of their split are the names that they were, and
start at the root if the path does. -/
theorem Split.namesIn_join {start : List Char} {kept after : List (List Char)}
    (split : Split p (start, kept ++ after)) (more : namesIn p.text.toList ≠ []) :
    namesIn (start ++ ['/'].intercalate kept) = (kept.filter fun piece => !isEmptyPiece piece) ∧
      ((start ++ ['/'].intercalate kept).head? == some '/') = p.isAbsolute := by
  have noSlash : ∀ piece ∈ kept, '/' ∉ piece :=
    fun piece member => split.noSlash piece (List.mem_append_left _ member)
  generalize whole : kept ++ after = pieces at split
  unfold isAbsolute
  cases split with
  | root chars =>
    rw [chars, List.singleton_append, namesIn_slash, namesIn_intercalate noSlash]
    exact ⟨rfl, rfl⟩
  | dot chars => exact absurd (chars ▸ rfl) more
  | @here rest chars =>
    rw [chars]
    cases kept with
    | nil => exact ⟨rfl, rfl⟩
    | cons first kept =>
      obtain ⟨rfl, -⟩ := List.cons.inj whole
      refine ⟨?_, rfl⟩
      cases kept with
      | nil => rfl
      | cons second kept =>
        have later := (List.forall_mem_cons.mp noSlash).2
        rw [List.intercalate_cons_cons, List.nil_append, List.singleton_append]
        have dot : namesIn (['.'] ++ '/' :: ['/'].intercalate (second :: kept)) = _ :=
          namesIn_append ['.']
        rw [namesIn_intercalate later] at dot
        exact dot
  | plain relative =>
    rw [List.nil_append, namesIn_intercalate noSlash]
    refine ⟨rfl, ?_⟩
    have text : ['/'].intercalate (kept ++ after) = p.text.toList := by
      rw [whole, List.intercalate_splitOn]
    rw [beq_eq_false_iff_ne.mpr relative, beq_eq_false_iff_ne]
    cases kept with
    | nil => simp
    | cons first kept =>
      cases first with
      | nil =>
        cases others : kept ++ after with
        | nil =>
          rw [List.cons_append, others] at text
          exact absurd (by rw [← text]; rfl) more
        | cons next others' =>
          rw [List.cons_append, others, List.intercalate_cons_cons] at text
          exact absurd (by rw [← text]; rfl) relative
      | cons c cs =>
        have other : c ≠ '/' := fun same => noSlash _ List.mem_cons_self (same ▸ List.mem_cons_self)
        cases kept with
        | nil => simpa using other
        | cons next kept => simpa [List.intercalate_cons_cons] using other

theorem Split.text_eq {start : List Char} (split : Split p (start, pieces)) :
    p.text.toList = start ++ ['/'].intercalate pieces := by
  cases split with
  | root chars => rw [chars, List.intercalate_splitOn, List.singleton_append]
  | dot chars => rw [chars]; rfl
  | @here rest chars =>
    obtain ⟨first, more, cut⟩ := List.exists_cons_of_ne_nil (List.splitOn_ne_nil '/' rest)
    have text : ['/'].intercalate (rest.splitOn '/') = rest := List.intercalate_splitOn '/'
    rw [cut] at text ⊢
    rw [chars, List.intercalate_cons_cons, text]
    rfl
  | plain relative => rw [List.intercalate_splitOn, List.nil_append]

theorem intercalate_append {kept more : List (List Char)} (some : kept ≠ []) (others : more ≠ []) :
    ['/'].intercalate (kept ++ more) = ['/'].intercalate kept ++ '/' :: ['/'].intercalate more := by
  induction kept with
  | nil => exact absurd rfl some
  | cons piece rest ih =>
    cases rest with
    | nil =>
      obtain ⟨next, more, rfl⟩ := List.exists_cons_of_ne_nil others
      simp [List.intercalate_cons_cons]
    | cons next rest =>
      rw [List.cons_append, List.cons_append, List.intercalate_cons_cons, ← List.cons_append,
        ih (List.cons_ne_nil _ _), List.intercalate_cons_cons]
      simp

theorem intercalate_prefix (kept more : List (List Char)) :
    ['/'].intercalate kept <+: ['/'].intercalate (kept ++ more) := by
  by_cases some : kept = []
  · rw [some]
    exact List.nil_prefix
  · by_cases others : more = []
    · rw [others, List.append_nil]
    · rw [intercalate_append some others]
      exact List.prefix_append _ _

/-- What the path above says: how the path starts, with all its pieces before the last name up to one
that says something, or nothing where the path has no names. -/
inductive Above (p : Path) : Path → Prop where
  | cut {start : List Char} {kept rest : List (List Char)} (split : Split p (start, kept ++ rest))
      (last : ∃ name, (rest.filter fun piece => !isEmptyPiece piece) = [name])
      (said : ∀ piece, kept.getLast? = some piece → isEmptyPiece piece = false) :
      Above p ⟨String.ofList (start ++ ['/'].intercalate kept)⟩
  | none {pieces : List (List Char)} (dot : Split p (['.'], pieces)) (silent : namesIn p.text.toList = []) : Above p ⟨""⟩

theorem above_of_parent? (parent : p.parent? = some q) : Above p q := by
  have split := split_cases p
  unfold parent? at parent
  generalize p.split = cut at split parent
  obtain ⟨start, pieces⟩ := cut
  dsimp only at parent
  split at parent
  · rename_i last above ends
    cases parent
    obtain ⟨between, after, whole, said, empties⟩ := cut_pieces ends
    obtain ⟨first, second⟩ := List.forall_mem_append.mp empties
    have none (list : List (List Char)) (all : ∀ piece ∈ list, isEmptyPiece piece = true) :
        (list.filter fun piece => !isEmptyPiece piece) = [] :=
      List.filter_eq_nil_iff.mpr fun piece member => by simp [all piece member]
    rw [whole, List.append_assoc] at split
    refine .cut split ⟨last, ?_⟩ fun piece ends => ?_
    · rw [List.filter_append, List.filter_cons, none between first, none after second]
      simp [said]
    · have head := List.head?_dropWhile_not isEmptyPiece above
      rw [List.getLast?_reverse] at ends
      rw [ends] at head
      simpa using head
  · rename_i ends
    split at parent
    · rename_i dot
      cases parent
      cases beq_iff_eq.mp dot
      refine .none split ?_
      rw [← split.namesIn_eq, filter_of_cut_nil ends]
    · cases parent

/-- A path that has names has one above it. -/
theorem exists_parent? (more : Disk.stepsOf p ≠ []) : ∃ q, p.parent? = some q := by
  have split := split_cases p
  unfold parent?
  generalize p.split = cut at split
  obtain ⟨start, pieces⟩ := cut
  dsimp only
  split
  · exact ⟨_, rfl⟩
  · rename_i ends
    have silent : namesIn p.text.toList = [] := by
      rw [← split.namesIn_eq, filter_of_cut_nil ends]
    exact absurd (congrArg (List.map String.ofList) silent) more

/-- The path above leads as far as the path does without its last name. -/
theorem stepsOf_of_parent? (parent : p.parent? = some q) :
    Disk.stepsOf q = (Disk.stepsOf p).dropLast ∧ q.isAbsolute = p.isAbsolute := by
  have steps (r : Path) : Disk.stepsOf r = (namesIn r.text.toList).map String.ofList := rfl
  cases above_of_parent? parent with
  | cut split last said =>
    obtain ⟨name, last⟩ := last
    have names := split.namesIn_eq
    rw [List.filter_append, last] at names
    have joined := split.namesIn_join (by rw [← names]; simp)
    rw [steps, steps, ← names, String.toList_ofList, joined.1, List.map_append, List.map_singleton,
      List.dropLast_concat]
    refine ⟨rfl, ?_⟩
    rw [isAbsolute, String.toList_ofList]
    exact joined.2
  | none dot silent =>
    rw [steps, steps, silent]
    refine ⟨rfl, ?_⟩
    unfold isAbsolute
    cases dot with
    | dot chars => rw [chars]; rfl
    | here chars => rw [chars]; rfl

/-- A path starts with what the path above says. -/
theorem text_of_parent? (parent : p.parent? = some q) :
    ∃ rest, p.text.toList = q.text.toList ++ rest := by
  cases above_of_parent? parent with
  | cut split last said =>
    obtain ⟨rest, whole⟩ := intercalate_prefix _ _
    refine ⟨rest, ?_⟩
    rw [split.text_eq, ← whole, String.toList_ofList, List.append_assoc]
  | none dot silent => exact ⟨p.text.toList, rfl⟩

/-- Whether the last thing that a path says is a name. -/
def EndsInName (p : Path) : Prop :=
  ∃ piece, ((p.text.toList.splitOn '/').filter (· != [])).getLast? = some piece ∧
    isEmptyPiece piece = false

/-- The path above ends in a name, unless it leads to the top. -/
theorem endsInName_of_parent? (parent : p.parent? = some q) (more : Disk.stepsOf q ≠ []) :
    q.EndsInName := by
  cases above_of_parent? parent with
  | none dot silent => exact absurd rfl more
  | @cut start kept rest split last said =>
    obtain ⟨name, last⟩ := last
    have names := split.namesIn_eq
    rw [List.filter_append, last] at names
    have joined := (split.namesIn_join (by rw [← names]; simp)).1
    obtain ⟨before, piece, rfl⟩ := (List.eq_nil_or_concat' kept).resolve_left fun none => by
      refine more ?_
      change (namesIn (String.ofList _).toList).map String.ofList = []
      rw [String.toList_ofList, joined, none]
      rfl
    have named : isEmptyPiece piece = false := said piece List.getLast?_concat
    have noSlash : '/' ∉ piece := split.noSlash piece (by simp)
    have ends : EndsIn piece (start ++ ['/'].intercalate (before ++ [piece])) := by
      by_cases first : before = []
      · rw [first] at split
        rw [first, List.nil_append, List.intercalate_singleton]
        generalize whole : [] ++ [piece] ++ rest = pieces at split
        cases split with
        | root chars => exact .slash []
        | dot chars =>
          cases whole
          cases named
        | here chars =>
          cases whole
          cases named
        | plain relative => exact .whole
      · rw [intercalate_append first (List.cons_ne_nil _ _), ← List.append_assoc,
          List.intercalate_singleton]
        exact .slash _
    obtain ⟨others, cut⟩ := List.getLast?_eq_some_iff.mp (ends.getLast?_splitOn noSlash)
    refine ⟨piece, ?_, named⟩
    have notEmpty : piece ≠ [] := by
      rintro rfl
      cases named
    rw [String.toList_ofList, cut, List.filter_append, List.filter_cons,
      if_pos (bne_iff_ne.mpr notEmpty), List.filter_nil, List.getLast?_concat]

/-- The directory that holds what a path names leads there as well; of what is at the top, it is the
top of either tree. -/
theorem stepsOf_directory (p : Path) : Disk.stepsOf p.directory = (Disk.stepsOf p).dropLast ∧
    (Disk.stepsOf p ≠ [] → p.directory.isAbsolute = p.isAbsolute) := by
  unfold directory
  split
  · rename_i top
    obtain ⟨steps, absolute⟩ := stepsOf_of_parent? top
    exact ⟨steps, fun _ => absolute⟩
  · rename_i parent other above
    obtain ⟨steps, absolute⟩ := stepsOf_of_parent? above
    exact ⟨steps, fun _ => absolute⟩
  · rename_i none
    have top : Disk.stepsOf p = [] := by
      by_contra more
      obtain ⟨q, parent⟩ := exists_parent? more
      cases none.symm.trans parent
    rw [top]
    exact ⟨rfl, fun some => absurd rfl some⟩

/-- The places that the names of a path lead to one after the other, from the top on. -/
def way (p : Path) : List Location :=
  (Disk.stepsOf p).inits.map fun names => names.foldl Location.next (Disk.startOf p)

theorem mem_way {l : Location} : l ∈ p.way ↔
    ∃ names, names <+: Disk.stepsOf p ∧ names.foldl Location.next (Disk.startOf p) = l := by
  simp only [way, List.mem_map, List.mem_inits]

theorem place_mem_way (p : Path) : p.place ∈ p.way :=
  mem_way.mpr ⟨_, List.prefix_refl _, rfl⟩

theorem proper_of_mem_way {l : Location} (member : l ∈ p.way) : l.Proper := by
  obtain ⟨names, first, rfl⟩ := mem_way.mp member
  exact (Disk.startOf_proper p).foldl_next fun name member =>
    Disk.isEntryName_of_mem_stepsOf (first.subset member)

/-- The directory that holds what a path names is on the way, but for the top. -/
theorem mem_way_of_directory {l : Location} (member : l ∈ p.directory.way) :
    l ∈ p.way ∨ l.names = [] := by
  obtain ⟨names, first, rfl⟩ := mem_way.mp member
  obtain ⟨steps, absolute⟩ := stepsOf_directory p
  rw [steps] at first
  by_cases top : Disk.stepsOf p = []
  · rw [top] at first
    rw [List.prefix_nil.mp first]
    exact .inr rfl
  · refine .inl (mem_way.mpr ⟨names, first.trans (List.dropLast_prefix _), ?_⟩)
    unfold Disk.startOf
    rw [absolute top]

theorem mem_way_of_parent? {l : Location} (parent : p.parent? = some q) (member : l ∈ q.way) :
    l ∈ p.way := by
  obtain ⟨names, first, rfl⟩ := mem_way.mp member
  obtain ⟨steps, absolute⟩ := stepsOf_of_parent? parent
  rw [steps] at first
  refine mem_way.mpr ⟨names, first.trans (List.dropLast_prefix _), ?_⟩
  unfold Disk.startOf
  rw [absolute]

end Path

end Upkeep
