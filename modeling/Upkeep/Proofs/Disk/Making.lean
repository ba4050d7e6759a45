import Upkeep.Proofs.Disk.Agreement

/-! Making directories. Where a plain path leads through no file, whatever is missing on its way can be
made, and then all of its way is directories. What a path names is still missing after that, unless the
path goes up again from a directory that was made, or comes to a name that is too long. -/
namespace Upkeep

/-- A path that never goes up and has no name that is too long. -/
structure Path.Plain (p : Path) : Prop extends p.Straight where
  short : ∀ name ∈ Disk.stepsOf p, name.utf8ByteSize ≤ Disk.nameLimit

instance (p : Path) : Decidable p.Plain :=
  decidable_of_iff (".." ∉ Disk.stepsOf p ∧
      ∀ name ∈ Disk.stepsOf p, name.utf8ByteSize ≤ Disk.nameLimit)
    ⟨fun plain => ⟨⟨plain.1⟩, plain.2⟩, fun plain => ⟨plain.notUp, plain.short⟩⟩

/-- Of the names of a path that come after the first one that is missing, none leads up and none is too
long. Where nothing is missing, that is so whatever the path is. -/
def Path.Onward (p : Path) (d : Disk) : Prop :=
  ∀ before name after, Disk.stepsOf p = before ++ name :: after →
    d.walk (Disk.startOf p) before = .error .noSuchFile →
      name ≠ ".." ∧ name.utf8ByteSize ≤ Disk.nameLimit

theorem Path.Plain.onward {p : Path} (plain : p.Plain) (d : Disk) : p.Onward d := by
  intro before name after steps _
  have member : name ∈ Disk.stepsOf p := steps ▸ List.mem_append_right _ List.mem_cons_self
  exact ⟨fun up => plain.notUp (up ▸ member), plain.short name member⟩

theorem Path.Plain.of_parent? {p q : Path} (plain : p.Plain) (parent : p.parent? = some q) :
    q.Plain := by
  obtain ⟨steps, -⟩ := Path.stepsOf_of_parent? parent
  refine ⟨⟨fun up => plain.notUp ?_⟩, fun name member => plain.short name ?_⟩
  · exact List.dropLast_subset _ (steps ▸ up)
  · exact List.dropLast_subset _ (steps ▸ member)

theorem Path.Plain.directory {p : Path} (plain : p.Plain) : p.directory.Plain := by
  obtain ⟨steps, -⟩ := Path.stepsOf_directory p
  refine ⟨⟨fun up => plain.notUp ?_⟩, fun name member => plain.short name ?_⟩
  · exact List.dropLast_subset _ (steps ▸ up)
  · exact List.dropLast_subset _ (steps ▸ member)

namespace Disk

variable {d made : Disk} {l m : Location} {name : String} {above before after names : List String}
  {p q : Path} {fault : Fault}

/-- A path has no more names than characters. -/
theorem length_stepsOf_le (p : Path) : (stepsOf p).length ≤ p.text.length := by
  have pieces (text : List Char) :
      ((text.splitOn '/').filter (· != [])).length ≤ text.length := by
    induction text with
    | nil => decide
    | cons c rest ih =>
      rw [List.splitOn_cons_eq_if_modifyHead]
      split
      · exact Nat.le_succ_of_le ih
      · obtain ⟨first, later, cut⟩ := List.exists_cons_of_ne_nil (List.splitOn_ne_nil '/' rest)
        rw [cut] at ih ⊢
        simp only [List.modifyHead_cons, List.filter_cons, List.length_cons] at ih ⊢
        split at ih <;> simp at ih ⊢ <;> omega
  rw [stepsOf_eq, List.length_map]
  exact (List.length_filter_le _ _).trans (pieces p.text.toList)

theorem accept_eq_ok : accept p = .ok () ↔
    '\x00' ∉ p.text.toList ∧ p.text ≠ "" ∧ p.text.utf8ByteSize ≤ pathLimit := by
  unfold accept
  split
  · rename_i nul
    simp [List.contains_iff_mem.mp nul]
  · rename_i clean
    have clean : '\x00' ∉ p.text.toList := fun nul => clean (List.contains_iff_mem.mpr nul)
    split
    · rename_i empty
      simp [String.isEmpty_iff.mp empty]
    · rename_i more
      have more : p.text ≠ "" := fun empty => more (String.isEmpty_iff.mpr empty)
      split
      · rename_i long
        simp [Nat.not_le.mpr long]
      · rename_i short
        simp [clean, more, Nat.le_of_not_lt short]

/-- Of a path that is accepted, the path above is accepted as well, unless it is empty. -/
theorem accept_of_parent? (parent : p.parent? = some q) (accepted : accept p = .ok ())
    (more : q.text ≠ "") : accept q = .ok () := by
  obtain ⟨rest, chars⟩ := Path.text_of_parent? parent
  obtain ⟨clean, -, short⟩ := accept_eq_ok.mp accepted
  have text : p.text = q.text ++ String.ofList rest := by
    rw [← String.toList_inj, chars, String.toList_append, String.toList_ofList]
  refine accept_eq_ok.mpr ⟨fun nul => clean ?_, more, ?_⟩
  · rw [chars]
    exact List.mem_append_left _ nul
  · rw [text, String.utf8ByteSize_append] at short
    omega

/-- A walk through directories comes to its end. -/
theorem walk_of_way (directories : ∀ before, before <+: names →
      d.get? (before.foldl Location.next l) = some .directory)
    (short : ∀ name ∈ names, name.utf8ByteSize ≤ nameLimit) :
    d.walk l names = .ok (names.foldl Location.next l) := by
  induction names generalizing l with
  | nil => rfl
  | cons name names ih =>
    obtain ⟨first, later⟩ := List.forall_mem_cons.mp short
    have here : d.get? l = some .directory := directories [] List.nil_prefix
    have there : d.get? (l.next name) = some .directory := directories [name] ⟨names, rfl⟩
    refine walk_cons_eq_ok.mpr ⟨l.next name, step_eq_ok.mpr ⟨here, ?_⟩, ?_⟩
    · by_cases up : name = ".."
      · exact .inl ⟨up, if_pos up⟩
      · rw [Location.next_of_ne up] at there ⊢
        exact .inr ⟨up, first, by rw [there]; rfl, rfl⟩
    · exact ih (fun before first => directories (name :: before)
        (List.cons_prefix_cons.mpr ⟨rfl, first⟩)) later

theorem file?_eq_none : d.file? l = none ↔ d.get? l = none ∨ d.get? l = some .directory := by
  unfold file?
  rcases d.get? l with _ | (_ | _)
  · simp
  · simp
  · simp

/-- A walk that meets no file and does not find all of its places finds out that one is missing. -/
theorem walk_of_missing (notUp : ".." ∉ names)
    (short : ∀ name ∈ names, name.utf8ByteSize ≤ nameLimit) (here : d.get? l = some .directory)
    (noFile : ∀ before, before <+: names → d.file? (before.foldl Location.next l) = none)
    (missing : ∃ before, before <+: names ∧ d.get? (before.foldl Location.next l) = none) :
    d.walk l names = .error .noSuchFile := by
  induction names generalizing l with
  | nil =>
    obtain ⟨before, first, absent⟩ := missing
    rw [List.prefix_nil.mp first] at absent
    cases here.symm.trans absent
  | cons name names ih =>
    obtain ⟨first, later⟩ := List.forall_mem_cons.mp short
    obtain ⟨other, notUpLater⟩ := not_or.mp (mt List.mem_cons.mpr notUp)
    have next : l.next name = l.child name := Location.next_of_ne (Ne.symm other)
    have open' : d.file? (l.next name) = none := noFile [name] ⟨names, rfl⟩
    rw [walk_cons]
    unfold step
    simp only [here, Ne.symm other, Nat.not_lt.mpr first, ↓reduceIte]
    rcases file?_eq_none.mp open' with absent | directory
    · rw [next] at absent
      rw [absent]
      rfl
    · have stepped : (d.get? (l.child name)).isSome = true := by rw [← next, directory]; rfl
      rw [if_pos stepped, ← next]
      refine ih notUpLater later directory
        (fun before first => noFile (name :: before) (List.cons_prefix_cons.mpr ⟨rfl, first⟩)) ?_
      obtain ⟨before, begins, absent⟩ := missing
      cases before with
      | nil => cases here.symm.trans absent
      | cons own before =>
        obtain ⟨rfl, rest⟩ := List.cons_prefix_cons.mp begins
        exact ⟨before, rest, absent⟩

/-- A path that ends in a name makes an entry of that name where its other names lead. -/
theorem resolveNew_eq (accepted : accept p = .ok ()) (ends : p.EndsInName)
    (steps : stepsOf p = above ++ [name]) (notUp : name ≠ "..") : d.resolveNew p =
      (d.walk (startOf p) above >>= fun l =>
        match d.get? l with
        | some .directory =>
          if nameLimit < name.utf8ByteSize then .error .nameTooLong else .ok (l, some name)
        | some (.file _ _) => .error .notDirectory
        | none => .error .noSuchFile) := by
  have pieces := stepsOf_eq p
  obtain ⟨last, ends, named⟩ := ends
  unfold resolveNew
  generalize (p.text.toList.splitOn '/').filter (· != []) = listed at pieces ends
  obtain ⟨before, rfl⟩ := List.getLast?_eq_some_iff.mp ends
  rw [List.filter_append, List.map_append, List.filter_cons, List.filter_nil, named, Bool.not_false,
    if_pos rfl, List.map_singleton, steps] at pieces
  obtain ⟨rfl, same⟩ := List.append_inj' pieces rfl
  obtain rfl : name = String.ofList last := List.singleton_inj.mp same
  have noDot : ¬last = ['.'] := fun dot => by
    rw [dot] at named
    cases named
  have noDots : ¬last = ['.', '.'] := fun dots => notUp (by rw [dots])
  rw [accepted]
  simp only [List.getLast?_concat, List.dropLast_concat, noDot, noDots, decide_false, Bool.or_self,
    Bool.false_eq_true, ↓reduceIte, bind, Except.bind]
  rfl

theorem resolveNew_of_top (accepted : accept p = .ok ()) (top : stepsOf p = []) :
    d.resolveNew p = .ok (startOf p, none) := by
  have pieces := stepsOf_eq p
  have notEmpty : ∀ piece ∈ (p.text.toList.splitOn '/').filter (· != []), piece ≠ [] :=
    fun piece member => bne_iff_ne.mp (List.mem_filter.mp member).2
  unfold resolveNew
  generalize (p.text.toList.splitOn '/').filter (· != []) = listed at pieces notEmpty
  rw [accepted]
  cases ends : listed.getLast? with
  | none =>
    dsimp only
    rw [ends]
    rfl
  | some last =>
    obtain ⟨before, rfl⟩ := List.getLast?_eq_some_iff.mp ends
    rw [top, List.filter_append, List.map_append, eq_comm, List.append_eq_nil_iff] at pieces
    have dot : last = ['.'] := by
      by_contra other
      have named : Path.isEmptyPiece last = false := by
        simp [Path.isEmptyPiece, notEmpty last (by simp), other]
      have said := pieces.2
      rw [List.filter_cons, named] at said
      cases said
    have here : d.get? (startOf p) = some .directory := if_pos rfl
    simp only [List.getLast?_concat, List.dropLast_concat, pieces.1, walk, List.foldlM_nil, dot, bind,
      Except.bind, pure, Except.pure, here]
    rfl

/-- On the way of a path are what it leads to and the way to that. -/
theorem mem_way_of_steps (steps : stepsOf p = above ++ [name]) (member : l ∈ p.way) :
    l = p.place ∨ ∃ before, before <+: above ∧ before.foldl Location.next (startOf p) = l := by
  obtain ⟨names, first, rfl⟩ := Path.mem_way.mp member
  rw [steps] at first
  rcases List.prefix_concat_iff.mp first with rfl | before
  · rw [← steps]
    exact .inl rfl
  · exact .inr ⟨names, before, rfl⟩

theorem isDirectory_of_way (accepted : accept p = .ok ()) (plain : p.Plain)
    (directories : ∀ l ∈ p.way, d.get? l = some .directory) : d.isDirectory p = true := by
  have walk : d.walk (startOf p) (stepsOf p) = .ok p.place :=
    walk_of_way (fun before first => directories _ (Path.mem_way.mpr ⟨before, first, rfl⟩)) plain.short
  have there := directories _ p.place_mem_way
  simp only [isDirectory, resolve, accepted, walk, bind, Except.bind, there, beq_self_eq_true]

/-- Where the way to it is there, a directory is made, or it is there already. -/
theorem makeDirectory_cases (accepted : accept p = .ok ()) (ends : p.EndsInName) (plain : p.Plain)
    (steps : stepsOf p = above ++ [name])
    (directories : ∀ before, before <+: above →
      d.get? (before.foldl Location.next (startOf p)) = some .directory)
    (noFile : d.file? p.place = none) :
    ∃ made, (d.makeDirectory p = .ok made ∨
        made = d ∧ d.makeDirectory p = .error .fileExists ∧ d.isDirectory p = true) ∧
      ∀ l ∈ p.way, made.get? l = some .directory := by
  have notUp : name ≠ ".." := fun up => plain.notUp (by rw [steps, up]; simp)
  obtain ⟨shortAbove, short⟩ := List.forall_mem_append.mp (steps ▸ plain.short)
  have short : name.utf8ByteSize ≤ nameLimit := short name List.mem_cons_self
  have here := directories above (List.prefix_refl _)
  have place : p.place = (above.foldl Location.next (startOf p)).child name := by
    rw [Path.place, steps, List.foldl_append, List.foldl_cons, List.foldl_nil,
      Location.next_of_ne notUp]
  have resolved : d.resolveNew p = .ok (above.foldl Location.next (startOf p), some name) := by
    rw [resolveNew_eq accepted ends steps notUp, walk_of_way directories shortAbove]
    simp only [bind, Except.bind, here, Nat.not_lt.mpr short, ↓reduceIte]
  rcases file?_eq_none.mp noFile with absent | there
  · refine ⟨d.put p.place .directory, .inl ?_, fun l member => ?_⟩
    · rw [place] at absent ⊢
      simp only [makeDirectory, resolved, bind, Except.bind, absent]
      rfl
    · have inner : p.place.names ≠ [] := place ▸ Location.names_child_ne_nil _ _
      rcases mem_way_of_steps steps member with rfl | ⟨before, first, rfl⟩
      · rw [get?_put inner, if_pos rfl]
      · exact get?_put_of_kept inner (by simp [absent]) (directories before first)
  · have way (l : Location) (member : l ∈ p.way) : d.get? l = some .directory := by
      rcases mem_way_of_steps steps member with rfl | ⟨before, first, rfl⟩
      · exact there
      · exact directories before first
    refine ⟨d, .inr ⟨rfl, ?_, isDirectory_of_way accepted plain way⟩, way⟩
    rw [place] at there
    simp only [makeDirectory, resolved, bind, Except.bind, there]
    rfl

/-- Where something on the way to it is missing, a directory cannot be made. -/
theorem makeDirectory_of_missing (accepted : accept p = .ok ()) (ends : p.EndsInName)
    (plain : p.Plain) (steps : stepsOf p = above ++ [name])
    (noFile : ∀ before, before <+: above → d.file? (before.foldl Location.next (startOf p)) = none)
    (missing : ¬ ∀ before, before <+: above →
      d.get? (before.foldl Location.next (startOf p)) = some .directory) :
    d.makeDirectory p = .error .noSuchFile := by
  have notUp : name ≠ ".." := fun up => plain.notUp (by rw [steps, up]; simp)
  have notUpAbove : ".." ∉ above := fun up => plain.notUp (by rw [steps]; simp [up])
  obtain ⟨before, more⟩ := not_forall.mp missing
  obtain ⟨first, noDirectory⟩ := Classical.not_imp.mp more
  have absent := (file?_eq_none.mp (noFile before first)).resolve_right noDirectory
  have walk : d.walk (startOf p) above = .error .noSuchFile :=
    walk_of_missing notUpAbove (List.forall_mem_append.mp (steps ▸ plain.short)).1 (if_pos rfl) noFile
      ⟨before, first, absent⟩
  simp only [makeDirectory, resolveNew_eq accepted ends steps notUp, walk, bind, Except.bind]

theorem get?_of_top (top : stepsOf p = []) (member : l ∈ p.way) : d.get? l = some .directory := by
  obtain ⟨names, first, rfl⟩ := Path.mem_way.mp member
  rw [top] at first
  rw [List.prefix_nil.mp first]
  exact if_pos rfl

/-- All of a plain way that meets no file can be made directories. -/
theorem makeDirectoriesWith_ok (fuel : Nat) (accepted : p.text = "" ∨ accept p = .ok ())
    (ends : stepsOf p ≠ [] → p.EndsInName) (plain : p.Plain) (noFile : ∀ l ∈ p.way, d.file? l = none)
    (enough : (stepsOf p).length < fuel) :
    ∃ made, d.makeDirectoriesWith fuel p = (made, .ok ()) ∧
      ∀ l ∈ p.way, made.get? l = some .directory := by
  induction fuel generalizing p with
  | zero => exact absurd enough (Nat.not_lt_zero _)
  | succ fuel ih =>
    unfold makeDirectoriesWith
    by_cases empty : p.text = ""
    · have top : stepsOf p = [] := by
        unfold stepsOf
        rw [empty]
        rfl
      exact ⟨d, if_pos (by rw [empty]; rfl), fun l => get?_of_top top⟩
    rw [if_neg (mt String.isEmpty_iff.mp empty)]
    have accepted := accepted.resolve_left empty
    rcases List.eq_nil_or_concat' (stepsOf p) with top | ⟨above, name, steps⟩
    · have there : d.makeDirectory p = .error .fileExists := by
        simp only [makeDirectory, resolveNew_of_top accepted top, bind, Except.bind]
        rfl
      refine ⟨d, ?_, fun l => get?_of_top top⟩
      simp only [there, isDirectory_of_way accepted plain fun l => get?_of_top top, ↓reduceIte]
    have ends := ends (by simp [steps])
    have noFileAbove (before : List String) (first : before <+: above) :
        d.file? (before.foldl Location.next (startOf p)) = none :=
      noFile _ (Path.mem_way.mpr ⟨before, first.trans (steps ▸ List.prefix_append _ _), rfl⟩)
    by_cases there : ∀ before, before <+: above →
        d.get? (before.foldl Location.next (startOf p)) = some .directory
    · obtain ⟨made, done | ⟨rfl, failed, directory⟩, way⟩ := makeDirectory_cases accepted ends plain
        steps there (noFile _ p.place_mem_way)
      · exact ⟨made, by simp only [done], way⟩
      · exact ⟨made, by simp only [failed, directory, ↓reduceIte], way⟩
    -- What is missing is made by the path above; after that there is one directory to make.
    · have failed := makeDirectory_of_missing accepted ends plain steps noFileAbove there
      obtain ⟨q, parent⟩ := Path.exists_parent? (p := p) (by simp [steps])
      obtain ⟨names, absolute⟩ := Path.stepsOf_of_parent? parent
      rw [steps, List.dropLast_concat] at names
      obtain ⟨made, ran, way⟩ := ih (p := q)
        (or_iff_not_imp_left.mpr fun more => accept_of_parent? parent accepted more)
        (Path.endsInName_of_parent? parent) (plain.of_parent? parent)
        (fun l member => noFile l (Path.mem_way_of_parent? parent member))
        (by rw [names]; rw [steps, List.length_append] at enough; simpa using enough)
      have grown : Extends d made := by
        have grown := extends_makeDirectoriesWith fuel d q
        rwa [ran] at grown
      have above' (before : List String) (first : before <+: above) :
          made.get? (before.foldl Location.next (startOf p)) = some .directory := by
        refine way _ (Path.mem_way.mpr ⟨before, names ▸ first, ?_⟩)
        unfold startOf
        rw [absolute]
      obtain ⟨last, done | ⟨rfl, again, directory⟩, whole⟩ := makeDirectory_cases accepted ends plain
        steps above' (grown.file?_eq.trans (noFile _ p.place_mem_way))
      · exact ⟨last, by simp only [failed, parent, ran, done], whole⟩
      · exact ⟨last, by simp only [failed, parent, ran, again, directory, ↓reduceIte], whole⟩

/-- The directory that holds what a path names is given by the path above, or it is the current one. -/
theorem directory_cases (p : Path) :
    p.parent? = some p.directory ∧ p.directory.text ≠ "" ∨ p.directory = ⟨"."⟩ := by
  unfold Path.directory
  split
  · exact .inr rfl
  · rename_i parent other above
    exact .inl ⟨above, fun empty => other (congrArg Path.mk empty)⟩
  · exact .inr rfl

theorem directory_text_ne (p : Path) : p.directory.text ≠ "" := by
  rcases directory_cases p with ⟨-, more⟩ | top
  · exact more
  · rw [top]
    decide

/-- What lies on the way of a path is what it leads to or lies on the way to its directory. -/
theorem mem_directory_way (member : l ∈ p.way) : l = p.place ∨ l ∈ p.directory.way := by
  obtain ⟨names, absolute⟩ := Path.stepsOf_directory p
  rcases List.eq_nil_or_concat' (stepsOf p) with top | ⟨above, name, steps⟩
  · obtain ⟨before, first, rfl⟩ := Path.mem_way.mp member
    rw [top] at first
    left
    rw [List.prefix_nil.mp first, Path.place, top]
  · rcases mem_way_of_steps steps member with own | ⟨before, first, rfl⟩
    · exact .inl own
    · rw [steps, List.dropLast_concat] at names
      refine .inr (Path.mem_way.mpr ⟨before, names ▸ first, ?_⟩)
      unfold startOf
      rw [absolute (by simp [steps])]

/-- The directories that a file is to lie in can be made where the way to them meets no file. -/
theorem makeDirectories_directory (accepted : accept p.directory = .ok ()) (plain : p.Plain)
    (noFile : ∀ l ∈ p.directory.way, d.file? l = none) :
    ∃ made, d.makeDirectories p.directory = (made, .ok ()) ∧
      ∀ l ∈ p.directory.way, made.get? l = some .directory := by
  refine makeDirectoriesWith_ok _ (.inr accepted) (fun more => ?_) plain.directory noFile
    (Nat.lt_succ_of_le (length_stepsOf_le _))
  rcases directory_cases p with ⟨parent, -⟩ | top
  · exact Path.endsInName_of_parent? parent more
  · rw [top] at more
    exact absurd rfl more

/-- For a path that is refused no directories are made. -/
theorem makeDirectories_of_refused (refused : accept p = .error fault) (more : p.text ≠ "") :
    d.makeDirectories p = (d, .error fault) := by
  have other : fault ≠ .noSuchFile := by
    rintro rfl
    unfold accept at refused
    split at refused
    · cases refused
    · rw [if_neg (mt String.isEmpty_iff.mp more)] at refused
      split at refused
      · cases refused
      · cases refused
  have failed : d.makeDirectory p = .error fault := by
    simp only [makeDirectory, resolveNew, refused, bind, Except.bind]
  have none : d.isDirectory p = false := by
    simp only [isDirectory, resolve, refused, bind, Except.bind]
  simp only [makeDirectories, makeDirectoriesWith, mt String.isEmpty_iff.mp more, failed, none,
    Bool.false_eq_true, ↓reduceIte]

/-! ## What stays missing -/

theorem foldl_next_of_straight (notUp : ".." ∉ names) :
    names.foldl Location.next l = l.descend names := by
  induction names generalizing l with
  | nil => exact Location.descend_nil.symm
  | cons name rest ih =>
    obtain ⟨other, later⟩ := not_or.mp (mt List.mem_cons.mpr notUp)
    rw [List.foldl_cons, Location.next_of_ne (Ne.symm other), ih later, Location.descend_cons]

/-- On a grounded disk a walk leads to something. -/
theorem Grounded.isSome_of_walk (grounded : d.Grounded) (proper : l.Proper)
    (own : ∀ name ∈ names, IsEntryName name) (there : (d.get? l).isSome = true)
    (walk : d.walk l names = .ok m) : (d.get? m).isSome = true := by
  induction names generalizing l with
  | nil =>
    cases walk
    exact there
  | cons name names ih =>
    obtain ⟨first, later⟩ := List.forall_mem_cons.mp own
    obtain ⟨next, step, rest⟩ := walk_cons_eq_ok.mp walk
    obtain rfl : next = l.next name := eq_of_step step
    refine ih (proper.next first) later ?_ rest
    obtain ⟨-, ⟨rfl, above⟩ | ⟨-, -, entry, child⟩⟩ := step_eq_ok.mp step
    · rw [above]
      by_cases top : l.names = []
      · have topmost : l.above.names = [] := by rw [Location.above, top]; rfl
        simp only [get?, topmost, ↓reduceIte, Option.isSome_some]
      · rw [grounded l proper top there]
        rfl
    · rwa [child]

/-- A walk that fails comes to a place from which it cannot take the next step. -/
theorem exists_step_of_walk (lost : d.walk l names = .error fault) :
    ∃ before name after m, names = before ++ name :: after ∧ d.walk l before = .ok m ∧
      d.step m name = .error fault := by
  induction names generalizing l with
  | nil => cases lost
  | cons name names ih =>
    cases stepped : d.step l name with
    | error reason =>
      rw [walk_cons, stepped] at lost
      cases lost
      exact ⟨[], name, names, l, rfl, rfl, stepped⟩
    | ok next =>
      rw [walk_cons, stepped] at lost
      obtain ⟨before, other, after, m, rfl, walk, step⟩ := ih lost
      exact ⟨name :: before, other, after, m, rfl, walk_cons_eq_ok.mpr ⟨next, stepped, walk⟩, step⟩

/-- Where something is, a step does not find the next name only if it is missing from a directory. -/
theorem missing_of_step (there : (d.get? l).isSome = true)
    (step : d.step l name = .error .noSuchFile) : d.get? l = some .directory ∧ name ≠ ".." ∧
      name.utf8ByteSize ≤ nameLimit ∧ d.get? (l.child name) = none := by
  unfold Disk.step at step
  split at step
  · rename_i directory
    split at step
    · cases step
    · rename_i notUp
      split at step
      · cases step
      · rename_i short
        split at step
        · cases step
        · rename_i free
          exact ⟨directory, notUp, Nat.le_of_not_lt short, by simpa using free⟩
  · cases step
  · rename_i nothing
    rw [nothing] at there
    cases there

/-- What lies beyond a missing place is missing as well. -/
theorem Grounded.missing_beyond (grounded : d.Grounded) (proper : (l.child name).Proper)
    (own : ∀ name ∈ names, IsEntryName name) (free : d.get? (l.child name) = none) :
    d.get? (l.descend (name :: names)) = none := by
  rw [Location.descend_cons]
  by_contra something
  have there := isSome_of_descend grounded proper own (Option.isSome_iff_ne_none.mpr something)
  rw [free] at there
  cases there

theorem read_of_lost (accepted : accept p = .ok ())
    (lost : d.walk (startOf p) (stepsOf p) = .error fault) : d.read p = .error fault := by
  simp only [read, resolve, accepted, lost, bind, Except.bind]

/-- On a grounded disk, what is not found is lost on the way. -/
theorem Grounded.walk_of_read (grounded : d.Grounded) (accepted : accept p = .ok ())
    (missing : d.read p = .error .noSuchFile) :
    d.walk (startOf p) (stepsOf p) = .error .noSuchFile := by
  cases walk : d.walk (startOf p) (stepsOf p) with
  | error fault =>
    rw [read_of_lost accepted walk] at missing
    exact congrArg _ (Except.error.inj missing)
  | ok l =>
    have there := grounded.isSome_of_walk (startOf_proper p) (fun _ => isEntryName_of_mem_stepsOf)
      (by simp [get?, startOf]) walk
    simp only [read, resolve, accepted, walk, bind, Except.bind] at missing
    cases entry : d.get? l with
    | none =>
      rw [entry] at there
      cases there
    | some e =>
      cases e with
      | directory =>
        simp only [entry] at missing
        cases missing
      | file mode content =>
        cases ends : endsOpen p <;> simp [entry, ends, pure, Except.pure] at missing

/-- The way of a path breaks off at a directory from which the first of the names ahead is missing. All
of these names go straight on. -/
structure BreaksOff (d : Disk) (p : Path) (before : List String) (l : Location) (name : String)
    (after : List String) : Prop where
  steps : stepsOf p = before ++ name :: after
  walk : d.walk (startOf p) before = .ok l
  directory : d.get? l = some .directory
  free : d.get? (l.child name) = none
  notUp : ".." ∉ name :: after
  short : ∀ other ∈ name :: after, other.utf8ByteSize ≤ nameLimit

/-- Where a path goes onward, the way to what is missing breaks off. -/
theorem exists_breaksOff (grounded : d.Grounded) (onward : p.Onward d)
    (lost : d.walk (startOf p) (stepsOf p) = .error .noSuchFile) :
    ∃ before l name after, BreaksOff d p before l name after := by
  obtain ⟨before, name, after, l, steps, walk, step⟩ := exists_step_of_walk lost
  have own : ∀ other ∈ before, IsEntryName other := fun other member =>
    isEntryName_of_mem_stepsOf (steps ▸ List.mem_append_left _ member)
  have there := grounded.isSome_of_walk (startOf_proper p) own (by simp [get?, startOf]) walk
  obtain ⟨directory, notUp, short, free⟩ := missing_of_step there step
  have later (other : String) (member : other ∈ after) :
      other ≠ ".." ∧ other.utf8ByteSize ≤ nameLimit := by
    obtain ⟨nearer, farther, rfl⟩ := List.append_of_mem member
    refine onward (before ++ name :: nearer) other farther (by simp [steps]) ?_
    rw [walk_append, walk]
    change d.walk l (name :: nearer) = _
    rw [walk_cons, step]
    rfl
  refine ⟨before, l, name, after, steps, walk, directory, free, fun up => ?_, ?_⟩
  · rcases List.mem_cons.mp up with same | member
    · exact notUp same.symm
    · exact (later _ member).1 rfl
  · exact List.forall_mem_cons.mpr ⟨short, fun other member => (later other member).2⟩

namespace BreaksOff

theorem place_eq (breaks : BreaksOff d p before l name after) : p.place = l.descend (name :: after) := by
  rw [Path.place, breaks.steps, List.foldl_append, ← eq_of_walk breaks.walk,
    foldl_next_of_straight breaks.notUp]

/-- All that lies ahead is missing. -/
theorem missing_ahead (breaks : BreaksOff d p before l name after) (grounded : d.Grounded)
    {more : List String} (first : name :: more <+: name :: after) :
    d.get? (l.descend (name :: more)) = none := by
  have own : ∀ other ∈ before ++ name :: after, IsEntryName other :=
    fun other member => isEntryName_of_mem_stepsOf (breaks.steps ▸ member)
  obtain ⟨ownBefore, ownAhead⟩ := List.forall_mem_append.mp own
  have proper : l.Proper := proper_of_walk (startOf_proper p) ownBefore breaks.walk
  exact grounded.missing_beyond (proper.child (ownAhead name List.mem_cons_self))
    (fun other member => ownAhead other (first.subset (List.mem_cons_of_mem _ member))) breaks.free

/-- What the path leads to is none of the directories above it. -/
theorem place_not_mem_way (breaks : BreaksOff d p before l name after) (grounded : d.Grounded) :
    p.place ∉ p.directory.way := by
  intro member
  obtain ⟨first, short, same⟩ := Path.mem_way.mp member
  obtain ⟨names, absolute⟩ := Path.stepsOf_directory p
  have start : startOf p.directory = startOf p := by
    unfold startOf
    rw [absolute (by simp [breaks.steps])]
  rw [names] at short
  rw [start] at same
  have begins : before <+: stepsOf p := ⟨_, breaks.steps.symm⟩
  rcases List.prefix_or_prefix_of_prefix (short.trans (List.dropLast_prefix _)) begins with
    within | ⟨more, rfl⟩
  · -- The walk has come by that place, so something is there.
    obtain ⟨rest, rfl⟩ := within
    obtain ⟨m, earlier, -⟩ := walk_append_eq_ok.mp breaks.walk
    have there := grounded.isSome_of_walk (startOf_proper p) (fun name member =>
      isEntryName_of_mem_stepsOf (begins.subset (List.mem_append_left _ member)))
      (by simp [get?, startOf]) earlier
    rw [eq_of_walk earlier, same, breaks.place_eq,
      breaks.missing_ahead grounded (List.prefix_refl _)] at there
    cases there
  · -- Fewer of the names ahead lead to another place.
    have fewer := short.length_le
    rw [breaks.steps] at short fewer
    simp only [List.length_dropLast, List.length_append, List.length_cons] at fewer
    have inside : more <+: name :: after :=
      (List.prefix_append_right_inj before).mp (short.trans (List.dropLast_prefix _))
    rw [breaks.place_eq, List.foldl_append, ← eq_of_walk breaks.walk,
      foldl_next_of_straight fun up => breaks.notUp (inside.subset up)] at same
    have whole : more = name :: after := List.append_cancel_left (congrArg Location.names same)
    rw [whole, List.length_cons] at fewer
    omega

/-- The way to it is still lost when directories are made that are not in its place. -/
theorem walk_of_extends (breaks : BreaksOff d p before l name after) (grounded : d.Grounded)
    (grown : Extends d made) (free : made.get? p.place = none) :
    made.walk (startOf p) (stepsOf p) = .error .noSuchFile := by
  rw [breaks.steps, walk_append, grown.passable.walk breaks.walk]
  refine walk_of_missing breaks.notUp breaks.short (grown.kept breaks.directory) ?_ ?_
  · intro more first
    rw [grown.file?_eq, foldl_next_of_straight fun up => breaks.notUp (first.subset up)]
    cases more with
    | nil => exact file?_eq_none.mpr (.inr (by rw [Location.descend_nil, breaks.directory]))
    | cons other more =>
      obtain ⟨rfl, -⟩ := List.cons_prefix_cons.mp first
      exact file?_eq_none.mpr (.inl (breaks.missing_ahead grounded first))
  · refine ⟨name :: after, List.prefix_refl _, ?_⟩
    rw [foldl_next_of_straight breaks.notUp, ← breaks.place_eq, free]

end BreaksOff

/-- What a path names that goes onward is still missing when the directories above it have been made. -/
theorem read_makeDirectories_of_missing (grounded : d.Grounded) (onward : p.Onward d)
    (missing : d.read p = .error .noSuchFile) :
    (d.makeDirectories p.directory).1.read p = .error .noSuchFile := by
  cases accepted : accept p with
  | error fault =>
    have refused (d : Disk) : d.read p = .error fault := by
      simp only [read, resolve, accepted, bind, Except.bind]
    rw [refused] at missing ⊢
    exact missing
  | ok done =>
    have lost := grounded.walk_of_read accepted missing
    obtain ⟨before, l, name, after, breaks⟩ := exists_breaksOff grounded onward lost
    have free : (d.makeDirectories p.directory).1.get? p.place = none := by
      rw [get?_makeDirectories d p.directory (place_proper p) (breaks.place_not_mem_way grounded),
        breaks.place_eq, breaks.missing_ahead grounded (List.prefix_refl _)]
    exact read_of_lost accepted
      (breaks.walk_of_extends grounded (extends_makeDirectories d p.directory) free)

end Disk

end Upkeep
