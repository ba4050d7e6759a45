import Upkeep.Proofs.Disk.Ways

/-! Disks that agree along the way of a path. Such disks cannot be told apart by the path: it leads to
the same place, reads the same, and what it names is replaced alike. Replacing it changes nothing off
its way, and no directory on it. -/
namespace Upkeep

/-- What was done in two states came to the same and left states that go together. -/
structure EndPaired {σ α : Type} (pair : σ → σ → Prop) (ended ended' : σ × α) : Prop where
  result : ended'.2 = ended.2
  states : pair ended.1 ended'.1

theorem EndPaired.parts {σ α : Type} {pair : σ → σ → Prop} {ended ended' : σ × α}
    (paired : EndPaired pair ended ended') : ∃ after after' result,
      ended = (after, result) ∧ ended' = (after', result) ∧ pair after after' :=
  ⟨ended.1, ended'.1, ended.2, rfl, Prod.ext rfl paired.result, paired.states⟩

/-- Following one name never leads to the child of another name. -/
theorem Location.next_ne_child {l : Location} {name other : String} (differ : name ≠ other) :
    l.next name ≠ l.child other := by
  intro same
  have names := congrArg Location.names same
  unfold Location.next at names
  split at names
  · have length := congrArg List.length names
    simp [Location.above, Location.child] at length
  · simp [Location.child, differ] at names

namespace Disk

variable {d d' : Disk} {l : Location} {name : String} {names : List String} {p : Path}
  {content : ByteArray} {mode : Nat}

/-- Two disks agree along a path if all places that it leads through hold the same. -/
def AgreeAlong (p : Path) (d d' : Disk) : Prop :=
  ∀ l ∈ p.way, d'.get? l = d.get? l

theorem step_congr (here : d'.get? l = d.get? l)
    (there : d'.get? (l.next name) = d.get? (l.next name)) : d'.step l name = d.step l name := by
  unfold step
  rw [here]
  by_cases up : name = ".."
  · simp only [up, ↓reduceIte]
  · rw [Location.next_of_ne up] at there
    rw [there]

theorem walk_congr (same : ∀ before, before <+: names →
      d'.get? (before.foldl Location.next l) = d.get? (before.foldl Location.next l)) :
    d'.walk l names = d.walk l names := by
  induction names generalizing l with
  | nil => rfl
  | cons name names ih =>
    have step : d'.step l name = d.step l name :=
      step_congr (same [] List.nil_prefix) (same [name] ⟨names, rfl⟩)
    rw [walk_cons, walk_cons, step]
    cases stepped : d.step l name with
    | error fault => rfl
    | ok next =>
      obtain rfl : next = l.next name := eq_of_step stepped
      exact ih fun before first => same (name :: before) (List.cons_prefix_cons.mpr ⟨rfl, first⟩)

namespace AgreeAlong

theorem walk (agree : AgreeAlong p d d') (first : names <+: stepsOf p) :
    d'.walk (startOf p) names = d.walk (startOf p) names :=
  walk_congr fun before earlier => agree _ (Path.mem_way.mpr ⟨before, earlier.trans first, rfl⟩)

theorem get?_of_walk (agree : AgreeAlong p d d') (first : names <+: stepsOf p)
    (walk : d.walk (startOf p) names = .ok l) : d'.get? l = d.get? l := by
  rw [eq_of_walk walk]
  exact agree _ (Path.mem_way.mpr ⟨names, first, rfl⟩)

theorem resolve (agree : AgreeAlong p d d') : d'.resolve p = d.resolve p := by
  unfold Disk.resolve
  rw [agree.walk (List.prefix_refl _)]
  cases walk : d.walk (startOf p) (stepsOf p) with
  | error fault => rfl
  | ok l =>
    have same := agree.get?_of_walk (List.prefix_refl _) walk
    simp only [bind, Except.bind, same]

theorem get?_of_resolve (agree : AgreeAlong p d d') (resolved : d.resolve p = .ok l) :
    d'.get? l = d.get? l := by
  rw [eq_of_resolve resolved]
  exact agree _ p.place_mem_way

theorem isDirectory (agree : AgreeAlong p d d') : d'.isDirectory p = d.isDirectory p := by
  unfold Disk.isDirectory
  rw [agree.resolve]
  cases resolved : d.resolve p with
  | error fault => rfl
  | ok l => simp only [agree.get?_of_resolve resolved]

theorem resolveNew (agree : AgreeAlong p d d') : d'.resolveNew p = d.resolveNew p := by
  have steps : stepsOf p = (((p.text.toList.splitOn '/').filter (· != [])).filter
      fun piece => !Path.isEmptyPiece piece).map String.ofList := stepsOf_eq p
  unfold Disk.resolveNew
  generalize (p.text.toList.splitOn '/').filter (· != []) = pieces at steps ⊢
  refine congrArg _ (funext fun accepted => ?_)
  dsimp only
  cases ends : pieces.getLast? with
  | none => rfl
  | some last =>
    obtain ⟨before, rfl⟩ := List.getLast?_eq_some_iff.mp ends
    dsimp only
    rw [List.dropLast_concat]
    have first : (before.filter fun piece => !Path.isEmptyPiece piece).map String.ofList <+:
        stepsOf p := by
      rw [steps, List.filter_append, List.map_append]
      exact List.prefix_append _ _
    rw [agree.walk first]
    cases walk : d.walk (startOf p)
        ((before.filter fun piece => !Path.isEmptyPiece piece).map String.ofList) with
    | error fault => rfl
    | ok l => simp only [bind, Except.bind, agree.get?_of_walk first walk]

theorem renameTarget (agree : AgreeAlong p d d') : d'.renameTarget p = d.renameTarget p := by
  unfold Disk.renameTarget
  rw [agree.resolveNew]
  cases resolved : d.resolveNew p with
  | error fault => rfl
  | ok place =>
    obtain ⟨l, name⟩ := place
    cases name with
    | none => rfl
    | some name =>
      have leads := leadsTo_of_resolveNew resolved
      have same := agree _ (leads.place_eq ▸ p.place_mem_way)
      simp only [bind, Except.bind, Except.mapError, same]

end AgreeAlong

/-- A file that is put off the way of a path cannot be told by the path. -/
theorem agreeAlong_put {e : Entry} (proper : l.Proper) (off : l ∉ p.way) :
    AgreeAlong p d (d.put l e) := by
  intro m member
  by_cases top : m.names = []
  · simp only [get?, top, ↓reduceIte]
  · rw [get?_put top, if_neg]
    intro same
    exact off (Location.key_injective proper (Path.proper_of_mem_way member) same ▸ member)

/-- A walk that goes on after some names has come to a directory with them. -/
theorem directory_of_walk_append {more : List String} {m : Location}
    (walk : d.walk l (names ++ name :: more) = .ok m) :
    d.get? (names.foldl Location.next l) = some .directory := by
  obtain ⟨next, first, rest⟩ := walk_append_eq_ok.mp walk
  obtain ⟨after, step, -⟩ := walk_cons_eq_ok.mp rest
  rw [← eq_of_walk first]
  exact (step_eq_ok.mp step).1

/-- A walk to a place does not lead over something in that place that is no directory. -/
theorem foldl_next_ne_child {start : Location} {before : List String}
    (walk : d.walk start names = .ok l) (kept : d.get? (l.child name) ≠ some .directory)
    (first : before <+: names) : before.foldl Location.next start ≠ l.child name := by
  intro place
  obtain ⟨more, rfl⟩ := first
  cases more with
  | nil =>
    rw [List.append_nil] at walk
    rw [← eq_of_walk walk] at place
    have length := congrArg (fun place : Location => place.names.length) place
    simp [Location.child] at length
  | cons next more => exact kept (place ▸ directory_of_walk_append walk)

/-- What lies in the directory of a path, and is no directory, is off the way of the path, unless it is
what the path names. -/
theorem child_off_way (resolved : d.resolve p.directory = .ok l)
    (kept : d.get? (l.child name) ≠ some .directory) (other : name ≠ (stepsOf p).getLastD "") :
    l.child name ∉ p.way := by
  intro member
  obtain ⟨names, first, place⟩ := Path.mem_way.mp member
  obtain ⟨steps, absolute⟩ := Path.stepsOf_directory p
  by_cases top : stepsOf p = []
  · rw [top] at first
    rw [List.prefix_nil.mp first] at place
    exact Location.names_child_ne_nil l name (place ▸ rfl)
  · have start : startOf p.directory = startOf p := by
      unfold startOf
      rw [absolute top]
    have own : stepsOf p = stepsOf p.directory ++ [(stepsOf p).getLastD ""] := by
      obtain ⟨before, last, whole⟩ := (List.eq_nil_or_concat (stepsOf p)).resolve_left top
      rw [steps, whole]
      simp
    have walk : d.walk (startOf p) (stepsOf p.directory) = .ok l := start ▸ walk_of_resolve resolved
    rw [own] at first
    rcases List.prefix_concat_iff.mp first with whole | before
    · rw [whole, List.foldl_append, ← eq_of_walk walk, List.foldl_cons, List.foldl_nil] at place
      exact Location.next_ne_child other.symm place
    · exact foldl_next_ne_child walk kept before place

/-- The temporary file lies off the way of the path that it is made for. -/
theorem temporary_off_way (resolved : d.resolve p.directory = .ok l) :
    d.temporary l p ∉ p.way := by
  obtain ⟨other, free⟩ := d.freshName_spec l ((stepsOf p).getLastD "")
  refine child_off_way resolved ?_ other
  rw [free]
  simp

private theorem isEntryName_temporaryName (n : Nat) : IsEntryName (temporaryName n) := by
  unfold temporaryName
  constructor
  · intro empty
    simpa using congrArg String.toList empty
  · intro slash
    have parts : '/' ∈ (toString ".").toList ∨ '/' ∈ Nat.toDigits 10 n ∨
        '/' ∈ (toString ".tmp").toList := by simpa using slash
    rcases parts with dot | digit | ending
    · exact absurd dot (by decide)
    · exact absurd (Nat.isDigit_of_mem_toDigits (by decide) (by decide) digit) (by decide)
    · exact absurd ending (by decide)

theorem isEntryName_freshName (d : Disk) (l : Location) (target : String) :
    IsEntryName (d.freshName l target) := by
  unfold freshName
  generalize names : (List.range (d.entries.size + 2)).map temporaryName = candidates
  dsimp only
  cases found : candidates.find? _ with
  | none => exact isEntryName_temporaryName 0
  | some name =>
    have listed := List.mem_of_find?_eq_some found
    rw [← names] at listed
    obtain ⟨n, -, rfl⟩ := List.mem_map.mp listed
    exact isEntryName_temporaryName n

theorem temporary_proper (proper : l.Proper) : (d.temporary l p).Proper :=
  proper.child (d.isEntryName_freshName l _)

/-- What comes of replacing a file, without the temporary file on the way. -/
theorem replace_eq (d : Disk) (p : Path) (content : ByteArray) (mode : Nat) :
    d.replace p content mode =
      match d.makeDirectories p.directory with
      | (made, .error fault) => (made, .error fault)
      | (made, .ok ()) =>
        match made.resolve p.directory, made.renameTarget p with
        | .error fault, _ => (made, .error fault)
        | .ok _, .error fault => (made, .error fault)
        | .ok _, .ok l => (made.put l (.file (keptMode mode) content), .ok ()) := by
  unfold replace replaceWith
  cases d.makeDirectories p.directory with
  | mk made result =>
    cases result with
    | error fault => rfl
    | ok done =>
      dsimp only
      cases resolved : made.resolve p.directory with
      | error fault => rfl
      | ok l =>
        have free := get?_temporary made l p
        have inner : (made.temporary l p).names ≠ [] := Location.names_child_ne_nil _ _
        have proper : (made.temporary l p).Proper :=
          temporary_proper (proper_of_walk (startOf_proper _) (fun _ => isEntryName_of_mem_stepsOf)
            (walk_of_resolve resolved))
        have target : (made.put (made.temporary l p) (.file (keptMode mode) content)).renameTarget p =
            made.renameTarget p :=
          (agreeAlong_put proper (temporary_off_way resolved)).renameTarget
        simp only [withTemporary, put_put, clear_put free inner, rename, target]
        cases made.renameTarget p with
        | error fault => rfl
        | ok place => simp only [bind, Except.bind, get?_put inner, ↓reduceIte, pure,
            Except.pure]

end Disk

/-- A path avoids some places if none of those that it leads through is among them. The top is never
in question, since it is always there. -/
def Path.Avoids (p : Path) (off : Location → Prop) : Prop :=
  ∀ l ∈ p.way, l.names ≠ [] → ¬ off l

instance (p : Path) (off : Location → Prop) [DecidablePred off] : Decidable (p.Avoids off) :=
  inferInstanceAs (Decidable (∀ l ∈ p.way, l.names ≠ [] → ¬ off l))

theorem Path.Avoids.of_parent? {p q : Path} {off : Location → Prop} (avoids : p.Avoids off)
    (parent : p.parent? = some q) : q.Avoids off :=
  fun l member => avoids l (mem_way_of_parent? parent member)

theorem Path.Avoids.of_directory {p : Path} {off : Location → Prop} (avoids : p.Avoids off) :
    p.directory.Avoids off := by
  intro l member inner
  rcases mem_way_of_directory member with above | top
  · exact avoids l above inner
  · exact absurd top inner

namespace Disk

variable {d d' : Disk} {l : Location} {p : Path} {content : ByteArray} {mode : Nat}

/-- Two disks agree off some places if all other places hold the same. -/
structure AgreeOff (off : Location → Prop) (d d' : Disk) : Prop where
  same : ∀ l, l.Proper → ¬ off l → d'.get? l = d.get? l

namespace AgreeOff

variable {off : Location → Prop} {e : Entry}

theorem refl (d : Disk) : AgreeOff off d d :=
  ⟨fun _ _ _ => rfl⟩

theorem symm (agree : AgreeOff off d d') : AgreeOff off d' d :=
  ⟨fun l proper away => (agree.same l proper away).symm⟩

/-- Disks that agree off some places agree along each path that avoids them. -/
theorem along (agree : AgreeOff off d d') (avoids : p.Avoids off) : AgreeAlong p d d' := by
  intro l member
  by_cases top : l.names = []
  · simp only [get?, top, ↓reduceIte]
  · exact agree.same l (Path.proper_of_mem_way member) (avoids l member top)

theorem put (agree : AgreeOff off d d') : AgreeOff off (d.put l e) (d'.put l e) := by
  constructor
  intro m proper away
  by_cases top : m.names = []
  · simp only [get?, top, ↓reduceIte]
  · rw [get?_put top, get?_put top, agree.same m proper away]

/-- Directories are made alike. -/
theorem makeDirectory (agree : AgreeOff off d d') (avoids : p.Avoids off) :
    (∃ fault, d.makeDirectory p = .error fault ∧ d'.makeDirectory p = .error fault) ∨
      ∃ made made', d.makeDirectory p = .ok made ∧ d'.makeDirectory p = .ok made' ∧
        AgreeOff off made made' := by
  have along := agree.along avoids
  unfold Disk.makeDirectory
  rw [along.resolveNew]
  cases resolved : d.resolveNew p with
  | error fault => exact .inl ⟨fault, rfl, rfl⟩
  | ok place =>
    obtain ⟨l, name⟩ := place
    cases name with
    | none => exact .inl ⟨_, rfl, rfl⟩
    | some name =>
      have leads := leadsTo_of_resolveNew resolved
      have same := along _ (leads.place_eq ▸ p.place_mem_way)
      simp only [bind, Except.bind, same]
      split
      · exact .inl ⟨_, rfl, rfl⟩
      · exact .inr ⟨_, _, rfl, rfl, agree.put⟩

theorem makeDirectoriesWith (fuel : Nat) (agree : AgreeOff off d d') (avoids : p.Avoids off) :
    EndPaired (AgreeOff off) (d.makeDirectoriesWith fuel p) (d'.makeDirectoriesWith fuel p) := by
  induction fuel generalizing d d' p with
  | zero => exact ⟨rfl, agree⟩
  | succ fuel ih =>
    unfold Disk.makeDirectoriesWith
    split
    · exact ⟨rfl, agree⟩
    · rw [(agree.along avoids).isDirectory]
      rcases agree.makeDirectory avoids with ⟨fault, failed, failed'⟩ | ⟨made, made', done, done', after⟩
      · rw [failed, failed']
        split
        · rename_i ok
          cases ok
        · cases above : p.parent? with
          | none => exact ⟨rfl, agree⟩
          | some parent =>
            obtain ⟨made, made', result, first, first', between⟩ :=
              (ih agree (avoids.of_parent? above)).parts
            simp only [first, first']
            cases result with
            | error fault => exact ⟨rfl, between⟩
            | ok done =>
              dsimp only
              rw [(between.along avoids).isDirectory]
              rcases between.makeDirectory avoids with
                ⟨fault, failed, failed'⟩ | ⟨last, last', done, done', after⟩
              · rw [failed, failed']
                dsimp only
                split
                · exact ⟨rfl, between⟩
                · exact ⟨rfl, between⟩
              · rw [done, done']
                exact ⟨rfl, after⟩
        · split
          · exact ⟨rfl, agree⟩
          · exact ⟨rfl, agree⟩
      · rw [done, done']
        exact ⟨rfl, after⟩

/-- Files are replaced alike. -/
theorem replace (agree : AgreeOff off d d') (avoids : p.Avoids off) :
    EndPaired (AgreeOff off) (d.replace p content mode) (d'.replace p content mode) := by
  rw [replace_eq, replace_eq]
  obtain ⟨made, made', result, parents, parents', after⟩ : ∃ made made' result,
      d.makeDirectories p.directory = (made, result) ∧
        d'.makeDirectories p.directory = (made', result) ∧ AgreeOff off made made' :=
    (agree.makeDirectoriesWith _ avoids.of_directory).parts
  rw [parents, parents']
  cases result with
  | error fault => exact ⟨rfl, after⟩
  | ok done =>
    dsimp only
    rw [(after.along avoids.of_directory).resolve, (after.along avoids).renameTarget]
    cases made.resolve p.directory with
    | error fault => exact ⟨rfl, after⟩
    | ok l =>
      cases made.renameTarget p with
      | error fault => exact ⟨rfl, after⟩
      | ok target => exact ⟨rfl, after.put⟩

end AgreeOff

/-- What is put at a place changes that place only. -/
theorem get?_put_cases {e : Entry} {m : Location} (proper : l.Proper) (properM : m.Proper) :
    (d.put m e).get? l = d.get? l ∨ l = m := by
  by_cases top : l.names = []
  · left
    simp only [get?, top, ↓reduceIte]
  · rw [get?_put top]
    split
    · rename_i same
      exact .inr (Location.key_injective properM proper same).symm
    · exact .inl rfl

theorem changed_of_makeDirectory (made : d.makeDirectory p = .ok d') (proper : l.Proper) :
    d'.get? l = d.get? l ∨ l ∈ p.way ∧ d.get? l = none := by
  obtain ⟨m, name, leads, free, rfl⟩ := leadsTo_of_makeDirectory made
  rcases get?_put_cases proper leads.proper with same | rfl
  · exact .inl same
  · exact .inr ⟨leads.place_eq ▸ p.place_mem_way, free⟩

/-- What is changed when directories are made was not there, and is on the way. -/
theorem changed_of_makeDirectoriesWith (fuel : Nat) (d : Disk) (p : Path) (proper : l.Proper) :
    (d.makeDirectoriesWith fuel p).1.get? l = d.get? l ∨ l ∈ p.way ∧ d.get? l = none := by
  induction fuel generalizing d p with
  | zero => exact .inl rfl
  | succ fuel ih =>
    unfold makeDirectoriesWith
    split
    · exact .inl rfl
    · split
      · rename_i made done
        exact changed_of_makeDirectory done proper
      · split
        · exact .inl rfl
        · rename_i parent above
          have first : (d.makeDirectoriesWith fuel parent).1.get? l = d.get? l ∨
              l ∈ p.way ∧ d.get? l = none :=
            (ih d parent).imp_right fun changed => ⟨Path.mem_way_of_parent? above changed.1, changed.2⟩
          split
          · rename_i failed
            exact failed ▸ first
          · rename_i made parents
            rw [parents] at first
            split
            · rename_i done
              rcases changed_of_makeDirectory done proper with same | ⟨leads, free⟩
              · rw [same]
                exact first
              · rcases first with kept | changed
                · exact .inr ⟨leads, kept ▸ free⟩
                · exact .inr changed
            · split <;> exact first
      · split <;> exact .inl rfl

theorem get?_makeDirectories (d : Disk) (p : Path) (proper : l.Proper) (off : l ∉ p.way) :
    (d.makeDirectories p).1.get? l = d.get? l :=
  (changed_of_makeDirectoriesWith _ d p proper).resolve_right fun changed => off changed.1

/-- The places that may come to hold something else when what a path names is replaced: those on its
way, but for the directories that are there. -/
def Changeable (d : Disk) (p : Path) (l : Location) : Prop :=
  l ∈ p.way ∧ d.get? l ≠ some .directory

instance (d : Disk) (p : Path) : DecidablePred (d.Changeable p) :=
  fun _ => inferInstanceAs (Decidable (_ ∧ _))

/-- What is put at one of the places makes no difference off them. -/
theorem AgreeOff.of_put {off : Location → Prop} {e : Entry} {m : Location} (proper : m.Proper)
    (member : off m) : AgreeOff off d (d.put m e) := by
  constructor
  intro l properL away
  exact (get?_put_cases properL proper).resolve_right fun same => away (same ▸ member)

/-- Replacing what a path names changes no other places. -/
theorem get?_replace (d : Disk) (p : Path) (content : ByteArray) (mode : Nat) (proper : l.Proper)
    (unchangeable : ¬ d.Changeable p l) : (d.replace p content mode).1.get? l = d.get? l := by
  have grown : Extends d (d.makeDirectories p.directory).1 := extends_makeDirectories d p.directory
  have parents : (d.makeDirectories p.directory).1.get? l = d.get? l := by
    rcases changed_of_makeDirectoriesWith _ d p.directory proper with same | ⟨member, free⟩
    · exact same
    · rcases Path.mem_way_of_directory member with member | top
      · exact absurd ⟨member, by simp [free]⟩ unchangeable
      · simp only [get?, top, ↓reduceIte]
  rw [replace_eq]
  cases ran : d.makeDirectories p.directory with
  | mk made result =>
    rw [ran] at parents grown
    cases result with
    | error fault => exact parents
    | ok done =>
      dsimp only
      cases made.resolve p.directory with
      | error fault => exact parents
      | ok above =>
        cases found : made.renameTarget p with
        | error fault => exact parents
        | ok target =>
          obtain ⟨m, name, leads, -, noDirectory, rfl⟩ := renameTarget_eq_ok found
          rcases get?_put_cases proper leads.proper with same | rfl
          · exact same.trans parents
          · exact absurd ⟨leads.place_eq ▸ p.place_mem_way,
              fun directory => noDirectory (grown.kept directory)⟩ unchangeable

end Disk

end Upkeep
