import Upkeep.Proofs.Disk.Residue

/-! Looking for what need not be there. A path leads nowhere if something on its way is missing or is
no directory. Whoever looks for a program takes both for an answer, so it makes no difference whether
there is a file where a path would need a directory. -/
namespace Upkeep

/-- Nothing was found: something was missing, or was no directory. -/
inductive Nowhere {α : Type} : Except Fault α → Prop where
  | missing : Nowhere (.error .noSuchFile)
  | noDirectory : Nowhere (.error .notDirectory)

theorem Nowhere.bind {α β : Type} {result : Except Fault α} {next : α → Except Fault β}
    (nowhere : Nowhere result) : Nowhere (result >>= next) := by
  cases nowhere with
  | missing => exact .missing
  | noDirectory => exact .noDirectory

/-- A path is looked for alike in two disks if it leads to the same, or nowhere in both. -/
inductive Path.SoughtAlike (p : Path) (d d' : Disk) : Prop where
  | leads (alike : p.LeadsAlike d d')
  | nowhere (first : Nowhere (d.resolve p)) (second : Nowhere (d'.resolve p))

/-- A path gets nothing from some places of a disk: it ends at none, and those that it leads through are
no directories. The top is never in question. -/
def Path.Ignores (p : Path) (off : Location → Prop) (d : Disk) : Prop :=
  ∀ l ∈ p.way, l.names ≠ [] → off l → l ≠ p.place ∧ d.get? l ≠ some .directory

instance (p : Path) (off : Location → Prop) [DecidablePred off] (d : Disk) :
    Decidable (p.Ignores off d) :=
  inferInstanceAs (Decidable (∀ l ∈ p.way, l.names ≠ [] → off l →
    l ≠ p.place ∧ d.get? l ≠ some .directory))

namespace Disk

variable {d d' : Disk} {l : Location} {name : String} {names : List String} {p : Path}

theorem walk_nowhere (shut : d.get? l ≠ some .directory) (more : names ≠ []) :
    Nowhere (d.walk l names) := by
  cases names with
  | nil => exact absurd rfl more
  | cons name names =>
    rw [walk_cons]
    refine Nowhere.bind ?_
    unfold step
    split
    · rename_i directory
      exact absurd directory shut
    · exact .noDirectory
    · exact .missing

/-- A walk whose first step is not refused leads nowhere if there is no directory after it. -/
private theorem walk_cons_nowhere (bearable : d.get? l = some .directory → name ≠ ".." →
      name.utf8ByteSize ≤ nameLimit)
    (shut : d.get? (l.next name) ≠ some .directory) (more : names ≠ []) :
    Nowhere (d.walk l (name :: names)) := by
  rw [walk_cons]
  cases stepped : d.step l name with
  | ok next =>
    exact walk_nowhere (eq_of_step stepped ▸ shut) more
  | error fault =>
    refine Nowhere.bind ?_
    unfold step at stepped
    split at stepped
    · rename_i directory
      split at stepped
      · cases stepped
      · rename_i notUp
        rw [if_neg (Nat.not_lt.mpr (bearable directory notUp))] at stepped
        split at stepped
        · cases stepped
        · cases stepped
          exact .missing
    · cases stepped
      exact .noDirectory
    · cases stepped
      exact .missing

/-- Two walks go alike or lead nowhere both, if all places on the way hold the same or, short of the
last, are no directories. -/
theorem walk_alike_or_nowhere (ways : ∀ before, before <+: names →
      d'.get? (before.foldl Location.next l) = d.get? (before.foldl Location.next l) ∨
        before ≠ names ∧ d.get? (before.foldl Location.next l) ≠ some .directory ∧
          d'.get? (before.foldl Location.next l) ≠ some .directory) :
    d'.walk l names = d.walk l names ∨
      Nowhere (d.walk l names) ∧ Nowhere (d'.walk l names) := by
  induction names generalizing l with
  | nil => exact .inl rfl
  | cons name names ih =>
    rcases ways [] List.nil_prefix with here | ⟨-, shut, shut'⟩
    · rw [List.foldl_nil] at here
      rcases ways [name] ⟨names, rfl⟩ with there | ⟨last, shut, shut'⟩
      · rw [walk_cons, walk_cons, step_congr here there]
        cases stepped : d.step l name with
        | error fault => exact .inl rfl
        | ok next =>
          obtain rfl : next = l.next name := eq_of_step stepped
          refine ih fun before first => ?_
          refine (ways (name :: before) (List.cons_prefix_cons.mpr ⟨rfl, first⟩)).imp_right ?_
          exact And.imp_left fun other same => other (congrArg _ same)
      · have more : names ≠ [] := fun none => last (none ▸ rfl)
        by_cases refused : d.get? l = some .directory ∧ name ≠ ".." ∧ nameLimit < name.utf8ByteSize
        · -- The name is refused before anyone looks for it.
          obtain ⟨directory, notUp, long⟩ := refused
          left
          rw [walk_cons, walk_cons]
          simp only [step, here, directory, notUp, long, ↓reduceIte, bind, Except.bind]
        · have bearable (directory : d.get? l = some .directory) (notUp : name ≠ "..") :
              name.utf8ByteSize ≤ nameLimit :=
            Nat.not_lt.mp fun long => refused ⟨directory, notUp, long⟩
          exact .inr ⟨walk_cons_nowhere bearable shut more,
            walk_cons_nowhere (here ▸ bearable) shut' more⟩
    · exact .inr ⟨walk_nowhere shut (List.cons_ne_nil _ _), walk_nowhere shut' (List.cons_ne_nil _ _)⟩

/-- On disks that agree off some places a path is looked for alike, if it gets nothing from these. -/
theorem AgreeOff.sought {off : Location → Prop} (agree : AgreeOff off d d')
    (ignores : p.Ignores off d) (ignores' : p.Ignores off d') : p.SoughtAlike d d' := by
  have place : d'.get? p.place = d.get? p.place := by
    by_cases top : p.place.names = []
    · simp only [get?, top, ↓reduceIte]
    · exact agree.same _ (place_proper p) fun member =>
        (ignores _ p.place_mem_way top member).1 rfl
  have walks : d'.walk (startOf p) (stepsOf p) = d.walk (startOf p) (stepsOf p) ∨
      Nowhere (d.walk (startOf p) (stepsOf p)) ∧ Nowhere (d'.walk (startOf p) (stepsOf p)) := by
    refine walk_alike_or_nowhere fun before first => ?_
    by_cases same : d'.get? (before.foldl Location.next (startOf p)) =
        d.get? (before.foldl Location.next (startOf p))
    · exact .inl same
    right
    have on : before.foldl Location.next (startOf p) ∈ p.way := Path.mem_way.mpr ⟨before, first, rfl⟩
    have inner : (before.foldl Location.next (startOf p)).names ≠ [] := fun top => same <| by
      simp only [get?, top, ↓reduceIte]
    have member : off (before.foldl Location.next (startOf p)) := by
      by_contra away
      exact same (agree.same _ (Path.proper_of_mem_way on) away)
    obtain ⟨short, shut⟩ := ignores _ on inner member
    exact ⟨fun whole => short (whole ▸ rfl), shut, (ignores' _ on inner member).2⟩
  rcases walks with walks | ⟨nowhere, nowhere'⟩
  · refine .leads ⟨?_, fun l resolved => ?_⟩
    · unfold resolve
      rw [walks]
      cases walk : d.walk (startOf p) (stepsOf p) with
      | error fault => rfl
      | ok l =>
        obtain rfl : l = p.place := eq_of_walk walk
        simp only [bind, Except.bind, place]
    · rw [eq_of_resolve resolved]
      exact place
  · cases accepted : accept p with
    | error fault =>
      have refused (d : Disk) : d.resolve p = .error fault := by
        unfold resolve
        rw [accepted]
        rfl
      exact .leads ⟨(refused d').trans (refused d).symm, fun l resolved => by
        rw [refused d] at resolved
        cases resolved⟩
    | ok done =>
      have nowhere_of_walk {d : Disk} (nowhere : Nowhere (d.walk (startOf p) (stepsOf p))) :
          Nowhere (d.resolve p) := by
        unfold resolve
        rw [accepted]
        exact nowhere.bind
      exact .nowhere (nowhere_of_walk nowhere) (nowhere_of_walk nowhere')

end Disk

end Upkeep
