import Upkeep.Proofs.Yaml.Places
import Upkeep.Yaml.Token.Scalar

/-! What stands between the words of a scalar: blanks on one line, or line breaks and the blanks that
move the next line in. -/
namespace Upkeep.Yaml

/-- What follows a success goes on with its value. -/
theorem ok_bind {ε α β : Type} (a : α) (f : α → Except ε β) : (Except.ok a >>= f) = f a :=
  rfl

/-- No blank and no line break comes next. -/
def Stops (rest : List Char) : Prop :=
  ∀ c, rest.head? = some c → isSpace c = false ∧ isBreak c = false

theorem ne_space_of_isSpace {c : Char} (noBlank : isSpace c = false) : c ≠ ' ' := by
  rintro rfl
  cases noBlank

theorem stops_cons {c : Char} {rest : List Char} (noBlank : isSpace c = false)
    (noBreak : isBreak c = false) : Stops (c :: rest) := by
  rintro _ ⟨⟩
  exact ⟨noBlank, noBreak⟩

/-- The characters up to the first that fails a test, and the others. -/
theorem exists_span (test : Char → Bool) (s : List Char) : ∃ taken others, s = taken ++ others ∧
    (∀ c ∈ taken, test c = true) ∧ ∀ c, others.head? = some c → test c = false := by
  refine ⟨s.takeWhile test, s.dropWhile test, List.takeWhile_append_dropWhile.symm, ?_, ?_⟩
  · exact List.all_eq_true.mp List.all_takeWhile
  · intro c head
    have := List.head?_dropWhile_not test s
    rw [head] at this
    simpa using this

/-- The first word of a text, the gap behind it, and what follows, if there is a gap at all. -/
theorem exists_word (isGap : Char → Bool) (s : List Char) : ∃ word gap others,
    s = word ++ (gap ++ others) ∧ (∀ c ∈ word, isGap c = false) ∧ (∀ c ∈ gap, isGap c = true) ∧
      (∀ c, others.head? = some c → isGap c = false) ∧ (gap = [] → others = []) := by
  obtain ⟨word, behind, form, wordOk, behindOk⟩ := exists_span (fun c => !isGap c) s
  obtain ⟨gap, others, rfl, gapOk, othersOk⟩ := exists_span isGap behind
  refine ⟨word, gap, others, form, fun c inside => by simpa using wordOk c inside, gapOk, othersOk, ?_⟩
  rintro rfl
  cases others with
  | nil => rfl
  | cons c others =>
    have blank := behindOk c rfl
    rw [othersOk c rfl] at blank
    cases blank

namespace Gap

variable {indent fuel : Nat} {g : Gap} {p : Spot} {c : Char} {rest : List Char}

theorem take_space :
    take indent (fuel + 1) g (p.cursor (' ' :: rest)) =
      take indent fuel (if g.onNewLine then g else { g with blanks := g.blanks ++ [' '] })
        ((p.after [' ']).cursor rest) := by
  have blank : isSpace ' ' = true := rfl
  have noTab : (' ' == '\t') = false := rfl
  have skip : (p.cursor (' ' :: rest)).skip 1 = (p.after [' ']).cursor rest :=
    Spot.skip_cursor_cons rfl
  cases new : g.onNewLine <;> simp [take, blank, noTab, skip, new]

theorem take_lineEnd (lineEnd : Spot.IsLineEnd c) :
    take indent (fuel + 1) g (p.cursor (c :: rest)) =
      take indent fuel
        (if g.onNewLine then { g with moreBreaks := g.moreBreaks ++ [c] } else ⟨[], [c], [], true⟩)
        ((p.after [c]).cursor rest) := by
  have noBlank : isSpace c = false := by
    rcases lineEnd with rfl | rfl | rfl <;> rfl
  cases new : g.onNewLine <;>
    simp [take, noBlank, lineEnd.isBreak, Spot.takeBreak_cursor lineEnd, new]

theorem take_stops (stops : Stops rest) :
    take indent fuel g (p.cursor rest) = .ok (g, p.cursor rest) := by
  cases fuel with
  | zero => rfl
  | succ fuel =>
    cases rest with
    | nil => rfl
    | cons c rest =>
      obtain ⟨noBlank, noBreak⟩ := stops c rfl
      simp [take, noBlank, noBreak]

/-- Blanks on one line. -/
theorem take_blanks {n : Nat} (enough : n ≤ fuel) (onLine : g.onNewLine = false) (stops : Stops rest) :
    take indent fuel g (p.cursor (List.replicate n ' ' ++ rest)) =
      .ok ({ g with blanks := g.blanks ++ List.replicate n ' ' },
        (p.after (List.replicate n ' ')).cursor rest) := by
  induction n generalizing fuel g p with
  | zero => simpa using take_stops stops
  | succ n ih =>
    obtain ⟨fuel, rfl⟩ := Nat.exists_eq_add_of_le' enough
    rw [← Nat.add_assoc, List.replicate_succ, List.cons_append, take_space, ih (by omega) (by simp [onLine]),
      Spot.after_cons p ' ' (List.replicate n ' ')]
    simp [onLine]

/-- Blanks that move a line in. -/
theorem take_indentation {n : Nat} (enough : n ≤ fuel) (new : g.onNewLine = true) (stops : Stops rest) :
    take indent fuel g (p.cursor (List.replicate n ' ' ++ rest)) =
      .ok (g, (p.after (List.replicate n ' ')).cursor rest) := by
  induction n generalizing fuel p with
  | zero => simpa using take_stops stops
  | succ n ih =>
    obtain ⟨fuel, rfl⟩ := Nat.exists_eq_add_of_le' enough
    rw [← Nat.add_assoc, List.replicate_succ, List.cons_append, take_space, if_pos new, ih (by omega),
      Spot.after_cons p ' ' (List.replicate n ' ')]

/-- Further line breaks. -/
theorem take_moreBreaks {more : List Char} {n : Nat} (lineEnds : ∀ c ∈ more, Spot.IsLineEnd c)
    (enough : more.length + n ≤ fuel) (new : g.onNewLine = true) (stops : Stops rest) :
    take indent fuel g (p.cursor (more ++ (List.replicate n ' ' ++ rest))) =
      .ok ({ g with moreBreaks := g.moreBreaks ++ more },
        (p.after (more ++ List.replicate n ' ')).cursor rest) := by
  induction more generalizing fuel g p with
  | nil => simpa using take_indentation (by simpa using enough) new stops
  | cons c more ih =>
    obtain ⟨first, others⟩ := List.forall_mem_cons.mp lineEnds
    rw [List.length_cons] at enough
    obtain ⟨fuel, rfl⟩ := Nat.exists_eq_add_of_le' (by omega : 1 ≤ fuel)
    rw [List.cons_append, take_lineEnd first, if_pos new,
      @ih fuel { g with moreBreaks := g.moreBreaks ++ [c] } (p.after [c]) others (by omega) new,
      List.cons_append, Spot.after_cons p c (more ++ List.replicate n ' ')]
    simp

/-- Line breaks, and the blanks that move the next line in. -/
theorem take_lines {b : Char} {more : List Char} {n : Nat} (first : Spot.IsLineEnd b)
    (lineEnds : ∀ c ∈ more, Spot.IsLineEnd c) (enough : more.length + n < fuel) (stops : Stops rest) :
    take indent fuel .none (p.cursor (b :: more ++ (List.replicate n ' ' ++ rest))) =
      .ok (⟨[], [b], more, true⟩, (p.after (b :: more ++ List.replicate n ' ')).cursor rest) := by
  obtain ⟨fuel, rfl⟩ := Nat.exists_eq_add_of_le' (by omega : 1 ≤ fuel)
  rw [List.cons_append, take_lineEnd first, if_neg (by simp [none]),
    take_moreBreaks lineEnds (by omega) rfl stops, List.cons_append,
    Spot.after_cons p b (more ++ List.replicate n ' ')]
  rfl

/-- One line break, and the blanks that move the next line in. -/
theorem take_line {n : Nat} (enough : n < fuel) (stops : Stops rest) :
    take indent fuel .none (p.cursor ('\n' :: (List.replicate n ' ' ++ rest))) =
      .ok (⟨[], ['\n'], [], true⟩, (p.after ('\n' :: List.replicate n ' ')).cursor rest) := by
  have none : ∀ c ∈ ([] : List Char), Spot.IsLineEnd c := fun _ inside => nomatch inside
  exact take_lines (.inl rfl) none (by simpa using enough) stops

end Gap

end Upkeep.Yaml
