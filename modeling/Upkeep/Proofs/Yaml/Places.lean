import Upkeep.Yaml.Token

/-! How places move through a text. A place is known by what was passed to get there, whatever
characters are ahead; the steps of a cursor are told in these terms. -/
namespace Upkeep.Yaml

/-- Where a place lies in its text. -/
structure Spot where
  /-- How many bytes lie behind, in UTF-8. -/
  index : Nat
  /-- How many lines lie behind. -/
  line : Nat
  /-- How many characters of this line lie behind. -/
  column : Nat

namespace Spot

variable {p : Spot} {c : Char} {s rest : List Char}

/-- The place behind a character. -/
def next (p : Spot) (c : Char) : Spot :=
  ⟨p.index + c.utf8Size, if isBreak c then p.line + 1 else p.line,
    if isBreak c then 0 else p.column + 1⟩

/-- The place behind some characters. -/
def after (p : Spot) (s : List Char) : Spot :=
  s.foldl next p

/-- The cursor at a place. -/
def cursor (p : Spot) (rest : List Char) : Cursor :=
  ⟨rest, p.index, p.line, p.column⟩

@[simp]
theorem after_nil (p : Spot) : p.after [] = p :=
  rfl

theorem after_cons (p : Spot) (c : Char) (s : List Char) : p.after (c :: s) = (p.after [c]).after s :=
  rfl

theorem after_append (p : Spot) (s t : List Char) : p.after (s ++ t) = (p.after s).after t :=
  List.foldl_append

@[simp]
theorem rest_cursor (p : Spot) (rest : List Char) : (p.cursor rest).rest = rest :=
  rfl

@[simp]
theorem column_cursor (p : Spot) (rest : List Char) : (p.cursor rest).column = p.column :=
  rfl

@[simp]
theorem peek_cursor_cons (p : Spot) (c : Char) (rest : List Char) : (p.cursor (c :: rest)).peek = some c :=
  rfl

@[simp]
theorem peek_cursor_nil (p : Spot) : (p.cursor []).peek = none :=
  rfl

@[simp]
theorem next_cursor_cons (p : Spot) (c d : Char) (rest : List Char) :
    (p.cursor (c :: rest)).next d = (c == d) := by
  simp [Cursor.next]

@[simp]
theorem next_cursor_nil (p : Spot) (d : Char) : (p.cursor []).next d = false :=
  rfl

/-- The start of a text. -/
def zero : Spot :=
  ⟨0, 0, 0⟩

/-- No character of the text ends a line. -/
def OnLine (s : List Char) : Prop :=
  ∀ c ∈ s, isBreak c = false

theorem OnLine.append {t : List Char} (left : OnLine s) (right : OnLine t) : OnLine (s ++ t) :=
  List.forall_mem_append.mpr ⟨left, right⟩

theorem OnLine.cons (first : isBreak c = false) (others : OnLine s) : OnLine (c :: s) :=
  List.forall_mem_cons.mpr ⟨first, others⟩

theorem onLine_nil : OnLine [] :=
  fun _ inside => nomatch inside

theorem onLine_singleton (onLine : isBreak c = false) : OnLine [c] :=
  .cons onLine onLine_nil

theorem onLine_replicate (n : Nat) : OnLine (List.replicate n ' ') := by
  intro c inside
  rw [List.eq_of_mem_replicate inside]
  decide

theorem after_eq (onLine : OnLine s) :
    p.after s = ⟨p.index + Cursor.bytes s, p.line, p.column + s.length⟩ := by
  induction s generalizing p with
  | nil => rfl
  | cons c s ih =>
    obtain ⟨first, others⟩ := List.forall_mem_cons.mp onLine
    have step : p.after [c] = ⟨p.index + c.utf8Size, p.line, p.column + 1⟩ := by
      simp [after, next, first]
    rw [after_cons, ih others, step, List.length_cons, Nat.add_assoc, Nat.add_assoc, Nat.add_comm 1]
    rfl

theorem column_after (onLine : OnLine s) : (p.after s).column = p.column + s.length := by
  rw [after_eq onLine]

theorem line_after (onLine : OnLine s) : (p.after s).line = p.line := by
  rw [after_eq onLine]

theorem index_after (onLine : OnLine s) : (p.after s).index = p.index + Cursor.bytes s := by
  rw [after_eq onLine]

/-- A line break goes to the start of the next line. -/
theorem after_break (ends : isBreak c = true) :
    (p.after [c]).line = p.line + 1 ∧ (p.after [c]).column = 0 := by
  simp [after, next, ends]

theorem column_after_break (ends : isBreak c = true) (onLine : OnLine s) :
    (p.after (c :: s)).column = s.length := by
  rw [after_cons, column_after onLine, (after_break ends).2, Nat.zero_add]

theorem column_after_breaks {breaks : List Char} (nonempty : breaks ≠ [])
    (ends : ∀ c ∈ breaks, isBreak c = true) (onLine : OnLine s) :
    (p.after (breaks ++ s)).column = s.length := by
  induction breaks generalizing p with
  | nil => exact absurd rfl nonempty
  | cons c breaks ih =>
    obtain ⟨first, others⟩ := List.forall_mem_cons.mp ends
    cases breaks with
    | nil => exact column_after_break first onLine
    | cons d breaks =>
      rw [List.cons_append, after_cons]
      exact ih (List.cons_ne_nil _ _) others

theorem line_le_after (p : Spot) (s : List Char) : p.line ≤ (p.after s).line := by
  induction s generalizing p with
  | nil => exact Nat.le_refl _
  | cons c s ih =>
    rw [after_cons]
    refine Nat.le_trans ?_ (ih _)
    simp only [after, List.foldl_cons, List.foldl_nil, next]
    split <;> omega

theorem skip_cursor (onLine : OnLine s) :
    (p.cursor (s ++ rest)).skip s.length = (p.after s).cursor rest := by
  rw [after_eq onLine]
  simp [Cursor.skip, cursor]

theorem skip_cursor_cons (onLine : isBreak c = false) :
    (p.cursor (c :: rest)).skip 1 = (p.after [c]).cursor rest :=
  skip_cursor (onLine_singleton onLine)

theorem span_cursor {test : Char → Bool} (onLine : OnLine s) (passes : ∀ c ∈ s, test c = true)
    (stops : ∀ c, rest.head? = some c → test c = false) :
    (p.cursor (s ++ rest)).span test = (s, (p.after s).cursor rest) := by
  have taken : (s ++ rest).takeWhile test = s := by
    rw [List.takeWhile_append_of_pos passes]
    cases rest with
    | nil => simp
    | cons c rest => simp [stops c rfl]
  rw [Cursor.span, rest_cursor, taken, skip_cursor onLine]

theorem skipWhile_cursor {test : Char → Bool} (onLine : OnLine s) (passes : ∀ c ∈ s, test c = true)
    (stops : ∀ c, rest.head? = some c → test c = false) :
    (p.cursor (s ++ rest)).skipWhile test = (p.after s).cursor rest := by
  rw [Cursor.skipWhile, span_cursor onLine passes stops]

/-- The line breaks that written texts hold. A scalar keeps each as it is. -/
def IsLineEnd (c : Char) : Prop :=
  c = '\n' ∨ c = '\u2028' ∨ c = '\u2029'

theorem IsLineEnd.isBreak (lineEnd : IsLineEnd c) : isBreak c = true := by
  rcases lineEnd with rfl | rfl | rfl <;> decide

theorem takeBreak_cursor (lineEnd : IsLineEnd c) :
    (p.cursor (c :: rest)).takeBreak = ([c], (p.after [c]).cursor rest) := by
  rcases lineEnd with rfl | rfl | rfl <;> rfl

/-- Only the first column starts a line of three marks. -/
theorem startsDocumentMarker_of_column (inside : p.column ≠ 0) :
    (p.cursor rest).startsDocumentMarker = false := by
  simp [Cursor.startsDocumentMarker, Cursor.startsMarker, inside]

end Spot

end Upkeep.Yaml
