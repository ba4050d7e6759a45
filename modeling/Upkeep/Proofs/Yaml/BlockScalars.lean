import Upkeep.Proofs.Yaml.PlainScalars

/-! Literal block scalars are scanned as they were written. Their lines are moved in, those without
content are not; the marks in front tell what becomes of the line breaks at the end. -/
namespace Upkeep.Yaml

open Printer (literalLines literalHints)

/-! ### How lines are written -/

section Lines

variable {indent : Nat} {line breaks s : List Char}

theorem literalLines_line (onLine : Spot.OnLine line) (s : List Char) :
    literalLines indent false (line ++ s) = line ++ literalLines indent false s := by
  induction line with
  | nil => rfl
  | cons c line ih =>
    obtain ⟨first, others⟩ := List.forall_mem_cons.mp onLine
    simp [literalLines, first, ih others]

theorem literalLines_breaks (ends : ∀ c ∈ breaks, isBreak c = true) (s : List Char) :
    literalLines indent true (breaks ++ s) = breaks ++ literalLines indent true s := by
  induction breaks with
  | nil => rfl
  | cons c breaks ih =>
    obtain ⟨first, others⟩ := List.forall_mem_cons.mp ends
    simp [literalLines, first, ih others]

theorem literalLines_break {c : Char} (lineBreak : isBreak c = true) (atStart : Bool) (s : List Char) :
    literalLines indent atStart (c :: s) = c :: literalLines indent true s := by
  simp [literalLines, lineBreak]

theorem literalLines_start {c : Char} (noBreak : isBreak c = false) (s : List Char) :
    literalLines indent true (c :: s) =
      List.replicate indent ' ' ++ literalLines indent false (c :: s) := by
  simp [literalLines, noBreak, Printer.spaces]

end Lines

namespace Scan

/-! ### Lines without content -/

/-- The line that ends a run of empty ones: it stands as far in as the text, or less. -/
def EndsEmpty (indent : Nat) (n : Nat) (rest : List Char) : Prop :=
  n = indent ∧ (∀ c, rest.head? = some c → isBreak c = false) ∨ n < indent ∧ Stops rest

theorem skip_zero (c : Cursor) : c.skip 0 = c := by
  simp [Cursor.skip, Cursor.bytes]

theorem emptyLines_break {least fuel deepest indent : Nat} {acc rest : List Char} {p : Spot} {c : Char}
    (lineEnd : Spot.IsLineEnd c) :
    emptyLines least (fuel + 1) (some indent) deepest acc (p.cursor (c :: rest)) =
      emptyLines least fuel (some indent) (max deepest p.column) (acc ++ [c]) ((p.after [c]).cursor rest) := by
  have noSpace : (c == ' ') = false := by rcases lineEnd with rfl | rfl | rfl <;> rfl
  have noTab : (c == '\t') = false := by rcases lineEnd with rfl | rfl | rfl <;> rfl
  simp [emptyLines, noSpace, skip_zero, noTab, lineEnd.isBreak, Spot.takeBreak_cursor lineEnd]

theorem emptyLines_content {least fuel deepest indent n : Nat} {acc rest : List Char} {p : Spot}
    (ends : EndsEmpty indent n rest) (start : p.column = 0) :
    emptyLines least (fuel + 1) (some indent) deepest acc (p.cursor (List.replicate n ' ' ++ rest)) =
      .ok (indent, acc, (p.after (List.replicate n ' ')).cursor rest) := by
  have spaces : min ((List.replicate n ' ' ++ rest).takeWhile (· == ' ')).length (indent - p.column) = n := by
    rw [List.takeWhile_append_of_pos (by simp), start, List.length_append, List.length_replicate]
    rcases ends with ⟨rfl, _⟩ | ⟨less, stops⟩
    · omega
    · have none : rest.takeWhile (· == ' ') = [] := by
        cases rest with
        | nil => rfl
        | cons c rest =>
          have noSpace : (c == ' ') = false := beq_eq_false_iff_ne.mpr (ne_space_of_isSpace (stops c rfl).1)
          simp [noSpace]
      rw [none, List.length_nil]
      omega
  have skip : (p.cursor (List.replicate n ' ' ++ rest)).skip n = (p.after (List.replicate n ' ')).cursor rest := by
    simpa using Spot.skip_cursor (Spot.onLine_replicate n)
  have column : (p.after (List.replicate n ' ')).column = n := by
    rw [Spot.column_after (Spot.onLine_replicate n), start, List.length_replicate, Nat.zero_add]
  have noTab : (decide (n < indent) && ((p.after (List.replicate n ' ')).cursor rest).next '\t') = false := by
    rcases ends with ⟨rfl, _⟩ | ⟨_, stops⟩
    · simp
    · cases rest with
      | nil => simp
      | cons c rest =>
        have noTab : c ≠ '\t' := by
          rintro rfl
          cases (stops _ rfl).1
        simp [noTab]
  have noBreak (c : Char) (head : rest.head? = some c) : isBreak c = false :=
    ends.elim (fun ends => ends.2 c head) (fun ends => (ends.2 c head).2)
  simp only [emptyLines, Spot.rest_cursor, Spot.column_cursor, spaces, skip, column, noTab,
    Bool.false_eq_true, ↓reduceIte]
  cases rest with
  | nil => rfl
  | cons c rest =>
    simp only [Spot.peek_cursor_cons, noBreak c rfl, Bool.false_eq_true, ↓reduceIte]
    rfl

/-- Empty lines of a text that is known to be moved in. -/
theorem emptyLines_known (least deepest : Nat) (acc : List Char) {fuel indent n : Nat}
    {breaks rest : List Char} {p : Spot}
    (lineEnds : ∀ c ∈ breaks, Spot.IsLineEnd c) (ends : EndsEmpty indent n rest)
    (enough : breaks.length < fuel) (start : p.column = 0) :
    emptyLines least fuel (some indent) deepest acc (p.cursor (breaks ++ (List.replicate n ' ' ++ rest))) =
      .ok (indent, acc ++ breaks, (p.after (breaks ++ List.replicate n ' ')).cursor rest) := by
  obtain ⟨fuel, rfl⟩ := Nat.exists_eq_add_of_le' (by omega : 1 ≤ fuel)
  induction breaks generalizing fuel deepest acc p with
  | nil =>
    rw [List.nil_append, emptyLines_content ends start, List.append_nil]
    rfl
  | cons c breaks ih =>
    obtain ⟨first, others⟩ := List.forall_mem_cons.mp lineEnds
    rw [List.length_cons] at enough
    obtain ⟨fuel, rfl⟩ := Nat.exists_eq_add_of_le' (by omega : 1 ≤ fuel)
    rw [List.cons_append, emptyLines_break first,
      ih _ _ others (Spot.after_break first.isBreak).2 fuel (by omega), List.cons_append,
      Spot.after_cons p c (breaks ++ List.replicate n ' ')]
    simp

/-! ### Lines with content -/

/-- A text in lines: it starts with content, ends with a line break, and its line breaks are written
as they are. -/
structure InLines (s : List Char) : Prop where
  start : ∃ c rest, s = c :: rest ∧ isBreak c = false
  finish : ∃ c, s.getLast? = some c ∧ isBreak c = true
  lineEnds : ∀ c ∈ s, isBreak c = true → Spot.IsLineEnd c

/-- The first line, the empty lines behind it, and the lines that follow, if there are any. -/
theorem InLines.split {s : List Char} (lines : InLines s) : ∃ line lineEnd breaks others,
    s = line ++ lineEnd :: (breaks ++ others) ∧ line ≠ [] ∧ Spot.OnLine line ∧
      Spot.IsLineEnd lineEnd ∧ (∀ c ∈ breaks, Spot.IsLineEnd c) ∧ (others = [] ∨ InLines others) := by
  obtain ⟨line, behind, rfl, lineOk, behindOk⟩ := exists_span (fun c => !isBreak c) s
  have onLine : Spot.OnLine line := fun c inside => by simpa using lineOk c inside
  obtain ⟨last, finish, lastBreak⟩ := lines.finish
  cases behind with
  | nil =>
    rw [List.append_nil] at finish
    rw [onLine last (List.mem_of_getLast? finish)] at lastBreak
    cases lastBreak
  | cons lineEnd behind =>
    have isBreak : isBreak lineEnd = true := by simpa using behindOk lineEnd rfl
    obtain ⟨breaks, others, rfl, breaksOk, othersOk⟩ := exists_span Yaml.isBreak behind
    refine ⟨line, lineEnd, breaks, others, rfl, ?_, onLine, lines.lineEnds lineEnd (by simp) isBreak,
      fun c inside => lines.lineEnds c (by simp [inside]) (breaksOk c inside), ?_⟩
    · rintro rfl
      obtain ⟨c, rest, form, noBreak⟩ := lines.start
      rw [(List.cons.inj form).1, noBreak] at isBreak
      cases isBreak
    · cases others with
      | nil => exact .inl rfl
      | cons c others =>
        refine .inr ⟨⟨c, others, rfl, othersOk c rfl⟩, ⟨last, ?_, lastBreak⟩,
          fun d inside => lines.lineEnds d (by simp [List.mem_cons.mp inside])⟩
        rw [← finish]
        simp [List.getLast?_append, List.getLast?_cons]

theorem InLines.literalLines_eq {s : List Char} (lines : InLines s) (indent : Nat) :
    literalLines indent true s = List.replicate indent ' ' ++ literalLines indent false s := by
  obtain ⟨c, rest, rfl, noBreak⟩ := lines.start
  exact literalLines_start noBreak rest

theorem InLines.exists_cons {s : List Char} (lines : InLines s) (indent : Nat) :
    ∃ c later, isBreak c = false ∧ s.head? = some c ∧ literalLines indent false s = c :: later := by
  obtain ⟨c, rest, rfl, noBreak⟩ := lines.start
  refine ⟨c, literalLines indent false rest, noBreak, rfl, ?_⟩
  rw [← List.singleton_append, literalLines_line (Spot.onLine_singleton noBreak)]
  rfl

/-- Empty lines end where a text in lines is as far in as it should be. -/
theorem InLines.endsEmpty {s : List Char} (lines : InLines s) (indent : Nat) (tail : List Char) :
    EndsEmpty indent indent (literalLines indent false s ++ tail) := by
  obtain ⟨c, later, noBreak, -, form⟩ := lines.exists_cons indent
  refine .inl ⟨rfl, ?_⟩
  rw [form]
  rintro _ ⟨⟩
  exact noBreak

/-- What the lines of a block scalar leave behind: the text up to its last content, the line break
there, and the empty lines behind that. -/
structure Leaves (b b' : BlockText) (s : List Char) : Prop where
  parts : ∃ content lineEnd, s = content ++ lineEnd :: b'.emptyLines ∧
    (∃ c, content.getLast? = some c ∧ isBreak c = false) ∧ b'.lastBreak = [lineEnd] ∧
    b'.text = content.reverseAux ((b.lastBreak ++ b.emptyLines).reverseAux b.text)
  lineEnds : ∀ c ∈ b'.lastBreak ++ b'.emptyLines, isBreak c = true

/-- The text with one more line, the line break there and the empty lines behind it. -/
def BlockText.withLine (b : BlockText) (line : List Char) (lineEnd : Char) (breaks : List Char) : BlockText :=
  { b.addLine false line with lastBreak := [lineEnd], emptyLines := breaks }

theorem text_withLine (b : BlockText) (line : List Char) (lineEnd : Char) (breaks : List Char) :
    (b.withLine line lineEnd breaks).text = line.reverseAux ((b.lastBreak ++ b.emptyLines).reverseAux b.text) := by
  simp [BlockText.withLine, BlockText.addLine]

section Leaves

variable {b b' : BlockText} {line breaks others : List Char} {lineEnd : Char}

theorem Leaves.of_line (nonempty : line ≠ []) (onLine : Spot.OnLine line)
    (ends : ∀ c ∈ lineEnd :: breaks, isBreak c = true) :
    Leaves b (b.withLine line lineEnd breaks) (line ++ lineEnd :: breaks) where
  parts := ⟨line, lineEnd, rfl, ⟨line.getLast nonempty, List.getLast?_eq_some_getLast nonempty,
    onLine _ (List.getLast_mem nonempty)⟩, rfl, text_withLine b line lineEnd breaks⟩
  lineEnds := ends

theorem Leaves.behind_line (leaves : Leaves (b.withLine line lineEnd breaks) b' others) :
    Leaves b b' (line ++ lineEnd :: (breaks ++ others)) := by
  obtain ⟨⟨content, lineEnd', rfl, ⟨c, last, noBreak⟩, lastBreak, text⟩, emptyEnds⟩ := leaves
  refine ⟨⟨line ++ lineEnd :: (breaks ++ content), lineEnd', by simp, ⟨c, ?_, noBreak⟩, lastBreak, ?_⟩, emptyEnds⟩
  · simp [List.getLast?_append, List.getLast?_cons, last]
  · rw [text, text_withLine]
    simp [BlockText.withLine, List.reverseAux_eq]

end Leaves

/-- One line of a literal block scalar with the empty lines behind it. -/
theorem blockLines_line {indent fuel : Nat} {line behind breaks rest : List Char} {lineEnd : Char}
    {b : BlockText} {p q : Spot} (start : p.column = indent) (onLine : Spot.OnLine line)
    (isLineEnd : Spot.IsLineEnd lineEnd)
    (taken : emptyLines 0 (behind.length + 1) (some indent) 0 [] ((p.after (line ++ [lineEnd])).cursor behind) =
      .ok (indent, breaks, q.cursor rest)) :
    blockLines false indent (fuel + 1) b (p.cursor (line ++ lineEnd :: behind)) =
      blockLines false indent fuel (b.withLine line lineEnd breaks) (q.cursor rest) := by
  have span : (p.cursor (line ++ lineEnd :: behind)).span (!isBreak ·) =
      (line, (p.after line).cursor (lineEnd :: behind)) :=
    Spot.span_cursor onLine (fun c inside => by simp [onLine c inside]) (by simp [isLineEnd.isBreak])
  have ahead : (p.column == indent && !(line ++ lineEnd :: behind).isEmpty) = true := by simp [start]
  rw [Spot.after_append] at taken
  simp only [blockLines, Spot.column_cursor, Spot.rest_cursor, ahead, ↓reduceIte, span,
    Spot.takeBreak_cursor isLineEnd, taken, ok_bind, BlockText.withLine]

/-- No line of the scalar starts in another column. -/
theorem blockLines_stop {indent fuel : Nat} {rest : List Char} (b : BlockText) {p : Spot} (other : p.column ≠ indent) :
    blockLines false indent fuel b (p.cursor rest) = .ok (b, p.cursor rest) := by
  cases fuel with
  | zero => rfl
  | succ fuel => simp [blockLines, other]

theorem column_after_lineEnds {lineEnd : Char} {line breaks : List Char} (p : Spot)
    (ends : ∀ c ∈ lineEnd :: breaks, isBreak c = true) (m : Nat) :
    ((p.after (line ++ [lineEnd])).after (breaks ++ List.replicate m ' ')).column = m := by
  have column := Spot.column_after_breaks (p := p.after line) (List.cons_ne_nil lineEnd breaks) ends
    (Spot.onLine_replicate m)
  rw [List.length_replicate, ← Spot.after_append] at column
  rw [← Spot.after_append]
  simpa using column

/-- The lines of a literal block scalar, up to a line that stands further left. -/
theorem blockLines_literal {indent n fuel : Nat} {s rest : List Char} (lines : InLines s) (less : n < indent)
    (stops : Stops rest) (enough : s.length < fuel) (b : BlockText) {p : Spot} (start : p.column = indent) :
    ∃ b', Leaves b b' s ∧
      blockLines false indent fuel b
          (p.cursor (literalLines indent false s ++ (List.replicate n ' ' ++ rest))) =
        .ok (b', (p.after (literalLines indent false s ++ List.replicate n ' ')).cursor rest) := by
  induction fuel generalizing s b p with
  | zero => omega
  | succ fuel ih =>
    obtain ⟨line, lineEnd, breaks, others, rfl, nonempty, onLine, isLineEnd, areLineEnds, more⟩ := lines.split
    have breakOk (c : Char) (inside : c ∈ breaks) : isBreak c = true := (areLineEnds c inside).isBreak
    have ends : ∀ c ∈ lineEnd :: breaks, isBreak c = true :=
      List.forall_mem_cons.mpr ⟨isLineEnd.isBreak, breakOk⟩
    have column : (p.after (line ++ [lineEnd])).column = 0 := by
      rw [Spot.after_append]
      exact (Spot.after_break isLineEnd.isBreak).2
    have taken {m : Nat} {behind : List Char} (far : EndsEmpty indent m behind) :
        emptyLines 0 ((breaks ++ (List.replicate m ' ' ++ behind)).length + 1) (some indent) 0 []
            ((p.after (line ++ [lineEnd])).cursor (breaks ++ (List.replicate m ' ' ++ behind))) =
          .ok (indent, breaks,
            ((p.after (line ++ [lineEnd])).after (breaks ++ List.replicate m ' ')).cursor behind) := by
      refine emptyLines_known 0 0 [] areLineEnds far ?_ column
      rw [List.length_append]
      omega
    rw [literalLines_line onLine, literalLines_break isLineEnd.isBreak, literalLines_breaks breakOk]
    obtain rfl | followed := more
    · have left : ((p.after (line ++ [lineEnd])).after (breaks ++ List.replicate n ' ')).column ≠ indent := by
        rw [column_after_lineEnds p ends]
        exact Nat.ne_of_lt less
      rw [List.append_nil]
      refine ⟨b.withLine line lineEnd breaks, .of_line nonempty onLine ends, ?_⟩
      simp only [literalLines, List.append_nil, List.append_assoc, List.cons_append]
      rw [blockLines_line start onLine isLineEnd (taken (.inr ⟨less, stops⟩)), blockLines_stop _ left,
        ← Spot.after_append]
      simp
    · rw [followed.literalLines_eq]
      obtain ⟨b', leaves, scanned⟩ := ih followed (by simp at enough ⊢; omega) (b.withLine line lineEnd breaks)
        (column_after_lineEnds p ends indent)
      refine ⟨b', leaves.behind_line, ?_⟩
      simp only [List.append_assoc, List.cons_append]
      rw [blockLines_line start onLine isLineEnd (taken (followed.endsEmpty indent _)), scanned,
        ← Spot.after_append, ← Spot.after_append]
      simp

/-! ### The marks in front -/

/-- Whether the indentation of a text is written. -/
def isHinted (s : List Char) : Bool :=
  match s with
  | c :: _ => c == ' ' || isBreak c
  | [] => false

/-- What the written marks say about the line breaks at the end of a text. -/
def chompingOf (s : List Char) : Chomping :=
  match s.reverse with
  | [] => .strip
  | [c] => if isBreak c then .keep else .strip
  | c :: d :: _ => if !isBreak c then .strip else if isBreak d then .keep else .clip

/-- The mark for what becomes of the line breaks at the end. -/
def chompingMark : Chomping → List Char
  | .strip => ['-']
  | .clip => []
  | .keep => ['+']

/-- The mark for the indentation. -/
def hintMark (hinted : Bool) : List Char :=
  if hinted then ['2'] else []

theorem literalHints_eq (s : List Char) :
    literalHints s = hintMark (isHinted s) ++ chompingMark (chompingOf s) := by
  unfold literalHints isHinted chompingOf
  congr 1
  · cases s <;> rfl
  · split
    · rename_i form
      rw [form]
      rfl
    · rename_i c before form
      rw [form]
      cases before with
      | nil => by_cases last : isBreak c <;> simp [last, chompingMark]
      | cons d before =>
        by_cases last : isBreak c <;> by_cases before : isBreak d <;> simp [last, before, chompingMark]

theorem blockHeader_marks (hinted : Bool) (chomping : Chomping) (p : Spot) (rest : List Char) :
    blockHeader (p.cursor (hintMark hinted ++ chompingMark chomping ++ '\n' :: rest)) =
      .ok (chomping, if hinted then some 2 else none,
        (p.after (hintMark hinted ++ chompingMark chomping)).cursor ('\n' :: rest)) := by
  cases hinted <;> cases chomping <;> rfl

/-! ### Whole scalars -/

/-- What is written behind the lines of a text that does not end with a line break. -/
def closing (s : List Char) : List Char :=
  if s.getLast?.any isBreak then [] else ['\n']

theorem literalLines_closing (indent : Nat) (atStart : Bool) (s : List Char) {c : Char} (lineBreak : isBreak c = true) :
    literalLines indent atStart (s ++ [c]) = literalLines indent atStart s ++ [c] := by
  induction s generalizing atStart with
  | nil => simp [literalLines, lineBreak]
  | cons d s ih => by_cases first : isBreak d <;> simp [literalLines, first, ih]

/-- The lines of a text, each one ended. -/
theorem literalLines_append_closing (indent : Nat) (s : List Char) :
    literalLines indent true s ++ closing s = literalLines indent true (s ++ closing s) := by
  unfold closing
  split
  · rw [List.append_nil, List.append_nil]
  · rw [literalLines_closing indent true s rfl]

/-- The empty lines at the start of a text and the lines behind them, if there are any. -/
theorem exists_inLines {s : List Char} (finish : ∃ c, s.getLast? = some c ∧ isBreak c = true)
    (lineEnds : ∀ c ∈ s, isBreak c = true → Spot.IsLineEnd c) : ∃ breaks lines, s = breaks ++ lines ∧
      (∀ c ∈ breaks, Spot.IsLineEnd c) ∧ (lines = [] ∨ InLines lines) := by
  obtain ⟨breaks, lines, rfl, breaksOk, linesOk⟩ := exists_span isBreak s
  refine ⟨breaks, lines, rfl, fun c inside => lineEnds c (by simp [inside]) (breaksOk c inside), ?_⟩
  cases lines with
  | nil => exact .inl rfl
  | cons c lines =>
    obtain ⟨last, finish, lastBreak⟩ := finish
    refine .inr ⟨⟨c, lines, rfl, linesOk c rfl⟩, ⟨last, ?_, lastBreak⟩,
      fun d inside => lineEnds d (by simp [List.mem_cons.mp inside])⟩
    rw [← finish]
    simp [List.getLast?_append, List.getLast?_cons]

/-- The last state of a block scalar as text. -/
def chomped (chomping : Chomping) (b : BlockText) : List Char :=
  let text := if chomping == .strip then b.text else b.lastBreak.reverseAux b.text
  (if chomping == .keep then b.emptyLines.reverseAux text else text).reverse

theorem chompingOf_content {s : List Char} {c : Char} (last : s.getLast? = some c) (noBreak : isBreak c = false) :
    chompingOf s = .strip := by
  obtain ⟨before, rfl⟩ := List.getLast?_eq_some_iff.mp last
  unfold chompingOf
  rw [List.reverse_append]
  cases before.reverse <;> simp [noBreak]

theorem chompingOf_breaks (before : List Char) {breaks : List Char} (two : 1 < breaks.length)
    (ends : ∀ c ∈ breaks, isBreak c = true) : chompingOf (before ++ breaks) = .keep := by
  unfold chompingOf
  rw [List.reverse_append]
  have length : breaks.reverse.length = breaks.length := List.length_reverse
  match form : breaks.reverse with
  | [] => simp [form] at length; omega
  | [_] => simp [form] at length; omega
  | c :: d :: _ =>
    have last : isBreak c = true := ends c (List.mem_reverse.mp (by simp [form]))
    have inner : isBreak d = true := ends d (List.mem_reverse.mp (by simp [form]))
    simp [last, inner]

theorem chompingOf_break {content : List Char} {c d : Char} (inner : content.getLast? = some c)
    (noBreak : isBreak c = false) (last : isBreak d = true) : chompingOf (content ++ [d]) = .clip := by
  obtain ⟨before, rfl⟩ := List.getLast?_eq_some_iff.mp inner
  simp [chompingOf, noBreak, last]

/-- A text without content is kept as it is. -/
theorem chomped_empty {s : List Char} (nonempty : s ≠ []) (breaks : ∀ c ∈ s, isBreak c = true) :
    chomped (chompingOf s) ⟨[], [], s, false⟩ = s := by
  have kept : chompingOf s = .keep := by
    match s, nonempty, breaks with
    | [c], _, breaks => simp [chompingOf, breaks c]
    | c :: d :: s, _, breaks => exact chompingOf_breaks [] (by simp) breaks
  rw [kept]
  simp [chomped, List.reverseAux_eq]

/-- What comes of the line breaks at the end of a text is what its marks say. -/
theorem chomped_lines {s first lines : List Char} {b : BlockText} (form : s ++ closing s = first ++ lines)
    (leaves : Leaves ⟨[], [], first, false⟩ b lines) : chomped (chompingOf s) b = s := by
  obtain ⟨⟨content, lineEnd, rfl, ⟨c, last, noBreak⟩, lastBreak, text⟩, breaks⟩ := leaves
  rw [lastBreak, List.singleton_append] at breaks
  have text : b.text = content.reverse ++ first.reverse := by simp [text, List.reverseAux_eq]
  have contentLast : (first ++ content).getLast? = some c := by rw [List.getLast?_append, last]; rfl
  unfold closing at form
  split at form
  · rw [List.append_nil, ← List.append_assoc] at form
    subst form
    cases empty : b.emptyLines with
    | nil =>
      rw [empty] at breaks
      rw [chompingOf_break contentLast noBreak (breaks lineEnd (by simp))]
      simp [chomped, text, lastBreak]
    | cons d others =>
      rw [empty] at breaks
      rw [chompingOf_breaks (first ++ content) (by simp) breaks]
      simp [chomped, text, lastBreak, empty, List.reverseAux_eq]
  · rename_i unended
    rw [← List.append_assoc] at form
    obtain empty | ⟨inner, d, empty⟩ := List.eq_nil_or_concat b.emptyLines
    · rw [empty] at form
      obtain ⟨rfl, -⟩ := List.append_inj' form rfl
      rw [chompingOf_content contentLast noBreak]
      simp [chomped, text]
    · have whole : s ++ ['\n'] = (first ++ content ++ lineEnd :: inner) ++ [d] := by simp [form, empty]
      obtain ⟨rfl, -⟩ := List.append_inj' whole rfl
      have ends : isBreak ((lineEnd :: inner).getLast (List.cons_ne_nil _ _)) = true := by
        apply breaks
        rw [empty]
        have := List.getLast_mem (List.cons_ne_nil lineEnd inner)
        simpa using (List.mem_cons.mp this).imp_right .inl
      rw [List.getLast?_append, List.getLast?_eq_some_getLast (List.cons_ne_nil lineEnd inner)] at unended
      exact absurd ends unended

theorem emptyLines_unknown {least n : Nat} {c : Char} {rest : List Char} (noBlank : isSpace c = false)
    (noBreak : isBreak c = false) {p : Spot} (start : p.column = 0) (fuel : Nat) :
    emptyLines least (fuel + 1) none 0 [] (p.cursor (List.replicate n ' ' ++ c :: rest)) =
      .ok (max n least, [], (p.after (List.replicate n ' ')).cursor (c :: rest)) := by
  have noSpace : (c == ' ') = false := beq_eq_false_iff_ne.mpr (ne_space_of_isSpace noBlank)
  have spaces : ((List.replicate n ' ' ++ c :: rest).takeWhile (· == ' ')).length = n := by
    rw [List.takeWhile_append_of_pos (by simp)]
    simp [noSpace]
  have skip : (p.cursor (List.replicate n ' ' ++ c :: rest)).skip n =
      (p.after (List.replicate n ' ')).cursor (c :: rest) := by
    simpa using Spot.skip_cursor (Spot.onLine_replicate n)
  have column : (p.after (List.replicate n ' ')).column = n := by
    rw [Spot.column_after (Spot.onLine_replicate n), start, List.length_replicate, Nat.zero_add]
  have noTab : (c == '\t') = false := by
    rw [beq_eq_false_iff_ne]
    rintro rfl
    cases noBlank
  simp only [emptyLines, Spot.rest_cursor, spaces, skip, Spot.column_cursor, column, Spot.next_cursor_cons, noTab,
    Spot.peek_cursor_cons, noBreak, Bool.and_false, Bool.false_eq_true, ↓reduceIte, Nat.zero_max, Option.getD_none]

/-- A text that is not moved in visibly shows its indentation in its mark. -/
theorem isHinted_eq_false {c : Char} {s : List Char} (plain : isHinted (c :: s) = false) :
    c ≠ ' ' ∧ isBreak c = false := by
  simpa [isHinted] using plain

theorem length_le_literalLines (indent : Nat) (atStart : Bool) (s : List Char) :
    s.length ≤ (literalLines indent atStart s).length := by
  induction s generalizing atStart with
  | nil => exact Nat.zero_le _
  | cons c s ih =>
    unfold literalLines
    split
    · exact Nat.succ_le_succ (ih true)
    · have := ih false
      simp
      omega

theorem getLast?_closing (s : List Char) : ∃ c, (s ++ closing s).getLast? = some c ∧ isBreak c = true := by
  unfold closing
  split
  · rename_i ended
    rw [List.append_nil]
    obtain ⟨c, last, lineBreak⟩ := (Option.any_eq_true _ _).mp ended
    exact ⟨c, last, lineBreak⟩
  · exact ⟨'\n', by simp, rfl⟩

theorem mem_closing {c : Char} {s : List Char} (inside : c ∈ closing s) : c = '\n' := by
  unfold closing at inside
  split at inside
  · cases inside
  · exact List.mem_singleton.mp inside

/-- The empty lines at the start of a text, before its first line. -/
theorem emptyLines_first {parent : Nat} {s breaks lines tail : List Char} (inLines : InLines lines)
    (form : s ++ closing s = breaks ++ lines) (nonempty : s ≠ []) (noTab : ∀ c ∈ s, c ≠ '\t')
    (areLineEnds : ∀ c ∈ breaks, Spot.IsLineEnd c) {fuel : Nat} (enough : breaks.length < fuel) {p : Spot}
    (start : p.column = 0) :
    emptyLines (parent + 1) fuel (if isHinted s then some (parent + 2) else none) 0 []
        (p.cursor (breaks ++ (List.replicate (parent + 2) ' ' ++ (literalLines (parent + 2) false lines ++ tail)))) =
      .ok (parent + 2, breaks, (p.after (breaks ++ List.replicate (parent + 2) ' ')).cursor
        (literalLines (parent + 2) false lines ++ tail)) := by
  split
  · exact emptyLines_known _ 0 [] areLineEnds (inLines.endsEmpty _ _) enough start
  · -- Without a mark the text starts with content, which shows how far in it stands.
    rename_i plain
    obtain ⟨c, s, rfl⟩ := List.exists_cons_of_ne_nil nonempty
    obtain ⟨noSpace, noBreak⟩ := isHinted_eq_false (Bool.eq_false_iff.mpr plain)
    cases breaks with
    | nil =>
      obtain ⟨d, later, -, head, inner⟩ := inLines.exists_cons (parent + 2)
      obtain rfl : c = d := by
        rw [List.nil_append] at form
        rw [← form] at head
        exact Option.some.inj head
      have noBlank : isSpace c = false := isSpace_eq_false noSpace (noTab c List.mem_cons_self)
      obtain ⟨fuel, rfl⟩ := Nat.exists_eq_add_of_lt enough
      simp only [List.nil_append, List.length_nil, Nat.zero_add, inner, List.cons_append]
      rw [emptyLines_unknown noBlank noBreak start, Nat.max_eq_left (by omega)]
    | cons d breaks =>
      obtain ⟨rfl, -⟩ := List.cons.inj form
      rw [(areLineEnds c List.mem_cons_self).isBreak] at noBreak
      cases noBreak

/-- The lines of a literal block scalar, from its first line on. -/
theorem literal_lines {parent n : Nat} {s rest : List Char} (nonempty : s ≠ [])
    (lineEnds : ∀ c ∈ s, isBreak c = true → Spot.IsLineEnd c) (noTab : ∀ c ∈ s, c ≠ '\t')
    (less : n < parent + 2) (stops : Stops rest) {p : Spot} (start : p.column = 0) :
    ∃ breaks middle q b,
      emptyLines (parent + 1)
          ((literalLines (parent + 2) true (s ++ closing s) ++ (List.replicate n ' ' ++ rest)).length + 1)
          (if isHinted s then some (parent + 2) else none) 0 []
          (p.cursor (literalLines (parent + 2) true (s ++ closing s) ++ (List.replicate n ' ' ++ rest))) =
        .ok (parent + 2, breaks, Spot.cursor q middle) ∧
      blockLines false (parent + 2) (middle.length + 1) ⟨[], [], breaks, false⟩ (q.cursor middle) =
        .ok (b, (p.after (literalLines (parent + 2) true (s ++ closing s) ++ List.replicate n ' ')).cursor rest) ∧
      chomped (chompingOf s) b = s := by
  have ends (c : Char) (inside : c ∈ s ++ closing s) (lineBreak : isBreak c = true) : Spot.IsLineEnd c :=
    (List.mem_append.mp inside).elim (lineEnds c · lineBreak) fun inside => .inl (mem_closing inside)
  obtain ⟨breaks, lines, form, areLineEnds, content⟩ := exists_inLines (getLast?_closing s) ends
  have areBreaks (c : Char) (inside : c ∈ breaks) : isBreak c = true := (areLineEnds c inside).isBreak
  obtain rfl | inLines := content
  · -- nothing but line breaks
    rw [List.append_nil] at form
    have allBreaks : ∀ c ∈ s, isBreak c = true := fun c inside => areBreaks c (form ▸ List.mem_append_left _ inside)
    obtain rfl : s = breaks := by
      rw [← form, closing, if_pos, List.append_nil]
      simp [List.getLast?_eq_some_getLast nonempty, allBreaks _ (List.getLast_mem nonempty)]
    have hinted : isHinted s = true := by
      obtain ⟨c, s, rfl⟩ := List.exists_cons_of_ne_nil nonempty
      simp [isHinted, allBreaks c]
    have written : literalLines (parent + 2) true s = s := by
      simpa [literalLines] using literalLines_breaks allBreaks []
    have column : (p.after (s ++ List.replicate n ' ')).column ≠ parent + 2 := by
      rw [Spot.column_after_breaks nonempty allBreaks (Spot.onLine_replicate n), List.length_replicate]
      exact Nat.ne_of_lt less
    rw [form, written, if_pos hinted]
    refine ⟨s, rest, _, _, emptyLines_known _ 0 [] areLineEnds (.inr ⟨less, stops⟩) ?_ start,
      blockLines_stop _ column, chomped_empty nonempty allBreaks⟩
    simp only [List.length_append]
    omega
  · have column : (p.after (breaks ++ List.replicate (parent + 2) ' ')).column = parent + 2 := by
      cases breaks with
      | nil => rw [List.nil_append, Spot.column_after (Spot.onLine_replicate _), start, List.length_replicate,
          Nat.zero_add]
      | cons d breaks => rw [Spot.column_after_breaks (List.cons_ne_nil _ _) areBreaks (Spot.onLine_replicate _),
          List.length_replicate]
    have enough : lines.length <
        (literalLines (parent + 2) false lines ++ (List.replicate n ' ' ++ rest)).length + 1 := by
      have := length_le_literalLines (parent + 2) false lines
      rw [List.length_append]
      omega
    obtain ⟨b, leaves, scanned⟩ := blockLines_literal inLines less stops enough ⟨[], [], breaks, false⟩ column
    refine ⟨breaks, literalLines (parent + 2) false lines ++ (List.replicate n ' ' ++ rest), _, b, ?_,
      scanned.trans ?_, chomped_lines form leaves⟩
    all_goals rw [form, literalLines_breaks areBreaks, inLines.literalLines_eq]
    · rw [List.append_assoc, List.append_assoc]
      exact emptyLines_first inLines form nonempty noTab areLineEnds (by simp only [List.length_append]; omega) start
    · rw [← Spot.after_append]
      simp

/-- A literal block scalar is scanned as it was written. -/
theorem block_literal {parent n : Nat} {s rest : List Char} (nonempty : s ≠ [])
    (lineEnds : ∀ c ∈ s, isBreak c = true → Spot.IsLineEnd c) (noTab : ∀ c ∈ s, c ≠ '\t')
    (less : n < parent + 2) (stops : Stops rest) (p : Spot) :
    block false (some parent)
        (p.cursor ('|' :: (literalHints s ++ '\n' :: (literalLines (parent + 2) true (s ++ closing s) ++
          (List.replicate n ' ' ++ rest))))) =
      .ok (String.ofList s, (p.after ('|' :: (literalHints s ++ '\n' ::
        (literalLines (parent + 2) true (s ++ closing s) ++ List.replicate n ' ')))).cursor rest) := by
  rw [literalHints_eq]
  generalize marks : hintMark (isHinted s) ++ chompingMark (chompingOf s) = written
  obtain ⟨breaks, middle, q, b, empty, scanned, text⟩ := literal_lines nonempty lineEnds noTab less stops
    (p := (((p.after ['|']).after written).after ['\n'])) (Spot.after_break rfl).2
  have skip (rest : List Char) : (p.cursor ('|' :: rest)).skip 1 = (p.after ['|']).cursor rest :=
    Spot.skip_cursor_cons rfl
  have header (rest : List Char) := blockHeader_marks (isHinted s) (chompingOf s) (p.after ['|']) rest
  rw [marks] at header
  generalize body : literalLines (parent + 2) true (s ++ closing s) ++ (List.replicate n ' ' ++ rest) = lines at *
  have line : (((p.after ['|']).after written).cursor ('\n' :: lines)).skipWhile isSpace =
      ((p.after ['|']).after written).cursor ('\n' :: lines) :=
    Spot.skipWhile_cursor Spot.onLine_nil (fun _ inside => nomatch inside) (by rintro _ ⟨⟩; rfl)
  have noComment : (((p.after ['|']).after written).cursor ('\n' :: lines)).skipComment =
      ((p.after ['|']).after written).cursor ('\n' :: lines) := rfl
  have opened : (!(('\n' :: lines).isEmpty ||
      ((((p.after ['|']).after written).cursor ('\n' :: lines)).peek.map isBreak).getD false)) = false := rfl
  have explicit : (if isHinted s then some 2 else none).map (parent + ·) =
      if isHinted s then some (parent + 2) else none := by
    split <;> rfl
  have places (inside : List Char) : (((p.after ['|']).after written).after ['\n']).after inside =
      p.after ('|' :: (written ++ '\n' :: inside)) := by
    rw [← Spot.after_append, ← Spot.after_append, ← Spot.after_append]
    simp
  rw [block, skip, header, ok_bind]
  simp only [line, noComment, Spot.takeBreak_cursor (c := '\n') (.inl rfl), Spot.rest_cursor, explicit,
    empty, ok_bind, scanned, opened, Bool.false_eq_true, if_false, places]
  exact congrArg (fun text => Except.ok (String.ofList text, _)) text

end Scan

end Upkeep.Yaml
