import Upkeep.Proofs.Yaml.Gaps
import Upkeep.Yaml.Printer.Scalar

/-! Plain scalars are scanned as they were written: word by word, up to the colon of a key or to the
end of their line. -/
namespace Upkeep.Yaml

open Printer (hasInnerMark blankAhead)

/-- The colon that ends a key. -/
def EndsKey (tail : List Char) : Prop :=
  ∃ c rest, tail = ':' :: c :: rest ∧ (c = ' ' ∨ c = '\n')

/-- What ends a plain scalar: the colon of a key, or a line break and the blanks before what is next,
which stands further left. What is passed over belongs to the scan of the scalar. -/
inductive EndsPlain (least : Nat) : (tail passed rest : List Char) → (broke : Bool) → Prop
  | key {tail : List Char} : EndsKey tail → EndsPlain least tail [] tail false
  | line (n : Nat) {rest : List Char} : Stops rest → n < least →
    EndsPlain least ('\n' :: (List.replicate n ' ' ++ rest)) ('\n' :: List.replicate n ' ') rest true

/-- A text in words, as a plain scalar has them. -/
structure Words (s : List Char) : Prop where
  nonempty : s ≠ []
  noBlankStart : s.head? ≠ some ' '
  noBlankEnd : s.getLast? ≠ some ' '
  noComment : s.head? ≠ some '#'
  onLine : Spot.OnLine s
  noTab : ∀ c ∈ s, c ≠ '\t'
  noMark : hasInnerMark s = false

theorem isSpace_eq_false {c : Char} (noSpace : c ≠ ' ') (noTab : c ≠ '\t') : isSpace c = false := by
  simp [isSpace, noSpace, noTab]

theorem hasInnerMark_append {s t : List Char} (noMark : hasInnerMark (s ++ t) = false) :
    hasInnerMark t = false := by
  induction s with
  | nil => exact noMark
  | cons c s ih =>
    simp only [List.cons_append, hasInnerMark, Bool.or_eq_false_iff] at noMark
    exact ih noMark.2

theorem Words.ne_space {s : List Char} (words : Words s) {c : Char} {rest : List Char}
    (form : s = c :: rest) : c ≠ ' ' := by
  rintro rfl
  exact words.noBlankStart (form ▸ rfl)

theorem Words.stops {s : List Char} (words : Words s) (tail : List Char) : Stops (s ++ tail) := by
  obtain ⟨c, rest, rfl⟩ := List.exists_cons_of_ne_nil words.nonempty
  exact stops_cons (isSpace_eq_false (words.ne_space rfl) (words.noTab c List.mem_cons_self))
    (words.onLine c List.mem_cons_self)

/-- The first word, and further words if there are any. -/
theorem Words.split {s : List Char} (words : Words s) :
    ∃ w behind, s = w ++ behind ∧ w ≠ [] ∧ (∀ c ∈ w, c ≠ ' ') ∧
      (behind = [] ∨ ∃ n s', behind = List.replicate (n + 1) ' ' ++ s' ∧ Words s') := by
  obtain ⟨w, gap, s', rfl, wordOk, gapOk, restOk, noGap⟩ := exists_word (· == ' ') s
  have blanks : gap = List.replicate gap.length ' ' :=
    List.eq_replicate_iff.mpr ⟨rfl, fun c inside => by simpa using gapOk c inside⟩
  have wordOk' (c : Char) (inside : c ∈ w) : c ≠ ' ' := by simpa using wordOk c inside
  refine ⟨w, gap ++ s', rfl, ?_, wordOk', ?_⟩
  · rintro rfl
    cases gap with
    | nil => exact words.nonempty (by rw [noGap rfl]; rfl)
    | cons c gap => exact words.ne_space rfl (by simpa using gapOk c List.mem_cons_self)
  · cases gap with
    | nil =>
      rw [noGap rfl]
      exact .inl rfl
    | cons c gap =>
      rw [List.length_cons] at blanks
      refine .inr ⟨gap.length, s', by rw [← blanks], ?_⟩
      have nonempty : s' ≠ [] := by
        rintro rfl
        apply words.noBlankEnd
        rw [blanks, List.replicate_succ']
        simp
      have noMark : hasInnerMark (' ' :: s') = false := by
        apply hasInnerMark_append (s := w ++ List.replicate gap.length ' ')
        have noMark := words.noMark
        rw [blanks, List.replicate_succ'] at noMark
        simpa using noMark
      simp only [hasInnerMark, Bool.or_eq_false_iff, Bool.and_eq_false_iff] at noMark
      refine ⟨nonempty, ?_, ?_, ?_, ?_, ?_, noMark.2⟩
      · intro head
        simpa using restOk ' ' head
      · intro last
        exact words.noBlankEnd (by rw [List.getLast?_append, List.getLast?_append, last]; rfl)
      · intro head
        simp [head, isSpace] at noMark
      · exact fun c inside => words.onLine c (by simp [inside])
      · exact fun c inside => words.noTab c (by simp [inside])

namespace Scan

/-- A word goes on to where no word can go on. -/
theorem plainWord_append {w s tail : List Char}
    (noBlank : ∀ c ∈ w, isSpace c = false ∧ isBreak c = false) (noMark : hasInnerMark (w ++ s) = false)
    (ends : plainWord false (s ++ tail) = .ok ([], s ++ tail)) :
    plainWord false (w ++ (s ++ tail)) = .ok (w, s ++ tail) := by
  induction w with
  | nil => exact ends
  | cons x w ih =>
    obtain ⟨⟨noSpace, noBreak⟩, others⟩ := List.forall_mem_cons.mp noBlank
    simp only [List.cons_append, hasInnerMark, Bool.or_eq_false_iff, Bool.and_eq_false_iff] at noMark
    have colon : x = ':' → ∃ y rest, w ++ (s ++ tail) = y :: rest ∧ isSpace y = false ∧ isBreak y = false := by
      rintro rfl
      have ahead : blankAhead (w ++ s) = false := noMark.1.1.resolve_left (by simp)
      cases form : w ++ s with
      | nil =>
        rw [form] at ahead
        cases ahead
      | cons y rest =>
        rw [form] at ahead
        simp only [blankAhead, Bool.or_eq_false_iff] at ahead
        exact ⟨y, rest ++ tail, by rw [← List.append_assoc, form]; rfl, ahead.1.1, ahead.1.2⟩
    rw [List.cons_append, plainWord.eq_def]
    simp only [ih others noMark.2]
    by_cases isColon : x = ':'
    · obtain ⟨y, rest, form, blank, lineEnd⟩ := colon isColon
      simp [noSpace, noBreak, form, blank, lineEnd, Except.map]
    · simp [noSpace, noBreak, isColon, Except.map]

/-- What ends a plain scalar ends its last word. -/
theorem plainWord_ends {least : Nat} {tail passed rest : List Char} {broke : Bool}
    (ends : EndsPlain least tail passed rest broke) : plainWord false tail = .ok ([], tail) := by
  cases ends with
  | key endsKey =>
    obtain ⟨c, rest, rfl, rfl | rfl⟩ := endsKey <;> rfl
  | line _ _ _ => rfl

section Steps

variable {least fuel : Nat} {gap : Gap} {text w behind : List Char} {p : Spot} {x : Char}

/-- A word that what is behind it ends. -/
theorem plainFrom_end (noMarker : (p.cursor (w ++ x :: behind)).startsDocumentMarker = false)
    (noComment : (p.cursor (w ++ x :: behind)).next '#' = false)
    (word : plainWord false (w ++ x :: behind) = .ok (w, x :: behind)) (onLine : Spot.OnLine w) (nonempty : w ≠ [])
    (noGap : (isSpace x || isBreak x) = false) :
    plainFrom false least (fuel + 1) gap text (p.cursor (w ++ x :: behind)) =
      .ok (w.reverseAux (gap.text.reverseAux text), (p.after w).cursor (x :: behind), false) := by
  have isEmpty : w.isEmpty = false := by simpa using nonempty
  simp only [plainFrom, noMarker, noComment, Spot.rest_cursor, word, ok_bind, Spot.skip_cursor onLine, isEmpty,
    Bool.or_self, Bool.false_eq_true, ↓reduceIte, Spot.peek_cursor_cons, noGap, Bool.not_false]
  rfl

/-- A word with a gap behind it. What is behind the gap is part of the scalar if it is as far in. -/
theorem plainFrom_gap {rest : List Char} {g : Gap} {q : Spot}
    (noMarker : (p.cursor (w ++ x :: behind)).startsDocumentMarker = false)
    (noComment : (p.cursor (w ++ x :: behind)).next '#' = false)
    (word : plainWord false (w ++ x :: behind) = .ok (w, x :: behind)) (onLine : Spot.OnLine w) (nonempty : w ≠ [])
    (isGap : (isSpace x || isBreak x) = true)
    (taken : Gap.take least ((x :: behind).length + 1) .none ((p.after w).cursor (x :: behind)) =
      .ok (g, q.cursor rest)) :
    plainFrom false least (fuel + 1) gap text (p.cursor (w ++ x :: behind)) =
      if q.column < least then .ok (w.reverseAux (gap.text.reverseAux text), q.cursor rest, g.onNewLine)
      else plainFrom false least fuel g (w.reverseAux (gap.text.reverseAux text)) (q.cursor rest) := by
  have isEmpty : w.isEmpty = false := by simpa using nonempty
  simp only [plainFrom, noMarker, noComment, Spot.rest_cursor, word, ok_bind, Spot.skip_cursor onLine, isEmpty,
    Bool.or_self, Bool.false_eq_true, ↓reduceIte, Spot.peek_cursor_cons, isGap, Bool.not_true, taken,
    Spot.column_cursor, Bool.not_false, Bool.true_and, decide_eq_true_eq]
  rfl

end Steps

/-- Plain text is scanned word by word. -/
theorem plainFrom_words {least : Nat} {tail passed rest : List Char} {broke : Bool}
    (ends : EndsPlain least tail passed rest broke) {s : List Char} (words : Words s) {fuel : Nat}
    (enough : s.length < fuel) (gap : Gap) (text : List Char) {p : Spot}
    (noMarker : (p.cursor (s ++ tail)).startsDocumentMarker = false) (deep : least ≤ p.column + 1) :
    plainFrom false least fuel gap text (p.cursor (s ++ tail)) =
      .ok (s.reverseAux (gap.text.reverseAux text), (p.after (s ++ passed)).cursor rest, broke) := by
  induction fuel generalizing s gap text p with
  | zero => omega
  | succ fuel ih =>
    obtain ⟨w, behind, rfl, nonempty, noSpace, form⟩ := words.split
    have onLine : Spot.OnLine w := fun c inside => words.onLine c (List.mem_append_left _ inside)
    have noBlank (c : Char) (inside : c ∈ w) : isSpace c = false ∧ isBreak c = false :=
      ⟨isSpace_eq_false (noSpace c inside) (words.noTab c (List.mem_append_left _ inside)), onLine c inside⟩
    have noComment : (p.cursor (w ++ behind ++ tail)).next '#' = false := by
      obtain ⟨c, w, rfl⟩ := List.exists_cons_of_ne_nil nonempty
      simpa using words.noComment
    have wordEnds : plainWord false (behind ++ tail) = .ok ([], behind ++ tail) := by
      obtain rfl | ⟨n, s', rfl, _⟩ := form
      · exact plainWord_ends ends
      · rfl
    have word := plainWord_append noBlank words.noMark wordEnds
    rw [List.append_assoc] at noMarker noComment ⊢
    obtain rfl | ⟨n, s', rfl, others⟩ := form
    · rw [List.append_nil]
      rw [List.nil_append] at *
      cases ends with
      | key endsKey =>
        obtain ⟨c, rest, rfl, _⟩ := endsKey
        rw [List.append_nil]
        exact plainFrom_end noMarker noComment word onLine nonempty rfl
      | line n stops left =>
        have taken : Gap.take least (('\n' :: (List.replicate n ' ' ++ rest)).length + 1) .none
            ((p.after w).cursor ('\n' :: (List.replicate n ' ' ++ rest))) = _ :=
          Gap.take_line (by simp; omega) stops
        have column : ((p.after w).after ('\n' :: List.replicate n ' ')).column < least := by
          rw [Spot.column_after_break rfl (Spot.onLine_replicate n), List.length_replicate]
          exact left
        rw [plainFrom_gap noMarker noComment word onLine nonempty rfl taken, if_pos column, Spot.after_append]
    · have taken : Gap.take least ((List.replicate (n + 1) ' ' ++ (s' ++ tail)).length + 1) .none
          ((p.after w).cursor (List.replicate (n + 1) ' ' ++ (s' ++ tail))) = _ :=
        Gap.take_blanks (by simp; omega) rfl (others.stops tail)
      have column : ((p.after w).after (List.replicate (n + 1) ' ')).column = p.column + w.length + (n + 1) := by
        rw [Spot.column_after (Spot.onLine_replicate _), Spot.column_after onLine, List.length_replicate]
      have next := ih others (by simp at enough; omega) ⟨List.replicate (n + 1) ' ', [], [], false⟩
        (w.reverseAux (gap.text.reverseAux text))
        (Spot.startsDocumentMarker_of_column (p := (p.after w).after (List.replicate (n + 1) ' ')) (by omega))
        (by omega)
      rw [List.append_assoc] at noMarker noComment word ⊢
      refine (plainFrom_gap noMarker noComment word onLine nonempty rfl taken).trans ?_
      rw [if_neg (by omega)]
      refine next.trans ?_
      simp [Gap.text, Spot.after_append, List.reverseAux_eq]

/-- A plain scalar is scanned as it was written. -/
theorem plain_words {least : Nat} {s tail passed rest : List Char} {broke : Bool} (words : Words s)
    (ends : EndsPlain least tail passed rest broke) {p : Spot}
    (noMarker : (p.cursor (s ++ tail)).startsDocumentMarker = false) (deep : least ≤ p.column + 1) :
    plain false least (p.cursor (s ++ tail)) =
      .ok (String.ofList s, (p.after (s ++ passed)).cursor rest, broke) := by
  have enough : s.length < (s ++ tail).length + 1 := by
    rw [List.length_append]
    omega
  have scanned := plainFrom_words ends words enough .none [] noMarker deep
  rw [plain, Spot.rest_cursor, scanned]
  simp [Except.map, Gap.text, Gap.none, List.reverseAux_eq]

end Scan

/-! ### Texts that fit -/

theorem ne_tab_of_isPrintable {c : Char} (printable : Printer.isPrintable c = true) : c ≠ '\t' := by
  rintro rfl
  exact absurd printable (by decide)

/-- A text that can be written plainly consists of words. -/
theorem words_of_fitsPlain {s : List Char} (nonempty : s ≠ []) (fits : Printer.fitsPlain s = true) :
    Words s := by
  simp only [Printer.fitsPlain, Bool.and_eq_true, Bool.not_eq_true', bne_iff_ne, List.all_eq_true,
    List.any_eq_false] at fits
  obtain ⟨⟨⟨⟨⟨printable, onLine⟩, start⟩, finish⟩, lead⟩, inner⟩ := fits
  refine ⟨nonempty, start, finish, ?_, fun c inside => by simpa using onLine c inside,
    fun c inside => ne_tab_of_isPrintable (printable c inside), inner⟩
  intro head
  obtain ⟨rest, rfl⟩ := List.head?_eq_some_iff.mp head
  have mark : Printer.isLeadingMark '#' = true := by decide
  simp [Printer.hasLeadingMark, mark] at lead

theorem startsMarker_eq_false {mark c : Char} {s tail : List Char} (nonempty : s ≠ [])
    (noMark : s.take 3 ≠ [mark, mark, mark]) (head : tail.head? = some c) (other : c ≠ mark) (p : Spot) :
    (p.cursor (s ++ tail)).startsMarker mark = false := by
  obtain ⟨tail, rfl⟩ := List.head?_eq_some_iff.mp head
  match s, nonempty, noMark with
  | [_], _, _ => simp [Cursor.startsMarker, Cursor.peekAt, other]
  | [_, _], _, _ => simp [Cursor.startsMarker, Cursor.peekAt, other]
  | x :: y :: z :: rest, _, noMark =>
    have differs : ¬ (x = mark ∧ y = mark ∧ z = mark) := by simpa using noMark
    rw [← Bool.not_eq_true]
    intro starts
    simp [Cursor.startsMarker, Cursor.peekAt] at starts
    exact differs ⟨starts.1.1.1.2, starts.1.1.2, starts.1.2⟩

/-- It opens no document and ends none. -/
theorem startsDocumentMarker_of_fitsPlain {s tail : List Char} (nonempty : s ≠ [])
    (fits : Printer.fitsPlain s = true) {c : Char} (head : tail.head? = some c) (noDash : c ≠ '-')
    (noPoint : c ≠ '.') (p : Spot) : (p.cursor (s ++ tail)).startsDocumentMarker = false := by
  simp only [Printer.fitsPlain, Printer.hasLeadingMark, Bool.and_eq_true, Bool.not_eq_true',
    Bool.or_eq_false_iff, beq_eq_false_iff_ne] at fits
  obtain ⟨⟨_, ⟨noDashes, noPoints⟩, _⟩, _⟩ := fits
  rw [Cursor.startsDocumentMarker, startsMarker_eq_false nonempty noDashes head noDash,
    startsMarker_eq_false nonempty noPoints head noPoint, Bool.or_self]

end Upkeep.Yaml
