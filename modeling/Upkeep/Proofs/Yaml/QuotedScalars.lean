import Upkeep.Proofs.Decimal.Numerals
import Upkeep.Proofs.Yaml.Gaps
import Upkeep.Yaml.Printer.Scalar

/-! Quoted scalars are scanned as they were written. Both kinds are gone through word by word; what
stands between the words is kept, be it blanks or, in single quotes, the separators of lines. -/
namespace Upkeep.Yaml.Scan

/-- The quote at both ends. -/
def quoteMark (single : Bool) : Char :=
  if single then '\'' else '"'

/-- A word is scanned at the start of a text, up to what follows it. -/
def ScansWord (single : Bool) (s word after : List Char) : Prop :=
  (if single then (.ok ((singleWord s).1, (singleWord s).2, false) : Except Fault _) else doubleWord s) =
    .ok (word, after, false)

section Steps

variable {single : Bool} {fuel : Nat} {text word out tail : List Char} {p : Spot}

/-- A word, and either the closing quote or a gap behind it. -/
theorem quotedFrom_word {after : List Char} (scans : ScansWord single (out ++ after) word after)
    (onLine : Spot.OnLine out) (inside : p.column ≠ 0) (nonempty : after ≠ []) :
    quotedFrom single (fuel + 1) text (p.cursor (out ++ after)) =
      if ((p.after out).cursor after).next (quoteMark single) then
        .ok (word.reverseAux text, ((p.after out).cursor after).skip 1)
      else
        Gap.take 0 (after.length + 1) .none ((p.after out).cursor after) >>= fun (gap, c) =>
          quotedFrom single fuel (gap.text.reverseAux (word.reverseAux text)) c := by
  have length : (out ++ after).length - after.length = out.length := by simp
  have isEmpty : (out ++ after).isEmpty = false := by simp [nonempty]
  simp only [quotedFrom, Spot.startsDocumentMarker_of_column inside, Spot.rest_cursor, isEmpty,
    Bool.or_self, Bool.false_eq_true, ↓reduceIte]
  cases single <;>
  · simp only [ScansWord, Bool.false_eq_true, ↓reduceIte] at scans
    simp only [Bool.false_eq_true, ↓reduceIte, scans, ok_bind, length, Spot.skip_cursor onLine,
      Bool.not_false, Bool.and_true, Spot.rest_cursor, quoteMark]
    rfl

/-- The last word, up to the closing quote. -/
theorem quotedFrom_end
    (scans : ScansWord single (out ++ quoteMark single :: tail) word (quoteMark single :: tail))
    (onLine : Spot.OnLine out) (inside : p.column ≠ 0) :
    quotedFrom single (fuel + 1) text (p.cursor (out ++ quoteMark single :: tail)) =
      .ok (word.reverseAux text, (p.after (out ++ [quoteMark single])).cursor tail) := by
  rw [quotedFrom_word scans onLine inside (List.cons_ne_nil _ _), Spot.next_cursor_cons,
    if_pos (beq_self_eq_true _), Spot.skip_cursor_cons (by cases single <;> rfl), Spot.after_append]

/-- A word with a gap behind it. -/
theorem quotedFrom_gap {x : Char} {behind rest gap : List Char} {g : Gap}
    (scans : ScansWord single (out ++ x :: behind) word (x :: behind)) (onLine : Spot.OnLine out)
    (inside : p.column ≠ 0) (other : x ≠ quoteMark single)
    (taken : Gap.take 0 ((x :: behind).length + 1) .none ((p.after out).cursor (x :: behind)) =
      .ok (g, ((p.after out).after gap).cursor rest)) :
    quotedFrom single (fuel + 1) text (p.cursor (out ++ x :: behind)) =
      quotedFrom single fuel (g.text.reverseAux (word.reverseAux text)) ((p.after (out ++ gap)).cursor rest) := by
  rw [quotedFrom_word scans onLine inside (List.cons_ne_nil _ _), Spot.next_cursor_cons,
    if_neg (by simpa using other), taken, ok_bind, Spot.after_append]

/-- A word with blanks behind it. -/
theorem quotedFrom_blanks {n : Nat} {rest : List Char}
    (scans : ScansWord single (out ++ (List.replicate (n + 1) ' ' ++ rest)) word
      (List.replicate (n + 1) ' ' ++ rest))
    (onLine : Spot.OnLine out) (inside : p.column ≠ 0) (stops : Stops rest) :
    quotedFrom single (fuel + 1) text (p.cursor (out ++ (List.replicate (n + 1) ' ' ++ rest))) =
      quotedFrom single fuel ((word ++ List.replicate (n + 1) ' ').reverseAux text)
        ((p.after (out ++ List.replicate (n + 1) ' ')).cursor rest) := by
  have enough : n + 1 ≤ (List.replicate (n + 1) ' ' ++ rest).length + 1 := by
    rw [List.length_append, List.length_replicate]
    omega
  have taken : Gap.take 0 ((List.replicate (n + 1) ' ' ++ rest).length + 1) .none
      ((p.after out).cursor (List.replicate (n + 1) ' ' ++ rest)) = _ :=
    Gap.take_blanks enough rfl stops
  rw [List.replicate_succ, List.cons_append] at scans taken ⊢
  rw [quotedFrom_gap scans onLine inside (by cases single <;> decide) taken]
  simp [Gap.text, Gap.none, List.reverseAux_eq]

/-- A word with separators of lines behind it, and blanks that move the next line in. -/
theorem quotedFrom_lines {x : Char} {more rest : List Char} {n : Nat}
    (scans : ScansWord single (out ++ (x :: more ++ (List.replicate n ' ' ++ rest))) word
      (x :: more ++ (List.replicate n ' ' ++ rest)))
    (onLine : Spot.OnLine out) (inside : p.column ≠ 0)
    (lineEnds : ∀ c ∈ x :: more, Spot.IsLineEnd c ∧ c ≠ '\n') (stops : Stops rest) :
    quotedFrom single (fuel + 1) text (p.cursor (out ++ (x :: more ++ (List.replicate n ' ' ++ rest)))) =
      quotedFrom single fuel ((word ++ x :: more).reverseAux text)
        ((p.after (out ++ (x :: more ++ List.replicate n ' '))).cursor rest) := by
  obtain ⟨⟨first, noLineFeed⟩, others⟩ := List.forall_mem_cons.mp lineEnds
  have taken : Gap.take 0 ((x :: more ++ (List.replicate n ' ' ++ rest)).length + 1) .none
      ((p.after out).cursor (x :: more ++ (List.replicate n ' ' ++ rest))) = _ :=
    Gap.take_lines first (fun c among => (others c among).1) (by simp; omega) stops
  have noMark : x ≠ quoteMark single := by
    rintro rfl
    cases single <;> cases first.isBreak
  have kept : (⟨[], [x], more, true⟩ : Gap).text = x :: more := by
    simp [Gap.text, noLineFeed]
  rw [List.cons_append] at scans taken ⊢
  rw [quotedFrom_gap scans onLine inside noMark taken, kept]
  simp [List.reverseAux_eq]

theorem column_after_mark {c : Char} (onLine : isBreak c = false) : (p.after [c]).column ≠ 0 := by
  rw [Spot.column_after (Spot.onLine_singleton onLine)]
  exact Nat.succ_ne_zero _

theorem column_after_blanks (onLine : Spot.OnLine out) (n : Nat) :
    (p.after (out ++ List.replicate (n + 1) ' ')).column ≠ 0 := by
  rw [Spot.column_after (onLine.append (Spot.onLine_replicate _)), List.length_append, List.length_replicate]
  omega

end Steps

/-! ### Double quotes -/

section Double

open Printer (doubleCharacter hex)

variable {c letter : Char} {rest : List Char}

theorem doubleWord_letter (stands : shortEscape? letter = some c) (onLine : isBreak letter = false) :
    doubleWord ('\\' :: letter :: rest) = (doubleWord rest).map fun (word, more) => (c :: word, more) := by
  rw [doubleWord]
  simp only [onLine, Bool.false_eq_true, ↓reduceIte, stands]

theorem length_hex {width n : Nat} (positive : 0 < width) (small : n < 16 ^ width) :
    (hex width n).length = width := by
  have fits := (Nat.length_toDigits_le_iff (by decide : 1 < 16) positive).mpr small
  simp [hex]
  omega

theorem numeral?_hex (width n : Nat) : Decimal.numeral? 16 (hex width n) = some n := by
  have upper : ∀ d < 16, Decimal.digit? 16 d.digitChar.toUpper = some d := by decide
  have reads := Decimal.digits?_map_toDigits (by decide) n _ upper
  have nonempty : (hex width n).isEmpty = false := by simp [hex]
  rw [Decimal.numeral?, if_neg (by simp [nonempty]), hex, Decimal.digits?_replicate_append 16 _ (by decide), reads]

theorem doubleWord_hex {width : Nat} (isWidth : escapeWidth? letter = some width) (positive : 0 < width)
    (noLetter : shortEscape? letter = none) (onLine : isBreak letter = false) (small : c.toNat < 16 ^ width) :
    doubleWord ('\\' :: letter :: (hex width c.toNat ++ rest)) =
      (doubleWord rest).map fun (word, more) => (c :: word, more) := by
  have length := length_hex positive small
  have taken : (hex width c.toNat ++ rest).take width = hex width c.toNat := List.take_left' length
  have dropped : (hex width c.toNat ++ rest).drop width = rest := List.drop_left' length
  have character : character? c.toNat = some c := by
    rw [character?, if_pos (show c.toNat.isValidChar from c.valid), Char.ofNat_toNat]
  rw [doubleWord]
  simp only [onLine, Bool.false_eq_true, ↓reduceIte, noLetter, isWidth, taken, dropped, length,
    numeral?_hex, Option.getD_some, character]

/-- Every character but a blank is read back from between double quotes. -/
theorem doubleWord_character (noSpace : c ≠ ' ') (rest : List Char) :
    doubleWord (doubleCharacter c ++ rest) = (doubleWord rest).map fun (word, more) => (c :: word, more) := by
  unfold doubleCharacter
  split
  · rename_i plain
    simp only [Bool.and_eq_true, Bool.not_eq_true', bne_iff_ne] at plain
    obtain ⟨⟨⟨printable, noBreak⟩, noQuote⟩, noBackslash⟩ := plain
    have noTab : c ≠ '\t' := by
      rintro rfl
      exact absurd printable (by decide)
    have noBlank : isSpace c = false := by simp [isSpace, noSpace, noTab]
    have plainQuote : (c == '"') = false := by simp [noQuote]
    rw [List.singleton_append, doubleWord.eq_def]
    split
    · cases ‹c :: rest = []›
    · cases ‹c :: rest = ['\\']›
      exact absurd rfl noBackslash
    · cases ‹c :: rest = '\\' :: _ :: _›
      exact absurd rfl noBackslash
    · rename_i form
      cases form
      rw [plainQuote, noBlank, noBreak]
      rfl
  · split
    case h_15 =>
      have small : c.toNat < 16 ^ 8 := c.val.toNat_lt
      split
      · exact doubleWord_hex rfl (by decide) rfl rfl (by omega)
      · split
        · exact doubleWord_hex rfl (by decide) rfl rfl (by omega)
        · exact doubleWord_hex rfl (by decide) rfl rfl small
    all_goals exact doubleWord_letter rfl rfl

/-- What holds of all hexadecimal digits holds of the characters of a number. -/
theorem forall_mem_hex {P : Char → Prop} (each : ∀ d < 16, P d.digitChar.toUpper) {width n : Nat} :
    ∀ c ∈ hex width n, P c := by
  intro c inside
  rcases List.mem_append.mp inside with zero | digit
  · rw [List.eq_of_mem_replicate zero]
    exact each 0 (by decide)
  · obtain ⟨d, among, rfl⟩ := List.mem_map.mp digit
    obtain ⟨value, small, rfl⟩ := Decimal.exists_digitChar_of_mem_toDigits (by decide : 1 < 16) among
    exact each value small

/-- What stands between double quotes breaks no line. -/
theorem onLine_doubleCharacter (c : Char) : Spot.OnLine (doubleCharacter c) := by
  have digits (width n : Nat) : Spot.OnLine (hex width n) := forall_mem_hex (by decide)
  unfold doubleCharacter
  split
  · rename_i plain
    simp only [Bool.and_eq_true, Bool.not_eq_true'] at plain
    exact Spot.onLine_singleton plain.1.1.2
  · refine .cons rfl ?_
    split
    case h_15 =>
      split
      · exact .cons rfl (digits _ _)
      · split <;> exact .cons rfl (digits _ _)
    all_goals exact Spot.onLine_singleton rfl

theorem doubleCharacter_stops {c : Char} (noSpace : c ≠ ' ') (tail : List Char) :
    Stops (doubleCharacter c ++ tail) := by
  unfold doubleCharacter
  split
  · rename_i plain
    simp only [Bool.and_eq_true, Bool.not_eq_true'] at plain
    have noTab : c ≠ '\t' := by
      rintro rfl
      exact absurd plain.1.1.1 (by decide)
    exact stops_cons (by simp [isSpace, noSpace, noTab]) plain.1.1.2
  · exact stops_cons rfl rfl

/-- Words in double quotes are read back. -/
theorem scansWord_double {w : List Char} (noSpace : ∀ c ∈ w, c ≠ ' ') (after : List Char)
    (ends : doubleWord after = .ok ([], after, false)) :
    ScansWord false (w.flatMap doubleCharacter ++ after) w after := by
  induction w with
  | nil => exact ends
  | cons c w ih =>
    obtain ⟨first, others⟩ := List.forall_mem_cons.mp noSpace
    have word : doubleWord (w.flatMap doubleCharacter ++ after) = .ok (w, after, false) := ih others
    rw [ScansWord, if_neg Bool.false_ne_true, List.flatMap_cons, List.append_assoc,
      doubleWord_character first, word]
    rfl

/-- A text in double quotes is scanned as it was written. -/
theorem quotedFrom_double {fuel : Nat} (s : List Char) (enough : s.length < fuel) (text : List Char) {p : Spot}
    (inside : p.column ≠ 0) (tail : List Char) :
    quotedFrom false fuel text (p.cursor (s.flatMap doubleCharacter ++ '"' :: tail)) =
      .ok (s.reverseAux text, (p.after (s.flatMap doubleCharacter ++ ['"'])).cursor tail) := by
  induction fuel generalizing s text p with
  | zero => omega
  | succ fuel ih =>
    obtain ⟨w, gap, others, rfl, wordOk, gapOk, othersOk, noGap⟩ := exists_word (· == ' ') s
    have noSpace (c : Char) (inside : c ∈ w) : c ≠ ' ' := by simpa using wordOk c inside
    have onLine : Spot.OnLine (w.flatMap doubleCharacter) := by
      intro c inside
      obtain ⟨d, _, inside⟩ := List.mem_flatMap.mp inside
      exact onLine_doubleCharacter d c inside
    cases gap with
    | nil =>
      obtain rfl := noGap rfl
      have scans := scansWord_double noSpace ('"' :: tail) (by rw [doubleWord.eq_def]; rfl)
      rw [List.append_nil, List.append_nil]
      exact quotedFrom_end scans onLine inside
    | cons c gap =>
      have blanks : c :: gap = List.replicate (gap.length + 1) ' ' :=
        List.eq_replicate_iff.mpr ⟨rfl, fun c inside => by simpa using gapOk c inside⟩
      generalize gap.length = n at blanks
      rw [blanks] at enough ⊢
      have space : doubleCharacter ' ' = [' '] := by decide
      have written : (List.replicate (n + 1) ' ').flatMap doubleCharacter = List.replicate (n + 1) ' ' := by
        simp [List.flatMap_replicate, space]
      have stops : Stops (others.flatMap doubleCharacter ++ '"' :: tail) := by
        cases others with
        | nil => exact stops_cons rfl rfl
        | cons d others =>
          rw [List.flatMap_cons, List.append_assoc]
          exact doubleCharacter_stops (by simpa using othersOk d rfl) _
      have scans := scansWord_double noSpace
        (List.replicate (n + 1) ' ' ++ (others.flatMap doubleCharacter ++ '"' :: tail))
        (by rw [List.replicate_succ, List.cons_append, doubleWord.eq_def]; rfl)
      simp only [List.flatMap_append, written, List.append_assoc]
      rw [quotedFrom_blanks scans onLine inside stops,
        ih others (by simp at enough; omega) _ (column_after_blanks onLine n)]
      simp [List.reverseAux_eq, Spot.after_append]

theorem length_le_flatMap_doubleCharacter (s : List Char) : s.length ≤ (s.flatMap doubleCharacter).length := by
  induction s with
  | nil => exact Nat.le_refl _
  | cons c s ih =>
    have some : 0 < (doubleCharacter c).length := by
      unfold doubleCharacter
      split <;> exact Nat.succ_pos _
    rw [List.flatMap_cons, List.length_append, List.length_cons]
    omega

/-- A double-quoted scalar is scanned as it was written. -/
theorem quoted_double (s : List Char) (p : Spot) (tail : List Char) :
    quoted false (p.cursor ('"' :: (s.flatMap doubleCharacter ++ '"' :: tail))) =
      .ok (String.ofList s, (p.after ('"' :: (s.flatMap doubleCharacter ++ ['"']))).cursor tail) := by
  have enough : s.length < ('"' :: (s.flatMap doubleCharacter ++ '"' :: tail)).length + 1 := by
    have := length_le_flatMap_doubleCharacter s
    rw [List.length_cons, List.length_append]
    omega
  rw [quoted, Spot.rest_cursor, Spot.skip_cursor_cons rfl, quotedFrom_double s enough [] (column_after_mark rfl)]
  simp [Except.map, List.reverseAux_eq, Spot.after_cons p '"' (_ ++ _)]

end Double

/-! ### Single quotes -/

section Single

open Printer (singleInside hasPair)

/-- A text that single quotes hold: no blank stands next to a separator of lines, and a line feed
does not occur. -/
structure FitsSingle (s : List Char) : Prop where
  separators : ∀ c ∈ s, isBreak c = true → Spot.IsLineEnd c ∧ c ≠ '\n'
  noTab : ∀ c ∈ s, c ≠ '\t'
  noBreakSpace : hasPair isBreak (· == ' ') s = false
  noSpaceBreak : hasPair (· == ' ') isBreak s = false

theorem hasPair_append_left {first second : Char → Bool} {s t : List Char}
    (none : hasPair first second (s ++ t) = false) : hasPair first second s = false := by
  induction s with
  | nil => rfl
  | cons a s ih =>
    cases s with
    | nil => rfl
    | cons b s =>
      simp only [List.cons_append, hasPair, Bool.or_eq_false_iff] at none ⊢
      exact ⟨none.1, ih none.2⟩

theorem hasPair_append_right {first second : Char → Bool} {s t : List Char}
    (none : hasPair first second (s ++ t) = false) : hasPair first second t = false := by
  induction s with
  | nil => exact none
  | cons a s ih =>
    cases form : s ++ t with
    | nil =>
      rw [List.append_eq_nil_iff] at form
      rw [form.2]
      rfl
    | cons b u =>
      rw [List.cons_append, form, hasPair, Bool.or_eq_false_iff, ← form] at none
      exact ih none.2

theorem FitsSingle.of_append {s t : List Char} (fits : FitsSingle (s ++ t)) : FitsSingle t :=
  ⟨fun c inside => fits.separators c (List.mem_append_right _ inside),
    fun c inside => fits.noTab c (List.mem_append_right _ inside),
    hasPair_append_right fits.noBreakSpace, hasPair_append_right fits.noSpaceBreak⟩

/-- A gap is made of blanks or of separators, never of both. -/
theorem gap_cases {gap : List Char} (blank : ∀ c ∈ gap, (c == ' ' || isBreak c) = true)
    (noBreakSpace : hasPair isBreak (· == ' ') gap = false)
    (noSpaceBreak : hasPair (· == ' ') isBreak gap = false) :
    gap = List.replicate gap.length ' ' ∨ ∀ c ∈ gap, isBreak c = true := by
  induction gap with
  | nil => exact .inl rfl
  | cons c gap ih =>
    obtain ⟨first, others⟩ := List.forall_mem_cons.mp blank
    cases gap with
    | nil =>
      simp only [Bool.or_eq_true, beq_iff_eq] at first
      rcases first with rfl | lineBreak
      · exact .inl rfl
      · exact .inr (by simpa using lineBreak)
    | cons d gap =>
      simp only [hasPair, Bool.or_eq_false_iff, Bool.and_eq_false_iff] at noBreakSpace noSpaceBreak
      simp only [Bool.or_eq_true, beq_iff_eq] at first
      rcases ih others noBreakSpace.2 noSpaceBreak.2 with spaces | breaks
      · obtain rfl : d = ' ' := by
          rw [List.length_cons, List.replicate_succ] at spaces
          exact (List.cons.inj spaces).1
        obtain rfl : c = ' ' := first.resolve_right (by simpa using noBreakSpace.1)
        rw [List.length_cons, List.replicate_succ, ← spaces]
        exact .inl rfl
      · have lineBreak : isBreak c = true := first.resolve_left fun space => by
          simp [space, breaks d List.mem_cons_self] at noSpaceBreak
        exact .inr (List.forall_mem_cons.mpr ⟨lineBreak, breaks⟩)

/-- The inside of single quotes, each quote written twice. -/
def doubled (w : List Char) : List Char :=
  w.flatMap fun c => if c == '\'' then [c, c] else [c]

theorem doubled_quote (w : List Char) : doubled ('\'' :: w) = '\'' :: '\'' :: doubled w :=
  rfl

theorem doubled_cons {c : Char} (other : c ≠ '\'') (w : List Char) : doubled (c :: w) = c :: doubled w := by
  simp [doubled, other]

theorem mem_of_mem_doubled {c : Char} {w : List Char} (inside : c ∈ doubled w) : c ∈ w := by
  obtain ⟨d, among, inside⟩ := List.mem_flatMap.mp inside
  split at inside <;> simp_all

/-- A quote that is not doubled ends a word, and so does a gap. -/
theorem singleWord_quote {tail : List Char} (noQuote : tail.head? ≠ some '\'') :
    singleWord ('\'' :: tail) = ([], '\'' :: tail) := by
  rw [singleWord.eq_def]
  split
  · rename_i form
    rw [(List.cons.inj form).2] at noQuote
    exact absurd rfl noQuote
  · rename_i form
    obtain ⟨rfl, rfl⟩ := List.cons.inj form
    rfl
  · rename_i form
    cases form

theorem singleWord_gap {c : Char} (gap : isSpace c = true ∨ isBreak c = true) (after : List Char) :
    singleWord (c :: after) = ([], c :: after) := by
  rw [singleWord.eq_def]
  split
  · rename_i form
    rw [(List.cons.inj form).1] at gap
    rcases gap with gap | gap <;> cases gap
  · rename_i form
    obtain ⟨rfl, rfl⟩ := List.cons.inj form
    rw [if_pos (by rcases gap with gap | gap <;> simp [gap])]
  · rename_i form
    cases form

theorem singleWord_doubled {w : List Char} (wordOk : ∀ c ∈ w, isSpace c = false ∧ isBreak c = false)
    (after : List Char) (ends : singleWord after = ([], after)) :
    singleWord (doubled w ++ after) = (w, after) := by
  induction w with
  | nil => exact ends
  | cons c w ih =>
    obtain ⟨⟨noSpace, noBreak⟩, others⟩ := List.forall_mem_cons.mp wordOk
    by_cases isQuote : c = '\''
    · subst isQuote
      rw [doubled_quote, List.cons_append, List.cons_append, singleWord, ih others]
    · have other : (c == '\'') = false := by simpa using isQuote
      rw [doubled_cons isQuote, List.cons_append, singleWord.eq_def]
      split
      · rename_i form
        exact absurd (List.cons.inj form).1 isQuote
      · rename_i form
        obtain ⟨rfl, rfl⟩ := List.cons.inj form
        rw [if_neg (by simp [other, noSpace, noBreak]), ih others]
      · rename_i form
        cases form

/-- Words in single quotes are read back. -/
theorem scansWord_single {w : List Char} (wordOk : ∀ c ∈ w, isSpace c = false ∧ isBreak c = false)
    (after : List Char) (ends : singleWord after = ([], after)) : ScansWord true (doubled w ++ after) w after := by
  rw [ScansWord, if_pos rfl, singleWord_doubled wordOk after ends]

theorem singleInside_append {indent : Nat} {w s : List Char} (wordOk : ∀ c ∈ w, c ≠ ' ' ∧ isBreak c = false) :
    singleInside indent false (w ++ s) = doubled w ++ singleInside indent false s := by
  induction w with
  | nil => rfl
  | cons c w ih =>
    obtain ⟨⟨noSpace, noBreak⟩, others⟩ := List.forall_mem_cons.mp wordOk
    have other : (c == ' ') = false := by simpa using noSpace
    rw [List.cons_append, singleInside, other, noBreak, ih others]
    by_cases isQuote : c = '\''
    · subst isQuote
      rfl
    · simp [doubled_cons isQuote, isQuote]

theorem singleInside_stops (indent : Nat) {s : List Char} (stops : Stops s) (tail : List Char) :
    Stops (singleInside indent false s ++ '\'' :: tail) := by
  cases s with
  | nil => exact stops_cons rfl rfl
  | cons c s =>
    obtain ⟨noBlank, noBreak⟩ := stops c rfl
    have noSpace : c ≠ ' ' := by
      rintro rfl
      cases noBlank
    rw [← List.singleton_append, singleInside_append (by simp [noSpace, noBreak])]
    by_cases isQuote : c = '\''
    · subst isQuote
      exact stops_cons rfl rfl
    · rw [doubled_cons isQuote]
      exact stops_cons noBlank noBreak

theorem singleInside_spaces {indent : Nat} (n : Nat) (s : List Char) :
    singleInside indent false (List.replicate n ' ' ++ s) =
      List.replicate n ' ' ++ singleInside indent false s := by
  induction n with
  | zero => rfl
  | succ n ih =>
    rw [List.replicate_succ, List.cons_append, singleInside, if_pos (by rfl), ih]
    rfl

/-- Behind separators the next line is moved in. -/
theorem singleInside_breaks {indent : Nat} {gap s : List Char} (nonempty : gap ≠ [])
    (breaks : ∀ c ∈ gap, isBreak c = true) (stops : Stops s) (afterBreak : Bool) :
    singleInside indent afterBreak (gap ++ s) =
      gap ++ (List.replicate indent ' ' ++ singleInside indent false s) := by
  have noSpace (c : Char) (lineBreak : isBreak c = true) : (c == ' ') = false := by
    rw [beq_eq_false_iff_ne]
    rintro rfl
    cases lineBreak
  have behind (gap : List Char) (breaks : ∀ c ∈ gap, isBreak c = true) :
      singleInside indent true (gap ++ s) =
        gap ++ (List.replicate indent ' ' ++ singleInside indent false s) := by
    induction gap with
    | nil =>
      cases s with
      | nil => simp [singleInside, Printer.spaces]
      | cons c s =>
        obtain ⟨noBlank, noBreak⟩ := stops c rfl
        have noSpace : (c == ' ') = false := by
          rw [beq_eq_false_iff_ne]
          rintro rfl
          cases noBlank
        simp [singleInside, noSpace, noBreak, Printer.spaces]
    | cons c gap ih =>
      obtain ⟨first, others⟩ := List.forall_mem_cons.mp breaks
      simp [singleInside, noSpace c first, first, ih others]
  obtain ⟨c, gap, rfl⟩ := List.exists_cons_of_ne_nil nonempty
  obtain ⟨first, others⟩ := List.forall_mem_cons.mp breaks
  simp [singleInside, noSpace c first, first, behind gap others]

/-- A text in single quotes is scanned as it was written. -/
theorem quotedFrom_single {fuel indent : Nat} (positive : 0 < indent) {s : List Char} (fits : FitsSingle s)
    (enough : s.length < fuel) (text : List Char) {p : Spot} (inside : p.column ≠ 0) {tail : List Char}
    (noQuote : tail.head? ≠ some '\'') :
    quotedFrom true fuel text (p.cursor (singleInside indent false s ++ '\'' :: tail)) =
      .ok (s.reverseAux text, (p.after (singleInside indent false s ++ ['\''])).cursor tail) := by
  induction fuel generalizing s text p with
  | zero => omega
  | succ fuel ih =>
    obtain ⟨w, gap, others, rfl, wordOk, gapOk, othersOk, noGap⟩ := exists_word (fun c => c == ' ' || isBreak c) s
    simp only [Bool.or_eq_false_iff, beq_eq_false_iff_ne, ne_eq] at wordOk othersOk
    have noTab (c : Char) (among : c ∈ w ++ (gap ++ others)) : c ≠ '\t' := fits.noTab c among
    have word (c : Char) (among : c ∈ w) : isSpace c = false ∧ isBreak c = false :=
      ⟨by simp [isSpace, (wordOk c among).1, noTab c (List.mem_append_left _ among)], (wordOk c among).2⟩
    have onLine : Spot.OnLine (doubled w) := fun c among => (word c (mem_of_mem_doubled among)).2
    rw [singleInside_append wordOk]
    cases gap with
    | nil =>
      obtain rfl := noGap rfl
      have scans := scansWord_single word _ (singleWord_quote noQuote)
      have written : doubled w ++ singleInside indent false ([] ++ []) = doubled w := List.append_nil _
      rw [written, List.append_nil, List.append_nil]
      exact quotedFrom_end scans onLine inside
    | cons c gap =>
      have fitsOthers : FitsSingle others := fits.of_append.of_append
      have stops : Stops others := fun d head => ⟨by
        have noTab := fitsOthers.noTab d (List.mem_of_head? head)
        simp [isSpace, (othersOk d head).1, noTab], (othersOk d head).2⟩
      have stopsBehind := singleInside_stops indent stops tail
      -- Blanks and separators never meet in one gap, so each of the two is gone over by itself.
      obtain spaces | breaks := gap_cases gapOk
        (hasPair_append_left (hasPair_append_right fits.noBreakSpace))
        (hasPair_append_left (hasPair_append_right fits.noSpaceBreak))
      · rw [List.length_cons] at spaces
        generalize gap.length = n at spaces
        rw [spaces] at enough ⊢
        rw [singleInside_spaces, List.append_assoc, List.append_assoc]
        have scans := scansWord_single word _ (singleWord_gap (.inl (rfl : isSpace ' ' = true))
          (List.replicate n ' ' ++ (singleInside indent false others ++ '\'' :: tail)))
        rw [quotedFrom_blanks scans onLine inside stopsBehind,
          ih fitsOthers (by simp at enough; omega) _ (column_after_blanks onLine n)]
        simp [List.reverseAux_eq, Spot.after_append]
      · have lineEnds (d : Char) (among : d ∈ c :: gap) : Spot.IsLineEnd d ∧ d ≠ '\n' :=
          fits.separators d (List.mem_append_right _ (List.mem_append_left _ among)) (breaks d among)
        rw [singleInside_breaks (List.cons_ne_nil _ _) breaks stops]
        simp only [List.append_assoc]
        have scans := scansWord_single word _ (singleWord_gap (.inr (breaks c List.mem_cons_self))
          (gap ++ (List.replicate indent ' ' ++ (singleInside indent false others ++ '\'' :: tail))))
        have column : (p.after (doubled w ++ (c :: gap ++ List.replicate indent ' '))).column ≠ 0 := by
          rw [Spot.after_append, Spot.column_after_breaks (List.cons_ne_nil _ _) breaks
            (Spot.onLine_replicate _), List.length_replicate]
          exact Nat.ne_of_gt positive
        rw [quotedFrom_lines scans onLine inside lineEnds stopsBehind,
          ih fitsOthers (by simp at enough; omega) _ column, ← Spot.after_append]
        simp [List.reverseAux_eq]

theorem length_le_singleInside (indent : Nat) (afterBreak : Bool) (s : List Char) :
    s.length ≤ (singleInside indent afterBreak s).length := by
  induction s generalizing afterBreak with
  | nil => exact Nat.zero_le _
  | cons c s ih =>
    have behind := ih afterBreak
    have behindBreak := ih true
    have behindWord := ih false
    unfold singleInside
    split
    · simpa using behind
    · split
      · simpa using behindBreak
      · rw [List.length_append, List.length_append, List.length_cons]
        split <;> split <;> simp <;> omega

/-- A single-quoted scalar is scanned as it was written. -/
theorem quoted_single {indent : Nat} (positive : 0 < indent) {s : List Char} (fits : FitsSingle s) (p : Spot)
    {tail : List Char} (noQuote : tail.head? ≠ some '\'') :
    quoted true (p.cursor ('\'' :: (singleInside indent false s ++ '\'' :: tail))) =
      .ok (String.ofList s, (p.after ('\'' :: (singleInside indent false s ++ ['\'']))).cursor tail) := by
  have enough : s.length < ('\'' :: (singleInside indent false s ++ '\'' :: tail)).length + 1 := by
    have := length_le_singleInside indent false s
    rw [List.length_cons, List.length_append]
    omega
  rw [quoted, Spot.rest_cursor, Spot.skip_cursor_cons rfl,
    quotedFrom_single positive fits enough [] (column_after_mark rfl) noQuote]
  simp [Except.map, List.reverseAux_eq, Spot.after_cons p '\'' (_ ++ _)]

/-- A line break that is written as it is. -/
theorem isLineEnd_of_isPrintable {c : Char} (printable : Printer.isPrintable c = true)
    (lineBreak : isBreak c = true) : Spot.IsLineEnd c := by
  simp only [isBreak, Bool.or_eq_true, beq_iff_eq] at lineBreak
  rcases lineBreak with (((rfl | rfl) | rfl) | rfl) | rfl
  · exact .inl rfl
  · exact absurd printable (by decide)
  · exact absurd printable (by decide)
  · exact .inr (.inl rfl)
  · exact .inr (.inr rfl)

/-- The printer's test for single quotes, where no line feed occurs. -/
theorem FitsSingle.of_fitsSingle {s : List Char} (fits : Printer.fitsSingle s = true) (noLineFeed : '\n' ∉ s) :
    FitsSingle s := by
  simp only [Printer.fitsSingle, Bool.and_eq_true, Bool.not_eq_true', List.all_eq_true] at fits
  obtain ⟨⟨printable, noBreakSpace⟩, noSpaceBreak⟩ := fits
  refine ⟨fun c inside lineBreak => ⟨isLineEnd_of_isPrintable (printable c inside) lineBreak, ?_⟩,
    fun c inside => ?_, noBreakSpace, noSpaceBreak⟩
  · rintro rfl
    exact noLineFeed inside
  · rintro rfl
    exact absurd (printable _ inside) (by decide)

end Single

end Upkeep.Yaml.Scan
