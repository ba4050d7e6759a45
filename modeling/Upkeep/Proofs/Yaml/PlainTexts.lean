import Upkeep.Proofs.Decimal.ShortestDigits
import Upkeep.Yaml.Printer

/-! Values that are written plainly. Null, truth values and numbers of both kinds are read back from
the texts in which they are written, and these texts can stand as plain scalars. -/
namespace Upkeep.Yaml

open Decimal (signed takeSign)

/-! ### Texts of numbers -/

/-- Characters that the texts of numbers are made of. -/
def isNumeralCharacter (c : Char) : Bool :=
  c.isDigit || ['.', '-', 'e', 'i', 'n', 'f', 'a'].contains c

/-- Characters that say nothing by themselves in a plain scalar. -/
def isPlainCharacter (c : Char) : Bool :=
  Printer.isPrintable c && !isBreak c && !isSpace c && c != '\x00' && c != ':' && c != '?' &&
    !Printer.isLeadingMark c

theorem isPlainCharacter_of_isNumeralCharacter {c : Char} (numeral : isNumeralCharacter c = true) :
    isPlainCharacter c = true := by
  simp only [isNumeralCharacter, Bool.or_eq_true, List.contains_iff_mem] at numeral
  rcases numeral with digit | sign
  · have range : 48 ≤ c.toNat ∧ c.toNat ≤ 57 := by
      simpa [Char.isDigit, UInt32.le_iff_toNat_le] using digit
    have each : ∀ n < 58, 48 ≤ n → isPlainCharacter (Char.ofNat n) = true := by decide
    rw [← Char.ofNat_toNat c]
    exact each c.toNat (by omega) range.1
  · have each : ∀ c ∈ ['.', '-', 'e', 'i', 'n', 'f', 'a'], isPlainCharacter c = true :=
      List.all_eq_true.mp rfl
    exact each c sign

theorem isNumeralCharacter_of_isDigit {c : Char} (digit : c.isDigit) : isNumeralCharacter c = true := by
  simp [isNumeralCharacter, digit]

/-- A text of which nothing but a number can be made. -/
structure LooksNumeric (s : List Char) : Prop where
  nonempty : s ≠ []
  characters : ∀ c ∈ s, isNumeralCharacter c = true

namespace LooksNumeric

variable {s t : List Char}

theorem of_digits (nonempty : s ≠ []) (digits : ∀ c ∈ s, c.isDigit) : LooksNumeric s :=
  ⟨nonempty, fun c inside => isNumeralCharacter_of_isDigit (digits c inside)⟩

theorem signed (numeric : LooksNumeric s) (negative : Bool) : LooksNumeric (signed negative s) := by
  cases negative with
  | false => exact numeric
  | true => exact ⟨List.cons_ne_nil _ _, by simpa [Decimal.signed, isNumeralCharacter] using numeric.characters⟩

theorem append (left : LooksNumeric s) (right : ∀ c ∈ t, isNumeralCharacter c = true) :
    LooksNumeric (s ++ t) :=
  ⟨List.append_ne_nil_of_left_ne_nil left.nonempty t, fun c inside =>
    (List.mem_append.mp inside).elim (left.characters c) (right c)⟩

/-- It is no word for null or for a truth value. -/
theorem no_word (numeric : LooksNumeric s) :
    (String.ofList s).isEmpty = false ∧ Scalar.isNull (String.ofList s) = false ∧
      Scalar.bool? (String.ofList s) = none := by
  have other (word : String) (strange : word.toList.all isNumeralCharacter = false) :
      (String.ofList s == word) = false := by
    rw [beq_eq_false_iff_ne]
    rintro rfl
    have numeral : (String.ofList s).toList.all isNumeralCharacter = true := by simpa using numeric.characters
    rw [strange] at numeral
    cases numeral
  refine ⟨?_, ?_, ?_⟩
  · rw [← Bool.not_eq_true, String.isEmpty_iff]
    simpa using numeric.nonempty
  · simp only [Scalar.isNull, other "null" (by decide), other "Null" (by decide),
      other "NULL" (by decide), other "~" (by decide), Bool.or_self]
  · simp only [Scalar.bool?, other "true" (by decide), other "True" (by decide),
      other "TRUE" (by decide), other "false" (by decide), other "False" (by decide),
      other "FALSE" (by decide), Bool.or_self, Bool.false_eq_true, ↓reduceIte]

/-- A whole number that 64 bits hold is read from its text. -/
theorem ofPlain_whole (numeric : LooksNumeric s) {n : Int} (whole : Scalar.whole? s = some n)
    (fits : Scalar.fitsWord n = true) : Scalar.ofPlain (String.ofList s) = .ok (.int n) := by
  obtain ⟨nonempty, null, word⟩ := numeric.no_word
  simp only [Scalar.ofPlain, nonempty, null, word, Bool.or_self, Bool.false_eq_true, ↓reduceIte,
    String.toList_ofList, whole, Scalar.ofWhole?, fits]
  rfl

theorem takeSign_subset (s : List Char) : (takeSign s).2 ⊆ s := by
  unfold takeSign
  split
  · exact List.subset_cons_self _ _
  · exact List.subset_cons_self _ _
  · exact List.Subset.refl _

/-- A text with something else than digits after its sign is no whole number. -/
theorem no_whole (numeric : LooksNumeric s) (nonDigit : ∃ c ∈ (takeSign s).2, c.isDigit = false) :
    Scalar.hasNeedlessZero s = false ∧ Scalar.whole? s = none := by
  obtain ⟨c, inside, other⟩ := nonDigit
  have zero : Scalar.hasNeedlessZero s = false := by
    unfold Scalar.hasNeedlessZero
    split
    · rename_i d rest form
      rw [form] at inside
      have later : c ∈ d :: rest := by
        rcases List.mem_cons.mp inside with rfl | later
        · exact absurd other (by decide)
        · exact later
      rw [List.all_eq_false]
      exact ⟨c, later, by simp [other]⟩
    · rfl
  refine ⟨zero, ?_⟩
  have none : Scalar.unsigned? (takeSign s).2 = none := by
    have strange (d : Char) (rest : List Char) (form : (takeSign s).2 = '0' :: d :: rest) :
        isNumeralCharacter d = true :=
      numeric.characters d (takeSign_subset s (form ▸ by simp))
    unfold Scalar.unsigned?
    split
    · exact absurd (strange _ _ ‹_›) (by decide)
    · exact absurd (strange _ _ ‹_›) (by decide)
    · exact absurd (strange _ _ ‹_›) (by decide)
    · rw [Decimal.numeral?, if_neg (by simpa using List.ne_nil_of_mem inside), Option.eq_none_iff_forall_ne_some]
      intro n reads
      exact absurd (Decimal.isDigit_of_digits? reads c inside) (by simp [other])
  simp [Scalar.whole?, zero, none]

/-- A floating-point number is read from a text that is no whole number. -/
theorem ofPlain_float (numeric : LooksNumeric s) {x : Binary64}
    (nonDigit : ∃ c ∈ (takeSign s).2, c.isDigit = false) (float : Scalar.float? s = some x) :
    Scalar.ofPlain (String.ofList s) = .ok (.float x) := by
  obtain ⟨nonempty, null, word⟩ := numeric.no_word
  obtain ⟨zero, whole⟩ := numeric.no_whole nonDigit
  simp only [Scalar.ofPlain, nonempty, null, word, Bool.or_self, Bool.false_eq_true, ↓reduceIte,
    String.toList_ofList, whole, zero, float]
  rfl

/-- A text that starts with a digit, after its sign, can stand as a plain scalar. -/
theorem fitsPlain (numeric : LooksNumeric s) {c : Char} {rest : List Char}
    (first : (takeSign s).2 = c :: rest) (digit : c.isDigit) : Printer.fitsPlain s = true := by
  have plain (d : Char) (inside : d ∈ s) := isPlainCharacter_of_isNumeralCharacter (numeric.characters d inside)
  simp only [isPlainCharacter, Bool.and_eq_true, Bool.not_eq_true', bne_iff_ne] at plain
  have noSpace (d : Char) (inside : d ∈ s) : d ≠ ' ' := by
    rintro rfl
    exact absurd (plain _ inside).1.1.1.1.2 (by decide)
  have inner (t : List Char) (sub : t ⊆ s) : Printer.hasInnerMark t = false := by
    induction t with
    | nil => rfl
    | cons d t ih =>
      obtain ⟨⟨⟨⟨⟨⟨_, noBreak⟩, noBlank⟩, noEnd⟩, noColon⟩, _⟩, _⟩ := plain d (sub List.mem_cons_self)
      simp [Printer.hasInnerMark, noBreak, noBlank, noEnd, noColon,
        ih (fun e inside => sub (List.mem_cons_of_mem _ inside))]
  have printable : s.all Printer.isPrintable = true :=
    List.all_eq_true.mpr fun d inside => (plain d inside).1.1.1.1.1.1
  have oneLine : s.any isBreak = false := by
    rw [List.any_eq_false]
    exact fun d inside => by simp [(plain d inside).1.1.1.1.1.2]
  have start : s.head? ≠ some ' ' := fun head => noSpace _ (List.mem_of_head? head) rfl
  have finish : s.getLast? ≠ some ' ' := fun last => noSpace _ (List.mem_of_getLast? last) rfl
  have noDash : c ≠ '-' := by
    rintro rfl
    exact absurd digit (by decide)
  have noPoint : c ≠ '.' := by
    rintro rfl
    exact absurd digit (by decide)
  have noMark : Printer.hasLeadingMark s = false := by
    obtain ⟨⟨⟨⟨⟨⟨_, noBreak⟩, noBlank⟩, noEnd⟩, noColon⟩, noQuestion⟩, noLead⟩ :=
      plain c (takeSign_subset s (first ▸ List.mem_cons_self))
    unfold takeSign at first
    split at first
    · obtain rfl : _ = c :: rest := first
      simp [Printer.hasLeadingMark, Printer.blankAhead, noDash, noBreak, noBlank, noEnd,
        show Printer.isLeadingMark '-' = false by decide]
    · exact absurd (numeric.characters '+' List.mem_cons_self) (by decide)
    · obtain rfl : _ = c :: rest := first
      simp [Printer.hasLeadingMark, noDash, noPoint, noColon, noQuestion, noLead]
  simp [Printer.fitsPlain, printable, oneLine, start, finish, noMark, inner s (List.Subset.refl s)]

end LooksNumeric

/-! ### Whole numbers -/

/-- A number other than zero does not start with one. -/
theorem head?_toDigits_ne_zero {n : Nat} (positive : 0 < n) :
    (Nat.toDigits 10 n).head? ≠ some '0' := by
  induction n using Nat.strongRecOn with
  | _ n ih =>
    rw [Nat.toDigits_eq_if (by decide)]
    by_cases single : n < 10
    · simpa [single] using positive.ne'
    · rw [if_neg single, List.head?_append_of_ne_nil _ Nat.toDigits_ne_nil]
      exact ih (n / 10) (by omega) (by omega)

theorem whole?_toString (n : Int) : Scalar.whole? (toString n).toList = some n := by
  have sign := Decimal.takeSign_toString n
  have lone (c : Char) (rest : List Char) : Nat.toDigits 10 n.natAbs ≠ '0' :: c :: rest := by
    intro form
    by_cases zero : n.natAbs = 0
    · rw [zero] at form
      cases form
    · exact head?_toDigits_ne_zero (Nat.pos_of_ne_zero zero) (by rw [form]; rfl)
  have plain : Scalar.hasNeedlessZero (toString n).toList = false := by
    unfold Scalar.hasNeedlessZero
    rw [sign]
    split
    · exact absurd ‹_› (lone _ _)
    · rfl
  have unsigned : Scalar.unsigned? (Nat.toDigits 10 n.natAbs) = some n.natAbs := by
    unfold Scalar.unsigned?
    split
    · exact absurd ‹_› (lone _ _)
    · exact absurd ‹_› (lone _ _)
    · exact absurd ‹_› (lone _ _)
    · exact Decimal.numeral?_toDigits _
  simp only [Scalar.whole?, plain, Bool.false_eq_true, ↓reduceIte, sign, unsigned, Option.map_some,
    decide_eq_true_eq, Decimal.signed_natAbs]

theorem looksNumeric_toString (n : Int) : LooksNumeric (toString n).toList := by
  rw [Decimal.toList_toString]
  refine (LooksNumeric.of_digits Nat.toDigits_ne_nil fun c inside => ?_).signed _
  exact Nat.isDigit_of_mem_toDigits (by decide) (by decide) inside

theorem fitsPlain_toString (n : Int) : Printer.fitsPlain (toString n).toList = true := by
  obtain ⟨c, rest, form, digit⟩ := Decimal.exists_toDigits_eq_cons n.natAbs
  exact (looksNumeric_toString n).fitsPlain ((congrArg Prod.snd (Decimal.takeSign_toString n)).trans form) digit

/-- A whole number of 64 bits is read back from its text. -/
theorem ofPlain_toString {n : Int} (fits : Scalar.fitsWord n = true) :
    Scalar.ofPlain (toString n) = .ok (.int n) := by
  rw [← String.ofList_toList (s := toString n)]
  exact (looksNumeric_toString n).ofPlain_whole (whole?_toString n) fits

/-! ### Floating-point numbers -/

/-- The digits of a finite number with its point, and an exponent where one is written. -/
def digitsText (d : Binary64.Digits) : List Char :=
  if d.digits.length ≤ d.point && d.point ≤ 16 then
    d.digits ++ List.replicate (d.point - d.digits.length).toNat '0' ++ ['.', '0']
  else if 0 < d.point && d.point ≤ 16 then
    d.digits.take d.point.toNat ++ ['.'] ++ d.digits.drop d.point.toNat
  else if -5 < d.point && d.point ≤ 0 then
    ['0', '.'] ++ List.replicate (-d.point).toNat '0' ++ d.digits
  else
    d.digits.take 1 ++ (if d.digits.length = 1 then [] else '.' :: d.digits.drop 1) ++
      'e' :: (toString (d.point - 1)).toList

/-- The text of a finite number that is not zero. -/
theorem toList_floatText {x : Binary64} (finite : x.isFinite) (nonzero : x.magnitude ≠ 0) :
    (Scalar.floatText x).toList = signed x.isNegative (digitsText x.shortest) := by
  have number : x.isNaN = false := by
    rw [Binary64.isNaN, decide_eq_false_iff_not]
    exact (of_decide_eq_true finite).asymm
  have minus : "-".toList = ['-'] := by simp
  have empty : "".toList = [] := by simp
  simp only [Scalar.floatText, number, finite, nonzero, Bool.false_eq_true, ↓reduceIte,
    Bool.not_true, String.toList_append, String.toList_ofList, digitsText, signed]
  cases x.isNegative
  · rw [if_neg Bool.false_ne_true, if_neg Bool.false_ne_true, empty, List.nil_append]
  · rw [if_pos rfl, if_pos rfl, minus, List.singleton_append]

/-- A decimal stands for the number nearest to it, if that is finite. -/
theorem float?_of_fraction? {s : List Char} {f : Decimal.Fraction}
    (fraction : Decimal.fraction? s = some f) :
    Scalar.float? s =
      if (Binary64.ofDecimal f.negative f.digits f.exponent).isFinite then
        some (Binary64.ofDecimal f.negative f.digits f.exponent) else none := by
  have word (w : String) (noFraction : Decimal.fraction? w.toList = none) : String.ofList s ≠ w := by
    rintro rfl
    rw [String.toList_ofList, fraction] at noFraction
    cases noFraction
  unfold Scalar.float?
  split
  all_goals first
    | exact absurd ‹_› (word _ (by decide))
    | rw [fraction]

/-- The exponent after the digits of a number, if one is written. -/
def powerText (power : Option Int) : List Char :=
  match power with
  | none => []
  | some power => 'e' :: (toString power).toList

/-- A text that is read as a decimal of this value, whatever its sign. -/
structure ReadsAs (s : List Char) (value : ℚ) : Prop where
  numeric : LooksNumeric s
  first : ∃ c rest, s = c :: rest ∧ c.isDigit
  nonDigit : ∃ c ∈ s, c.isDigit = false
  fraction : ∀ negative, ∃ n exponent,
    Decimal.fraction? (signed negative s) = some ⟨negative, n, exponent⟩ ∧ (n : ℚ) * 10 ^ exponent = value

namespace ReadsAs

variable {c : Char} {whole part : List Char} {n : Nat} {power : Option Int}

theorem exponent?_powerText : Decimal.exponent? (powerText power) = some (power.getD 0) := by
  cases power with
  | none => rfl
  | some power => exact Decimal.exponent?_toString power

theorem endsDigits_powerText : Decimal.EndsDigits (powerText power) := by
  cases power with
  | none => exact fun c head => nomatch head
  | some power =>
    rintro c ⟨⟩
    decide

theorem numeral_of_mem_powerText (c : Char) (inside : c ∈ powerText power) : isNumeralCharacter c = true := by
  cases power with
  | none => cases inside
  | some power =>
    rcases List.mem_cons.mp inside with rfl | inside
    · decide
    · exact (looksNumeric_toString power).characters c inside

/-- A decimal with a point. -/
theorem withPoint (digit : c.isDigit) (wholeDigits : ∀ d ∈ whole, d.isDigit) (partDigits : ∀ d ∈ part, d.isDigit)
    (reads : Decimal.digits? 10 (c :: whole ++ part) = some n) :
    ReadsAs (c :: whole ++ '.' :: part ++ powerText power) (n * 10 ^ (power.getD 0 - part.length)) := by
  have start : LooksNumeric (c :: whole) := .of_digits (List.cons_ne_nil _ _) (by simpa [digit] using wholeDigits)
  refine ⟨?_, ⟨c, _, rfl, digit⟩, ⟨'.', by simp, by decide⟩, fun negative => ⟨_, _,
    Decimal.fraction?_point digit wholeDigits partDigits endsDigits_powerText reads exponent?_powerText, rfl⟩⟩
  refine (start.append fun d inside => ?_).append numeral_of_mem_powerText
  rcases List.mem_cons.mp inside with rfl | inside
  · decide
  · exact isNumeralCharacter_of_isDigit (partDigits d inside)

/-- A decimal without a point, but with an exponent. -/
theorem withPower {power : Int} (digit : c.isDigit) (wholeDigits : ∀ d ∈ whole, d.isDigit)
    (reads : Decimal.digits? 10 (c :: whole) = some n) :
    ReadsAs (c :: whole ++ powerText (some power)) (n * 10 ^ power) := by
  have start : LooksNumeric (c :: whole) := .of_digits (List.cons_ne_nil _ _) (by simpa [digit] using wholeDigits)
  refine ⟨start.append numeral_of_mem_powerText, ⟨c, _, rfl, digit⟩, ⟨'e', by simp [powerText], by decide⟩,
    fun negative => ⟨_, _, Decimal.fraction?_whole digit wholeDigits endsDigits_powerText ?_ reads
      exponent?_powerText, rfl⟩⟩
  rintro ⟨⟩

end ReadsAs

/-- Digits are read back with their point, however they are written. -/
theorem readsAs_digitsText {d : Binary64.Digits} {whole : Nat} (nonempty : d.digits ≠ [])
    (isDigit : ∀ c ∈ d.digits, c.isDigit) (reads : Decimal.digits? 10 d.digits = some whole) :
    ReadsAs (digitsText d) (whole * 10 ^ (d.point - d.digits.length)) := by
  obtain ⟨digits, point⟩ := d
  obtain ⟨c, rest, rfl⟩ := List.exists_cons_of_ne_nil nonempty
  obtain ⟨digit, restDigits⟩ := List.forall_mem_cons.mp isDigit
  have ten : (10 : ℚ) ≠ 0 := by norm_num
  have zeroDigits (count : Nat) : ∀ d ∈ List.replicate count '0', d.isDigit := by
    simp [List.mem_replicate]
  simp only [digitsText, Bool.and_eq_true, decide_eq_true_eq] at reads ⊢
  split
  · -- Zeros up to the point, and one behind it.
    rename_i size
    obtain ⟨zeros, count⟩ := Int.eq_ofNat_of_zero_le (Int.sub_nonneg_of_le size.1)
    have value := Decimal.digits?_append_replicate (zeros + 1) reads
    rw [List.replicate_succ', ← List.append_assoc] at value
    have read : ReadsAs (c :: (rest ++ List.replicate zeros '0') ++ '.' :: ['0'] ++ powerText none) _ :=
      .withPoint digit (List.forall_mem_append.mpr ⟨restDigits, zeroDigits zeros⟩) (zeroDigits 1) value
    convert read using 1
    · rw [count, Int.toNat_natCast]
      simp [powerText]
    · rw [count]
      push_cast
      rw [mul_assoc, ← zpow_natCast, ← zpow_add₀ ten]
      simp
  · split
    · -- The point inside the digits.
      rename_i size
      obtain ⟨before, count⟩ := Int.eq_ofNat_of_zero_le (by omega : 0 ≤ point - 1)
      have read : ReadsAs (c :: rest.take before ++ '.' :: rest.drop before ++ powerText none) _ :=
        .withPoint digit (fun d inside => restDigits d (List.mem_of_mem_take inside))
          (fun d inside => restDigits d (List.mem_of_mem_drop inside)) (by simpa using reads)
      have places : point.toNat = before + 1 := by omega
      convert read using 1
      · simp [places, powerText]
      · congr 2
        simp only [Option.getD_none, List.length_drop, List.length_cons] at *
        omega
    · split
      · -- The point before the digits, and zeros behind it.
        rename_i size
        obtain ⟨zeros, count⟩ := Int.eq_ofNat_of_zero_le (by omega : 0 ≤ -point)
        have value := Decimal.digits?_replicate_append 10 (zeros + 1) (by decide) (c :: rest)
        rw [reads, List.replicate_succ, List.cons_append] at value
        have read : ReadsAs ('0' :: [] ++ '.' :: (List.replicate zeros '0' ++ c :: rest) ++ powerText none) _ :=
          .withPoint (by decide) (by simp) (List.forall_mem_append.mpr ⟨zeroDigits zeros, isDigit⟩) value
        convert read using 1
        · simp [count, powerText]
        · congr 2
          simp only [Option.getD_none, List.length_append, List.length_replicate]
          omega
      · -- One digit before the point, and an exponent.
        by_cases single : rest = []
        · subst single
          have read : ReadsAs (c :: [] ++ powerText (some (point - 1))) _ := .withPower digit (by simp) reads
          convert read using 1
          · simp [powerText]
          · simp
        · have read : ReadsAs (c :: [] ++ '.' :: rest ++ powerText (some (point - 1))) _ :=
            .withPoint digit (by simp) restDigits reads
          convert read using 1
          · simp [single, powerText]
          · congr 2
            simp only [Option.getD_some, List.length_cons]
            omega

/-- A finite number other than zero is read back from its text. -/
theorem float?_floatText_of_nonzero {x : Binary64} (finite : x.isFinite) (nonzero : x.magnitude ≠ 0) :
    Scalar.float? (Scalar.floatText x).toList = some x := by
  obtain ⟨whole, stands⟩ := Binary64.stands_shortest nonzero
  obtain ⟨n, exponent, fraction, value⟩ :=
    (readsAs_digitsText stands.nonempty stands.isDigit stands.reads).fraction x.isNegative
  have number : Binary64.ofDecimal x.isNegative n exponent = x := by
    rw [Binary64.ofDecimal_of_covers finite nonzero _ (value ▸ stands.covers),
      Binary64.ofMagnitude_magnitude]
  rw [toList_floatText finite nonzero, float?_of_fraction? fraction]
  simp only [number, finite, ↓reduceIte]

/-- A number with a word of its own, or a zero. -/
def specialNumbers : List Binary64 :=
  [.ofMagnitude false 0, .ofMagnitude true 0, .infinity, .negativeInfinity, .notANumber]

theorem mem_specialNumbers {x : Binary64} (canonical : x.isNaN → x = .notANumber)
    (special : ¬ (x.isFinite ∧ x.magnitude ≠ 0)) : x ∈ specialNumbers := by
  have parts := Binary64.ofMagnitude_magnitude x
  by_cases nan : x.isNaN
  · simp [specialNumbers, canonical nan]
  · simp only [Binary64.isNaN, Binary64.isFinite, decide_eq_true_eq] at nan special
    obtain zero | infinite : x.magnitude = 0 ∨ x.magnitude = Binary64.infiniteMagnitude := by omega
    · rw [zero] at parts
      cases sign : x.isNegative <;> rw [sign] at parts <;> simp [specialNumbers, ← parts]
    · rw [infinite] at parts
      cases sign : x.isNegative <;> rw [sign] at parts <;>
        simp [specialNumbers, ← parts, Binary64.infinity, Binary64.negativeInfinity]

/-- A floating-point number is read back from its text, which can stand as a plain scalar. Of the
bits that stand for no number only one pattern has a text. -/
theorem ofPlain_floatText {x : Binary64} (canonical : x.isNaN → x = .notANumber) :
    Scalar.ofPlain (Scalar.floatText x) = .ok (.float x) ∧
      Printer.fitsPlain (Scalar.floatText x).toList = true := by
  by_cases special : x.isFinite ∧ x.magnitude ≠ 0
  · obtain ⟨finite, nonzero⟩ := special
    obtain ⟨whole, stands⟩ := Binary64.stands_shortest nonzero
    obtain ⟨numeric, ⟨c, rest, form, digit⟩, nonDigit, _⟩ :=
      readsAs_digitsText stands.nonempty stands.isDigit stands.reads
    have sign : takeSign (signed x.isNegative (digitsText x.shortest)) =
        (x.isNegative, digitsText x.shortest) := by
      rw [form, Decimal.takeSign_signed _ digit]
    have text := toList_floatText finite nonzero
    constructor
    · have float := float?_floatText_of_nonzero finite nonzero
      rw [← String.ofList_toList (s := Scalar.floatText x)]
      rw [text] at float ⊢
      exact (numeric.signed _).ofPlain_float (by rwa [sign]) float
    · rw [text]
      exact (numeric.signed _).fitsPlain ((congrArg Prod.snd sign).trans form) digit
  · have each : ∀ x ∈ specialNumbers, Scalar.ofPlain (Scalar.floatText x) = .ok (.float x) ∧
        Printer.fitsPlain (Scalar.floatText x).toList = true := by
      simp only [specialNumbers, List.forall_mem_cons, List.not_mem_nil, false_implies, implies_true,
        and_true]
      exact ⟨⟨rfl, rfl⟩, ⟨rfl, rfl⟩, ⟨rfl, rfl⟩, ⟨rfl, rfl⟩, ⟨rfl, rfl⟩⟩
    exact each x (mem_specialNumbers canonical special)

end Upkeep.Yaml
