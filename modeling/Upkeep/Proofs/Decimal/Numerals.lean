import Mathlib.Algebra.Group.Nat.Defs
import Upkeep.Decimal.Numeral

/-! Numerals that are written digit by digit are read back. Zeros in front of a numeral say nothing,
zeros behind it multiply; a decimal fraction is read piece by piece, from its sign to its exponent. -/
namespace Upkeep.Decimal

variable {radix n : Nat}

theorem digits?_append (radix : Nat) (s t : List Char) :
    digits? radix (s ++ t) =
      (digits? radix s).bind fun n => t.foldlM (fun n c => (digit? radix c).map (n * radix + ·)) n := by
  rw [digits?, List.foldlM_append]
  rfl

/-- The digits of a number are read back, also when they are written in another case. -/
theorem digits?_map_toDigits (twoOrMore : 1 < radix) (n : Nat) (write : Char → Char)
    (reads : ∀ d < radix, digit? radix (write d.digitChar) = some d) :
    digits? radix ((Nat.toDigits radix n).map write) = some n := by
  induction n using Nat.strongRecOn with
  | _ n ih =>
    rw [Nat.toDigits_eq_if twoOrMore]
    by_cases single : n < radix
    · simp [single, digits?, reads n single]
    · have smaller : n / radix < n := Nat.div_lt_self (by omega) twoOrMore
      have last : digit? radix (write (n % radix).digitChar) = some (n % radix) :=
        reads _ (Nat.mod_lt n (by omega))
      simp only [single, ↓reduceIte, List.map_append, List.map_cons, List.map_nil, digits?_append,
        ih _ smaller, Option.bind_some, List.foldlM_cons, List.foldlM_nil, last, Option.map_some]
      exact congrArg some (by rw [Nat.mul_comm]; exact Nat.div_add_mod n radix)

/-- The digits of a number are digits of its radix. -/
theorem exists_digitChar_of_mem_toDigits (twoOrMore : 1 < radix) {c : Char}
    (inside : c ∈ Nat.toDigits radix n) : ∃ d < radix, c = d.digitChar := by
  induction n using Nat.strongRecOn with
  | _ n ih =>
    rw [Nat.toDigits_eq_if twoOrMore] at inside
    by_cases single : n < radix
    · rw [if_pos single, List.mem_singleton] at inside
      exact ⟨n, single, inside⟩
    · rw [if_neg single, List.mem_append, List.mem_singleton] at inside
      rcases inside with before | last
      · exact ih _ (Nat.div_lt_self (by omega) twoOrMore) before
      · exact ⟨_, Nat.mod_lt n (by omega), last⟩

theorem digit?_digitChar : ∀ d < 10, digit? 10 d.digitChar = some d := by
  decide

theorem digits?_toDigits (n : Nat) : digits? 10 (Nat.toDigits 10 n) = some n := by
  simpa using digits?_map_toDigits (by decide) n id digit?_digitChar

theorem numeral?_toDigits (n : Nat) : numeral? 10 (Nat.toDigits 10 n) = some n := by
  simp [numeral?, digits?_toDigits]

theorem isDigit_of_digit? {c : Char} {d : Nat} (reads : digit? 10 c = some d) : c.isDigit := by
  simp only [digit?, Option.filter_eq_some_iff] at reads
  obtain ⟨value, small⟩ := reads
  split at value
  · rename_i digit
    simp only [Bool.and_eq_true, decide_eq_true_eq, Char.le_def] at digit
    simpa [Char.isDigit] using digit
  · split at value
    · cases value
      exact absurd (of_decide_eq_true small) (by omega)
    · split at value
      · cases value
        exact absurd (of_decide_eq_true small) (by omega)
      · cases value

/-- Only digits make up a whole number. -/
theorem isDigit_of_digits? {s : List Char} (reads : digits? 10 s = some n) : ∀ c ∈ s, c.isDigit := by
  unfold digits? at reads
  generalize 0 = start at reads
  induction s generalizing start with
  | nil => simp
  | cons c s ih =>
    rw [List.foldlM_cons] at reads
    obtain ⟨next, first, others⟩ := Option.bind_eq_some_iff.mp reads
    obtain ⟨d, isDigit, _⟩ := Option.map_eq_some_iff.mp first
    exact List.forall_mem_cons.mpr ⟨isDigit_of_digit? isDigit, ih next others⟩

/-- Zeros in front of a numeral say nothing. -/
theorem digits?_replicate_append (radix count : Nat) (positive : 0 < radix) (s : List Char) :
    digits? radix (List.replicate count '0' ++ s) = digits? radix s := by
  have zero : digit? radix '0' = some 0 := by simp [digit?, positive]
  induction count with
  | zero => rfl
  | succ count ih =>
    rw [← ih]
    simp [digits?, List.replicate_succ, List.foldlM_cons, zero]

/-- Zeros behind a numeral multiply it. -/
theorem digits?_append_replicate (count : Nat) {s : List Char} (value : digits? 10 s = some n) :
    digits? 10 (s ++ List.replicate count '0') = some (n * 10 ^ count) := by
  have zero : digit? 10 '0' = some 0 := by decide
  induction count with
  | zero => simpa using value
  | succ count ih =>
    rw [List.replicate_succ', ← List.append_assoc, digits?_append, ih]
    simp [zero, Nat.pow_succ, Nat.mul_assoc]

/-- What is read with zeros behind it is read without them. -/
theorem digits?_of_append_replicate (count : Nat) {s : List Char}
    (value : digits? 10 (s ++ List.replicate count '0') = some n) :
    ∃ m, digits? 10 s = some m ∧ n = m * 10 ^ count := by
  cases start : digits? 10 s with
  | none =>
    rw [digits?_append, start] at value
    cases value
  | some m =>
    refine ⟨m, rfl, ?_⟩
    rw [digits?_append_replicate count start] at value
    exact (Option.some.inj value).symm

/-- How many digits a number has. -/
theorem length_toDigits_eq_iff {count : Nat} (positive : 0 < n) (counted : 0 < count) :
    (Nat.toDigits 10 n).length = count ↔ 10 ^ (count - 1) ≤ n ∧ n < 10 ^ count := by
  have most := Nat.length_toDigits_le_iff (n := n) (by decide : 1 < 10) counted
  by_cases single : count = 1
  · subst single
    have := Nat.length_toDigits_pos (b := 10) (n := n)
    simp only [Nat.sub_self, Nat.pow_zero, Nat.pow_one] at *
    omega
  · have fewer := Nat.length_toDigits_le_iff (n := n) (by decide : 1 < 10)
      (by omega : 0 < count - 1)
    omega

/-! ### Decimal fractions -/

/-- The text of a number with its sign. -/
def signed (negative : Bool) (s : List Char) : List Char :=
  if negative then '-' :: s else s

theorem takeSign_signed (negative : Bool) {c : Char} (digit : c.isDigit) (s : List Char) :
    takeSign (signed negative (c :: s)) = (negative, c :: s) := by
  cases negative with
  | true => rfl
  | false =>
    rw [signed, if_neg Bool.false_ne_true, takeSign]
    · rintro rest ⟨⟩
      exact absurd digit (by decide)
    · rintro rest ⟨⟩
      exact absurd digit (by decide)

/-- The digits of a whole number come first in its text, after the sign. -/
theorem toList_toString (n : Int) :
    (toString n).toList = signed (n < 0) (Nat.toDigits 10 n.natAbs) := by
  rw [Int.toString_eq_repr, Int.repr_eq_if]
  by_cases negative : n < 0
  · have same : (-n).toNat = n.natAbs := by omega
    simp [signed, negative, Int.not_le.mpr negative, same]
  · have same : n.toNat = n.natAbs := by omega
    simp [signed, negative, Int.not_lt.mp negative, same]

theorem exists_toDigits_eq_cons (n : Nat) : ∃ c s, Nat.toDigits 10 n = c :: s ∧ c.isDigit := by
  obtain ⟨c, s, form⟩ := List.exists_cons_of_ne_nil (Nat.toDigits_ne_nil (n := n) (b := 10))
  exact ⟨c, s, form, Nat.isDigit_of_mem_toDigits (by decide) (by decide) (form ▸ List.mem_cons_self)⟩

theorem takeSign_toString (n : Int) :
    takeSign (toString n).toList = (decide (n < 0), Nat.toDigits 10 n.natAbs) := by
  obtain ⟨c, s, form, digit⟩ := exists_toDigits_eq_cons n.natAbs
  rw [toList_toString, form, takeSign_signed _ digit]

/-- A sign and an absolute value give the number back. -/
theorem signed_natAbs (n : Int) :
    (if n < 0 then -(n.natAbs : Int) else (n.natAbs : Int)) = n := by
  split <;> omega

theorem exponent?_toString (n : Int) : exponent? ('e' :: (toString n).toList) = some n := by
  simp only [exponent?, decide_true, Bool.true_or, ↓reduceIte, takeSign_toString, numeral?_toDigits, Option.map_some,
    decide_eq_true_eq, signed_natAbs]

/-- Whether no digit comes next. -/
def EndsDigits (s : List Char) : Prop :=
  ∀ c, s.head? = some c → c.isDigit = false

theorem takeWhile_isDigit {s rest : List Char} (digits : ∀ c ∈ s, c.isDigit) (ends : EndsDigits rest) :
    (s ++ rest).takeWhile Char.isDigit = s ∧ (s ++ rest).dropWhile Char.isDigit = rest := by
  rw [List.takeWhile_append_of_pos digits, List.dropWhile_append_of_pos digits]
  cases rest with
  | nil => simp
  | cons c rest => simp [ends c rfl]

section Fraction

variable {negative : Bool} {c : Char} {whole part tail : List Char} {digits : Nat} {exponent : Int}

/-- Reads a decimal with a point. -/
theorem fraction?_point (digit : c.isDigit) (wholeDigits : ∀ d ∈ whole, d.isDigit)
    (partDigits : ∀ d ∈ part, d.isDigit) (ends : EndsDigits tail)
    (value : digits? 10 (c :: whole ++ part) = some digits) (power : exponent? tail = some exponent) :
    fraction? (signed negative (c :: whole ++ '.' :: part ++ tail)) =
      some ⟨negative, digits, exponent - part.length⟩ := by
  have allDigits : ∀ d ∈ c :: whole, d.isDigit := by simpa [digit] using wholeDigits
  have endsAtPoint : EndsDigits ('.' :: (part ++ tail)) := by
    rintro d ⟨⟩
    decide
  have wholeSplit := takeWhile_isDigit allDigits endsAtPoint
  have partSplit := takeWhile_isDigit partDigits ends
  have number : numeral? 10 (c :: whole ++ part) = some digits := value
  simp only [List.cons_append, List.append_assoc] at wholeSplit ⊢
  simp only [fraction?, takeSign_signed _ digit, wholeSplit, partSplit, number, power]

/-- Reads a decimal without a point. -/
theorem fraction?_whole (digit : c.isDigit) (wholeDigits : ∀ d ∈ whole, d.isDigit)
    (ends : EndsDigits tail) (noPoint : tail.head? ≠ some '.')
    (value : digits? 10 (c :: whole) = some digits) (power : exponent? tail = some exponent) :
    fraction? (signed negative (c :: whole ++ tail)) = some ⟨negative, digits, exponent⟩ := by
  have allDigits : ∀ d ∈ c :: whole, d.isDigit := by simpa [digit] using wholeDigits
  have wholeSplit := takeWhile_isDigit allDigits ends
  have number : numeral? 10 (c :: whole) = some digits := value
  simp only [List.cons_append] at wholeSplit ⊢
  simp only [fraction?, takeSign_signed _ digit, wholeSplit]
  cases tail with
  | nil => simp [number, power]
  | cons d tail =>
    have other : d ≠ '.' := fun same => noPoint (congrArg some same)
    simp [other, number, power]

end Fraction

end Upkeep.Decimal
