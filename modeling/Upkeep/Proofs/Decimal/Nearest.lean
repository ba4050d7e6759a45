import Mathlib.Algebra.Order.Field.Power
import Mathlib.Algebra.Order.Field.Rat
import Mathlib.Data.Nat.Log
import Mathlib.Tactic.FieldSimp
import Mathlib.Tactic.Linarith
import Mathlib.Tactic.Positivity
import Mathlib.Tactic.Ring
import Upkeep.Decimal.Shortest

/-! The number nearest to a fraction. A fraction that lies in the interval of a number, the ends
included where the significand is even, has that number as its nearest one. -/
namespace Upkeep.Binary64

/-! ### Rounding a quotient -/

section Rounding

variable {num den result : Nat}

/-- A whole number within half of a quotient is the rounded quotient; where both neighbours are as
near, it has to be the even one. -/
theorem roundedQuotient_eq (positive : 0 < den) (low : 2 * result * den ≤ 2 * num + den)
    (high : 2 * num ≤ (2 * result + 1) * den)
    (odd : result % 2 = 1 → 2 * result * den < 2 * num + den ∧ 2 * num < (2 * result + 1) * den) :
    roundedQuotient num den = result := by
  have split : den * (num / den) + num % den = num := Nat.div_add_mod num den
  have small : num % den < den := Nat.mod_lt num positive
  simp only [roundedQuotient]
  generalize num / den = whole at *
  generalize num % den = rest at *
  subst split
  have least : whole ≤ result := by
    by_contra! less
    have : den * (result + 1) ≤ den * whole := Nat.mul_le_mul_left den less
    nlinarith
  have most : result ≤ whole + 1 := by
    by_contra! more
    have : den * (whole + 2) ≤ den * result := Nat.mul_le_mul_left den more
    nlinarith
  obtain same | next : result = whole ∨ result = whole + 1 := by omega
  · subst same
    have half : 2 * rest ≤ den := by linarith
    have tie : 2 * rest = den → result % 2 = 0 := by
      intro equal
      by_contra uneven
      linarith [(odd (by omega)).2]
    split_ifs <;> omega
  · subst next
    have half : den ≤ 2 * rest := by linarith
    have tie : 2 * rest = den → whole % 2 = 1 := by
      intro equal
      by_contra even
      linarith [(odd (by omega)).1]
    split_ifs <;> omega

/-- A fraction within half of a whole number. -/
structure RoundsTo (y : ℚ) (result : Nat) : Prop where
  low : (result : ℚ) - 1 / 2 ≤ y
  high : y ≤ result + 1 / 2
  odd : result % 2 = 1 → (result : ℚ) - 1 / 2 < y ∧ y < result + 1 / 2

theorem roundedQuotient_of_roundsTo (positive : 0 < den)
    (rounds : RoundsTo ((num : ℚ) / den) result) : roundedQuotient num den = result := by
  have positive' : (0 : ℚ) < den := by exact_mod_cast positive
  apply roundedQuotient_eq positive
  · have low := rounds.low
    rw [le_div_iff₀ positive'] at low
    have : (2 * result * den : ℚ) ≤ 2 * num + den := by linarith
    exact_mod_cast this
  · have high := rounds.high
    rw [div_le_iff₀ positive'] at high
    have : (2 * num : ℚ) ≤ (2 * result + 1) * den := by linarith
    exact_mod_cast this
  · intro uneven
    obtain ⟨low, high⟩ := rounds.odd uneven
    rw [lt_div_iff₀ positive'] at low
    rw [div_lt_iff₀ positive'] at high
    constructor
    · have : (2 * result * den : ℚ) < 2 * num + den := by linarith
      exact_mod_cast this
    · have : (2 * num : ℚ) < (2 * result + 1) * den := by linarith
      exact_mod_cast this

end Rounding

/-! ### Fractions as rationals -/

/-- The rational number that a fraction is. -/
def Ratio.toRat (r : Ratio) : ℚ :=
  r.num / r.den

theorem Ratio.toRat_scaled (n : Nat) {base : Nat} (positive : 0 < base) (exponent : Int) :
    (Ratio.scaled n base exponent).toRat = n * (base : ℚ) ^ exponent := by
  have nonzero : (base : ℚ) ≠ 0 := by exact_mod_cast positive.ne'
  by_cases up : 0 ≤ exponent
  · obtain ⟨k, rfl⟩ := Int.eq_ofNat_of_zero_le up
    simp [scaled, toRat]
  · obtain ⟨k, form⟩ := Int.eq_ofNat_of_zero_le (by omega : 0 ≤ -exponent)
    obtain rfl : exponent = -(k : Int) := by omega
    rw [scaled, if_neg up]
    simp [toRat, div_eq_mul_inv]

theorem Ratio.den_scaled_pos (n : Nat) {base : Nat} (positive : 0 < base) (exponent : Int) :
    0 < (Ratio.scaled n base exponent).den := by
  unfold scaled
  split
  · exact Nat.one_pos
  · exact Nat.pow_pos positive

theorem Ratio.less_iff {a b : Ratio} (left : 0 < a.den) (right : 0 < b.den) :
    a.less b = true ↔ a.toRat < b.toRat := by
  have left' : (0 : ℚ) < a.den := by exact_mod_cast left
  have right' : (0 : ℚ) < b.den := by exact_mod_cast right
  rw [toRat, toRat, div_lt_div_iff₀ left' right', less, decide_eq_true_eq]
  exact_mod_cast Iff.rfl

/-! ### The nearest magnitude -/

section Nearest

variable {num den : Nat}

/-- Between which powers of two a quotient lies, as the lengths of its parts in bits tell. -/
theorem two_zpow_log2_bounds (nonzero : 0 < num) (positive : 0 < den) :
    (2 : ℚ) ^ ((num.log2 : Int) - den.log2 - 1) < num / den ∧
      (num : ℚ) / den < 2 ^ ((num.log2 : Int) - den.log2 + 1) := by
  have positive' : (0 : ℚ) < den := by exact_mod_cast positive
  have numLow : (2 : ℚ) ^ (num.log2 : Int) ≤ num := by
    exact_mod_cast Nat.log2_self_le nonzero.ne'
  have numHigh : (num : ℚ) < 2 ^ ((num.log2 : Int) + 1) := by
    exact_mod_cast Nat.lt_log2_self
  have denLow : (2 : ℚ) ^ (den.log2 : Int) ≤ den := by
    exact_mod_cast Nat.log2_self_le positive.ne'
  have denHigh : (den : ℚ) < 2 ^ ((den.log2 : Int) + 1) := by
    exact_mod_cast Nat.lt_log2_self
  constructor
  · rw [lt_div_iff₀ positive']
    calc (2 : ℚ) ^ ((num.log2 : Int) - den.log2 - 1) * den
        < 2 ^ ((num.log2 : Int) - den.log2 - 1) * 2 ^ ((den.log2 : Int) + 1) := by gcongr
      _ = 2 ^ (num.log2 : Int) := by rw [← zpow_add₀ two_ne_zero]; congr 1; ring
      _ ≤ num := numLow
  · rw [div_lt_iff₀ positive']
    calc (num : ℚ) < 2 ^ ((num.log2 : Int) + 1) := numHigh
      _ = 2 ^ ((num.log2 : Int) - den.log2 + 1) * 2 ^ (den.log2 : Int) := by
        rw [← zpow_add₀ two_ne_zero]; congr 1; ring
      _ ≤ 2 ^ ((num.log2 : Int) - den.log2 + 1) * den := by gcongr

/-- Comparing a quotient with a power of two, without fractions. -/
theorem below_iff (num : Nat) (positive : 0 < den) (bits : Int) :
    (if 0 ≤ bits then decide (num < den * Nat.pow 2 bits.toNat)
      else decide (num * Nat.pow 2 (-bits).toNat < den)) = true ↔ (num : ℚ) / den < 2 ^ bits := by
  have positive' : (0 : ℚ) < den := by exact_mod_cast positive
  rw [div_lt_iff₀ positive']
  by_cases up : 0 ≤ bits
  · obtain ⟨k, rfl⟩ := Int.eq_ofNat_of_zero_le up
    simp only [up, ↓reduceIte, Int.toNat_natCast, zpow_natCast, Nat.pow_eq, mul_comm den,
      decide_eq_true_eq]
    exact_mod_cast Iff.rfl
  · obtain ⟨k, form⟩ := Int.eq_ofNat_of_zero_le (by omega : 0 ≤ -bits)
    obtain rfl : bits = -(k : Int) := by omega
    have power : (0 : ℚ) < 2 ^ k := by positivity
    simp only [up, ↓reduceIte, neg_neg, Int.toNat_natCast, zpow_neg, zpow_natCast, Nat.pow_eq,
      inv_mul_eq_div, lt_div_iff₀ power, decide_eq_true_eq]
    exact_mod_cast Iff.rfl

/-- Dividing a quotient by a power of two, without fractions. -/
theorem roundedQuotient_scaled (positive : 0 < den) {exponent : Int} {significand : Nat}
    (rounds : RoundsTo ((num : ℚ) / den / 2 ^ exponent) significand) :
    (if 0 ≤ exponent then roundedQuotient num (den * Nat.pow 2 exponent.toNat)
      else roundedQuotient (num * Nat.pow 2 (-exponent).toNat) den) = significand := by
  by_cases up : 0 ≤ exponent
  · obtain ⟨k, rfl⟩ := Int.eq_ofNat_of_zero_le up
    rw [if_pos up, Int.toNat_natCast]
    apply roundedQuotient_of_roundsTo (Nat.mul_pos positive (Nat.pow_pos two_pos))
    rw [zpow_natCast, div_div] at rounds
    exact_mod_cast rounds
  · obtain ⟨k, form⟩ := Int.eq_ofNat_of_zero_le (by omega : 0 ≤ -exponent)
    obtain rfl : exponent = -(k : Int) := by omega
    rw [if_neg up, neg_neg, Int.toNat_natCast]
    apply roundedQuotient_of_roundsTo positive
    rw [zpow_neg, zpow_natCast, div_inv_eq_mul, div_mul_eq_mul_div] at rounds
    exact_mod_cast rounds

/-- The nearest magnitude of a fraction, where its exponent and its rounded significand are known. -/
theorem nearestMagnitude_eq (nonzero : 0 < num) (positive : 0 < den) {exponent : Int} {significand : Nat}
    (least : -1074 ≤ exponent) (below : (num : ℚ) / den < 2 ^ (exponent + 53))
    (above : exponent = -1074 ∨ (2 : ℚ) ^ (exponent + 52) ≤ num / den)
    (rounds : RoundsTo ((num : ℚ) / den / 2 ^ exponent) significand) :
    nearestMagnitude num den =
      min infiniteMagnitude ((exponent + 1074).toNat * 2 ^ 52 + significand) := by
  obtain ⟨low, high⟩ := two_zpow_log2_bounds nonzero positive
  have compare := below_iff num positive ((num.log2 : Int) - den.log2)
  simp only [nearestMagnitude, nonzero.ne', ↓reduceIte]
  generalize (num.log2 : Int) - den.log2 = bits at *
  have exponents {m n : Int} (less : (2 : ℚ) ^ m < 2 ^ n) : m < n :=
    (zpow_lt_zpow_iff_right₀ one_lt_two).mp less
  have fits : max (-1074) (if (if 0 ≤ bits then decide (num < den * Nat.pow 2 bits.toNat)
      else decide (num * Nat.pow 2 (-bits).toNat < den)) = true then bits - 53 else bits - 52) =
      exponent := by
    by_cases less : (num : ℚ) / den < 2 ^ bits
    · rw [if_pos (compare.mpr less)]
      have most : bits - 1 < exponent + 53 := exponents (low.trans below)
      have : exponent = -1074 ∨ exponent + 52 < bits :=
        above.imp_right fun above => exponents (above.trans_lt less)
      omega
    · rw [if_neg fun less' => less (compare.mp less')]
      have most : bits < exponent + 53 := exponents ((not_lt.mp less).trans_lt below)
      have : exponent = -1074 ∨ exponent + 52 < bits + 1 :=
        above.imp_right fun above => exponents (above.trans_lt high)
      omega
  rw [fits, roundedQuotient_scaled positive rounds]
  rfl

end Nearest

/-! ### Significand and scale -/

section Parts

variable {x : Binary64}

theorem significand_lt (x : Binary64) : x.significand < 2 ^ 53 := by
  have small : x.magnitude % 2 ^ 52 < 2 ^ 52 := Nat.mod_lt _ (by positivity)
  simp only [significand, Nat.pow_eq]
  split <;> omega

theorem le_scale (x : Binary64) : -1074 ≤ x.scale := by
  simp only [scale, Nat.pow_eq, Int.ofNat_eq_natCast]
  split <;> omega

/-- Only at the least scale the significand may have fewer bits. -/
theorem le_significand (normal : -1074 < x.scale) : 2 ^ 52 ≤ x.significand := by
  simp only [scale, significand, Nat.pow_eq] at normal ⊢
  split at normal
  · exact absurd normal (by decide)
  · rename_i field
    simp only [field, ↓reduceIte]
    omega

/-- The magnitude holds the scale in front of the significand, whose first bit is added to it. -/
theorem magnitude_eq (x : Binary64) :
    x.magnitude = (x.scale + 1074).toNat * 2 ^ 52 + x.significand := by
  have split := Nat.div_add_mod x.magnitude (2 ^ 52)
  have scaleIs : x.scale = if x.magnitude / 2 ^ 52 = 0 then -1074
      else ((x.magnitude / 2 ^ 52 : Nat) : Int) - 1075 := rfl
  have significandIs : x.significand = if x.magnitude / 2 ^ 52 = 0 then x.magnitude % 2 ^ 52
      else x.magnitude % 2 ^ 52 + 2 ^ 52 := rfl
  by_cases subnormal : x.magnitude / 2 ^ 52 = 0
  · rw [if_pos subnormal] at scaleIs significandIs
    omega
  · rw [if_neg subnormal] at scaleIs significandIs
    omega

theorem significand_pos (nonzero : x.magnitude ≠ 0) : 0 < x.significand := by
  by_contra zero
  have normal : ¬ -1074 < x.scale := fun normal => by
    have := le_significand normal
    omega
  have := le_scale x
  have := magnitude_eq x
  omega

theorem scale_le (finite : x.isFinite) : x.scale ≤ 971 := by
  have small : x.magnitude < 0x7FF * 2 ^ 52 := of_decide_eq_true finite
  have := magnitude_eq x
  by_contra large
  have := le_significand (x := x) (by omega)
  omega

/-- The least real that rounds to a number, or the one just before it. -/
def lowEnd (x : Binary64) : ℚ :=
  (x.significand - if x.significand = 2 ^ 52 ∧ -1074 < x.scale then 1 / 4 else 1 / 2) * 2 ^ x.scale

/-- The greatest real that rounds to a number, or the one just after it. -/
def highEnd (x : Binary64) : ℚ :=
  (x.significand + 1 / 2) * 2 ^ x.scale

/-- A real that rounds to a number. -/
structure Covers (x : Binary64) (r : ℚ) : Prop where
  low : x.lowEnd ≤ r
  high : r ≤ x.highEnd
  odd : x.significand % 2 = 1 → x.lowEnd < r ∧ r < x.highEnd

theorem interval_toRat (nonzero : x.magnitude ≠ 0) :
    x.interval.1.toRat = x.lowEnd ∧ x.interval.2.toRat = x.highEnd := by
  have positive := significand_pos nonzero
  have quarter : (2 : ℚ) ^ (x.scale - 2) = 2 ^ x.scale / 4 := by
    rw [zpow_sub₀ two_ne_zero]
    norm_num
  constructor
  · rw [interval, lowEnd, Ratio.toRat_scaled _ two_pos]
    simp only [Nat.pow_eq, Bool.and_eq_true, decide_eq_true_eq, Nat.cast_ofNat, quarter]
    split
    · rw [Nat.cast_sub (by omega)]
      push_cast
      ring
    · rw [Nat.cast_sub (by omega)]
      push_cast
      ring
  · rw [interval, highEnd, Ratio.toRat_scaled _ two_pos]
    push_cast
    rw [quarter]
    ring

theorem readsBack_iff {r : Ratio} (nonzero : x.magnitude ≠ 0) (positive : 0 < r.den) :
    x.readsBack r = true ↔ x.Covers r.toRat := by
  obtain ⟨low, high⟩ := interval_toRat nonzero
  have lowDen : 0 < x.interval.1.den := Ratio.den_scaled_pos _ two_pos _
  have highDen : 0 < x.interval.2.den := Ratio.den_scaled_pos _ two_pos _
  have lowLess := Ratio.less_iff lowDen positive
  have lessLow := Ratio.less_iff positive lowDen
  have highLess := Ratio.less_iff highDen positive
  have lessHigh := Ratio.less_iff positive highDen
  rw [low] at lowLess lessLow
  rw [high] at highLess lessHigh
  by_cases even : x.significand % 2 = 0
  · simp only [readsBack, even, ↓reduceIte, Bool.and_eq_true, Bool.not_eq_true', ← Bool.not_eq_true,
      lessLow, highLess, not_lt]
    exact ⟨fun ⟨low, high⟩ => ⟨low, high, fun odd => by omega⟩, fun covers => ⟨covers.low, covers.high⟩⟩
  · simp only [readsBack, even, ↓reduceIte, Bool.and_eq_true, lowLess, lessHigh]
    exact ⟨fun ⟨low, high⟩ => ⟨low.le, high.le, fun _ => ⟨low, high⟩⟩,
      fun covers => covers.odd (by omega)⟩

/-- Measured in units of its scale, what a number covers lies within half of its significand. -/
theorem Covers.roundsTo {r : ℚ} (covers : x.Covers r) :
    RoundsTo (r / 2 ^ x.scale) x.significand := by
  have unit : (0 : ℚ) < 2 ^ x.scale := by positivity
  have half : ((x.significand : ℚ) - 1 / 2) * 2 ^ x.scale ≤ x.lowEnd := by
    rw [lowEnd]
    split
    · gcongr
      norm_num
    · exact le_rfl
  refine ⟨?_, ?_, fun odd => ⟨?_, ?_⟩⟩
  · exact (le_div_iff₀ unit).mpr (half.trans covers.low)
  · exact (div_le_iff₀ unit).mpr covers.high
  · exact (lt_div_iff₀ unit).mpr (half.trans_lt (covers.odd odd).1)
  · exact (div_lt_iff₀ unit).mpr (covers.odd odd).2

/-- What a number covers stays below the next power of two. -/
theorem Covers.lt_two_zpow {r : ℚ} (covers : x.Covers r) : r < 2 ^ (x.scale + 53) := by
  have unit : (0 : ℚ) < 2 ^ x.scale := by positivity
  have most : (x.significand : ℚ) + 1 ≤ 2 ^ 53 := by exact_mod_cast significand_lt x
  calc r ≤ (x.significand + 1 / 2) * 2 ^ x.scale := covers.high
    _ < 2 ^ (53 : Int) * 2 ^ x.scale := by gcongr; norm_num at most ⊢; linarith
    _ = 2 ^ (x.scale + 53) := by rw [← zpow_add₀ two_ne_zero, add_comm]

/-- What lies below the power of two under a number's significand is covered by that power of two
only, and lies within a quarter of it. -/
theorem Covers.of_lt_two_zpow {r : ℚ} (covers : x.Covers r) (normal : -1074 < x.scale)
    (less : r < 2 ^ (x.scale + 52)) :
    x.significand = 2 ^ 52 ∧ (2 ^ 52 - 1 / 4) * 2 ^ x.scale ≤ r := by
  have unit : (0 : ℚ) < 2 ^ x.scale := by positivity
  have least := le_significand normal
  have low := covers.low
  rw [zpow_add₀ two_ne_zero, mul_comm] at less
  by_cases power : x.significand = 2 ^ 52
  · refine ⟨power, ?_⟩
    rw [lowEnd, if_pos ⟨power, normal⟩, power] at low
    exact_mod_cast low
  · have more : (2 : ℚ) ^ 52 + 1 ≤ x.significand := by exact_mod_cast (by omega : 2 ^ 52 + 1 ≤ _)
    rw [lowEnd, if_neg (power ·.1)] at low
    have := lt_of_mul_lt_mul_right (low.trans_lt less) unit.le
    linarith

/-- A fraction that a number covers has that number as its nearest one. -/
theorem nearestMagnitude_of_covers {num den : Nat} (finite : x.isFinite) (nonzero : 0 < num)
    (positive : 0 < den) (covers : x.Covers ((num : ℚ) / den)) :
    nearestMagnitude num den = x.magnitude := by
  have unit : (0 : ℚ) < 2 ^ x.scale := by positivity
  have least := le_scale x
  have form := magnitude_eq x
  have small : x.magnitude < infiniteMagnitude := of_decide_eq_true finite
  by_cases above : x.scale = -1074 ∨ (2 : ℚ) ^ (x.scale + 52) ≤ num / den
  · rw [nearestMagnitude_eq nonzero positive least covers.lt_two_zpow above covers.roundsTo, ← form]
    exact min_eq_right small.le
  · -- The fraction lies below a power of two, in whose place the significand above has 53 bits.
    obtain ⟨notLeast, less⟩ := not_or.mp above
    rw [not_le] at less
    obtain ⟨power, low⟩ := covers.of_lt_two_zpow (by omega) less
    have halfUnit : (2 : ℚ) ^ (x.scale - 1) = 2 ^ x.scale / 2 := zpow_sub_one₀ two_ne_zero _
    have unitLess : (num : ℚ) / den < 2 ^ 52 * 2 ^ x.scale := by
      rw [zpow_add₀ two_ne_zero, mul_comm] at less
      exact_mod_cast less
    have rounds : RoundsTo ((num : ℚ) / den / 2 ^ (x.scale - 1)) (2 ^ 53) := by
      rw [halfUnit]
      refine ⟨?_, ?_, fun odd => absurd odd (by decide)⟩
      · rw [le_div_iff₀ (by positivity)]
        push_cast
        linarith
      · rw [div_le_iff₀ (by positivity)]
        push_cast
        linarith
    have high : (num : ℚ) / den < 2 ^ (x.scale - 1 + 53) := by
      rwa [show x.scale - 1 + 53 = x.scale + 52 by ring]
    have enough : (2 : ℚ) ^ (x.scale - 1 + 52) ≤ num / den := by
      rw [zpow_add₀ two_ne_zero, halfUnit]
      norm_num at low ⊢
      linarith
    rw [nearestMagnitude_eq nonzero positive (by omega) high (.inr enough) rounds]
    have carried : (x.scale - 1 + 1074).toNat * 2 ^ 52 + 2 ^ 53 = x.magnitude := by omega
    rw [carried]
    exact min_eq_right small.le

end Parts

end Upkeep.Binary64
