import Mathlib.Data.List.TakeWhile
import Upkeep.Proofs.Decimal.Nearest
import Upkeep.Proofs.Decimal.Numerals

/-! The shortest digits of a number read back as the number: digits are only taken from a grid where
they do, and on the grid of seventeen digits there are always some. -/
namespace Upkeep.Binary64

variable {x : Binary64}

/-! ### The grid of so many digits -/

theorem toRat_value (x : Binary64) : x.value.toRat = x.significand * 2 ^ x.scale :=
  Ratio.toRat_scaled _ two_pos _

theorem den_value_pos (x : Binary64) : 0 < x.value.den :=
  Ratio.den_scaled_pos _ two_pos _

/-- The point of a grid just below a fraction. -/
theorem gridPoint_bounds {v : Ratio} (positive : 0 < v.den) {step : Int} {below : Nat}
    (form : below = if 0 ≤ step then v.num / (v.den * Nat.pow 10 step.toNat)
      else v.num * Nat.pow 10 (-step).toNat / v.den) :
    below * (10 : ℚ) ^ step ≤ v.toRat ∧ v.toRat < (below + 1) * (10 : ℚ) ^ step := by
  have positive' : (0 : ℚ) < v.den := by exact_mod_cast positive
  rw [Ratio.toRat, le_div_iff₀ positive', div_lt_iff₀ positive']
  by_cases up : 0 ≤ step
  · obtain ⟨k, rfl⟩ := Int.eq_ofNat_of_zero_le up
    rw [if_pos up, Int.toNat_natCast, Nat.pow_eq] at form
    have room : 0 < v.den * 10 ^ k := Nat.mul_pos positive (Nat.pow_pos (by decide))
    have low : below * (v.den * 10 ^ k) ≤ v.num := form ▸ Nat.div_mul_le_self _ _
    have high : v.num < (below + 1) * (v.den * 10 ^ k) := by
      rw [form, Nat.mul_comm]
      exact Nat.lt_mul_div_succ _ room
    rw [zpow_natCast, mul_assoc, mul_assoc, mul_comm _ (v.den : ℚ)]
    exact ⟨by exact_mod_cast low, by exact_mod_cast high⟩
  · obtain ⟨k, back⟩ := Int.eq_ofNat_of_zero_le (by omega : 0 ≤ -step)
    obtain rfl : step = -(k : Int) := by omega
    rw [if_neg up, neg_neg, Int.toNat_natCast, Nat.pow_eq] at form
    have low : below * v.den ≤ v.num * 10 ^ k := form ▸ Nat.div_mul_le_self _ _
    have high : v.num * 10 ^ k < (below + 1) * v.den := by
      rw [form, Nat.mul_comm _ v.den]
      exact Nat.lt_mul_div_succ _ positive
    have power : (0 : ℚ) < 10 ^ k := by positivity
    rw [zpow_neg, zpow_natCast, mul_right_comm, ← div_eq_mul_inv, div_le_iff₀ power, mul_right_comm,
      ← div_eq_mul_inv, lt_div_iff₀ power]
    exact ⟨by exact_mod_cast low, by exact_mod_cast high⟩

/-- Powers of ten below a power of two, and above one. -/
theorem inv_ten_pow_le : ((10 : ℚ) ^ 330)⁻¹ ≤ (2 ^ 1076)⁻¹ := by
  have powers : ((2 ^ 1076 : Nat) : ℚ) ≤ (10 ^ 330 : Nat) := Nat.cast_le.mpr (by decide +kernel)
  rw [Nat.cast_pow, Nat.cast_pow, Nat.cast_ofNat, Nat.cast_ofNat] at powers
  gcongr

theorem two_pow_le : (2 : ℚ) ^ 1024 ≤ 10 ^ 309 := by
  have powers : ((2 ^ 1024 : Nat) : ℚ) ≤ (10 ^ 309 : Nat) := Nat.cast_le.mpr (by decide +kernel)
  rwa [Nat.cast_pow, Nat.cast_pow, Nat.cast_ofNat, Nat.cast_ofNat] at powers

/-- The point of a number's digits stands right after the power of ten that the number reaches. -/
theorem ten_zpow_point_le (nonzero : x.magnitude ≠ 0) :
    (10 : ℚ) ^ (x.point - 1) ≤ x.significand * 2 ^ x.scale := by
  have positive := den_value_pos x
  have positive' : (0 : ℚ) < x.value.den := by exact_mod_cast positive
  have value : (x.value.num : ℚ) / x.value.den = x.significand * 2 ^ x.scale := toRat_value x
  obtain ⟨places, power, isPlaces, form, point⟩ : ∃ places power, places = 400 ∧
      power = Nat.pow 10 places ∧
      x.point = (Nat.toDigits 10 (x.value.num * power / x.value.den)).length - 400 :=
    ⟨_, _, rfl, rfl, rfl⟩
  have isPower : (power : ℚ) = 10 ^ (400 : Int) := by
    rw [form, Nat.pow_eq, Nat.cast_pow, Nat.cast_ofNat, ← zpow_natCast, isPlaces, Nat.cast_ofNat]
  have reached : 0 < x.value.num * power / x.value.den := by
    have one : (1 : ℚ) ≤ x.significand := by exact_mod_cast significand_pos nonzero
    have tiny : (10 : ℚ) ^ (-400 : Int) ≤ x.value.num / x.value.den := by
      calc (10 : ℚ) ^ (-400 : Int) ≤ 10 ^ (-330 : Int) := by gcongr <;> norm_num
        _ ≤ 2 ^ (-1076 : Int) := inv_ten_pow_le
        _ ≤ 1 * 2 ^ (-1074 : Int) := by rw [one_mul]; gcongr <;> norm_num
        _ ≤ x.significand * 2 ^ x.scale := by
          gcongr
          · exact one_le_two
          · exact le_scale x
        _ = x.value.num / x.value.den := value.symm
    rw [zpow_neg, ← isPower, inv_le_iff_one_le_mul₀ (by rw [isPower]; positivity),
      div_mul_eq_mul_div, one_le_div positive'] at tiny
    rw [Nat.div_pos_iff]
    exact ⟨positive, by exact_mod_cast tiny⟩
  have length := (Decimal.length_toDigits_eq_iff reached Nat.length_toDigits_pos).mp rfl
  have pos := Nat.length_toDigits_pos (b := 10) (n := x.value.num * power / x.value.den)
  generalize (Nat.toDigits 10 (x.value.num * power / x.value.den)).length = count at *
  have low : (10 : ℚ) ^ (count - 1) ≤ x.value.num * power / x.value.den := by
    rw [le_div_iff₀ positive']
    exact_mod_cast (Nat.le_div_iff_mul_le positive).mp length.1
  calc (10 : ℚ) ^ (x.point - 1) = 10 ^ (((count - 1 : Nat) : Int) - 400) := by
        congr 1
        omega
    _ = 10 ^ (count - 1) / power := by rw [zpow_sub₀ (by norm_num), zpow_natCast, isPower]
    _ ≤ x.value.num * power / x.value.den / power := by gcongr
    _ = x.significand * 2 ^ x.scale := by
      have nonzero : (power : ℚ) ≠ 0 := by
        rw [isPower]
        positivity
      rw [← value]
      field_simp

theorem le_lowEnd (nonzero : x.magnitude ≠ 0) : (2 : ℚ) ^ (-1076 : Int) ≤ x.lowEnd := by
  have one : (1 : ℚ) ≤ x.significand := by exact_mod_cast significand_pos nonzero
  have unit : (0 : ℚ) < 2 ^ x.scale := by positivity
  calc (2 : ℚ) ^ (-1076 : Int) ≤ 2 ^ (x.scale - 2) := by
        gcongr
        · exact one_le_two
        · have := le_scale x
          omega
    _ = (1 - 3 / 4) * 2 ^ x.scale := by
      rw [zpow_sub₀ two_ne_zero]
      ring
    _ ≤ x.lowEnd := by
      apply mul_le_mul_of_nonneg_right _ unit.le
      split <;> linarith

/-- Two neighbours on a grid that is finer than what a number covers cannot both miss it. -/
theorem covers_of_gap {a b : ℚ} (low : a ≤ x.significand * 2 ^ x.scale)
    (high : x.significand * 2 ^ x.scale < b) (fine : b - a < x.highEnd - x.lowEnd) :
    x.Covers a ∨ x.Covers b := by
  have unit : (0 : ℚ) < 2 ^ x.scale := by positivity
  have before : x.lowEnd < x.significand * 2 ^ x.scale := by
    rw [lowEnd]
    gcongr
    split <;> norm_num
  have after : (x.significand : ℚ) * 2 ^ x.scale < x.highEnd := by
    rw [highEnd]
    gcongr
    norm_num
  by_cases inside : x.lowEnd < a
  · have below : a < x.highEnd := low.trans_lt after
    exact .inl ⟨inside.le, below.le, fun _ => ⟨inside, below⟩⟩
  · have above : x.lowEnd < b := before.trans high
    have below : b < x.highEnd := by linarith [not_lt.mp inside]
    exact .inr ⟨above.le, below.le, fun _ => ⟨above, below⟩⟩

/-- A grid of seventeen digits is finer than what a number covers. -/
theorem grid_fine (nonzero : x.magnitude ≠ 0) :
    (10 : ℚ) ^ (x.point - 17) < x.highEnd - x.lowEnd := by
  have unit : (0 : ℚ) < 2 ^ x.scale := by positivity
  have most : (x.significand : ℚ) < 2 ^ 53 := by exact_mod_cast significand_lt x
  calc (10 : ℚ) ^ (x.point - 17) = 10 ^ (x.point - 1) / 10 ^ 16 := by
        rw [← zpow_natCast, ← zpow_sub₀ (by norm_num)]
        congr 1
        omega
    _ ≤ x.significand * 2 ^ x.scale / 10 ^ 16 := by
      gcongr
      exact ten_zpow_point_le nonzero
    _ = x.significand / 10 ^ 16 * 2 ^ x.scale := by ring
    _ < (1 / 2 + if x.significand = 2 ^ 52 ∧ -1074 < x.scale then 1 / 4 else 1 / 2) * 2 ^ x.scale := by
      gcongr
      split
      · rename_i power
        rw [power.1]
        norm_num
      · rw [div_lt_iff₀ (by norm_num)]
        linarith
    _ = x.highEnd - x.lowEnd := by
      rw [highEnd, lowEnd]
      ring

/-! ### The shortest digits -/

/-- What a grid offers reads back; it offers nothing only if both points around the number do not. -/
theorem onGrid_cases (x : Binary64) (count : Nat) : ∃ below,
    (below = if 0 ≤ x.point - count then x.value.num / (x.value.den * Nat.pow 10 (x.point - count).toNat)
      else x.value.num * Nat.pow 10 (-(x.point - count)).toNat / x.value.den) ∧
    ((∃ n, x.onGrid count = some n ∧ x.readsBack (.scaled n 10 (x.point - count)) = true) ∨
      x.onGrid count = none ∧ x.readsBack (.scaled below 10 (x.point - count)) = false ∧
        x.readsBack (.scaled (below + 1) 10 (x.point - count)) = false) := by
  refine ⟨_, rfl, ?_⟩
  simp only [onGrid]
  generalize (if 0 ≤ x.point - count then x.value.num / (x.value.den * Nat.pow 10 (x.point - count).toNat)
    else x.value.num * Nat.pow 10 (-(x.point - count)).toNat / x.value.den) = below
  split
  · rename_i first second
    split_ifs
    · exact .inl ⟨_, rfl, first⟩
    · exact .inl ⟨_, rfl, second⟩
    · exact .inl ⟨_, rfl, first⟩
    · exact .inl ⟨_, rfl, second⟩
  · rename_i first _
    exact .inl ⟨_, rfl, first⟩
  · rename_i _ second
    exact .inl ⟨_, rfl, second⟩
  · rename_i first second
    exact .inr ⟨rfl, first, second⟩

theorem readsBack_scaled_iff (nonzero : x.magnitude ≠ 0) (n : Nat) (step : Int) :
    x.readsBack (.scaled n 10 step) = true ↔ x.Covers (n * 10 ^ step) := by
  rw [readsBack_iff nonzero (Ratio.den_scaled_pos n (by decide) step),
    Ratio.toRat_scaled n (by decide) step, Nat.cast_ofNat]

/-- The grid of seventeen digits always offers something. -/
theorem exists_onGrid (nonzero : x.magnitude ≠ 0) : ∃ n, x.onGrid 17 = some n := by
  obtain ⟨below, form, ⟨n, found, _⟩ | ⟨_, first, second⟩⟩ := x.onGrid_cases 17
  · exact ⟨n, found⟩
  · obtain ⟨low, high⟩ := gridPoint_bounds (den_value_pos x) form
    rw [← Bool.not_eq_true, readsBack_scaled_iff nonzero] at first second
    have fine : (below + 1 : Nat) * (10 : ℚ) ^ (x.point - 17) - below * 10 ^ (x.point - 17) <
        x.highEnd - x.lowEnd := by
      calc _ = (10 : ℚ) ^ (x.point - 17) := by push_cast; ring
        _ < _ := grid_fine nonzero
    rw [toRat_value] at low high
    rcases covers_of_gap low (by exact_mod_cast high) fine with covers | covers
    · exact absurd covers first
    · exact absurd covers second

/-- Digits that stand for a number: `0.d₁…dₙ × 10 ^ point`, as one whole number. -/
structure Stands (x : Binary64) (d : Digits) (whole : Nat) : Prop where
  nonempty : d.digits ≠ []
  isDigit : ∀ c ∈ d.digits, c.isDigit
  reads : Decimal.digits? 10 d.digits = some whole
  covers : x.Covers (whole * 10 ^ (d.point - d.digits.length))

theorem ne_zero_of_covers (nonzero : x.magnitude ≠ 0) {n : Nat} {exponent : Int}
    (covers : x.Covers (n * 10 ^ exponent)) : 0 < n := by
  rw [Nat.pos_iff_ne_zero]
  rintro rfl
  have low := (le_lowEnd nonzero).trans covers.low
  rw [Nat.cast_zero, zero_mul] at low
  exact absurd low (not_le.mpr (by positivity))

theorem strip_append_replicate (s : List Char) : ∃ count,
    s = (s.reverse.dropWhile (· == '0')).reverse ++ List.replicate count '0' := by
  refine ⟨(s.reverse.takeWhile (· == '0')).length, ?_⟩
  have zeros : s.reverse.takeWhile (· == '0') =
      List.replicate (s.reverse.takeWhile (· == '0')).length '0' := by
    refine List.eq_replicate_iff.mpr ⟨rfl, fun c inside => ?_⟩
    simpa using List.mem_takeWhile_imp inside
  rw [← List.reverse_inj, List.reverse_append, List.reverse_reverse, List.reverse_replicate, ← zeros,
    List.takeWhile_append_dropWhile]

/-- The digits come from the first grid that offers any. -/
theorem shortest_eq (nonzero : x.magnitude ≠ 0) : ∃ count decimal, x.onGrid count = some decimal ∧
    x.shortest = ⟨((Nat.toDigits 10 decimal).reverse.dropWhile (· == '0')).reverse,
      x.point + (Nat.toDigits 10 decimal).length - count⟩ := by
  unfold shortest
  cases found : (List.range 17).findSome? fun n => (x.onGrid (n + 1)).map fun d => (n + 1, d) with
  | none =>
    obtain ⟨n, last⟩ := exists_onGrid nonzero
    have := List.findSome?_eq_none_iff.mp found 16 (by decide)
    rw [last] at this
    cases this
  | some pair =>
    obtain ⟨n, _, offers⟩ := List.exists_of_findSome?_eq_some found
    obtain ⟨decimal, offered, rfl⟩ := Option.map_eq_some_iff.mp offers
    exact ⟨n + 1, decimal, offered, rfl⟩

/-- The shortest digits stand for the number. -/
theorem stands_shortest (nonzero : x.magnitude ≠ 0) : ∃ whole, x.Stands x.shortest whole := by
  obtain ⟨count, decimal, offered, form⟩ := shortest_eq nonzero
  have covers : x.Covers (decimal * 10 ^ (x.point - count)) := by
    obtain ⟨_, _, ⟨n, found, reads⟩ | ⟨missing, _⟩⟩ := x.onGrid_cases count
    · cases offered.symm.trans found
      exact (readsBack_scaled_iff nonzero _ _).mp reads
    · cases offered.symm.trans missing
  have isDigit := fun c => Nat.isDigit_of_mem_toDigits (b := 10) (n := decimal) (c := c)
    (by decide) (by decide)
  have reads := Decimal.digits?_toDigits decimal
  obtain ⟨zeros, stripped⟩ := strip_append_replicate (Nat.toDigits 10 decimal)
  rw [form]
  generalize Nat.toDigits 10 decimal = text at *
  generalize (text.reverse.dropWhile (· == '0')).reverse = digits at *
  subst stripped
  obtain ⟨whole, value, product⟩ := Decimal.digits?_of_append_replicate zeros reads
  refine ⟨whole, ?_, fun c inside => isDigit c (List.mem_append_left _ inside), value, ?_⟩
  · rintro rfl
    cases value
    exact absurd (product.trans (Nat.zero_mul _)) (ne_zero_of_covers nonzero covers).ne'
  · convert covers using 1
    rw [product, Nat.cast_mul, Nat.cast_pow, mul_assoc, ← zpow_natCast, Nat.cast_ofNat,
      ← zpow_add₀ (by norm_num)]
    congr 2
    simp only [List.length_append, List.length_replicate]
    omega

/-! ### Reading decimals -/

/-- A decimal that a number covers is read as that number. -/
theorem ofDecimal_of_covers (finite : x.isFinite) (nonzero : x.magnitude ≠ 0) {n : Nat}
    {exponent : Int} (negative : Bool) (covers : x.Covers (n * 10 ^ exponent)) :
    ofDecimal negative n exponent = ofMagnitude negative x.magnitude := by
  have positive := ne_zero_of_covers nonzero covers
  have length := (Decimal.length_toDigits_eq_iff positive Nat.length_toDigits_pos).mp rfl
  have counted := Nat.length_toDigits_pos (b := 10) (n := n)
  simp only [ofDecimal]
  generalize (Nat.toDigits 10 n).length = count at *
  have least : ¬ (count : Int) + exponent < -330 := by
    intro less
    have small : (n : ℚ) * 10 ^ exponent < 2 ^ (-1076 : Int) := by
      calc (n : ℚ) * 10 ^ exponent < 10 ^ (count : Int) * 10 ^ exponent := by
            gcongr
            exact_mod_cast length.2
        _ = 10 ^ ((count : Int) + exponent) := by rw [zpow_add₀ (by norm_num)]
        _ ≤ 10 ^ (-330 : Int) := by
          gcongr
          norm_num
        _ ≤ 2 ^ (-1076 : Int) := inv_ten_pow_le
    exact absurd ((le_lowEnd nonzero).trans covers.low) (not_le.mpr small)
  have most : ¬ 310 < (count : Int) + exponent := by
    intro more
    have large : (2 : ℚ) ^ (x.scale + 53) ≤ n * 10 ^ exponent := by
      calc (2 : ℚ) ^ (x.scale + 53) ≤ 2 ^ (1024 : Int) := by
            have := scale_le finite
            gcongr
            · exact one_le_two
            · omega
        _ ≤ 10 ^ (309 : Int) := two_pow_le
        _ ≤ 10 ^ (((count - 1 : Nat) : Int) + exponent) := by
          gcongr
          · norm_num
          · omega
        _ = (10 ^ (count - 1) : Nat) * 10 ^ exponent := by
          rw [zpow_add₀ (by norm_num), zpow_natCast, Nat.cast_pow, Nat.cast_ofNat]
        _ ≤ n * 10 ^ exponent := by
          gcongr
          exact length.1
    exact absurd covers.lt_two_zpow (not_lt.mpr large)
  congr 1
  rw [if_neg (by simp [positive.ne', least]), if_neg most]
  by_cases up : 0 ≤ exponent
  · obtain ⟨k, rfl⟩ := Int.eq_ofNat_of_zero_le up
    rw [if_pos up, Int.toNat_natCast]
    apply nearestMagnitude_of_covers finite (Nat.mul_pos positive (Nat.pow_pos (by decide))) Nat.one_pos
    simpa using covers
  · obtain ⟨k, form⟩ := Int.eq_ofNat_of_zero_le (by omega : 0 ≤ -exponent)
    obtain rfl : exponent = -(k : Int) := by omega
    rw [if_neg up, neg_neg, Int.toNat_natCast]
    apply nearestMagnitude_of_covers finite positive (Nat.pow_pos (by decide))
    simpa [div_eq_mul_inv] using covers

/-- The sign and the magnitude make up a number. -/
theorem ofMagnitude_magnitude (x : Binary64) : ofMagnitude x.isNegative x.magnitude = x := by
  have whole : (if x.isNegative = true then Nat.pow 2 63 else 0) + x.magnitude = x.bits.toNat := by
    have small : x.bits.toNat < 2 ^ 64 := x.bits.toNat_lt
    simp only [isNegative, magnitude, decide_eq_true_eq, Nat.pow_eq]
    split <;> omega
  rw [ofMagnitude, whole, UInt64.ofNat_toNat]

end Upkeep.Binary64
