import Mathlib.Algebra.Order.Field.Power
import Mathlib.Algebra.Order.Field.Rat
import Mathlib.Tactic.FieldSimp
import Mathlib.Tactic.Linarith
import Mathlib.Tactic.NormNum
import Mathlib.Tactic.Positivity
import Mathlib.Tactic.Ring
import Rollout.Json.Double

/-!
# Rounding to doubles

The double that is nearest to a quotient is off by the part `2 ^ -53` of it at most, unless it is
too small (`nearest_spec`), and there is none if the quotient is `2 ^ 1024` or more
(`nearest_eq_none`). So a decimal number has a double if it is below `2 ^ 1024`, and none if it is
not, but for the part that the roundings make (`isSome_ofDecimal`, `ofDecimal_eq_none`).
-/

namespace Rollout.Json.Double

open Text (tenTo)

/-- The number that a double is. -/
def value (d : Double) : ℚ := d.mantissa * 2 ^ d.exponent

theorem value_nonneg (d : Double) : 0 ≤ d.value := by
  unfold value
  positivity

def largest : ℚ := (2 ^ 53 - 1) * 2 ^ (971 : Int)

theorem zpow_1024 : (2 : ℚ) ^ (1024 : Int) = 2 ^ 53 * 2 ^ (971 : Int) := by
  rw [← zpow_natCast, ← zpow_add₀ two_ne_zero]
  rfl

theorem largest_lt : largest < 2 ^ (1024 : Int) := by
  rw [zpow_1024, largest]
  exact mul_lt_mul_of_pos_right (by norm_num) (by positivity)

theorem twoTo_cast (n : Nat) : (twoTo n : ℚ) = 2 ^ n := by
  rw [show twoTo n = 2 ^ n from rfl, Nat.cast_pow, Nat.cast_ofNat]

theorem tenTo_cast (n : Nat) : (tenTo n : ℚ) = 10 ^ n := by
  rw [show tenTo n = 10 ^ n from rfl, Nat.cast_pow, Nat.cast_ofNat]

theorem tenTo_le_tenTo {m n : Nat} (h : m ≤ n) : tenTo m ≤ tenTo n :=
  Nat.pow_le_pow_right (by decide) h

theorem natCast_le_largest {n : Nat} (small : n ≤ tenTo 308) : (n : ℚ) ≤ largest := by
  have bound : tenTo 308 ≤ 9007199254740991 * 2 ^ 971 := by decide +kernel
  have digits : (2 : ℚ) ^ 53 - 1 = 9007199254740991 := by norm_num
  have power : (2 : ℚ) ^ (971 : Int) = 2 ^ 971 := zpow_natCast 2 971
  rw [largest, digits, power]
  calc (n : ℚ) ≤ (9007199254740991 * 2 ^ 971 : Nat) := Nat.cast_le.2 (small.trans bound)
    _ = 9007199254740991 * 2 ^ 971 := by rw [Nat.cast_mul, Nat.cast_pow, Nat.cast_ofNat,
      Nat.cast_ofNat]

/-- From 309 on the powers of ten are beyond the range. -/
theorem zpow_1024_lt {k : Nat} (beyond : 308 < k) : (2 : ℚ) ^ (1024 : Int) < 10 ^ k := by
  have powers : twoTo 1024 < tenTo 309 := by decide +kernel
  have two : (twoTo 1024 : ℚ) = 2 ^ (1024 : Int) := by
    rw [twoTo_cast]
    exact (zpow_natCast 2 1024).symm
  calc (2 : ℚ) ^ (1024 : Int) = (twoTo 1024 : Nat) := two.symm
    _ < (tenTo 309 : Nat) := Nat.cast_lt.2 powers
    _ ≤ (tenTo k : Nat) := Nat.cast_le.2 (tenTo_le_tenTo beyond)
    _ = 10 ^ k := tenTo_cast k

/-! ### Rounding to an integer -/

section

variable {num den : Nat} (positive : 0 < den)

include positive

/-- The quotient of two numbers is off by one half at most when it is rounded. -/
theorem roundDiv_spec (num : Nat) : |(roundDiv num den : ℚ) - num / den| ≤ 1 / 2 := by
  have whole : (den : ℚ) * (num / den : Nat) + (num % den : Nat) = num := by
    exact_mod_cast Nat.div_add_mod num den
  have small : ((num % den : Nat) : ℚ) < den := by exact_mod_cast Nat.mod_lt num positive
  have pos : (0 : ℚ) < den := by exact_mod_cast positive
  have quotient : (num : ℚ) / den = (num / den : Nat) + (num % den : Nat) / den := by
    rw [← whole]
    field_simp
  have rest : (0 : ℚ) ≤ (num % den : Nat) / den := by positivity
  rw [quotient, abs_le]
  by_cases up : den < 2 * (num % den) ∨ (2 * (num % den) = den ∧ num / den % 2 = 1)
  · have half : (1 : ℚ) / 2 ≤ (num % den : Nat) / den := by
      rw [div_le_div_iff₀ two_pos pos, one_mul]
      have : den ≤ num % den * 2 := by omega
      exact_mod_cast this
    have below : ((num % den : Nat) : ℚ) / den < 1 := (div_lt_one pos).2 small
    rw [show roundDiv num den = num / den + 1 from if_pos up]
    push_cast
    constructor <;> linarith
  · have half : ((num % den : Nat) : ℚ) / den ≤ 1 / 2 := by
      rw [div_le_div_iff₀ pos two_pos, one_mul]
      have : num % den * 2 ≤ den := by omega
      exact_mod_cast this
    rw [show roundDiv num den = num / den from if_neg up]
    constructor <;> linarith

/-! ### The exponent -/

theorem unscaled_pos (num : Nat) (exponent : Int) : 0 < (unscaled num den exponent).2 := by
  unfold unscaled
  split
  · exact Nat.mul_pos positive (Nat.two_pow_pos _)
  · exact positive

theorem unscaled_div (exponent : Int) :
    ((unscaled num den exponent).1 : ℚ) / (unscaled num den exponent).2 =
      num / den / 2 ^ exponent := by
  have pos : (0 : ℚ) < den := by exact_mod_cast positive
  unfold unscaled
  split
  next up =>
    obtain ⟨n, rfl⟩ := Int.eq_ofNat_of_zero_le up
    rw [Int.toNat_natCast, Nat.cast_mul, twoTo_cast, zpow_natCast, div_div]
  next down =>
    obtain ⟨n, hn⟩ := Int.eq_ofNat_of_zero_le (by omega : 0 ≤ -exponent)
    obtain rfl : exponent = -(n : Int) := by omega
    rw [hn, Int.toNat_natCast, Nat.cast_mul, twoTo_cast, zpow_neg, zpow_natCast]
    field_simp

end

theorem twoTo_le_unscaled_iff {num den : Nat} (positive : 0 < den) (exponent : Int) (n : Nat) :
    twoTo n ≤ (unscaled num den exponent).1 / (unscaled num den exponent).2 ↔
      (2 : ℚ) ^ (exponent + n) ≤ num / den := by
  have pos : (0 : ℚ) < (unscaled num den exponent).2 := by
    exact_mod_cast unscaled_pos positive num exponent
  rw [Nat.le_div_iff_mul_le (unscaled_pos positive num exponent), ← @Nat.cast_le ℚ, Nat.cast_mul,
    twoTo_cast, ← le_div_iff₀ pos, unscaled_div positive, le_div_iff₀ (by positivity),
    zpow_add₀ two_ne_zero, zpow_natCast, mul_comm]

/-- The exponent at which a quotient has 53 bits before the point. -/
def freeExponent (num den : Nat) : Int :=
  let guess : Int := num.log2 - den.log2 - 53
  let q := unscaled num den guess
  if twoTo 53 ≤ q.1 / q.2 then guess + 1 else guess

theorem exponentFor_eq (num den : Nat) : exponentFor num den = max (freeExponent num den) (-1074) :=
  rfl

section

variable {num den : Nat} (nonzero : num ≠ 0) (positive : 0 < den)

include nonzero positive

/-- A quotient lies between the powers of two that the lengths of its parts say. -/
theorem log2_bounds : (2 : ℚ) ^ ((num.log2 : Int) - den.log2 - 1) < num / den ∧
    (num : ℚ) / den < 2 ^ ((num.log2 : Int) - den.log2 + 1) := by
  have pos : (0 : ℚ) < den := by exact_mod_cast positive
  have numLow : (2 : ℚ) ^ num.log2 ≤ num := by exact_mod_cast Nat.log2_self_le nonzero
  have numHigh : (num : ℚ) < 2 ^ (num.log2 + 1) := by
    exact_mod_cast (Nat.lt_log2_self : num < 2 ^ (num.log2 + 1))
  have denLow : (2 : ℚ) ^ den.log2 ≤ den := by
    exact_mod_cast Nat.log2_self_le positive.ne'
  have denHigh : (den : ℚ) < 2 ^ (den.log2 + 1) := by
    exact_mod_cast (Nat.lt_log2_self : den < 2 ^ (den.log2 + 1))
  have low : (2 : ℚ) ^ ((num.log2 : Int) - den.log2 - 1) = 2 ^ num.log2 / 2 ^ (den.log2 + 1) := by
    rw [← zpow_natCast, ← zpow_natCast, ← zpow_sub₀ two_ne_zero]
    congr 1
    push_cast
    ring
  have high : (2 : ℚ) ^ ((num.log2 : Int) - den.log2 + 1) = 2 ^ (num.log2 + 1) / 2 ^ den.log2 := by
    rw [← zpow_natCast, ← zpow_natCast, ← zpow_sub₀ two_ne_zero]
    congr 1
    push_cast
    ring
  rw [low, high]
  constructor
  · exact div_lt_div₀' numLow denHigh (by exact_mod_cast Nat.pos_of_ne_zero nonzero) pos
  · exact div_lt_div₀ numHigh denLow (by positivity) (by positivity)

/-- Before it is bounded below, the exponent leaves 53 bits before the point. -/
theorem freeExponent_spec : (2 : ℚ) ^ (freeExponent num den + 52) ≤ num / den ∧
    (num : ℚ) / den < 2 ^ (freeExponent num den + 53) := by
  obtain ⟨low, high⟩ := log2_bounds nonzero positive
  unfold freeExponent
  dsimp only
  split
  next up =>
    rw [twoTo_le_unscaled_iff positive] at up
    refine ⟨(le_of_eq ?_).trans up, high.trans_eq ?_⟩
    · congr 1
      push_cast
      ring
    · congr 1
      ring
  next down =>
    rw [twoTo_le_unscaled_iff positive, not_le] at down
    refine ⟨(le_of_eq ?_).trans low.le, down.trans_eq ?_⟩
    · congr 1
      ring
    · congr 1

end

/-! ### The nearest double -/

/-- The digits of a quotient before the point, rounded, at the exponent for it. -/
def roundedDigitsFor (num den : Nat) : Nat :=
  let q := unscaled num den (exponentFor num den)
  roundDiv q.1 q.2

/-- A rounded quotient, with one digit more made one exponent more. -/
def rounded (num den : Nat) : Double :=
  if roundedDigitsFor num den = twoTo 53 then ⟨twoTo 52, exponentFor num den + 1⟩
  else ⟨roundedDigitsFor num den, exponentFor num den⟩

section

variable {num den : Nat}

theorem nearest_eq (nonzero : num ≠ 0) : nearest num den =
    if 971 < (rounded num den).exponent then none else some (rounded num den) :=
  if_neg nonzero

theorem rounded_value (num den : Nat) :
    (rounded num den).value = roundedDigitsFor num den * 2 ^ exponentFor num den := by
  rw [rounded]
  split
  next more =>
    rw [value, more, twoTo_cast, twoTo_cast, zpow_add_one₀ two_ne_zero]
    ring
  next => rfl

theorem roundedDigitsFor_spec (num : Nat) (positive : 0 < den) :
    |(roundedDigitsFor num den : ℚ) - num / den / 2 ^ exponentFor num den| ≤ 1 / 2 := by
  have near := roundDiv_spec (unscaled_pos positive num (exponentFor num den))
    (unscaled num den (exponentFor num den)).1
  rwa [unscaled_div positive] at near

/-- A rounded quotient is off by half a unit of its last digit at most. -/
theorem rounded_near (num : Nat) (positive : 0 < den) :
    |(rounded num den).value - num / den| ≤ 2 ^ exponentFor num den / 2 := by
  have near := roundedDigitsFor_spec num positive
  have unit : (0 : ℚ) < 2 ^ exponentFor num den := by positivity
  have scaled : (rounded num den).value - num / den =
      (roundedDigitsFor num den - num / den / 2 ^ exponentFor num den) *
        2 ^ exponentFor num den := by
    rw [rounded_value, sub_mul, div_mul_cancel₀ _ unit.ne']
  rw [scaled, abs_mul, abs_of_pos unit]
  calc _ ≤ 1 / 2 * (2 : ℚ) ^ exponentFor num den := mul_le_mul_of_nonneg_right near unit.le
    _ = _ := by ring

variable (nonzero : num ≠ 0) (positive : 0 < den)

include nonzero positive

/-- There is no double as large as `2 ^ 1024`. -/
theorem nearest_eq_none (large : (2 : ℚ) ^ (1024 : Int) ≤ num / den) : nearest num den = none := by
  have high := (freeExponent_spec nonzero positive).2
  have exponent : (1024 : Int) < freeExponent num den + 53 :=
    (zpow_lt_zpow_iff_right₀ one_lt_two).1 (large.trans_lt high)
  have beyond : 971 < exponentFor num den := by
    rw [exponentFor_eq]
    omega
  rw [nearest_eq nonzero, if_pos]
  rw [rounded]
  split
  · show 971 < exponentFor num den + 1
    omega
  · exact beyond

/-- Below the last double with a digit less there is one. -/
theorem nearest_eq_some (small : (num : ℚ) / den ≤ largest) :
    nearest num den = some (rounded num den) := by
  have low := (freeExponent_spec nonzero positive).1
  have below : (num : ℚ) / den < 2 ^ (1024 : Int) := small.trans_lt largest_lt
  have exponent : freeExponent num den + 52 < (1024 : Int) :=
    (zpow_lt_zpow_iff_right₀ one_lt_two).1 (low.trans_lt below)
  have within : exponentFor num den ≤ 971 := by
    rw [exponentFor_eq]
    omega
  rw [nearest_eq nonzero, if_neg]
  rw [rounded, not_lt]
  split
  next more =>
    show exponentFor num den + 1 ≤ 971
    by_contra last
    have top : exponentFor num den = 971 := by omega
    -- At the last exponent, digits that need one more would be off by more than one half.
    have near := roundedDigitsFor_spec num positive
    rw [more, twoTo_cast, top] at near
    have digits : (num : ℚ) / den / 2 ^ (971 : Int) ≤ 2 ^ 53 - 1 :=
      (div_le_iff₀ (by positivity)).2 small
    have := (abs_le.1 near).2
    linarith
  next => exact within

/-- A rounded quotient is off by the part `2 ^ -53` of it at most, if it is not too small. -/
theorem rounded_relative (normal : (2 : ℚ) ^ (-1022 : Int) ≤ num / den) :
    |(rounded num den).value - num / den| ≤ num / den / 2 ^ 53 := by
  obtain ⟨low, high⟩ := freeExponent_spec nonzero positive
  have exponent : (-1022 : Int) < freeExponent num den + 53 :=
    (zpow_lt_zpow_iff_right₀ one_lt_two).1 (normal.trans_lt high)
  have free : exponentFor num den = freeExponent num den := by
    rw [exponentFor_eq]
    omega
  refine (rounded_near num positive).trans ?_
  have scaled : (2 : ℚ) ^ (freeExponent num den + 52) = 2 ^ freeExponent num den * 2 ^ 52 := by
    rw [zpow_add₀ two_ne_zero]
    rfl
  rw [scaled] at low
  rw [free, div_le_div_iff₀ two_pos (by positivity)]
  calc _ = (2 : ℚ) ^ freeExponent num den * 2 ^ 52 * 2 := by ring
    _ ≤ _ := mul_le_mul_of_nonneg_right low two_pos.le

theorem rounded_le : (rounded num den).value ≤ 2 * (num / den) + 1 := by
  have nonneg : (0 : ℚ) ≤ num / den := by positivity
  rcases le_or_gt ((2 : ℚ) ^ (-1022 : Int)) (num / den) with normal | tiny
  · have near := (abs_le.1 (rounded_relative nonzero positive normal)).2
    have part : (num : ℚ) / den / 2 ^ 53 ≤ num / den := div_le_self nonneg (by norm_num)
    linarith
  · have near := (abs_le.1 (rounded_near num positive)).2
    have small : freeExponent num den + 52 < (-1022 : Int) := (zpow_lt_zpow_iff_right₀ one_lt_two).1
      ((freeExponent_spec nonzero positive).1.trans_lt tiny)
    have exponent : exponentFor num den ≤ 0 := by
      rw [exponentFor_eq]
      omega
    have unit : (2 : ℚ) ^ exponentFor num den ≤ 1 := zpow_le_one_of_nonpos₀ one_le_two exponent
    linarith

omit nonzero in
/-- What the nearest double is like. -/
theorem nearest_spec (small : (num : ℚ) / den ≤ largest) :
    ∃ d, nearest num den = some d ∧ d.value ≤ 2 * (num / den) + 1 ∧
      ((2 : ℚ) ^ (-1022 : Int) ≤ num / den → |d.value - num / den| ≤ num / den / 2 ^ 53) := by
  rcases eq_or_ne num 0 with rfl | nonzero
  · refine ⟨zero, rfl, ?_, fun normal => ?_⟩
    · simp [value, zero]
    · simp [value, zero]
  · exact ⟨_, nearest_eq_some nonzero positive small, rounded_le nonzero positive,
      rounded_relative nonzero positive⟩

end

/-! ### Products and quotients -/

theorem ratio_pos (d : Double) : 0 < d.ratio.2 := by
  unfold ratio
  split
  · exact Nat.one_pos
  · exact Nat.two_pow_pos _

theorem ratio_div (d : Double) : (d.ratio.1 : ℚ) / d.ratio.2 = d.value := by
  unfold ratio value
  split
  next up =>
    obtain ⟨n, hn⟩ := Int.eq_ofNat_of_zero_le up
    rw [hn, Int.toNat_natCast, Nat.cast_mul, twoTo_cast, zpow_natCast, Nat.cast_one, div_one]
  next down =>
    obtain ⟨n, hn⟩ := Int.eq_ofNat_of_zero_le (by omega : 0 ≤ -d.exponent)
    have back : d.exponent = -(n : Int) := by omega
    rw [hn, Int.toNat_natCast, twoTo_cast, back, zpow_neg, zpow_natCast, div_eq_mul_inv]

section

variable (a b : Double)

theorem quotient_mul : ((a.ratio.1 * b.ratio.1 : Nat) : ℚ) / (a.ratio.2 * b.ratio.2 : Nat) =
    a.value * b.value := by
  rw [Nat.cast_mul, Nat.cast_mul, mul_div_mul_comm, ratio_div, ratio_div]

theorem quotient_div : ((a.ratio.1 * b.ratio.2 : Nat) : ℚ) / (a.ratio.2 * b.ratio.1 : Nat) =
    a.value / b.value := by
  rw [Nat.cast_mul, Nat.cast_mul, mul_div_mul_comm, ratio_div, ← inv_div, ratio_div]
  rfl

/-- A product that is small enough has a nearest double. -/
theorem exists_mul (small : a.value * b.value ≤ largest) :
    ∃ d, a.mul b = some d := by
  rw [← quotient_mul] at small
  obtain ⟨d, found, -⟩ := nearest_spec (Nat.mul_pos a.ratio_pos b.ratio_pos) small
  exact ⟨d, found⟩

theorem mul_eq_none (large : (2 : ℚ) ^ (1024 : Int) ≤ a.value * b.value) : a.mul b = none := by
  rw [← quotient_mul] at large
  refine nearest_eq_none (fun none => ?_) (Nat.mul_pos a.ratio_pos b.ratio_pos) large
  rw [none, Nat.cast_zero, zero_div] at large
  exact absurd large (by simp)

/-- A quotient of a number that is not too large has a nearest double, which is not much larger. -/
theorem exists_div (positive : 0 < b.value)
    (small : a.value / b.value ≤ largest) :
    ∃ d, a.div b = some d ∧ d.value ≤ 2 * (a.value / b.value) + 1 := by
  have divisor : 0 < b.ratio.1 := by
    refine Nat.pos_of_ne_zero fun none => ?_
    rw [← ratio_div, none, Nat.cast_zero, zero_div] at positive
    exact lt_irrefl _ positive
  rw [← quotient_div] at small ⊢
  obtain ⟨d, found, bound, -⟩ := nearest_spec (Nat.mul_pos a.ratio_pos divisor) small
  exact ⟨d, found, bound⟩

end

/-! ### Decimal numbers -/

/-- An integer that is not too large is off by the part `2 ^ -53` at most as a double. -/
theorem exists_nearest_natCast {n : Nat} (nonzero : n ≠ 0) (small : n ≤ tenTo 308) :
    ∃ d, nearest n 1 = some d ∧ |d.value - n| ≤ n / 2 ^ 53 := by
  have one : (n : ℚ) / (1 : Nat) = n := by rw [Nat.cast_one, div_one]
  obtain ⟨d, found, -, near⟩ := nearest_spec Nat.one_pos (one ▸ natCast_le_largest small)
  rw [one] at near
  refine ⟨d, found, near ?_⟩
  calc (2 : ℚ) ^ (-1022 : Int) ≤ 1 := zpow_le_one_of_nonpos₀ one_le_two (by decide)
    _ ≤ n := by exact_mod_cast Nat.one_le_iff_ne_zero.2 nonzero

theorem exists_powerOfTen {k : Nat} (small : k ≤ 308) :
    ∃ d, powerOfTen k = some d ∧ |d.value - 10 ^ k| ≤ 10 ^ k / 2 ^ 53 := by
  have nonzero : tenTo k ≠ 0 := (Nat.pow_pos (by decide : 0 < 10)).ne'
  obtain ⟨d, found, near⟩ := exists_nearest_natCast nonzero (tenTo_le_tenTo small)
  rw [tenTo_cast] at near
  exact ⟨d, found, near⟩

/-- Powers of ten are at least a half as doubles. -/
theorem half_le_of_near {k : Nat} {d : Double} (near : |d.value - 10 ^ k| ≤ 10 ^ k / 2 ^ 53) :
    1 / 2 ≤ d.value := by
  have one : (1 : ℚ) ≤ 10 ^ k := one_le_pow₀ (by norm_num)
  have low := (abs_le.1 near).1
  linarith

theorem pow_le_largest {n : Nat} (h : n ≤ 1001) : (2 : ℚ) ^ n ≤ largest := by
  calc (2 : ℚ) ^ n ≤ 2 ^ (30 + 971 : Int) := by
        rw [← zpow_natCast]
        exact zpow_le_zpow_right₀ one_le_two (by omega)
    _ = 2 ^ (30 : Int) * 2 ^ (971 : Int) := zpow_add₀ two_ne_zero _ _
    _ ≤ largest := mul_le_mul_of_nonneg_right (by norm_num) (by positivity)

/-- A double that is not too large can be divided by a power of ten. -/
theorem isSome_shrink {steps n : Nat} {d : Double} {k : Nat} (bound : d.value + 1 ≤ 2 ^ n)
    (room : n + 2 * steps ≤ 1002) : (shrink steps d k).isSome = true := by
  induction steps generalizing n d k with
  | zero => rfl
  | succ steps ih =>
      have nonneg := d.value_nonneg
      have quotient {p : Double} (half : 1 / 2 ≤ p.value) : d.value / p.value ≤ 2 * d.value := by
        rw [div_le_iff₀ (by linarith)]
        nlinarith
      have fits : 2 * d.value ≤ largest := by
        refine le_trans ?_ (pow_le_largest (by omega : n + 1 ≤ 1001))
        rw [pow_succ]
        linarith
      have divided {k : Nat} (small : k ≤ 308) : ∃ p d', powerOfTen k = some p ∧
          d.div p = some d' ∧ d'.value + 1 ≤ 2 ^ (n + 2) := by
        obtain ⟨p, found, near⟩ := exists_powerOfTen small
        have half := half_le_of_near near
        obtain ⟨d', divided, bound'⟩ := exists_div d p (by linarith) ((quotient half).trans fits)
        refine ⟨p, d', found, divided, ?_⟩
        have := quotient half
        rw [pow_add]
        linarith
      rw [shrink]
      split
      next small =>
        obtain ⟨p, d', found, divided, -⟩ := divided small
        simp [found, divided]
      next =>
        obtain ⟨p, d', found, divided, bound'⟩ := divided (Nat.le_refl 308)
        simp [found, divided, ih bound' (by omega)]

section

variable {significand : Nat} {exponent : Int} (nonzero : significand ≠ 0)
  (fits : significand < UInt64.size)

include nonzero fits

theorem exists_nearest_significand : ∃ d, nearest significand 1 = some d ∧ d ≠ zero ∧
    |d.value - significand| ≤ significand / 2 ^ 53 := by
  have small : significand ≤ tenTo 308 :=
    (fits.le.trans (by decide : UInt64.size ≤ tenTo 20)).trans (tenTo_le_tenTo (by decide))
  obtain ⟨d, found, near⟩ := exists_nearest_natCast nonzero small
  refine ⟨d, found, ?_, near⟩
  rintro rfl
  have one : (1 : ℚ) ≤ significand := by exact_mod_cast Nat.one_le_iff_ne_zero.2 nonzero
  have low := (abs_le.1 near).1
  rw [show zero.value = 0 by simp [value, zero]] at low
  linarith

/-- With a power below zero there is always a double. -/
theorem isSome_ofDecimal_of_neg {exponent : Int} (negative : exponent < 0) :
    (ofDecimal significand exponent).isSome = true := by
  obtain ⟨d, found, other, near⟩ := exists_nearest_significand nonzero fits
  have bound : d.value + 1 ≤ 2 ^ 66 := by
    have limit : (significand : ℚ) ≤ 2 ^ 64 := by exact_mod_cast fits.le
    have high := (abs_le.1 near).2
    linarith
  have range : ¬ 308 < exponent := by omega
  have below : ¬ 0 ≤ exponent := by omega
  simp [ofDecimal, found, other, range, below, isSome_shrink bound]

/-- With a power above 308 there is none. -/
theorem ofDecimal_of_lt {k : Nat} (beyond : 308 < k) : ofDecimal significand k = none := by
  obtain ⟨d, found, other, -⟩ := exists_nearest_significand nonzero fits
  have range : 308 < (k : Int) := by omega
  simp [ofDecimal, found, other, range]

/-- The rounded product of a significand and a power of ten is close to the exact one. -/
theorem exists_ofDecimal_mul {k : Nat} (small : k ≤ 308) : ∃ d p : Double,
    ofDecimal significand k = d.mul p ∧
      d.value * p.value ≤ significand * 10 ^ k * (1 + 1 / 2 ^ 53) ^ 2 ∧
      significand * 10 ^ k * (1 - 1 / 2 ^ 53) ^ 2 ≤ d.value * p.value := by
  obtain ⟨d, found, other, near⟩ := exists_nearest_significand nonzero fits
  obtain ⟨p, power, nearPower⟩ := exists_powerOfTen small
  have nonneg : (0 : ℚ) ≤ significand := by positivity
  have powerPos : (0 : ℚ) < 10 ^ k := by positivity
  obtain ⟨low, high⟩ := abs_le.1 near
  obtain ⟨lowPower, highPower⟩ := abs_le.1 nearPower
  refine ⟨d, p, ?_, ?_, ?_⟩
  · have range : ¬ (308 : Int) < k := by omega
    simp [ofDecimal, found, other, range, power]
  · calc d.value * p.value
        ≤ (significand * (1 + 1 / 2 ^ 53)) * (10 ^ k * (1 + 1 / 2 ^ 53)) :=
          mul_le_mul (by linarith) (by linarith) p.value_nonneg (by positivity)
      _ = _ := by ring
  · calc significand * 10 ^ k * (1 - 1 / 2 ^ 53 : ℚ) ^ 2
        = (significand * (1 - 1 / 2 ^ 53)) * (10 ^ k * (1 - 1 / 2 ^ 53)) := by ring
      _ ≤ d.value * p.value :=
          mul_le_mul (by linarith) (by linarith) (by norm_num) d.value_nonneg

omit nonzero in
/-- A decimal number that is clearly below `2 ^ 1024` is in range. -/
theorem isSome_ofDecimal (small : (significand : ℚ) * 10 ^ exponent ≤
    2 ^ (1024 : Int) * (1 - 1 / 2 ^ 51)) : (ofDecimal significand exponent).isSome = true := by
  rcases eq_or_ne significand 0 with rfl | nonzero
  · rfl
  rcases lt_or_ge exponent 0 with negative | positive
  · exact isSome_ofDecimal_of_neg nonzero fits negative
  · obtain ⟨k, rfl⟩ := Int.eq_ofNat_of_zero_le positive
    rw [zpow_natCast] at small
    rcases le_or_gt k 308 with inRange | beyond
    · obtain ⟨d, p, product, high, -⟩ := exists_ofDecimal_mul nonzero fits inRange
      have bound : d.value * p.value ≤ largest := by
        calc d.value * p.value ≤ significand * 10 ^ k * (1 + 1 / 2 ^ 53) ^ 2 := high
          _ ≤ 2 ^ (1024 : Int) * (1 - 1 / 2 ^ 51) * (1 + 1 / 2 ^ 53) ^ 2 :=
            mul_le_mul_of_nonneg_right small (by positivity)
          _ = 2 ^ 53 * (1 - 1 / 2 ^ 51) * (1 + 1 / 2 ^ 53) ^ 2 * 2 ^ (971 : Int) := by
            rw [zpow_1024]
            ring
          _ ≤ largest := mul_le_mul_of_nonneg_right (by norm_num) (by positivity)
      obtain ⟨_, found⟩ := exists_mul d p bound
      rw [product, found]
      rfl
    · have one : (1 : ℚ) ≤ significand := by exact_mod_cast Nat.one_le_iff_ne_zero.2 nonzero
      have power : (10 : ℚ) ^ k ≤ significand * 10 ^ k :=
        le_mul_of_one_le_left (by positivity) one
      have below : (2 : ℚ) ^ (1024 : Int) * (1 - 1 / 2 ^ 51) ≤ 2 ^ (1024 : Int) :=
        mul_le_of_le_one_right (by positivity) (by norm_num)
      exact absurd (power.trans (small.trans below)) (zpow_1024_lt beyond).not_ge

omit nonzero in
theorem isSome_ofDecimal_zero : (ofDecimal significand 0).isSome = true := by
  have limit : (significand : ℚ) ≤ 2 ^ 64 := by exact_mod_cast fits.le
  refine isSome_ofDecimal fits ?_
  calc (significand : ℚ) * 10 ^ (0 : Int) ≤ 2 ^ 64 := by rwa [zpow_zero, mul_one]
    _ = 2 ^ (65 : Int) * (1 / 2) := by norm_num
    _ ≤ 2 ^ (1024 : Int) * (1 - 1 / 2 ^ 51) :=
      mul_le_mul (zpow_le_zpow_right₀ one_le_two (by decide)) (by norm_num) (by norm_num)
        (by positivity)

omit nonzero in
/-- A decimal number that is clearly beyond `2 ^ 1024` is out of range. -/
theorem ofDecimal_eq_none (large : (2 : ℚ) ^ (1024 : Int) * (1 + 1 / 2 ^ 51) ≤
    significand * 10 ^ exponent) : ofDecimal significand exponent = none := by
  have nonzero : significand ≠ 0 := by
    rintro rfl
    have positive : (0 : ℚ) < 2 ^ (1024 : Int) * (1 + 1 / 2 ^ 51) := by positivity
    rw [Nat.cast_zero, zero_mul] at large
    exact absurd large positive.not_ge
  rcases lt_or_ge exponent 0 with negative | positive
  · have part : (significand : ℚ) * 10 ^ exponent ≤ significand :=
      mul_le_of_le_one_right (by positivity) (zpow_le_one_of_nonpos₀ (by norm_num) negative.le)
    have limit : (significand : ℚ) < 2 ^ 64 := by exact_mod_cast fits
    have huge : (2 : ℚ) ^ 64 ≤ 2 ^ (1024 : Int) * (1 + 1 / 2 ^ 51) := by
      calc (2 : ℚ) ^ 64 ≤ 2 ^ (1024 : Int) := by
            rw [← zpow_natCast]
            exact zpow_le_zpow_right₀ one_le_two (by decide)
        _ ≤ _ := le_mul_of_one_le_right (by positivity) (by norm_num)
    exact absurd (huge.trans (large.trans part)) limit.not_ge
  · obtain ⟨k, rfl⟩ := Int.eq_ofNat_of_zero_le positive
    rw [zpow_natCast] at large
    rcases le_or_gt k 308 with inRange | beyond
    · obtain ⟨d, p, product, -, low⟩ := exists_ofDecimal_mul nonzero fits inRange
      rw [product]
      refine mul_eq_none d p ?_
      calc (2 : ℚ) ^ (1024 : Int)
          ≤ 2 ^ (1024 : Int) * ((1 + 1 / 2 ^ 51) * (1 - 1 / 2 ^ 53) ^ 2) :=
            le_mul_of_one_le_right (by positivity) (by norm_num)
        _ = 2 ^ (1024 : Int) * (1 + 1 / 2 ^ 51) * (1 - 1 / 2 ^ 53) ^ 2 := (mul_assoc _ _ _).symm
        _ ≤ significand * 10 ^ k * (1 - 1 / 2 ^ 53) ^ 2 :=
            mul_le_mul_of_nonneg_right large (by positivity)
        _ ≤ d.value * p.value := low
    · exact ofDecimal_of_lt nonzero fits beyond

end

end Rollout.Json.Double
