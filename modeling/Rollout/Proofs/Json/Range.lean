import Rollout.Json.Document
import Rollout.Proofs.Json.Rounding

/-!
# The range of numbers

Not all digits of a number are read, but the ones that are left out make a small part of it
(`NumberText.near`). So a number is in range if it is below `2 ^ 1024` and out of range if it is
not, but for a small part around that limit (`NumberText.inRange_of_magnitude_le`,
`NumberText.not_inRange_of_le_magnitude`).
-/

namespace Rollout.Json

open Nat (ofDigitChars)

theorem digit_le {c : Char} (h : c.isDigit = true) : c.toNat - 48 ≤ 9 := by
  have := (Char.isDigit_iff_toNat.1 h).2
  simp at this
  omega

/-- Digits behind a number are less than one more at its end. -/
theorem ofDigitChars_bounds {cs : List Char} (digits : ∀ c ∈ cs, c.isDigit = true) (s : Nat) :
    s * 10 ^ cs.length ≤ ofDigitChars 10 cs s ∧
      ofDigitChars 10 cs s < (s + 1) * 10 ^ cs.length := by
  induction cs generalizing s with
  | nil => simp [Nat.ofDigitChars_nil]
  | cons c cs ih =>
      obtain ⟨first, rest⟩ := List.forall_mem_cons.1 digits
      obtain ⟨low, high⟩ := ih rest (10 * s + (c.toNat - 48))
      have digit := digit_le first
      rw [Nat.ofDigitChars_cons, List.length_cons, Nat.pow_succ']
      constructor
      · refine le_trans ?_ low
        rw [← Nat.mul_assoc]
        exact Nat.mul_le_mul_right _ (by omega)
      · refine high.trans_le ?_
        rw [← Nat.mul_assoc]
        exact Nat.mul_le_mul_right _ (by omega)

/-- What a significand takes up are the first digits, and all of them if it stays short. -/
theorem fitDigits_spec {cs : List Char} (digits : ∀ c ∈ cs, c.isDigit = true) {s : Nat}
    (fits : s < UInt64.size) : ∃ used, cs = used ++ (fitDigits s cs).2 ∧
      (fitDigits s cs).1 = ofDigitChars 10 used s ∧ (fitDigits s cs).1 < UInt64.size ∧
      ((fitDigits s cs).2 = [] ∨ 2 ^ 60 ≤ (fitDigits s cs).1) := by
  induction cs generalizing s with
  | nil => exact ⟨[], rfl, rfl, fits, .inl rfl⟩
  | cons c cs ih =>
      obtain ⟨first, rest⟩ := List.forall_mem_cons.1 digits
      rw [fitDigits]
      split
      next room =>
        obtain ⟨used, split, number, below, long⟩ := ih rest room
        exact ⟨c :: used, congrArg (c :: ·) split, number, below, long⟩
      next full =>
        have digit := digit_le first
        refine ⟨[], rfl, rfl, fits, .inr ?_⟩
        have : UInt64.size = 2 ^ 64 := rfl
        omega

/-- The digits that are read and the others are the digits of the number. -/
theorem ofDigitChars_fitDigits (s : Nat) (cs rest : List Char) : ofDigitChars 10 (cs ++ rest) s =
    ofDigitChars 10 ((fitDigits s cs).2 ++ rest) (fitDigits s cs).1 := by
  induction cs generalizing s with
  | nil => rfl
  | cons c cs ih =>
      rw [fitDigits]
      split
      next => exact ih _
      next => rfl

namespace NumberText

/-- The power of ten that a number is multiplied by. -/
def scale (t : NumberText) : Int :=
  match t.power with
  | none => 0
  | some (negative, digits) =>
      if negative then -(digitsNumber digits : Int) else digitsNumber digits

def magnitude (t : NumberText) : ℚ :=
  digitsNumber (t.whole ++ t.fraction) * 10 ^ (t.scale - t.fraction.length)

/-- A number is not beyond the range of a double. -/
def InRange (t : NumberText) : Prop := t.value?.isSome = true

instance (t : NumberText) : Decidable t.InRange := inferInstanceAs (Decidable (_ = true))

/-- The digits of the whole part that are read, as a number, and the others. -/
def front (t : NumberText) : Nat × List Char := fitDigits 0 t.whole

/-- The digits that are read, as a number, and the others of the fraction. -/
def taken (t : NumberText) : Nat × List Char := fitDigits t.front.1 t.fraction

/-- The power of ten of the last digit that is read. -/
def place (t : NumberText) : Int :=
  t.front.2.length - (t.fraction.length - t.taken.2.length : Nat) + t.scale

theorem value?_eq (t : NumberText) : t.value? =
    if t.fraction.isEmpty && t.power.isNone && t.front.2.isEmpty then
      if !t.negative then some (.int t.front.1)
      else if 0 < t.front.1 ∧ t.front.1 ≤ UInt64.size / 2 then some (.int (-t.front.1))
      else (Double.ofDecimal t.front.1 0).map (.real true)
    else (Double.ofDecimal t.taken.1 t.place).map (.real t.negative) := rfl

/-! ### The digits that are left out -/

/-- Digits behind a number, at a power of ten. -/
theorem scaled_bounds {cs : List Char} (digits : ∀ c ∈ cs, c.isDigit = true) (s : Nat) {e e' : Int}
    (shift : cs.length + e = e') : (s : ℚ) * 10 ^ e' ≤ ofDigitChars 10 cs s * 10 ^ e ∧
      (ofDigitChars 10 cs s : ℚ) * 10 ^ e ≤ (s + 1) * 10 ^ e' := by
  obtain ⟨low, high⟩ := ofDigitChars_bounds digits s
  have low : (s : ℚ) * 10 ^ cs.length ≤ ofDigitChars 10 cs s := by exact_mod_cast low
  have high : (ofDigitChars 10 cs s : ℚ) ≤ (s + 1) * 10 ^ cs.length := by exact_mod_cast high.le
  have power : (10 : ℚ) ^ e' = 10 ^ cs.length * 10 ^ e := by
    rw [← shift, zpow_add₀ (by norm_num), zpow_natCast]
  rw [power, ← mul_assoc, ← mul_assoc]
  exact ⟨mul_le_mul_of_nonneg_right low (by positivity),
    mul_le_mul_of_nonneg_right high (by positivity)⟩

/-- Neither of two numbers is much larger than the other. -/
def Near (a b : ℚ) : Prop := a ≤ b * (1 + 1 / 2 ^ 60) ∧ b ≤ a * (1 + 1 / 2 ^ 60)

theorem Near.refl {a : ℚ} (nonneg : 0 ≤ a) : Near a a :=
  have least : a ≤ a * (1 + 1 / 2 ^ 60) := le_mul_of_one_le_right nonneg (by norm_num)
  ⟨least, least⟩

/-- Numbers that begin with the same long digits are near. -/
theorem near_of_common {s : Nat} {e : Int} {a b : ℚ} (long : 2 ^ 60 ≤ s)
    (first : (s : ℚ) * 10 ^ e ≤ a ∧ a ≤ (s + 1) * 10 ^ e)
    (second : (s : ℚ) * 10 ^ e ≤ b ∧ b ≤ (s + 1) * 10 ^ e) : Near a b := by
  have long : (2 : ℚ) ^ 60 ≤ s := by exact_mod_cast long
  have least {a b : ℚ} (low : (s : ℚ) * 10 ^ e ≤ b) (high : a ≤ (s + 1) * 10 ^ e) :
      a ≤ b * (1 + 1 / 2 ^ 60) := by
    calc a ≤ (s + 1) * 10 ^ e := high
      _ ≤ s * (1 + 1 / 2 ^ 60) * 10 ^ e :=
        mul_le_mul_of_nonneg_right (by linarith) (by positivity)
      _ = s * 10 ^ e * (1 + 1 / 2 ^ 60) := by ring
      _ ≤ b * (1 + 1 / 2 ^ 60) := mul_le_mul_of_nonneg_right low (by norm_num)
  exact ⟨least second.1 first.2, least first.1 second.2⟩

section

variable (t : NumberText)

theorem magnitude_nonneg : 0 ≤ t.magnitude := by
  unfold magnitude
  positivity

theorem magnitude_eq_front : t.magnitude =
    ofDigitChars 10 (t.front.2 ++ t.fraction) t.front.1 * 10 ^ (t.scale - t.fraction.length) :=
  congrArg (fun n : Nat => (n : ℚ) * _) (ofDigitChars_fitDigits 0 t.whole t.fraction)

theorem magnitude_eq_taken (short : t.front.2 = []) : t.magnitude =
    ofDigitChars 10 t.taken.2 t.taken.1 * 10 ^ (t.scale - t.fraction.length) := by
  have read := ofDigitChars_fitDigits t.front.1 t.fraction []
  rw [List.append_nil, List.append_nil] at read
  rw [magnitude_eq_front, short, List.nil_append, read]
  rfl

end

variable {t : NumberText} (whole : ∀ c ∈ t.whole, c.isDigit = true)
  (fraction : ∀ c ∈ t.fraction, c.isDigit = true)

include whole in
theorem front_lt : t.front.1 < UInt64.size :=
  have ⟨_, _, _, fits, _⟩ := fitDigits_spec whole (by decide : 0 < UInt64.size)
  fits

include whole fraction

theorem taken_lt : t.taken.1 < UInt64.size :=
  have ⟨_, _, _, fits, _⟩ := fitDigits_spec fraction (front_lt whole)
  fits

/-- Where the whole part is read, the digits left out are at the end of the fraction. -/
theorem near_of_short (short : t.front.2 = []) :
    Near (t.taken.1 * 10 ^ t.place) t.magnitude := by
  obtain ⟨used, split, -, -, rest⟩ := fitDigits_spec fraction (front_lt whole)
  rw [← taken] at split rest
  have lengths : t.fraction.length = used.length + t.taken.2.length := by
    rw [← List.length_append, ← split]
  have place : t.taken.2.length + (t.scale - t.fraction.length) = t.place := by
    rw [NumberText.place, short, List.length_nil]
    omega
  have magnitude := t.magnitude_eq_taken short
  rcases rest with none | long
  · have exact : t.magnitude = t.taken.1 * 10 ^ t.place := by
      rw [magnitude, ← place, none, Nat.ofDigitChars_nil, List.length_nil, Nat.cast_zero, zero_add]
    rw [← exact]
    exact .refl t.magnitude_nonneg
  · have digits : ∀ c ∈ t.taken.2, c.isDigit = true := fun c hc =>
      fraction c (split ▸ List.mem_append_right _ hc)
    have bounds := scaled_bounds digits t.taken.1 place
    rw [← magnitude] at bounds
    refine near_of_common long ⟨le_rfl, ?_⟩ bounds
    exact mul_le_mul_of_nonneg_right (by linarith) (by positivity)

/-- Where the whole part is long enough, the digits left out are at its end and in the fraction. -/
theorem near_of_long (long : 2 ^ 60 ≤ t.front.1) :
    Near (t.taken.1 * 10 ^ t.place) t.magnitude := by
  obtain ⟨first, split, -, -, -⟩ := fitDigits_spec whole (by decide : 0 < UInt64.size)
  obtain ⟨used, split', number, -, -⟩ := fitDigits_spec fraction (front_lt whole)
  rw [← front] at split
  rw [← taken] at split' number
  have lengths : t.fraction.length = used.length + t.taken.2.length := by
    rw [← List.length_append, ← split']
  have place : used.length + t.place = t.front.2.length + t.scale := by
    rw [NumberText.place]
    omega
  have place' : (t.front.2 ++ t.fraction).length + (t.scale - t.fraction.length) =
      t.front.2.length + t.scale := by
    rw [List.length_append]
    omega
  have digits : ∀ c ∈ used, c.isDigit = true := fun c hc =>
    fraction c (split' ▸ List.mem_append_left _ hc)
  have digits' : ∀ c ∈ t.front.2 ++ t.fraction, c.isDigit = true :=
    List.forall_mem_append.2 ⟨fun c hc => whole c (split ▸ List.mem_append_right _ hc), fraction⟩
  have bounds := scaled_bounds digits t.front.1 place
  have bounds' := scaled_bounds digits' t.front.1 place'
  rw [← number] at bounds
  rw [← magnitude_eq_front] at bounds'
  exact near_of_common long bounds bounds'

/-- The digits that are read are nearly the number. -/
theorem near : Near (t.taken.1 * 10 ^ t.place) t.magnitude := by
  have ⟨_, _, _, _, rest⟩ := fitDigits_spec whole (by decide : 0 < UInt64.size)
  exact rest.elim (near_of_short whole fraction) (near_of_long whole fraction)

/-! ### Numbers in range -/

omit fraction in
/-- A number is in range if and only if a double is found for the digits that are read. -/
theorem inRange_iff : t.InRange ↔ (Double.ofDecimal t.taken.1 t.place).isSome = true := by
  rw [InRange, value?_eq]
  split
  next integer =>
    simp only [Bool.and_eq_true, List.isEmpty_iff, Option.isNone_iff_eq_none] at integer
    obtain ⟨⟨point, power⟩, rest⟩ := integer
    have taken : t.taken = (t.front.1, []) := by
      rw [NumberText.taken, point]
      rfl
    have place : t.place = 0 := by
      simp [NumberText.place, rest, point, taken, scale, power]
    have found := Double.isSome_ofDecimal_zero (front_lt whole)
    rw [taken, place]
    refine iff_of_true ?_ found
    split_ifs
    · rfl
    · rfl
    · rw [Option.isSome_map, found]
  next => rw [Option.isSome_map]

/-- A number that is clearly below `2 ^ 1024` is in range. -/
theorem inRange_of_magnitude_le (small : t.magnitude ≤ 2 ^ (1024 : Int) * (1 - 1 / 2 ^ 50)) :
    t.InRange := by
  rw [inRange_iff whole]
  refine Double.isSome_ofDecimal (taken_lt whole fraction) ?_
  calc (t.taken.1 : ℚ) * 10 ^ t.place ≤ t.magnitude * (1 + 1 / 2 ^ 60) := (near whole fraction).1
    _ ≤ 2 ^ (1024 : Int) * (1 - 1 / 2 ^ 50) * (1 + 1 / 2 ^ 60) :=
      mul_le_mul_of_nonneg_right small (by norm_num)
    _ = 2 ^ (1024 : Int) * ((1 - 1 / 2 ^ 50) * (1 + 1 / 2 ^ 60)) := mul_assoc _ _ _
    _ ≤ 2 ^ (1024 : Int) * (1 - 1 / 2 ^ 51) :=
      mul_le_mul_of_nonneg_left (by norm_num) (by positivity)

/-- A number that is clearly beyond `2 ^ 1024` is out of range. -/
theorem not_inRange_of_le_magnitude (large : 2 ^ (1024 : Int) * (1 + 1 / 2 ^ 50) ≤ t.magnitude) :
    ¬ t.InRange := by
  have read : 2 ^ (1024 : Int) * (1 + 1 / 2 ^ 51) ≤ (t.taken.1 : ℚ) * 10 ^ t.place := by
    refine le_of_mul_le_mul_right ?_ (by norm_num : (0 : ℚ) < 1 + 1 / 2 ^ 60)
    calc (2 : ℚ) ^ (1024 : Int) * (1 + 1 / 2 ^ 51) * (1 + 1 / 2 ^ 60)
        = 2 ^ (1024 : Int) * ((1 + 1 / 2 ^ 51) * (1 + 1 / 2 ^ 60)) := mul_assoc _ _ _
      _ ≤ 2 ^ (1024 : Int) * (1 + 1 / 2 ^ 50) :=
        mul_le_mul_of_nonneg_left (by norm_num) (by positivity)
      _ ≤ t.magnitude := large
      _ ≤ t.taken.1 * 10 ^ t.place * (1 + 1 / 2 ^ 60) := (near whole fraction).2
  rw [inRange_iff whole, Double.ofDecimal_eq_none (taken_lt whole fraction) read]
  exact Bool.false_ne_true

end NumberText

end Rollout.Json
