import Mathlib.Data.Nat.Digits.Defs
import Rollout.Text.Decimal

/-!
# The numbers that decimal texts write

A text writes a number with its decimal digits, the first of which counts most, and maybe with a
plus sign before them. These are the texts that are read, if the number is below the bound.
-/

namespace Rollout.Text

def Writes (n : Nat) (cs : List Char) : Prop :=
  ∃ digits, (cs = digits ∨ cs = '+' :: digits) ∧ digits ≠ [] ∧ (∀ d ∈ digits, isDigit d = true) ∧
    n = Nat.ofDigits 10 (digits.reverse.map digitValue)

theorem digitsValue_eq_ofDigits (cs : List Char) :
    digitsValue cs = Nat.ofDigits 10 (cs.reverse.map digitValue) := by
  rw [Nat.ofDigits_eq_foldr, List.foldr_map, List.foldr_reverse, digitsValue]
  simp only [Nat.add_comm, Nat.cast_id]

theorem digits?_eq_some_iff {cs : List Char} {n : Nat} :
    digits? cs = some n ↔ cs ≠ [] ∧ (∀ c ∈ cs, isDigit c = true) ∧
      n = Nat.ofDigits 10 (cs.reverse.map digitValue) := by
  rw [digits?, Option.ite_none_right_eq_some, List.all_eq_true, digitsValue_eq_ofDigits, and_assoc,
    Option.some.injEq, eq_comm]

theorem dropPlus_of_digits {cs : List Char} (digits : ∀ c ∈ cs, isDigit c = true) :
    dropPlus cs = cs := by
  unfold dropPlus
  split
  · exact absurd (digits '+' List.mem_cons_self) (by decide)
  · rfl

/-- What is read below a bound is a number below it that is written. -/
theorem decimal?_eq_some_iff {bound n : Nat} {cs : List Char} :
    decimal? bound cs = some n ↔ Writes n cs ∧ n < bound := by
  rw [decimal?, Option.filter_eq_some_iff, decide_eq_true_iff, digits?_eq_some_iff]
  refine and_congr_left fun _ => ?_
  constructor
  · rintro ⟨some, digits, value⟩
    refine ⟨dropPlus cs, ?_, some, digits, value⟩
    unfold dropPlus
    split
    · exact .inr rfl
    · exact .inl rfl
  · rintro ⟨digits, rfl | rfl, some, all, value⟩
    · rw [dropPlus_of_digits all]
      exact ⟨some, all, value⟩
    · exact ⟨some, all, value⟩

end Rollout.Text
