import Mathlib.Data.List.DropRight
import Rollout.Text.Blank

/-!
# Slashes behind a text

An address may be given with slashes at its end, which do not count. A text that is given so is
another that ends in no slash, and that text is found again.
-/

namespace Rollout.Text

/-- A text is another that ends in no slash, with slashes behind it or not. -/
structure WithSlashes (s base : String) : Prop where
  ends : base.toList.getLast? ≠ some '/'
  slashes : ∃ slashes : String, s = base ++ slashes ∧ ∀ c ∈ slashes.toList, c = '/'

variable {s base : String}

theorem dropEndWhile_eq_rdropWhile (p : Char → Bool) (cs : List Char) :
    dropEndWhile p cs = cs.rdropWhile p := rfl

theorem withSlashes_withoutSlashes (s : String) : WithSlashes s (withoutSlashes s) where
  ends := by
    rw [withoutSlashes, String.toList_ofList, dropEndWhile_eq_rdropWhile]
    intro last
    have some : s.toList.rdropWhile (· = '/') ≠ [] := by
      intro none
      simp [none] at last
    have other := List.rdropWhile_last_not (· = '/') s.toList some
    rw [List.getLast?_eq_some_getLast some, Option.some_inj] at last
    exact other (decide_eq_true last)
  slashes := by
    refine ⟨String.ofList (s.toList.rtakeWhile (· = '/')), String.toList_inj.1 ?_, ?_⟩
    · simp [withoutSlashes, dropEndWhile_eq_rdropWhile]
    · rw [String.toList_ofList]
      intro c hc
      simpa using List.mem_rtakeWhile_imp hc

theorem WithSlashes.withoutSlashes_eq (h : WithSlashes s base) : withoutSlashes s = base := by
  obtain ⟨slashes, rfl, all⟩ := h.slashes
  have dropped : slashes.toList.reverse.dropWhile (· = '/') = [] := by
    simpa [List.dropWhile_eq_nil_iff] using all
  have kept : base.toList.reverse.dropWhile (· = '/') = base.toList.reverse := by
    rw [List.dropWhile_eq_self_iff]
    intro some first
    apply h.ends
    rw [List.getLast?_eq_head?_reverse, List.head?_eq_getElem?, List.getElem?_eq_getElem some]
    exact congrArg _ (of_decide_eq_true first)
  apply String.toList_inj.1
  simp [withoutSlashes, dropEndWhile, List.dropWhile_append, dropped, kept]

end Rollout.Text
