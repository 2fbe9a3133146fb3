import Rollout.Text.Alphanumeric
import Rollout.Text.Case

/-!
# Case of ASCII texts

On ASCII characters the case mappings give one character each and consult no table, and the context
of a sigma plays no part, so lower-casing a text maps its characters one by one. `SameUpToCase` says
that two texts become one when all their letters are made small.

A law of single characters is checked for each of the 128.
-/

namespace Rollout.Text

/-- A character below 128. -/
def IsAscii (c : Char) : Prop := c.val < 128

instance : DecidablePred IsAscii := fun c => inferInstanceAs (Decidable (c.val < 128))

/-- Two texts that differ at most in the case of their letters. -/
def SameUpToCase (cs ds : List Char) : Prop := cs.map Char.toLower = ds.map Char.toLower

instance (cs ds : List Char) : Decidable (SameUpToCase cs ds) :=
  inferInstanceAs (Decidable (cs.map Char.toLower = ds.map Char.toLower))

theorem SameUpToCase.length_eq {cs ds : List Char} (h : SameUpToCase cs ds) :
    cs.length = ds.length := by
  simpa using congrArg List.length h

/-! ### Single characters -/

variable {c : Char}

/-- What holds of the first 128 characters holds of every ASCII character. -/
theorem IsAscii.of_table {p : Char → Prop} (table : ∀ point < 128, p (Char.ofNat point))
    (h : IsAscii c) : p c := by
  have below : c.toNat < 128 := UInt32.lt_iff_toNat_lt.1 h
  have hc := table c.toNat below
  rwa [Char.ofNat_toNat] at hc

theorem lowercase_ascii (h : IsAscii c) : lowercase c = [c.toLower] := if_pos h

theorem uppercase_ascii (h : IsAscii c) : uppercase c = [c.toUpper] := if_pos h

theorem IsAscii.toLower (h : IsAscii c) : IsAscii c.toLower :=
  h.of_table (p := fun c => IsAscii c.toLower) (by decide)

theorem IsAscii.toUpper (h : IsAscii c) : IsAscii c.toUpper :=
  h.of_table (p := fun c => IsAscii c.toUpper) (by decide)

theorem toLower_toLower (h : IsAscii c) : c.toLower.toLower = c.toLower :=
  h.of_table (p := fun c => c.toLower.toLower = c.toLower) (by decide)

theorem toLower_toUpper (h : IsAscii c) : c.toUpper.toLower = c.toLower :=
  h.of_table (p := fun c => c.toUpper.toLower = c.toLower) (by decide)

theorem toUpper_toLower (h : IsAscii c) : c.toLower.toUpper = c.toUpper :=
  h.of_table (p := fun c => c.toLower.toUpper = c.toUpper) (by decide)

theorem isAlphanumeric_toLower (h : IsAscii c) : isAlphanumeric c.toLower = isAlphanumeric c :=
  h.of_table (p := fun c => isAlphanumeric c.toLower = isAlphanumeric c) (by decide)

/-- Only a letter has a small form other than itself. -/
theorem toLower_of_not_alphanumeric (h : IsAscii c) :
    isAlphanumeric c = false → c.toLower = c :=
  h.of_table (p := fun c => isAlphanumeric c = false → c.toLower = c) (by decide)

theorem toLower_eq_self_iff (h : IsAscii c) : c.toLower = c ↔ c.isUpper = false :=
  h.of_table (p := fun c => c.toLower = c ↔ c.isUpper = false) (by decide)

/-! ### Texts -/

theorem lowerAfter_ascii {cs : List Char} (h : ∀ c ∈ cs, IsAscii c) (before : List Char) :
    lowerAfter before cs = cs.map Char.toLower := by
  induction cs generalizing before with
  | nil => rfl
  | cons c cs ih =>
      obtain ⟨hc, hcs⟩ := List.forall_mem_cons.1 h
      have sigma : c ≠ 'Σ' := by
        rintro rfl
        exact absurd hc (by decide)
      rw [lowerAfter_cons_of_ne sigma, lowercase_ascii hc, ih hcs, List.map_cons,
        List.singleton_append]

/-- A text is its own small form exactly if it has no capital. -/
theorem map_toLower_eq_self_iff {cs : List Char} (h : ∀ c ∈ cs, IsAscii c) :
    cs.map Char.toLower = cs ↔ ∀ c ∈ cs, c.isUpper = false := by
  induction cs with
  | nil => simp
  | cons c cs ih =>
      obtain ⟨hc, hcs⟩ := List.forall_mem_cons.1 h
      rw [List.map_cons, List.cons.injEq, toLower_eq_self_iff hc, ih hcs, List.forall_mem_cons]

end Rollout.Text
