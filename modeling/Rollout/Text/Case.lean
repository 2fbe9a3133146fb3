import Rollout.Text.Case.Context
import Rollout.Text.Case.Lower
import Rollout.Text.Case.Upper

/-!
# Case of a whole text

Lower-casing a text maps each of its characters by itself, but for the capital sigma, whose small
form depends on where it stands: `ς` at the end of a word and `σ` elsewhere. A sigma ends a word
when a cased character comes before it and none comes after it, ignorable characters passed over.
The text before the current character is carried along in reverse, so no index is needed.
-/

namespace Rollout.Text

/-- Whether the first character that is not ignorable is cased. -/
def meetsCased (cs : List Char) : Bool :=
  match cs.dropWhile isCaseIgnorable with
  | [] => false
  | c :: _ => isCased c

/-- The small sigma for the place between `before`, read backwards, and `after`. -/
def smallSigma (before after : List Char) : Char :=
  if meetsCased before && !meetsCased after then 'ς' else 'σ'

/-- The small form of a text that follows `before`, read backwards. -/
def lowerAfter (before : List Char) : List Char → List Char
  | [] => []
  | c :: rest =>
      (if c = 'Σ' then [smallSigma before rest] else lowercase c) ++ lowerAfter (c :: before) rest

@[simp] theorem lowerAfter_nil (before : List Char) : lowerAfter before [] = [] := rfl

theorem lowerAfter_cons_of_ne {c : Char} (h : c ≠ 'Σ') (before rest : List Char) :
    lowerAfter before (c :: rest) = lowercase c ++ lowerAfter (c :: before) rest := by
  simp [lowerAfter, h]

def lowered (s : String) : String := String.ofList (lowerAfter [] s.toList)

end Rollout.Text
