import Rollout.Text.Ranges

/-!
# Case tables

A case mapping moves most characters by a fixed distance along runs of code points, and a few
characters to several at once. `CaseShift` is one run; `shifted` looks a code point up.
-/

namespace Rollout.Text

/-- The code points `first`, `first + step`, …, `last`, each mapped `offset` further. -/
structure CaseShift where
  first : Nat
  last : Nat
  step : Nat
  offset : Int

def CaseShift.covers (run : CaseShift) (point : Nat) : Bool :=
  run.first ≤ point && point ≤ run.last && (point - run.first) % run.step == 0

/-- The image of a code point under the first run that covers it, itself if none does. -/
def shifted (runs : List CaseShift) (point : Nat) : Nat :=
  match runs.find? (·.covers point) with
  | some run => (point + run.offset).toNat
  | none => point

/-- The image of a character outside ASCII: its expansion if it has one, else its shift. -/
def mappedBy (expansions : List (Nat × List Nat)) (runs : List CaseShift) (c : Char) : List Char :=
  match expansions.lookup c.toNat with
  | some points => points.map Char.ofNat
  | none => [Char.ofNat (shifted runs c.toNat)]

end Rollout.Text
