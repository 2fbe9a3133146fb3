/-!
# Decimal numbers

A number in a setting, a table or a command line is written in ASCII digits, after at most one plus
sign; leading zeros are allowed, and what is not below the bound of its kind is refused as a text
that is no number is. `decimal?` reads one and `Nat.repr` writes one.
-/

namespace Rollout.Text

def isDigit (c : Char) : Bool := '0' ≤ c && c ≤ '9'

def digitValue (c : Char) : Nat := c.toNat - 48

def tenTo (n : Nat) : Nat := Nat.pow 10 n

def digitsValue (cs : List Char) : Nat := cs.foldl (fun n c => 10 * n + digitValue c) 0

def digits? (cs : List Char) : Option Nat :=
  if cs ≠ [] ∧ cs.all isDigit = true then some (digitsValue cs) else none

def dropPlus : List Char → List Char
  | '+' :: cs => cs
  | cs => cs

/-- The number below `bound` that a text writes. -/
def decimal? (bound : Nat) (cs : List Char) : Option Nat :=
  (digits? (dropPlus cs)).filter (· < bound)

end Rollout.Text
