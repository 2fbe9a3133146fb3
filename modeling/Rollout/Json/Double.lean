import Rollout.Text.Decimal

/-!
# Double precision

A number with a fraction or an exponent, and an integer of more than 64 bits, is held as a double:
`mantissa * 2 ^ exponent` with at most 53 bits in the mantissa and an exponent from -1074 on.
`nearest` rounds a quotient to the nearest double, a tie to the even one, and has no answer above
the largest. Signs are kept beside a double, not in it.
-/

namespace Rollout.Json

open Text (tenTo)

def twoTo (n : Nat) : Nat := Nat.pow 2 n

/-- A double that is not negative: `mantissa * 2 ^ exponent`. -/
structure Double where
  mantissa : Nat
  exponent : Int
  deriving DecidableEq, Repr

namespace Double

def zero : Double := ⟨0, 0⟩

/-- The quotient of two numbers, rounded to the nearest integer and a tie to the even one. -/
def roundDiv (num den : Nat) : Nat :=
  let floor := num / den
  let rest := num % den
  if den < 2 * rest ∨ (2 * rest = den ∧ floor % 2 = 1) then floor + 1 else floor

/-- Numerator and denominator of `num / den / 2 ^ exponent`. -/
def unscaled (num den : Nat) (exponent : Int) : Nat × Nat :=
  if 0 ≤ exponent then (num, den * twoTo exponent.toNat) else (num * twoTo (-exponent).toNat, den)

/-- The exponent at which the quotient has 53 bits before the point, or the least one. -/
def exponentFor (num den : Nat) : Int :=
  let guess : Int := num.log2 - den.log2 - 53
  let q := unscaled num den guess
  max (if twoTo 53 ≤ q.1 / q.2 then guess + 1 else guess) (-1074)

def nearest (num den : Nat) : Option Double :=
  if num = 0 then some zero
  else
    let e := exponentFor num den
    let q := unscaled num den e
    let m := roundDiv q.1 q.2
    let rounded : Double := if m = twoTo 53 then ⟨twoTo 52, e + 1⟩ else ⟨m, e⟩
    if 971 < rounded.exponent then none else some rounded

def ratio (d : Double) : Nat × Nat :=
  if 0 ≤ d.exponent then (d.mantissa * twoTo d.exponent.toNat, 1)
  else (d.mantissa, twoTo (-d.exponent).toNat)

def mul (a b : Double) : Option Double :=
  nearest (a.ratio.1 * b.ratio.1) (a.ratio.2 * b.ratio.2)

def div (a b : Double) : Option Double :=
  nearest (a.ratio.1 * b.ratio.2) (a.ratio.2 * b.ratio.1)

def powerOfTen (k : Nat) : Option Double := nearest (tenTo k) 1

/-- A double divided by ten to the `k`, in steps of at most 308 with a rounding after each. Three
steps bring any 64-bit number to zero, so no more are made. -/
def shrink (steps : Nat) (d : Double) (k : Nat) : Option Double :=
  match steps with
  | 0 => some zero
  | steps + 1 =>
      if k ≤ 308 then do d.div (← powerOfTen k)
      else do shrink steps (← d.div (← powerOfTen 308)) (k - 308)

/-- The double that a significand and a power of ten stand for: the significand is rounded first,
then its product or quotient with the power. Nothing when the result is out of range. -/
def ofDecimal (significand : Nat) (exponent : Int) : Option Double := do
  let d ← nearest significand 1
  if d = zero then some zero
  else if 308 < exponent then none
  else if 0 ≤ exponent then d.mul (← powerOfTen exponent.toNat)
  else shrink 3 d (-exponent).toNat

/-- The digits of a number and the power of ten of its last digit, when the number is rounded to
`count` digits. -/
def roundedDigits (d : Double) (count : Nat) : Nat × Int :=
  let r := d.ratio
  let whole := r.1 / r.2
  let magnitude : Int :=
    if whole = 0 then 1 - ((Nat.repr (r.2 / r.1)).length : Int) else (Nat.repr whole).length
  let place := magnitude - count
  let digits :=
    if 0 ≤ place then roundDiv r.1 (r.2 * tenTo place.toNat)
    else roundDiv (r.1 * tenTo (-place).toNat) r.2
  (digits, place)

/-- Whether a decimal number reads as the given double. -/
def readsBack (d : Double) (decimal : Nat × Int) : Bool :=
  let back :=
    if 0 ≤ decimal.2 then nearest (decimal.1 * tenTo decimal.2.toNat) 1
    else nearest decimal.1 (tenTo (-decimal.2).toNat)
  back = some d

/-- The shortest decimal number that reads as the given double; 17 digits always do. -/
def shortest (d : Double) : Nat × Int :=
  match (List.range 17).find? fun n => d.readsBack (d.roundedDigits (n + 1)) with
  | some n => d.roundedDigits (n + 1)
  | none => d.roundedDigits 18

/-- A number without the zeros at its end, and the power of ten that makes up for them. -/
def dropZeros (fuel : Nat) (digits : Nat) (place : Int) : Nat × Int :=
  match fuel with
  | 0 => (digits, place)
  | fuel + 1 =>
      if digits % 10 = 0 then dropZeros fuel (digits / 10) (place + 1) else (digits, place)

/-- The text of a double: positional from 1e-5 up to 16 digits before the point, else with an
exponent. -/
def render (d : Double) : String :=
  if d.mantissa = 0 then "0.0"
  else
    let s := d.shortest
    let s := dropZeros 20 s.1 s.2
    let digits := (Nat.repr s.1).toList
    let point : Int := digits.length + s.2
    if 0 ≤ s.2 ∧ point ≤ 16 then
      String.ofList (digits ++ List.replicate s.2.toNat '0' ++ ['.', '0'])
    else if 0 < point ∧ point ≤ 16 then
      String.ofList (digits.take point.toNat ++ '.' :: digits.drop point.toNat)
    else if -5 < point ∧ point ≤ 0 then
      String.ofList (['0', '.'] ++ List.replicate (-point).toNat '0' ++ digits)
    else
      let tail := digits.drop 1
      String.ofList (digits.take 1 ++ (if tail.isEmpty then [] else '.' :: tail)) ++ "e" ++
        toString (point - 1)

end Double

end Rollout.Json
