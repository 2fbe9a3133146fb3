import Rollout.Json.Value

/-!
# JSON documents as written

`Document` is the syntax tree of a JSON text: it keeps repeated names, numbers as their digits and
strings as code points, among them the halves of surrogate pairs that an escape may leave without
its other half. Whether such a text stands for a value is a second question: `meaning?` refuses a
number beyond the range of a double, a half of a pair, and more than a given number of nested arrays
and objects.

The number of digits that count is bounded: the significand takes digits while it fits 64 bits, and
the digits of the whole part after that only shift the point.
-/

namespace Rollout.Json

structure NumberText where
  negative : Bool
  whole : List Char
  fraction : List Char
  power : Option (Bool × List Char)
  deriving DecidableEq, Repr

/-- A JSON text as written. -/
inductive Document where
  | null
  | bool (value : Bool)
  | num (digits : NumberText)
  | str (points : List Nat)
  | arr (items : List Document)
  | obj (members : List (List Nat × Document))
  deriving Inhabited, Repr

/-- Appends digits to a significand while it fits 64 bits; the digits left over come second. -/
def fitDigits (significand : Nat) : List Char → Nat × List Char
  | [] => (significand, [])
  | c :: cs =>
      let next := 10 * significand + (c.toNat - 48)
      if next < UInt64.size then fitDigits next cs else (significand, c :: cs)

def digitsNumber (cs : List Char) : Nat := cs.foldl (fun n c => 10 * n + (c.toNat - 48)) 0

def NumberText.value? (t : NumberText) : Option Number :=
  let whole := fitDigits 0 t.whole
  if t.fraction.isEmpty && t.power.isNone && whole.2.isEmpty then
    if !t.negative then some (.int whole.1)
    else if 0 < whole.1 ∧ whole.1 ≤ UInt64.size / 2 then some (.int (-whole.1))
    else (Double.ofDecimal whole.1 0).map (.real true)
  else
    let all := fitDigits whole.1 t.fraction
    let places : Int := whole.2.length - (t.fraction.length - all.2.length : Nat)
    let power : Int := match t.power with
      | none => 0
      | some (negative, digits) =>
          if negative then -(digitsNumber digits : Int) else digitsNumber digits
    (Double.ofDecimal all.1 (places + power)).map (.real t.negative)

/-- Whether a code point is half of a surrogate pair. -/
def isHalf (point : Nat) : Bool := 0xD800 ≤ point && point ≤ 0xDFFF

def pointsText? (points : List Nat) : Option String :=
  if points.any isHalf then none else some (String.ofList (points.map Char.ofNat))

mutual

/-- The value of a document with at most `depth` levels of arrays and objects. -/
def Document.meaning? (depth : Nat) : Document → Option Json
  | .null => some .null
  | .bool b => some (.bool b)
  | .num t => t.value?.map .num
  | .str points => (pointsText? points).map .str
  | .arr items => if depth = 0 then none else (itemsMeaning? (depth - 1) items).map .arr
  | .obj members => if depth = 0 then none else (membersMeaning? (depth - 1) members).map .obj

def itemsMeaning? (depth : Nat) : List Document → Option (List Json)
  | [] => some []
  | d :: rest => do return (← d.meaning? depth) :: (← itemsMeaning? depth rest)

def membersMeaning? (depth : Nat) : List (List Nat × Document) → Option (List (String × Json))
  | [] => some []
  | (name, d) :: rest => do
      return (← pointsText? name, ← d.meaning? depth) :: (← membersMeaning? depth rest)

end

end Rollout.Json
