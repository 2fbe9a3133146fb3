import Rollout.Json.Double

/-!
# JSON values

The value that a JSON document stands for. An integer keeps its 64 bits; any other number is a
double with a sign. The members of an object are listed as they were put there, and a name that
occurs again counts with its last value, so `get?` looks from the end.
-/

namespace Rollout

namespace Json

inductive Number where
  | int (value : Int)
  | real (negative : Bool) (magnitude : Double)
  deriving DecidableEq, Repr

def Number.render : Number → String
  | .int value => toString value
  | .real negative magnitude => (if negative then "-" else "") ++ magnitude.render

end Json

inductive Json where
  | null
  | bool (value : Bool)
  | num (value : Json.Number)
  | str (value : String)
  | arr (items : List Json)
  | obj (members : List (String × Json))
  deriving Inhabited, Repr

namespace Json

def nat (n : Nat) : Json := .num (.int n)

def strings (l : List String) : Json := .arr (l.map .str)

def string? : Option String → Json
  | some s => .str s
  | none => .null

/-- The value of the last member with a name. -/
def get? (name : String) : Json → Option Json
  | .obj members => members.reverse.lookup name
  | _ => none

def text? : Json → Option String
  | .str s => some s
  | _ => none

end Json

end Rollout
