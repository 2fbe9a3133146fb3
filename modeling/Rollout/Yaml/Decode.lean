import Rollout.Data.Fields
import Rollout.Data.SortedSet
import Rollout.Text.Decimal
import Rollout.Yaml.Node

/-!
# Decoding YAML nodes

The type that is asked for decides what a scalar means. A text is any scalar as it is written. A
truth value or a number has to be plain, or a literal block that its tag says to be one. An optional
value is missing when it is a plain scalar that is empty or says null. An empty plain scalar also
stands for an empty list, map or record.

A record is a mapping whose keys are texts. Unknown keys are passed over with whatever they hold; a
known key that occurs twice is refused. In a map the last of repeated keys counts.
-/

namespace Rollout.Yaml

namespace Document

variable {α : Type}

def standardTag (name : String) : String := "tag:yaml.org,2002:" ++ name

def text? (d : Document) (n : Node) : Option String :=
  match d.resolve n with
  | .scalar text _ _ => some text
  | _ => none

/-- The text of a scalar that may be of a type that is no text. -/
def typedText? (d : Document) (type : String) (n : Node) : Option String :=
  match d.resolve n with
  | .scalar text .plain _ => some text
  | .scalar text .literal tag => if tag = some (standardTag type) then some text else none
  | _ => none

def boolWord? (s : String) : Option Bool :=
  if s ∈ ["true", "True", "TRUE"] then some true
  else if s ∈ ["false", "False", "FALSE"] then some false
  else none

def bool? (d : Document) (n : Node) : Option Bool := do boolWord? (← d.typedText? "bool" n)

/-- The number that digits of a base write, if there are any. -/
def digitsOfBase? (base : Nat) (cs : List Char) : Option Nat := do
  let digits ← cs.mapM hexValue?
  if digits.isEmpty || digits.any (base ≤ ·) then none
  else return digits.foldl (fun n digit => base * n + digit) 0

/-- Whether a number begins with a zero that it does not need. -/
def hasLeadingZero : List Char → Bool
  | '0' :: c :: cs => (c :: cs).all Text.isDigit
  | _ => false

/-- The number that a text writes: after at most one plus sign, digits of the base that the text
names, or else decimal digits without a leading zero. -/
def numberText? (cs : List Char) : Option Nat :=
  match Text.dropPlus cs with
  | '0' :: 'x' :: digits => digitsOfBase? 16 digits
  | '0' :: 'o' :: digits => digitsOfBase? 8 digits
  | '0' :: 'b' :: digits => digitsOfBase? 2 digits
  | digits => if hasLeadingZero digits then none else Text.digits? digits

def nat? (d : Document) (bound : Nat) (n : Node) : Option Nat := do
  (numberText? (← d.typedText? "int" n).toList).filter (· < bound)

def nullWords : List String := ["null", "Null", "NULL", "~"]

/-- An optional value. A scalar that its tag says to be nothing has to say so itself. -/
def optional? (d : Document) (decode : Node → Option α) (n : Node) : Option (Option α) :=
  match d.resolve n with
  | .scalar text .plain none =>
      if text = "" ∨ text ∈ nullWords then some none else (decode n).map some
  | .scalar text .plain (some tag) =>
      if tag = standardTag "null" then (if text ∈ nullWords then some none else none)
      else (decode n).map some
  | _ => (decode n).map some

def items? (d : Document) (n : Node) : Option (List Node) :=
  match d.resolve n with
  | .sequence items => some items
  | .scalar "" .plain _ => some []
  | _ => none

def entries? (d : Document) (n : Node) : Option (List (Node × Node)) :=
  match d.resolve n with
  | .mapping entries => some entries
  | .scalar "" .plain _ => some []
  | _ => none

def list? (d : Document) (decode : Node → Option α) (n : Node) : Option (List α) := do
  (← d.items? n).mapM decode

def texts? (d : Document) (n : Node) : Option (List String) := d.list? d.text? n

def set? (d : Document) (n : Node) : Option SortedSet := (d.texts? n).map .ofList

/-- The members of a map or record: its entries by the texts of their keys. -/
def members? (d : Document) (n : Node) : Option (Members Node) :=
  (d.entries? n).map fun entries => entries.map fun e => (d.text? e.1, e.2)

def map? (d : Document) (decode : Node → Option α) (n : Node) : Option (SortedMap α) := do
  (← d.members? n).map? decode

def fields? (d : Document) (names : List String) (n : Node) : Option (Fields Node) := do
  (← d.members? n).fields? names

end Document

end Rollout.Yaml
