import Rollout.Data.Fields
import Rollout.Data.SortedSet
import Rollout.Json.Reader

/-!
# Decoding documents

A record is written as an object whose names are the names of its fields, or as an array of the
fields in their order. Unknown names are passed over with whatever they hold; a known name that
occurs twice is refused. A field that may be missing takes its default, and `null` stands for a
missing field only where the field is optional.

A decoder asks of a document no more than its `View`, so it reads a text as written and a value at
hand alike. What it keeps as a value counts the levels of nesting above it where the document is a
text, so a decoder of a whole record passes on how many are left; a value at hand has no such bound.
-/

namespace Rollout

namespace Json

/-- What can be seen of a document with parts of a kind. A string or a name need not be a text, and
a number need not be in range. -/
inductive View (δ : Type) where
  | null
  | bool (value : Bool)
  | num (value : Option Number)
  | str (text : Option String)
  | arr (items : List δ)
  | obj (members : Members δ)

/-- A kind of documents that can be decoded: what is seen of one, and the value that it stands for
with at most so many levels of arrays and objects. -/
class Source (δ : Type) where
  view : δ → View δ
  value? : (depth : Nat) → δ → Option Json

/-- What can be seen of a text as written. -/
def Document.view : Document → View Document
  | .null => .null
  | .bool b => .bool b
  | .num t => .num t.value?
  | .str points => .str (pointsText? points)
  | .arr items => .arr items
  | .obj members => .obj (members.map fun m => (pointsText? m.1, m.2))

def view : Json → View Json
  | .null => .null
  | .bool b => .bool b
  | .num n => .num (some n)
  | .str s => .str (some s)
  | .arr items => .arr items
  | .obj members => .obj (members.map fun m => (some m.1, m.2))

instance : Source Document := ⟨Document.view, Document.meaning?⟩

instance : Source Json := ⟨view, fun _ => some⟩

variable {δ α : Type} [Source δ]

namespace Source

/-- The fields with these names, in an object or in order in an array of `least` items or more. -/
def fields? (names : List String) (least : Nat) (d : δ) : Option (Fields δ) :=
  match view d with
  | .obj members => members.fields? names
  | .arr items =>
      if least ≤ items.length ∧ items.length ≤ names.length then some (names.zip items) else none
  | _ => none

def string? (d : δ) : Option String :=
  match view d with
  | .str text => text
  | _ => none

def bool? (d : δ) : Option Bool :=
  match view d with
  | .bool b => some b
  | _ => none

def nat? (bound : Nat) (d : δ) : Option Nat :=
  match view d with
  | .num (some (.int n)) => if 0 ≤ n ∧ n.toNat < bound then some n.toNat else none
  | _ => none

/-- A value that may be missing: `null` stands for nothing. -/
def optional? (decode : δ → Option α) (d : δ) : Option (Option α) :=
  match view d with
  | .null => some none
  | _ => (decode d).map some

def list? (decode : δ → Option α) (d : δ) : Option (List α) :=
  match view d with
  | .arr items => items.mapM decode
  | _ => none

def set? (d : δ) : Option SortedSet := (list? string? d).map .ofList

/-- A map, written as an object; of repeated names the last counts. -/
def map? (decode : δ → Option α) (d : δ) : Option (SortedMap α) :=
  match view d with
  | .obj members => members.map? decode
  | _ => none

end Source

end Json

def Fields.optional {δ α : Type} [Json.Source δ] (fields : Fields δ) (name : String)
    (decode : δ → Option α) : Option (Option α) :=
  fields.withDefault name none (Json.Source.optional? decode)

namespace Json

/-- The number as its digits, the way a writer lays it out. -/
def Number.digits (n : Number) : NumberText :=
  (numberText? n.render.toList).getD ⟨false, ['0'], [], none⟩

def stringPoints (s : String) : List Nat := s.toList.map Char.toNat

mutual

def toDocument : Json → Document
  | .null => .null
  | .bool b => .bool b
  | .num n => .num n.digits
  | .str s => .str (stringPoints s)
  | .arr items => .arr (toDocuments items)
  | .obj members => .obj (toMembers members)

def toDocuments : List Json → List Document
  | [] => []
  | j :: rest => toDocument j :: toDocuments rest

def toMembers : List (String × Json) → List (List Nat × Document)
  | [] => []
  | (name, j) :: rest => (stringPoints name, toDocument j) :: toMembers rest

end

end Json

end Rollout
