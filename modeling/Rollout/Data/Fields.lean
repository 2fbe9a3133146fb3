import Rollout.Data.SortedMap

/-!
# Members and fields

A document lists members under labels, and what a member holds is decoded once it is known what it
has to be. A record takes the members with the names of its fields: unknown labels are passed over
with whatever they hold, a known one that occurs twice is refused, and a field that may be missing
takes its default. A map takes all the members. In both every label has to be a text.
-/

namespace Rollout

/-- The members that a document lists. A label need not be a text. -/
abbrev Members (δ : Type) := List (Option String × δ)

abbrev Fields (δ : Type) := List (String × δ)

variable {δ α : Type}

namespace Members

/-- The members with these names, unless one of them is repeated. -/
def fields? (names : List String) : Members δ → Option (Fields δ)
  | [] => some []
  | (label, d) :: rest => do
      let name ← label
      let fields ← fields? names rest
      if name ∈ names then
        if (fields.lookup name).isSome then none else some ((name, d) :: fields)
      else some fields

def map? (decode : δ → Option α) (members : Members δ) : Option (SortedMap α) :=
  (members.mapM fun (m : Option String × δ) => do return (← m.1, ← decode m.2)).map .ofList

end Members

namespace Fields

def need (fields : Fields δ) (name : String) (decode : δ → Option α) : Option α := do
  decode (← fields.lookup name)

def withDefault (fields : Fields δ) (name : String) (unset : α) (decode : δ → Option α) :
    Option α :=
  match fields.lookup name with
  | none => some unset
  | some d => decode d

end Fields

end Rollout
