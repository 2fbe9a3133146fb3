import Rollout.Json.Decode
import Rollout.Proofs.Data.Fields

/-!
# Decoding values

A decoder of values reads an encoding back if it does so part by part: a list if it reads each item
back, a map each value, and a record each field.
-/

namespace Rollout

namespace Fields

variable {δ α : Type} [Json.Source δ] {fields : Fields δ} {label name : String} {d : δ}
  {decode : δ → Option α}

@[simp] theorem optional_cons : optional ((label, d) :: fields) name decode =
    if name = label then Json.Source.optional? decode d else optional fields name decode :=
  withDefault_cons

end Fields

namespace Json.Source

variable {α : Type} {encode : α → Json} {decode : Json → Option α}

theorem fields?_obj {names : List String} {least : Nat} {members : Fields Json}
    (different : (members.map (·.1)).Nodup) (known : ∀ m ∈ members, m.1 ∈ names) :
    fields? names least (Json.obj members) = some members :=
  Members.fields?_of_known different known

@[simp] theorem string?_str (s : String) : string? (Json.str s) = some s := rfl

@[simp] theorem bool?_bool (b : Bool) : bool? (Json.bool b) = some b := rfl

theorem nat?_nat {n bound : Nat} (below : n < bound) : nat? bound (Json.nat n) = some n := by
  have inRange : 0 ≤ (n : Int) ∧ (n : Int).toNat < bound := ⟨Int.natCast_nonneg n, below⟩
  exact if_pos inRange

@[simp] theorem value?_json (depth : Nat) (j : Json) : value? depth j = some j := rfl

@[simp] theorem optional?_null : optional? decode Json.null = some none := rfl

@[simp] theorem optional?_str (s : String) :
    optional? decode (Json.str s) = (decode (.str s)).map some := rfl

theorem list?_arr (back : ∀ x, decode (encode x) = some x) (l : List α) :
    list? decode (Json.arr (l.map encode)) = some l :=
  mapM_encoded back l

@[simp] theorem set?_strings (s : SortedSet) : set? (Json.strings s.toList) = some s := by
  have items : list? string? (Json.strings s.toList) = some s.toList := list?_arr string?_str _
  rw [set?, items, Option.map_some, SortedSet.ofList_toList]

theorem map?_obj (back : ∀ x, decode (encode x) = some x) (m : SortedMap α) :
    map? decode (Json.obj (m.map encode).entries) = some m := by
  have members : view (Json.obj (m.map encode).entries) =
      .obj (m.entries.map fun e => (some e.1, encode e.2)) := by
    simp [view, Json.view, SortedMap.map]
  rw [map?, members]
  exact Members.map?_encoded back m

end Json.Source

end Rollout
