import Rollout.Json.Value
import Rollout.Proofs.Data.Fields
import Rollout.Proofs.Json.Text
import Rollout.Yaml.Decode

/-!
# Values as YAML

JSON is a part of YAML. A value is a document without anchors: its strings and names are quoted, so
that they are texts whatever they say, and its numbers and words are plain. What is decoded from
such a document is what it was made of, piece by piece: a number below a bound is read back from its
digits, since these begin with a zero for zero alone.
-/

namespace Rollout.Yaml

namespace Node

mutual

def ofValue : Json → Node
  | .null => .scalar "null" .plain none
  | .bool true => .scalar "true" .plain none
  | .bool false => .scalar "false" .plain none
  | .num n => .scalar n.render .plain none
  | .str s => .scalar s .doubleQuoted none
  | .arr items => .sequence (ofItems items)
  | .obj members => .mapping (ofMembers members)

def ofItems : List Json → List Node
  | [] => []
  | j :: rest => ofValue j :: ofItems rest

def ofMembers : List (String × Json) → List (Node × Node)
  | [] => []
  | (name, j) :: rest => (.scalar name .doubleQuoted none, ofValue j) :: ofMembers rest

end

theorem ofItems_eq_map (items : List Json) : ofItems items = items.map ofValue := by
  induction items with
  | nil => rfl
  | cons j rest ih => rw [ofItems, ih, List.map_cons]

theorem ofMembers_eq_map (members : List (String × Json)) :
    ofMembers members =
      members.map fun m => (.scalar m.1 .doubleQuoted none, ofValue m.2) := by
  induction members with
  | nil => rfl
  | cons m rest ih => rw [ofMembers, ih, List.map_cons]

end Node

def Document.ofValue (j : Json) : Document := ⟨.ofValue j, []⟩

namespace Document

/-! ### Numbers -/

theorem hasLeadingZero_toDigits (n : Nat) : hasLeadingZero (Nat.toDigits 10 n) = false := by
  unfold hasLeadingZero
  split
  next c cs digits =>
    rcases Nat.eq_zero_or_pos n with rfl | positive
    · cases digits
    · exact absurd (by rw [digits]; rfl) (Json.head?_toDigits_ne_zero positive)
  · rfl

theorem numberText?_of_digits {cs : List Char} (digits : ∀ c ∈ cs, c.isDigit = true)
    (unpadded : hasLeadingZero cs = false) : numberText? cs = Text.digits? cs := by
  have unsigned : Text.dropPlus cs = cs := by
    unfold Text.dropPlus
    split
    · exact absurd (digits '+' List.mem_cons_self) (by decide)
    · rfl
  rw [numberText?, unsigned]
  split
  · exact absurd (digits 'x' (by simp)) (by decide)
  · exact absurd (digits 'o' (by simp)) (by decide)
  · exact absurd (digits 'b' (by simp)) (by decide)
  · rw [unpadded]
    rfl

theorem isDigit_of_mem_repr {n : Nat} {c : Char} (h : c ∈ n.repr.toList) : c.isDigit = true := by
  rw [Nat.toList_repr] at h
  exact Json.isDigit_of_mem_toDigits h

theorem numberText?_repr (n : Nat) : numberText? n.repr.toList = some n := by
  rw [numberText?_of_digits fun c => isDigit_of_mem_repr]
  · have digits : (Nat.toDigits 10 n).all Text.isDigit = true :=
      List.all_eq_true.2 fun c => Json.isDigit_of_mem_toDigits
    have value : Text.digitsValue (Nat.toDigits 10 n) = n :=
      Nat.ofDigitChars_toDigits (by omega) (by omega)
    rw [Nat.toList_repr, Text.digits?, if_pos ⟨Nat.toDigits_ne_nil, digits⟩, value]
  · rw [Nat.toList_repr]
    exact hasLeadingZero_toDigits n

/-- A number does not say that there is nothing. -/
theorem repr_ne_null (n : Nat) : ¬ (n.repr = "" ∨ n.repr ∈ nullWords) := by
  rintro (empty | null)
  · have none : n.repr.toList = [] := by rw [empty]; rfl
    rw [Nat.toList_repr] at none
    exact Nat.toDigits_ne_nil none
  · have apart : ∀ word ∈ nullWords, word.toList.all Char.isDigit = false := by decide +kernel
    have digits : n.repr.toList.all Char.isDigit = true :=
      List.all_eq_true.2 fun c => isDigit_of_mem_repr
    rw [apart _ null] at digits
    cases digits

/-! ### Decoding -/

variable {α : Type} {d : Document} {decode : Node → Option α} {encode : α → Json}

@[simp] theorem text?_str (s : String) : d.text? (.ofValue (.str s)) = some s := rfl

@[simp] theorem bool?_bool (b : Bool) : d.bool? (.ofValue (.bool b)) = some b := by
  cases b <;> rfl

theorem nat?_nat {n bound : Nat} (below : n < bound) :
    d.nat? bound (.ofValue (Json.nat n)) = some n := by
  have read : d.nat? bound (.ofValue (Json.nat n)) =
      (numberText? n.repr.toList).filter (· < bound) := rfl
  rw [read, numberText?_repr]
  simp [below]

@[simp] theorem optional?_null : d.optional? decode (.ofValue .null) = some none := rfl

@[simp] theorem optional?_str (s : String) :
    d.optional? decode (.ofValue (.str s)) = (decode (.ofValue (.str s))).map some := rfl

theorem optional?_nat (n : Nat) : d.optional? decode (.ofValue (Json.nat n)) =
    (decode (.ofValue (Json.nat n))).map some :=
  if_neg (repr_ne_null n)

theorem list?_arr (back : ∀ x, decode (.ofValue (encode x)) = some x) (l : List α) :
    d.list? decode (.ofValue (.arr (l.map encode))) = some l := by
  have items : d.items? (.ofValue (.arr (l.map encode))) =
      some (l.map fun x => .ofValue (encode x)) := by
    rw [Node.ofValue, Node.ofItems_eq_map, List.map_map]
    rfl
  rw [list?, items]
  exact mapM_encoded back l

@[simp] theorem texts?_strings (l : List String) :
    d.texts? (.ofValue (Json.strings l)) = some l :=
  list?_arr text?_str l

@[simp] theorem set?_strings (s : SortedSet) :
    d.set? (.ofValue (Json.strings s.toList)) = some s := by
  rw [set?, texts?_strings, Option.map_some, SortedSet.ofList_toList]

theorem members?_obj (members : List (String × Json)) :
    d.members? (.ofValue (.obj members)) =
      some (members.map fun m => (some m.1, .ofValue m.2)) := by
  have entries : d.entries? (.ofValue (.obj members)) =
      some (members.map fun m => (.scalar m.1 .doubleQuoted none, .ofValue m.2)) := by
    rw [Node.ofValue, Node.ofMembers_eq_map]
    rfl
  rw [members?, entries, Option.map_some, List.map_map]
  rfl

theorem map?_obj (back : ∀ x, decode (.ofValue (encode x)) = some x) (m : SortedMap α) :
    d.map? decode (.ofValue (.obj (m.map encode).entries)) = some m := by
  rw [map?, members?_obj, SortedMap.map, List.map_map]
  exact Members.map?_encoded back m

theorem fields?_obj {names : List String} {members : List (String × Json)}
    (different : (members.map (·.1)).Nodup) (known : ∀ m ∈ members, m.1 ∈ names) :
    d.fields? names (.ofValue (.obj members)) =
      some (members.map fun m => (m.1, .ofValue m.2)) := by
  have labels : (members.map fun m => (m.1, Node.ofValue m.2)).map (·.1) = members.map (·.1) := by
    rw [List.map_map]
    rfl
  have fields : Members.fields? names _ = some (members.map fun m => (m.1, Node.ofValue m.2)) :=
    Members.fields?_of_known (labels ▸ different) (List.forall_mem_map.2 known)
  rw [List.map_map] at fields
  rw [fields?, members?_obj]
  exact fields

end Document

end Rollout.Yaml
