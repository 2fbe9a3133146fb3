import Rollout.Data.Fields
import Rollout.Proofs.Data.Sorted

/-!
# Fields and members of what was encoded

A traversal reads a list back if it reads each item back, and the members of a map are read back in
the same way. The fields of a record are its members as they are listed when these are all known and
have different names; `need_cons` and `withDefault_cons` then find each field in its place.
-/

namespace Rollout

variable {δ α : Type} {names : List String} {label name : String}

/-- A traversal that reads every item back reads the list back. -/
theorem mapM_encoded {β : Type} {encode : α → β} {decode : β → Option α}
    (back : ∀ x, decode (encode x) = some x) (l : List α) :
    (l.map encode).mapM decode = some l := by
  have same : decode ∘ encode = fun x => pure x := funext back
  rw [List.mapM_map, same, List.mapM_pure, List.map_id']
  rfl

namespace Members

theorem fields?_of_known {fields : Fields δ} (different : (fields.map (·.1)).Nodup)
    (known : ∀ m ∈ fields, m.1 ∈ names) :
    fields? names (fields.map fun m => (some m.1, m.2)) = some fields := by
  induction fields with
  | nil => rfl
  | cons m rest ih =>
      obtain ⟨fresh, different⟩ := List.nodup_cons.1 different
      have absent : rest.lookup m.1 = none := by
        refine List.lookup_eq_none_iff.2 fun other hother => bne_iff_ne.2 fun same => ?_
        exact fresh (List.mem_map.2 ⟨other, hother, same.symm⟩)
      have others := ih different fun other hother => known other (List.mem_cons_of_mem m hother)
      have listed : m.1 ∈ names := known m List.mem_cons_self
      simp [fields?, others, listed, absent]

theorem map?_encoded {encode : α → δ} {decode : δ → Option α}
    (back : ∀ x, decode (encode x) = some x) (m : SortedMap α) :
    map? decode (m.entries.map fun e => (some e.1, encode e.2)) = some m := by
  have entries : (m.entries.map fun e => (some e.1, encode e.2)).mapM
      (fun (member : Option String × δ) => do return (← member.1, ← decode member.2)) =
        some m.entries :=
    mapM_encoded (fun e => by simp [back]) m.entries
  rw [map?, entries, Option.map_some, SortedMap.ofList_entries]

end Members

namespace Fields

variable {fields : Fields δ} {d : δ} {unset : α} {decode : δ → Option α}

@[simp] theorem need_cons : need ((label, d) :: fields) name decode =
    if name = label then decode d else need fields name decode := by
  rw [need, SortedMap.lookup_cons_eq]
  split
  · rfl
  · rfl

@[simp] theorem withDefault_cons : withDefault ((label, d) :: fields) name unset decode =
    if name = label then decode d else withDefault fields name unset decode := by
  rw [withDefault, SortedMap.lookup_cons_eq]
  by_cases same : name = label
  · rw [if_pos same, if_pos same]
  · rw [if_neg same, if_neg same]
    rfl

end Fields

end Rollout
