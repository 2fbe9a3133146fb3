import Mathlib.Data.List.Induction
import Rollout.Data.SortedMap
import Rollout.Data.SortedSet

/-!
# Sets and maps made of lists

A set is made up again by its members, and a map by its entries in their order: an entry whose key
comes after all others is put last.
-/

namespace Rollout

namespace SortedSet

/-- A set is determined by its members. -/
theorem eq_of_mem_iff {s t : SortedSet} (same : ∀ x, x ∈ s ↔ x ∈ t) : s = t := by
  have perm : s.toList.Perm t.toList :=
    (List.perm_ext_iff_of_nodup s.nodup_toList t.nodup_toList).2 same
  refine ext (perm.eq_of_pairwise (fun x y _ _ below above => ?_) s.sorted t.sorted)
  exact absurd (String.lt_trans below above) (String.lt_irrefl x)

/-- The members of a set make it up again. -/
theorem ofList_toList (s : SortedSet) : ofList s.toList = s :=
  eq_of_mem_iff fun _ => mem_ofList

end SortedSet

namespace SortedMap

variable {α : Type}

theorem insertEntry_of_last {key : String} {value : α} {l : List (String × α)}
    (last : ∀ e ∈ l, e.1 < key) : insertEntry key value l = l ++ [(key, value)] := by
  induction l with
  | nil => rfl
  | cons entry rest ih =>
      have above : entry.1 < key := last entry List.mem_cons_self
      have notBelow : ¬ key < entry.1 := fun below =>
        String.lt_irrefl key (String.lt_trans below above)
      have different : key ≠ entry.1 := fun same => String.lt_irrefl key (same ▸ above)
      rw [insertEntry, if_neg notBelow, if_neg different,
        ih fun e he => last e (List.mem_cons_of_mem entry he), List.cons_append]

theorem entries_ofList {l : List (String × α)} (sorted : l.Pairwise fun a b => a.1 < b.1) :
    (ofList l).entries = l := by
  induction l using List.reverseRecOn with
  | nil => rfl
  | append_singleton l entry ih =>
      obtain ⟨before, -, last⟩ := List.pairwise_append.1 sorted
      have made : (ofList (l ++ [entry])).entries =
          insertEntry entry.1 entry.2 (ofList l).entries := by
        rw [ofList, List.foldl_append]
        rfl
      rw [made, ih before]
      exact insertEntry_of_last fun e he => last e he entry List.mem_cons_self

/-- The entries of a map make it up again. -/
theorem ofList_entries (m : SortedMap α) : ofList m.entries = m :=
  ext (entries_ofList m.sorted)

end SortedMap

end Rollout
