/-!
# Sorted sets of strings

A set is the strictly ascending list of its members. Inserting a member that is there already
changes nothing.
-/

namespace Rollout

/-- Strings in strictly ascending order. -/
structure SortedSet where
  toList : List String
  sorted : toList.Pairwise (· < ·)

namespace SortedSet

theorem ext {s t : SortedSet} (h : s.toList = t.toList) : s = t := by
  cases s; cases t; simp_all

instance : DecidableEq SortedSet := fun s t =>
  decidable_of_iff (s.toList = t.toList) ⟨ext, fun h => h ▸ rfl⟩

def empty : SortedSet := ⟨[], .nil⟩

instance : EmptyCollection SortedSet := ⟨empty⟩
instance : Inhabited SortedSet := ⟨empty⟩

instance : Membership String SortedSet := ⟨fun s x => x ∈ s.toList⟩

instance (x : String) (s : SortedSet) : Decidable (x ∈ s) :=
  inferInstanceAs (Decidable (x ∈ s.toList))

def insertMember (x : String) : List String → List String
  | [] => [x]
  | y :: rest => if x < y then x :: y :: rest else if x = y then y :: rest
      else y :: insertMember x rest

@[simp] theorem mem_insertMember {x z : String} {l : List String} :
    z ∈ insertMember x l ↔ z = x ∨ z ∈ l := by
  induction l with
  | nil => simp [insertMember]
  | cons y rest ih =>
      rw [insertMember]
      split
      · simp
      · split
        next heq => simp [heq]
        · simp [ih, or_left_comm]

theorem sorted_insertMember (x : String) {l : List String} (h : l.Pairwise (· < ·)) :
    (insertMember x l).Pairwise (· < ·) := by
  induction l with
  | nil => simp [insertMember]
  | cons y rest ih =>
      have hrest := List.pairwise_cons.1 h
      rw [insertMember]
      split
      next hlt =>
        refine List.pairwise_cons.2 ⟨fun z hz => ?_, h⟩
        rcases List.mem_cons.1 hz with rfl | hz
        · exact hlt
        · exact String.lt_trans hlt (hrest.1 z hz)
      next hlt =>
        split
        · exact h
        next hne =>
          refine List.pairwise_cons.2 ⟨fun z hz => ?_, ih hrest.2⟩
          rcases mem_insertMember.1 hz with rfl | hz
          · rcases Std.lt_trichotomy z y with h | h | h
            · exact absurd h hlt
            · exact absurd h hne
            · exact h
          · exact hrest.1 z hz

def insert (s : SortedSet) (x : String) : SortedSet :=
  ⟨insertMember x s.toList, sorted_insertMember x s.sorted⟩

def ofList (l : List String) : SortedSet := l.foldl insert empty

def singleton (x : String) : SortedSet := ⟨[x], by simp⟩

def contains (s : SortedSet) (x : String) : Bool := decide (x ∈ s)

@[simp] theorem mem_insert {s : SortedSet} {x z : String} : z ∈ s.insert x ↔ z = x ∨ z ∈ s :=
  mem_insertMember

theorem mem_ofList {l : List String} {z : String} : z ∈ ofList l ↔ z ∈ l := by
  suffices h : ∀ s : SortedSet, z ∈ l.foldl insert s ↔ z ∈ s ∨ z ∈ l by
    rw [ofList, h]
    exact or_iff_right (List.not_mem_nil (a := z))
  induction l with
  | nil => simp
  | cons x l ih => intro s; simp [ih, or_assoc, or_left_comm]

theorem nodup_toList (s : SortedSet) : s.toList.Nodup :=
  s.sorted.imp fun {a b} (h : a < b) (heq : a = b) => String.lt_irrefl b (heq ▸ h)

end SortedSet

end Rollout
