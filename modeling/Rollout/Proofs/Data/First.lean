import Rollout.Roles.Selection

/-!
# The first item of a kind

`FirstOf P l x` says that `x` is the first item of `l` of which `P` holds, and `Sooner P Q l` that
an item of which `P` holds comes before all those of which `Q` holds. Both are stated by a split of
the list and followed along it by their `_cons` lemmas; a list that is made by `filterMap` is read
in the list that it was made from.

`firstByKey` keeps the first item of each key, in the order in which the keys first occur.
-/

namespace Rollout

variable {α β : Type} {P Q : α → Prop} {l : List α} {x y : α}

/-- An item is the first one of a list of which something holds. -/
def FirstOf (P : α → Prop) (l : List α) (x : α) : Prop :=
  ∃ before after, l = before ++ x :: after ∧ P x ∧ ∀ y ∈ before, ¬ P y

/-- Something holds of an item of a list before something else holds of any. -/
def Sooner (P Q : α → Prop) (l : List α) : Prop :=
  ∃ before after, l = before ++ after ∧ (∃ x ∈ before, P x) ∧ ∀ x ∈ before, ¬ Q x

theorem not_firstOf_nil : ¬ FirstOf P [] x := by
  rintro ⟨before, after, h, -⟩
  simp at h

theorem firstOf_cons : FirstOf P (y :: l) x ↔ (P y ∧ x = y) ∨ (¬ P y ∧ FirstOf P l x) := by
  constructor
  · rintro ⟨before, after, hl, hx, hbefore⟩
    cases before with
    | nil =>
        obtain ⟨rfl, -⟩ := List.cons.inj hl
        exact .inl ⟨hx, rfl⟩
    | cons first before =>
        obtain ⟨rfl, rfl⟩ := List.cons.inj hl
        exact .inr ⟨hbefore y List.mem_cons_self, before, after, rfl, hx,
          fun z hz => hbefore z (List.mem_cons_of_mem _ hz)⟩
  · rintro (⟨hy, rfl⟩ | ⟨hy, before, after, rfl, hx, hbefore⟩)
    · exact ⟨[], l, rfl, hy, by simp⟩
    · exact ⟨y :: before, after, rfl, hx, List.forall_mem_cons.2 ⟨hy, hbefore⟩⟩

theorem FirstOf.mem (h : FirstOf P l x) : x ∈ l := by
  obtain ⟨before, after, rfl, -⟩ := h
  simp

theorem FirstOf.holds (h : FirstOf P l x) : P x := by
  obtain ⟨before, after, -, hx, -⟩ := h
  exact hx

theorem FirstOf.unique (hx : FirstOf P l x) (hy : FirstOf P l y) : x = y := by
  induction l with
  | nil => exact absurd hx not_firstOf_nil
  | cons z l ih =>
      rcases firstOf_cons.1 hx with ⟨hz, rfl⟩ | ⟨hz, hx⟩
      · rcases firstOf_cons.1 hy with ⟨-, rfl⟩ | ⟨hz', -⟩
        · rfl
        · exact absurd hz hz'
      · rcases firstOf_cons.1 hy with ⟨hz', -⟩ | ⟨-, hy⟩
        · exact absurd hz' hz
        · exact ih hx hy

theorem exists_firstOf (h : ∃ x ∈ l, P x) : ∃ x, FirstOf P l x := by
  induction l with
  | nil => simp at h
  | cons y l ih =>
      by_cases hy : P y
      · exact ⟨y, firstOf_cons.2 (.inl ⟨hy, rfl⟩)⟩
      · obtain ⟨x, hx⟩ := ih (by simpa [hy] using h)
        exact ⟨x, firstOf_cons.2 (.inr ⟨hy, hx⟩)⟩

theorem firstOf_filterMap {f : α → Option β} {P : β → Prop} {y : β} :
    FirstOf P (l.filterMap f) y ↔
      ∃ x, f x = some y ∧ FirstOf (fun x => ∃ y, f x = some y ∧ P y) l x := by
  induction l with
  | nil => simp [not_firstOf_nil]
  | cons z l ih =>
      cases hz : f z with
      | none => simp [firstOf_cons, hz, ih]
      | some w =>
          simp only [List.filterMap_cons_some hz, firstOf_cons, ih, hz, Option.some.injEq,
            exists_eq_left']
          constructor
          · rintro (⟨hw, rfl⟩ | ⟨hw, x, hx, hfirst⟩)
            · exact ⟨z, hz, .inl ⟨hw, rfl⟩⟩
            · exact ⟨x, hx, .inr ⟨hw, hfirst⟩⟩
          · rintro ⟨x, hx, ⟨hw, rfl⟩ | ⟨hw, hfirst⟩⟩
            · exact .inl ⟨hw, (Option.some.inj (hz.symm.trans hx)).symm⟩
            · exact .inr ⟨hw, x, hx, hfirst⟩

theorem not_sooner_nil : ¬ Sooner P Q [] := by
  rintro ⟨before, after, h, ⟨x, hx, -⟩, -⟩
  simp [(List.append_eq_nil_iff.1 h.symm).1] at hx

theorem sooner_cons : Sooner P Q (y :: l) ↔ ¬ Q y ∧ (P y ∨ Sooner P Q l) := by
  constructor
  · rintro ⟨before, after, hl, ⟨x, hx, hP⟩, hQ⟩
    cases before with
    | nil => simp at hx
    | cons first before =>
        obtain ⟨rfl, rfl⟩ := List.cons.inj hl
        obtain ⟨hy, hQ⟩ := List.forall_mem_cons.1 hQ
        refine ⟨hy, ?_⟩
        rcases List.mem_cons.1 hx with rfl | hx
        · exact .inl hP
        · exact .inr ⟨before, after, rfl, ⟨x, hx, hP⟩, hQ⟩
  · rintro ⟨hy, hP | ⟨before, after, rfl, ⟨x, hx, hP⟩, hQ⟩⟩
    · exact ⟨[y], l, rfl, ⟨y, by simp, hP⟩, by simpa using hy⟩
    · exact ⟨y :: before, after, rfl, ⟨x, List.mem_cons_of_mem _ hx, hP⟩,
        List.forall_mem_cons.2 ⟨hy, hQ⟩⟩

/-- Of two things not each holds sooner than the other. -/
theorem Sooner.asymm (h : Sooner P Q l) (h' : Sooner Q P l) : False := by
  induction l with
  | nil => exact not_sooner_nil h
  | cons y l ih =>
      obtain ⟨hQ, hP | h⟩ := sooner_cons.1 h
      · exact (sooner_cons.1 h').1 hP
      · obtain ⟨hP, hQ' | h'⟩ := sooner_cons.1 h'
        · exact hQ hQ'
        · exact ih h h'

theorem sooner_filterMap {f : α → Option β} {P Q : β → Prop} :
    Sooner P Q (l.filterMap f) ↔
      Sooner (fun x => ∃ y, f x = some y ∧ P y) (fun x => ∃ y, f x = some y ∧ Q y) l := by
  induction l with
  | nil => simp [not_sooner_nil]
  | cons z l ih =>
      cases hz : f z with
      | none => simp [sooner_cons, hz, ih]
      | some w => simp [sooner_cons, hz, ih]

namespace Roles

variable {key : α → String} {seen : List String}

/-- What is kept is the first item of each key that was not known. -/
theorem mem_firstByKey :
    x ∈ firstByKey key seen l ↔ key x ∉ seen ∧ FirstOf (fun y => key y = key x) l x := by
  induction l generalizing seen with
  | nil => simp [firstByKey, not_firstOf_nil]
  | cons item rest ih =>
      rw [firstByKey, firstOf_cons]
      by_cases hseen : key item ∈ seen
      · rw [if_pos hseen, ih]
        by_cases hkey : key item = key x
        · simp [← hkey, hseen]
        · simp [hkey]
      · rw [if_neg hseen, List.mem_cons, ih, List.mem_cons]
        by_cases hitem : x = item
        · subst hitem
          simp [hseen]
        · by_cases hkey : key item = key x
          · simp [hitem, hkey]
          · simp [hitem, hkey, Ne.symm hkey]

/-- A key is kept if it occurs and was not known. -/
theorem mem_map_firstByKey {k : String} :
    k ∈ (firstByKey key seen l).map key ↔ k ∈ l.map key ∧ k ∉ seen := by
  simp only [List.mem_map, mem_firstByKey]
  constructor
  · rintro ⟨x, ⟨hseen, hfirst⟩, rfl⟩
    exact ⟨⟨x, hfirst.mem, rfl⟩, hseen⟩
  · rintro ⟨⟨x, hx, rfl⟩, hseen⟩
    obtain ⟨y, hfirst⟩ := exists_firstOf (P := fun z => key z = key x) ⟨x, hx, rfl⟩
    have hkey : key y = key x := hfirst.holds
    exact ⟨y, ⟨hkey ▸ hseen, by rwa [hkey]⟩, hkey⟩

theorem nodup_map_firstByKey : ((firstByKey key seen l).map key).Nodup := by
  induction l generalizing seen with
  | nil => simp [firstByKey]
  | cons item rest ih =>
      rw [firstByKey]
      split
      · exact ih
      · refine List.nodup_cons.2 ⟨fun h => ?_, ih⟩
        obtain ⟨x, hx, hkey⟩ := List.mem_map.1 h
        exact (mem_firstByKey.1 hx).1 (hkey ▸ List.mem_cons_self)

/-- What is kept is in the order in which the keys first occur. -/
theorem pairwise_firstByKey : (firstByKey key seen l).Pairwise fun x y =>
    Sooner (fun z => key z = key x) (fun z => key z = key y) l := by
  induction l generalizing seen with
  | nil => simp [firstByKey]
  | cons item rest ih =>
      rw [firstByKey]
      split
      next hseen =>
        refine ih.imp_of_mem fun {x y} _ hy h => sooner_cons.2 ⟨fun hkey => ?_, .inr h⟩
        exact (mem_firstByKey.1 hy).1 (hkey ▸ hseen)
      next hseen =>
        have later {y : α} (hy : y ∈ firstByKey key (key item :: seen) rest) : key item ≠ key y :=
          fun hkey => (mem_firstByKey.1 hy).1 (hkey ▸ List.mem_cons_self)
        refine List.pairwise_cons.2 ⟨fun y hy => sooner_cons.2 ⟨later hy, .inl rfl⟩, ?_⟩
        exact ih.imp_of_mem fun {x y} _ hy h => sooner_cons.2 ⟨later hy, .inr h⟩

theorem firstByKey_known {known : List α} (h : ∀ x ∈ known, key x ∈ seen) (l : List α) :
    firstByKey key seen (known ++ l) = firstByKey key seen l := by
  induction known with
  | nil => rfl
  | cons x known ih =>
      obtain ⟨hx, hknown⟩ := List.forall_mem_cons.1 h
      rw [List.cons_append, firstByKey, if_pos hx, ih hknown]

/-- After some items, what is kept of others depends on the keys of the former. -/
theorem firstByKey_append (key : α → String) (seen : List String) (first : List α) : ∃ seen',
    (∀ k, k ∈ seen' ↔ k ∈ seen ∨ k ∈ first.map key) ∧
      ∀ second, firstByKey key seen (first ++ second) =
        firstByKey key seen first ++ firstByKey key seen' second := by
  induction first generalizing seen with
  | nil => exact ⟨seen, by simp, fun _ => rfl⟩
  | cons x first ih =>
      by_cases hx : key x ∈ seen
      · obtain ⟨seen', hmem, happend⟩ := ih seen
        refine ⟨seen', fun k => ?_, fun second => ?_⟩
        · rw [hmem, List.map_cons, List.mem_cons]
          constructor
          · exact Or.imp_right .inr
          · rintro (hk | rfl | hk)
            · exact .inl hk
            · exact .inl hx
            · exact .inr hk
        · rw [List.cons_append, firstByKey, firstByKey, if_pos hx, if_pos hx, happend]
      · obtain ⟨seen', hmem, happend⟩ := ih (key x :: seen)
        refine ⟨seen', fun k => ?_, fun second => ?_⟩
        · rw [hmem, List.map_cons, List.mem_cons, List.mem_cons, or_assoc, or_left_comm]
        · rw [List.cons_append, firstByKey, firstByKey, if_neg hx, if_neg hx, happend,
            List.cons_append]

/-- Names that are made distinct before their items are gathered lead to the same items of distinct
keys. -/
theorem firstByKey_flatMap {items : String → List α} {names done : List String}
    (known : ∀ name ∈ done, ∀ x ∈ items name, key x ∈ seen) :
    firstByKey key seen ((firstByKey id done names).flatMap items) =
      firstByKey key seen (names.flatMap items) := by
  induction names generalizing done seen with
  | nil => rfl
  | cons name names ih =>
      rw [firstByKey, List.flatMap_cons]
      split
      next hdone => rw [ih known, firstByKey_known (known name hdone)]
      next =>
        obtain ⟨seen', hmem, happend⟩ := firstByKey_append key seen (items name)
        rw [List.flatMap_cons, happend, happend, ih]
        intro other hother x hx
        rcases List.mem_cons.1 hother with rfl | hother
        · exact (hmem _).2 (.inr (List.mem_map_of_mem hx))
        · exact (hmem _).2 (.inl (known other hother x hx))

end Roles

end Rollout
