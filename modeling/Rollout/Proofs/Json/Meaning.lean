import Rollout.Proofs.Json.Grammar
import Rollout.Proofs.Json.Range

/-!
# Documents that have a meaning

A document stands for a value if its arrays and objects are not too many inside one another, its
numbers are in range and no half of a surrogate pair is left alone in its strings and names
(`Document.isSome_meaning?`). What an object has under a name is the value of its last member with
the name (`get?_membersMeaning?`).
-/

namespace Rollout.Json

mutual

def Document.depth : Document → Nat
  | .null | .bool _ | .num _ | .str _ => 0
  | .arr items => itemsDepth items + 1
  | .obj members => membersDepth members + 1

def itemsDepth : List Document → Nat
  | [] => 0
  | d :: rest => max d.depth (itemsDepth rest)

def membersDepth : List (List Nat × Document) → Nat
  | [] => 0
  | (_, d) :: rest => max d.depth (membersDepth rest)

end

def Token.Means : Token → Prop
  | .num digits => digits.InRange
  | .str points => ∀ p ∈ points, isHalf p = false
  | _ => True

theorem isSome_pointsText? {points : List Nat} :
    (pointsText? points).isSome = true ↔ ∀ p ∈ points, isHalf p = false := by
  rw [pointsText?]
  split
  next half =>
    obtain ⟨p, hp, half⟩ := List.any_eq_true.1 half
    simp only [Option.isSome_none, Bool.false_eq_true, false_iff, not_forall, Bool.not_eq_false]
    exact ⟨p, hp, half⟩
  next whole => simpa using whole

theorem isSome_itemsMeaning?_cons (depth : Nat) (d : Document) (rest : List Document) :
    (itemsMeaning? depth (d :: rest)).isSome =
      ((d.meaning? depth).isSome && (itemsMeaning? depth rest).isSome) := by
  rw [itemsMeaning?]
  cases d.meaning? depth <;> cases itemsMeaning? depth rest <;> rfl

theorem isSome_membersMeaning?_cons (depth : Nat) (name : List Nat) (d : Document)
    (rest : List (List Nat × Document)) : (membersMeaning? depth ((name, d) :: rest)).isSome =
      ((pointsText? name).isSome && (d.meaning? depth).isSome &&
        (membersMeaning? depth rest).isSome) := by
  rw [membersMeaning?]
  cases pointsText? name <;> cases d.meaning? depth <;> cases membersMeaning? depth rest <;> rfl

section

variable {P : Token → Prop}

theorem forall_mem_tokens_arr (opened : P .openArray) (comma : P .comma) {items : List Document} :
    (∀ t ∈ (Document.arr items).tokens, P t) ↔ ∀ t ∈ itemsTokens items, P t := by
  cases items <;> simp [Document.tokens, itemsTokens, opened, comma]

theorem forall_mem_tokens_obj (opened : P .openObject) (comma : P .comma)
    {members : List (List Nat × Document)} :
    (∀ t ∈ (Document.obj members).tokens, P t) ↔ ∀ t ∈ membersTokens members, P t := by
  cases members <;> simp [Document.tokens, membersTokens, opened, comma]

end

mutual

/-- A document stands for a value if and only if it is not too deep and its tokens stand for
something. -/
theorem Document.isSome_meaning? (depth : Nat) (d : Document) :
    (d.meaning? depth).isSome = true ↔ d.depth ≤ depth ∧ ∀ t ∈ d.tokens, t.Means := by
  match d with
  | .null | .bool _ => simp [Document.meaning?, Document.depth, Document.tokens, Token.Means]
  | .num digits =>
      simp [Document.meaning?, Document.depth, Document.tokens, Token.Means, NumberText.InRange]
  | .str points =>
      simp [Document.meaning?, Document.depth, Document.tokens, Token.Means, isSome_pointsText?]
  | .arr items =>
      rw [Document.meaning?, Document.depth, forall_mem_tokens_arr trivial trivial]
      cases depth with
      | zero => simp
      | succ depth =>
          rw [if_neg (Nat.succ_ne_zero depth), Option.isSome_map, Nat.add_sub_cancel,
            isSome_itemsMeaning? depth items, Nat.add_le_add_iff_right]
  | .obj members =>
      rw [Document.meaning?, Document.depth, forall_mem_tokens_obj trivial trivial]
      cases depth with
      | zero => simp
      | succ depth =>
          rw [if_neg (Nat.succ_ne_zero depth), Option.isSome_map, Nat.add_sub_cancel,
            isSome_membersMeaning? depth members, Nat.add_le_add_iff_right]

theorem isSome_itemsMeaning? (depth : Nat) (items : List Document) :
    (itemsMeaning? depth items).isSome = true ↔
      itemsDepth items ≤ depth ∧ ∀ t ∈ itemsTokens items, t.Means := by
  match items with
  | [] => simp [itemsMeaning?, itemsDepth, itemsTokens, Token.Means]
  | d :: rest =>
      rw [isSome_itemsMeaning?_cons, Bool.and_eq_true, d.isSome_meaning? depth,
        isSome_itemsMeaning? depth rest, itemsDepth, itemsTokens, Nat.max_le, List.cons_append,
        List.forall_mem_cons, List.forall_mem_append]
      simp only [Token.Means, true_and]
      exact and_and_and_comm

theorem isSome_membersMeaning? (depth : Nat) (members : List (List Nat × Document)) :
    (membersMeaning? depth members).isSome = true ↔
      membersDepth members ≤ depth ∧ ∀ t ∈ membersTokens members, t.Means := by
  match members with
  | [] => simp [membersMeaning?, membersDepth, membersTokens, Token.Means]
  | (name, d) :: rest =>
      rw [isSome_membersMeaning?_cons, Bool.and_eq_true, Bool.and_eq_true, isSome_pointsText?,
        d.isSome_meaning? depth, isSome_membersMeaning? depth rest, membersDepth, membersTokens,
        Nat.max_le, List.cons_append, List.forall_mem_cons, List.cons_append, List.forall_mem_cons,
        List.cons_append, List.forall_mem_cons, List.forall_mem_append]
      simp only [Token.Means, true_and]
      rw [and_assoc, and_and_and_comm, and_left_comm]

end

/-! ### Members -/

theorem stringPoints_injective {s s' : String} (h : stringPoints s = stringPoints s') : s = s' := by
  have injective : Function.Injective Char.toNat := fun _ _ => Char.toNat_inj.1
  exact String.toList_inj.1 (List.map_injective_iff.2 injective h)

/-- The points that a string has are those that it comes from. -/
theorem stringPoints_of_pointsText? {points : List Nat} {s : String}
    (valid : ∀ p ∈ points, p.isValidChar) (h : pointsText? points = some s) :
    stringPoints s = points := by
  rw [pointsText?] at h
  split at h
  · cases h
  · cases h
    rw [stringPoints, String.toList_ofList, List.map_map]
    have same : ∀ p ∈ points, (Char.ofNat p).toNat = p := by
      intro p hp
      rw [Char.ofNat, dif_pos (valid p hp)]
      rfl
    exact (List.map_congr_left same).trans (List.map_id' _)

theorem pointsText?_eq_some_iff {points : List Nat} {s : String}
    (valid : ∀ p ∈ points, p.isValidChar) :
    pointsText? points = some s ↔ stringPoints s = points := by
  refine ⟨stringPoints_of_pointsText? valid, fun same => ?_⟩
  obtain ⟨s', read⟩ := Option.isSome_iff_exists.1 <| isSome_pointsText?.2 fun p hp =>
    (Token.Valid.whole (t := .str points) valid) p hp
  rw [read, stringPoints_injective ((stringPoints_of_pointsText? valid read).trans same.symm)]

/-- A document stands for a text if and only if it is the string of the text. -/
theorem Document.meaning?_eq_str_iff {d : Document} {depth : Nat} {text : String}
    (valid : ∀ t ∈ d.tokens, t.Valid) :
    d.meaning? depth = some (.str text) ↔ d = .str (stringPoints text) := by
  cases d with
  | str points =>
      have points : ∀ p ∈ points, p.isValidChar := valid _ List.mem_cons_self
      simp [Document.meaning?, pointsText?_eq_some_iff points, eq_comm]
  | _ => simp [Document.meaning?]

theorem Document.exists_values_of_meaning? {depth : Nat} {members : List (List Nat × Document)}
    {j : Json} (h : (Document.obj members).meaning? depth = some j) :
    ∃ values, j = .obj values ∧ membersMeaning? (depth - 1) members = some values := by
  rw [Document.meaning?] at h
  split at h
  · cases h
  · obtain ⟨values, read, same⟩ := Option.map_eq_some_iff.1 h
    exact ⟨values, same.symm, read⟩

theorem Document.exists_obj_of_meaning? {d : Document} {depth : Nat}
    {values : List (String × Json)} (h : d.meaning? depth = some (.obj values)) :
    ∃ members, d = .obj members := by
  cases d with
  | obj members => exact ⟨members, rfl⟩
  | _ => simp [Document.meaning?] at h

def memberValue (depth : Nat) (m : List Nat × Document) : String × Json :=
  ((pointsText? m.1).getD "", (m.2.meaning? depth).getD .null)

theorem eq_map_of_membersMeaning? {depth : Nat} {members : List (List Nat × Document)}
    {values : List (String × Json)} (h : membersMeaning? depth members = some values) :
    values = members.map (memberValue depth) ∧ ∀ m ∈ members,
      pointsText? m.1 = some (memberValue depth m).1 ∧
        m.2.meaning? depth = some (memberValue depth m).2 := by
  induction members generalizing values with
  | nil =>
      cases h
      simp
  | cons m rest ih =>
      obtain ⟨name, d⟩ := m
      rw [membersMeaning?] at h
      obtain ⟨key, hkey, h⟩ := Option.bind_eq_some_iff.1 h
      obtain ⟨value, hvalue, h⟩ := Option.bind_eq_some_iff.1 h
      obtain ⟨others, hothers, h⟩ := Option.bind_eq_some_iff.1 h
      cases h
      obtain ⟨rfl, each⟩ := ih hothers
      have first : memberValue depth (name, d) = (key, value) := by
        rw [memberValue, hkey, hvalue]
        rfl
      rw [List.map_cons, first, List.forall_mem_cons, first]
      exact ⟨rfl, ⟨hkey, hvalue⟩, each⟩

/-- What holds of the tokens of an object holds of the tokens of its members. -/
theorem forall_mem_memberTokens {P : Token → Prop} (opened : P .openObject) (comma : P .comma)
    {members : List (List Nat × Document)} (h : ∀ t ∈ (Document.obj members).tokens, P t) :
    ∀ m ∈ members, ∀ t ∈ memberTokens m, P t := by
  intro m hm t ht
  rw [forall_mem_tokens_obj opened comma, membersTokens_eq] at h
  exact h t (List.mem_append_left _ (List.mem_flatMap.2 ⟨m, hm, List.mem_cons_of_mem _ ht⟩))

theorem exists_obj_of_get? {name : String} {j value : Json} (h : j.get? name = some value) :
    ∃ values, j = .obj values := by
  cases j with
  | obj values => exact ⟨values, rfl⟩
  | _ => cases h

/-- The value under a name is that of the last member with it. -/
theorem get?_obj_eq_some_iff {name : String} {values : List (String × Json)} {j : Json} :
    (Json.obj values).get? name = some j ↔
      ∃ before after, values = before ++ (name, j) :: after ∧ ∀ m ∈ after, m.1 ≠ name := by
  rw [Json.get?, List.lookup_eq_some_iff]
  constructor
  · rintro ⟨after, before, split, apart⟩
    refine ⟨before.reverse, after.reverse, ?_, fun m hm => ?_⟩
    · rw [← List.reverse_inj, split]
      simp
    · exact (bne_iff_ne.1 (apart m (List.mem_reverse.1 hm))).symm
  · rintro ⟨before, after, rfl, apart⟩
    refine ⟨after.reverse, before.reverse, by simp, fun m hm => ?_⟩
    exact bne_iff_ne.2 (apart m (List.mem_reverse.1 hm)).symm

/-- The value under a name in the value of an object is that of the last member with the name. -/
theorem get?_membersMeaning? {depth : Nat} {members : List (List Nat × Document)}
    {values : List (String × Json)} (valid : ∀ m ∈ members, ∀ p ∈ m.1, p.isValidChar)
    (read : membersMeaning? depth members = some values) {name : String} {value : Json} :
    (Json.obj values).get? name = some value ↔
      ∃ before d after, members = before ++ (stringPoints name, d) :: after ∧
        (∀ m ∈ after, m.1 ≠ stringPoints name) ∧ d.meaning? depth = some value := by
  obtain ⟨rfl, each⟩ := eq_map_of_membersMeaning? read
  have named : ∀ m ∈ members, (memberValue depth m).1 = name ↔ m.1 = stringPoints name := by
    intro m hm
    have written := stringPoints_of_pointsText? (valid m hm) (each m hm).1
    rw [← written]
    exact ⟨congrArg stringPoints, stringPoints_injective⟩
  rw [get?_obj_eq_some_iff]
  constructor
  · rintro ⟨before', after', split, apart⟩
    obtain ⟨before, rest, rfl, -, back⟩ := List.map_eq_append_iff.1 split
    obtain ⟨m, after, rfl, value', rfl⟩ := List.map_eq_cons_iff.1 back
    have here : m ∈ before ++ m :: after := List.mem_append_right _ List.mem_cons_self
    have key : m.1 = stringPoints name := (named m here).1 (congrArg Prod.fst value')
    refine ⟨before, m.2, after, by rw [← key], fun m' hm' same => ?_, ?_⟩
    · have later : m' ∈ before ++ m :: after :=
        List.mem_append_right _ (List.mem_cons_of_mem m hm')
      exact apart _ (List.mem_map_of_mem hm') ((named m' later).2 same)
    · rw [(each m here).2, value']
  · rintro ⟨before, d, after, rfl, apart, means⟩
    have here : (stringPoints name, d) ∈ before ++ (stringPoints name, d) :: after :=
      List.mem_append_right _ List.mem_cons_self
    have first : memberValue depth (stringPoints name, d) = (name, value) :=
      Prod.ext ((named _ here).2 rfl) (Option.some_inj.1 ((each _ here).2.symm.trans means))
    refine ⟨before.map (memberValue depth), after.map (memberValue depth), ?_, ?_⟩
    · rw [List.map_append, List.map_cons, first]
    · intro value' hvalue'
      obtain ⟨m, hm, rfl⟩ := List.mem_map.1 hvalue'
      have later : m ∈ before ++ (stringPoints name, d) :: after :=
        List.mem_append_right _ (List.mem_cons_of_mem _ hm)
      exact fun same => apart m hm ((named m later).1 same)

/-! ### Texts that stand for values -/

/-- A text is a document that stands for a value. -/
structure Document.IsSound (d : Document) (s : String) : Prop where
  text : d.IsText s
  shallow : d.depth ≤ maxDepth
  inRange : ∀ digits, .num digits ∈ d.tokens → digits.InRange

/-- The numbers in a text are in range up to `2 ^ 1024` and no further, and only very close to the
limit it depends on how they are rounded. -/
theorem Document.IsText.inRange {d : Document} {s : String} (h : d.IsText s) {digits : NumberText}
    (mem : .num digits ∈ d.tokens) :
    (digits.magnitude ≤ 2 ^ (1024 : Int) * (1 - 1 / 2 ^ 50) → digits.InRange) ∧
      (2 ^ (1024 : Int) * (1 + 1 / 2 ^ 50) ≤ digits.magnitude → ¬ digits.InRange) := by
  obtain ⟨word, written⟩ := LaidOut.exists_isText h mem
  cases written with
  | num numeral => exact ⟨NumberText.inRange_of_magnitude_le numeral.whole.2 numeral.fraction,
      NumberText.not_inRange_of_le_magnitude numeral.whole.2 numeral.fraction⟩

/-- The value of a text is read from it if and only if the text is a document that stands for it. -/
theorem read_eq_some_iff {s : String} {j : Json} :
    read s = some j ↔ ∃ d : Document, d.IsSound s ∧ d.meaning? maxDepth = some j := by
  constructor
  · intro h
    obtain ⟨d, written, means⟩ := Option.bind_eq_some_iff.1 h
    obtain ⟨shallow, tokens⟩ := (d.isSome_meaning? maxDepth).1 (by rw [means]; rfl)
    refine ⟨d, ⟨Document.isText_iff.2 ⟨written, fun t ht => ?_⟩, shallow,
      fun digits hd => tokens _ hd⟩, means⟩
    have sound := tokens t ht
    cases t <;> first | exact sound | trivial
  · rintro ⟨d, sound, means⟩
    rw [read, (Document.isText_iff.1 sound.text).1]
    exact means

theorem Document.IsSound.exists_meaning {d : Document} {s : String} (h : d.IsSound s) :
    ∃ j, d.meaning? maxDepth = some j := by
  refine Option.isSome_iff_exists.1 ((d.isSome_meaning? maxDepth).2 ⟨h.shallow, fun t ht => ?_⟩)
  have whole := (LaidOut.valid h.text t ht).whole
  cases t with
  | num digits => exact h.inRange digits ht
  | _ => exact whole

end Rollout.Json
