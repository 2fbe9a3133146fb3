import Rollout.Proofs.Json.Lexicon

/-!
# Documents as written

A text is a document if it lays out the tokens of the document. While tokens are folded, those that
were seen can be told from the containers part way through and from what may come next
(`seen_of_step?`), so the document that comes of some tokens has just these tokens
(`tokens_of_documentFrom?`). So a text is a document if and only if that is read from it and leaves
no half of a surrogate pair alone (`Document.isText_iff`).
-/

namespace Rollout.Json

/-- A text is a document: it is made of its tokens, with blanks around them. -/
def Document.IsText (d : Document) (s : String) : Prop := LaidOut d.tokens s.toList

/-! ### Tokens seen so far -/

def memberTokens (member : List Nat × Document) : List Token :=
  .str member.1 :: .colon :: member.2.tokens

/-- The tokens of some items, each with a comma behind it. -/
def itemsSeen (items : List Document) : List Token := items.flatMap fun d => d.tokens ++ [.comma]

def membersSeen (members : List (List Nat × Document)) : List Token :=
  members.flatMap fun m => memberTokens m ++ [.comma]

/-- The tokens of a container up to where it is. -/
def Frame.seen : Frame → List Token
  | .array before => .openArray :: itemsSeen before.reverse
  | .object before name => .openObject :: membersSeen before.reverse ++ [.str name, .colon]

def Expect.seen : Expect → List Token
  | .value => []
  | .valueOrEnd => [.openArray]
  | .nameOrEnd before => .openObject :: membersSeen before.reverse
  | .name before => .openObject :: membersSeen before.reverse
  | .colon before key => .openObject :: membersSeen before.reverse ++ [.str key]
  | .after d => d.tokens

def seen (expect : Expect) (stack : List Frame) : List Token :=
  stack.reverse.flatMap Frame.seen ++ expect.seen

/-- An object that may end at once has no members yet. -/
def Expect.Fresh : Expect → Prop
  | .nameOrEnd before => before = []
  | _ => True

/-- A separator in front of each item but the first is one behind each but the last. -/
theorem flatMap_separated {α : Type} (f : α → List Token) (t : Token) (items : List α) (last : α) :
    (items ++ [last]).flatMap (fun a => t :: f a) =
      t :: (items.flatMap (fun a => f a ++ [t]) ++ f last) := by
  induction items with
  | nil => simp
  | cons item items ih =>
      rw [List.cons_append, List.flatMap_cons, ih, List.flatMap_cons]
      simp

theorem itemsTokens_eq (items : List Document) :
    itemsTokens items = (items.flatMap fun d => .comma :: d.tokens) ++ [.closeArray] := by
  induction items with
  | nil => rfl
  | cons d rest ih => rw [itemsTokens, ih, List.flatMap_cons, List.append_assoc]

theorem membersTokens_eq (members : List (List Nat × Document)) :
    membersTokens members = (members.flatMap fun m => .comma :: memberTokens m) ++
      [.closeObject] := by
  induction members with
  | nil => rfl
  | cons m rest ih =>
      obtain ⟨name, d⟩ := m
      rw [membersTokens, ih, List.flatMap_cons, List.append_assoc]
      rfl

/-- The tokens of an array are those of its items with commas between them. -/
theorem tokens_arr_concat (items : List Document) (d : Document) :
    (Document.arr (items ++ [d])).tokens =
      .openArray :: itemsSeen items ++ (d.tokens ++ [.closeArray]) := by
  cases items with
  | nil => rfl
  | cons item items =>
      rw [List.cons_append, Document.tokens, itemsTokens_eq, flatMap_separated]
      simp [itemsSeen]

/-- The tokens of an object are those of its members with commas between them. -/
theorem tokens_obj_concat (members : List (List Nat × Document)) (m : List Nat × Document) :
    (Document.obj (members ++ [m])).tokens =
      .openObject :: membersSeen members ++ (memberTokens m ++ [.closeObject]) := by
  cases members with
  | nil => rfl
  | cons member members =>
      obtain ⟨name, d⟩ := member
      rw [List.cons_append, Document.tokens, membersTokens_eq, flatMap_separated]
      simp [membersSeen, memberTokens]

variable {expect next : Expect} {stack stack' : List Frame} {t : Token} {ts : List Token}
  {d : Document}

theorem tokens_of_atom? (h : t.atom? = some d) : d.tokens = [t] := by
  cases t <;> cases h <;> rfl

/-- Where a value is expected, what comes next was seen with the token. -/
theorem seen_of_valueStep (h : Expect.valueStep stack t = some (next, stack')) :
    next.Fresh ∧ seen next stack' = stack.reverse.flatMap Frame.seen ++ [t] := by
  unfold Expect.valueStep at h
  split at h
  · cases h
    exact ⟨trivial, rfl⟩
  · cases h
    exact ⟨rfl, rfl⟩
  · obtain ⟨d, atom, reached⟩ := Option.map_eq_some_iff.1 h
    cases reached
    exact ⟨trivial, congrArg _ (tokens_of_atom? atom)⟩

/-- One token further, the token was seen. -/
theorem seen_of_step? (fresh : expect.Fresh) (h : expect.step? stack t = some (next, stack')) :
    next.Fresh ∧ seen next stack' = seen expect stack ++ [t] := by
  cases expect with
  | value =>
      obtain ⟨fresh, same⟩ := seen_of_valueStep h
      exact ⟨fresh, by rw [same, seen, Expect.seen, List.append_nil]⟩
  | valueOrEnd =>
      unfold Expect.step? at h
      dsimp only at h
      split at h
      · cases h
        exact ⟨trivial, by simp [seen, Expect.seen, Document.tokens]⟩
      · obtain ⟨fresh, same⟩ := seen_of_valueStep h
        exact ⟨fresh, by rw [same]; simp [seen, Expect.seen, Frame.seen, itemsSeen]⟩
  | nameOrEnd before =>
      obtain rfl : before = [] := fresh
      unfold Expect.step? at h
      dsimp only at h
      split at h
      · cases h
        exact ⟨trivial, by simp [seen, Expect.seen, Document.tokens, membersSeen]⟩
      · cases h
        exact ⟨trivial, by simp [seen, Expect.seen]⟩
      · cases h
  | name before =>
      unfold Expect.step? at h
      dsimp only at h
      split at h
      · cases h
        exact ⟨trivial, by simp [seen, Expect.seen]⟩
      · cases h
  | colon before key =>
      unfold Expect.step? at h
      dsimp only at h
      split at h
      · cases h
        exact ⟨trivial, by simp [seen, Expect.seen, Frame.seen]⟩
      · cases h
  | after d =>
      unfold Expect.step? at h
      dsimp only at h
      split at h
      · cases h
        exact ⟨trivial, by simp [seen, Expect.seen, Frame.seen, itemsSeen]⟩
      · cases h
        refine ⟨trivial, ?_⟩
        simp [seen, Expect.seen, Frame.seen, tokens_arr_concat]
      · cases h
        exact ⟨trivial, by simp [seen, Expect.seen, Frame.seen, membersSeen, memberTokens]⟩
      · cases h
        refine ⟨trivial, ?_⟩
        simp [seen, Expect.seen, Frame.seen, tokens_obj_concat, memberTokens]
      · cases h

/-- The document that comes of some tokens has just these tokens. -/
theorem tokens_of_documentFrom? (fresh : expect.Fresh)
    (h : documentFrom? expect stack ts = some d) : d.tokens = seen expect stack ++ ts := by
  induction ts generalizing expect stack with
  | nil =>
      unfold documentFrom? at h
      split at h
      · cases h
        simp [seen, Expect.seen]
      · cases h
  | cons t ts ih =>
      rw [documentFrom?] at h
      split at h
      · cases h
      next next stack' step =>
        obtain ⟨fresh, same⟩ := seen_of_step? fresh step
        rw [ih fresh h, same, List.append_assoc, List.singleton_append]

/-! ### Tokens side by side -/

/-- Neither a number nor a word follows a value. -/
theorem not_isLoose_of_after (h : (Expect.after d).step? stack t = some (next, stack')) :
    ¬ t.IsLoose := by
  unfold Expect.step? at h
  dsimp only at h
  split at h
  · exact id
  · exact id
  · exact id
  · exact id
  · cases h

/-- After a number or a word, what follows a value comes next. -/
theorem exists_after_of_isLoose (loose : t.IsLoose)
    (h : expect.step? stack t = some (next, stack')) : ∃ d, next = .after d := by
  have atom {stack : List Frame} (h : Expect.valueStep stack t = some (next, stack')) :
      ∃ d, next = .after d := by
    cases t <;> first | exact loose.elim | (cases h; exact ⟨_, rfl⟩)
  cases expect with
  | value => exact atom h
  | valueOrEnd =>
      cases t <;> first | exact loose.elim | exact atom h
  | nameOrEnd before | name before | colon before key =>
      cases t <;> first | exact loose.elim | cases h
  | after d => exact absurd loose (not_isLoose_of_after h)

theorem apart_of_documentFrom? (h : documentFrom? expect stack ts = some d) : Apart ts := by
  induction ts generalizing expect stack with
  | nil => exact .nil
  | cons t ts ih =>
      unfold documentFrom? at h
      split at h
      · cases h
      next next stack' step =>
        refine List.isChain_cons.2 ⟨fun t' ht' loose => ?_, ih h⟩
        obtain ⟨later, rfl⟩ := List.head?_eq_some_iff.1 ht'
        obtain ⟨value, rfl⟩ := exists_after_of_isLoose loose step
        unfold documentFrom? at h
        split at h
        · cases h
        next further => exact not_isLoose_of_after further

/-- The tokens of a document do not run into one another. -/
theorem Document.apart (d : Document) : Apart d.tokens := by
  have folded := documentFrom?_tokens d [] []
  rw [List.append_nil] at folded
  exact apart_of_documentFrom? folded

/-! ### Texts of documents -/

/-- The points of a string are those of characters. -/
def Token.Valid : Token → Prop
  | .str points => ∀ p ∈ points, p.isValidChar
  | _ => True

theorem LaidOut.valid {cs : List Char} (h : LaidOut ts cs) : ∀ t ∈ ts, t.Valid := by
  intro t ht
  obtain ⟨word, written⟩ := h.exists_isText ht
  cases written with
  | str string => exact string.isValidChar
  | _ => trivial

theorem Token.Valid.whole (h : t.Valid) : t.Whole := by
  cases t with
  | str points =>
      intro p hp
      have valid := h p hp
      exact (isHalf_eq_false_iff (by unfold Nat.isValidChar at valid; omega)).2 valid
  | _ => trivial

/-- A text is a document if and only if the document is read from it and leaves no half of a
surrogate pair alone. -/
theorem Document.isText_iff {s : String} :
    d.IsText s ↔ Document.read s = some d ∧ ∀ t ∈ d.tokens, t.Whole := by
  constructor
  · intro h
    have cut : tokens? s.toList = some (d.tokens ++ []) := by
      rw [tokens?_of_laidOut h d.apart, List.append_nil]
    refine ⟨?_, fun t ht => (h.valid t ht).whole⟩
    rw [Document.read, cut]
    exact documentFrom?_tokens d [] []
  · rintro ⟨h, whole⟩
    obtain ⟨ts, cut, folded⟩ := Option.bind_eq_some_iff.1 h
    have same : d.tokens = ts := @tokens_of_documentFrom? .value [] ts d trivial folded
    rw [Document.IsText, same]
    exact .of_tokens? cut (same ▸ whole)

end Rollout.Json
