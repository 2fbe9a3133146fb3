import Mathlib.Data.List.TakeDrop
import Mathlib.Data.List.TakeWhile
import Rollout.Json.Decode
import Rollout.Json.Writer

/-!
# Reading what is written

A writer puts blanks between tokens only, so a text that it writes has the tokens of its document,
whatever the layout and whatever stands after it, as long as this does not go on with a last number
or word. Folding the tokens of a document gives back the document. So what is written of a value is
read as its document; and of several values written one after the other, nothing is read, as a text
is one document or none.

All of this is for values whose numbers are integers.
-/

namespace Rollout.Json

/-! ### Tokens -/

mutual

def Document.tokens : Document → List Token
  | .null => [.null]
  | .bool b => [.bool b]
  | .num t => [.num t]
  | .str points => [.str points]
  | .arr [] => [.openArray, .closeArray]
  | .arr (d :: rest) => .openArray :: d.tokens ++ itemsTokens rest
  | .obj [] => [.openObject, .closeObject]
  | .obj ((name, d) :: rest) =>
      .openObject :: .str name :: .colon :: d.tokens ++ membersTokens rest

def itemsTokens : List Document → List Token
  | [] => [.closeArray]
  | d :: rest => .comma :: d.tokens ++ itemsTokens rest

def membersTokens : List (List Nat × Document) → List Token
  | [] => [.closeObject]
  | (name, d) :: rest => .comma :: .str name :: .colon :: d.tokens ++ membersTokens rest

end

/-- An array does not end where a document begins. -/
theorem documentFrom?_first (d : Document) (stack : List Frame) (ts : List Token) :
    documentFrom? .valueOrEnd stack (d.tokens ++ ts) =
      documentFrom? .value (.array [] :: stack) (d.tokens ++ ts) := by
  match d with
  | .null | .bool _ | .num _ | .str _ => rfl
  | .arr [] | .arr (_ :: _) => rfl
  | .obj [] | .obj ((_, _) :: _) => rfl

mutual

/-- The tokens of a document are folded into it. -/
theorem documentFrom?_tokens (d : Document) (stack : List Frame) (ts : List Token) :
    documentFrom? .value stack (d.tokens ++ ts) = documentFrom? (.after d) stack ts := by
  match d with
  | .null | .bool _ | .num _ | .str _ => rfl
  | .arr [] | .obj [] => rfl
  | .arr (d :: rest) =>
      rw [Document.tokens]
      show documentFrom? .valueOrEnd stack (d.tokens ++ itemsTokens rest ++ ts) = _
      rw [List.append_assoc, documentFrom?_first, documentFrom?_tokens d, documentFrom?_items rest]
      rfl
  | .obj ((name, d) :: rest) =>
      rw [Document.tokens]
      show documentFrom? .value (.object [] name :: stack)
        (d.tokens ++ membersTokens rest ++ ts) = _
      rw [List.append_assoc, documentFrom?_tokens d, documentFrom?_members rest]
      rfl

theorem documentFrom?_items (rest before : List Document) (d : Document) (stack : List Frame)
    (ts : List Token) :
    documentFrom? (.after d) (.array before :: stack) (itemsTokens rest ++ ts) =
      documentFrom? (.after (.arr (before.reverse ++ d :: rest))) stack ts := by
  match rest with
  | [] =>
      show documentFrom? (.after (.arr (d :: before).reverse)) stack ts = _
      rw [List.reverse_cons]
  | d' :: rest =>
      rw [itemsTokens]
      show documentFrom? .value (.array (d :: before) :: stack)
        (d'.tokens ++ itemsTokens rest ++ ts) = _
      rw [List.append_assoc, documentFrom?_tokens d', documentFrom?_items rest, List.reverse_cons,
        List.append_assoc]
      rfl

theorem documentFrom?_members (rest before : List (List Nat × Document)) (name : List Nat)
    (d : Document) (stack : List Frame) (ts : List Token) :
    documentFrom? (.after d) (.object before name :: stack) (membersTokens rest ++ ts) =
      documentFrom? (.after (.obj (before.reverse ++ (name, d) :: rest))) stack ts := by
  match rest with
  | [] =>
      show documentFrom? (.after (.obj ((name, d) :: before).reverse)) stack ts = _
      rw [List.reverse_cons]
  | (name', d') :: rest =>
      rw [membersTokens]
      show documentFrom? .value (.object ((name, d) :: before) name' :: stack)
        (d'.tokens ++ membersTokens rest ++ ts) = _
      rw [List.append_assoc, documentFrom?_tokens d', documentFrom?_members rest, List.reverse_cons,
        List.append_assoc]
      rfl

end

/-- After a document that is not within another, nothing may come. -/
theorem documentFrom?_after (d : Document) (t : Token) (ts : List Token) :
    documentFrom? (.after d) [] (t :: ts) = none := by
  cases t <;> rfl

theorem Document.tokens_ne_nil (d : Document) : d.tokens ≠ [] := by
  match d with
  | .null | .bool _ | .num _ | .str _ => exact List.cons_ne_nil _ _
  | .arr [] | .arr (_ :: _) => exact List.cons_ne_nil _ _
  | .obj [] | .obj ((_, _) :: _) => exact List.cons_ne_nil _ _

/-- The item of a list that has just one. -/
def single? {α : Type} : List α → Option α
  | [x] => some x
  | _ => none

theorem single?_map {α β : Type} (f : α → β) (l : List α) :
    single? (l.map f) = (single? l).map f := by
  match l with
  | [] | [_] | _ :: _ :: _ => rfl

theorem isSome_single? {α : Type} {l : List α} : (single? l).isSome = true ↔ l.length = 1 := by
  match l with
  | [] | [_] | _ :: _ :: _ => simp [single?]

/-- The tokens of several documents are those of a document if there is one only. -/
theorem documentFrom?_flatMap (documents : List Document) :
    documentFrom? .value [] (documents.flatMap Document.tokens) = single? documents := by
  match documents with
  | [] => rfl
  | [d] =>
      rw [List.flatMap_singleton, ← List.append_nil d.tokens, documentFrom?_tokens]
      rfl
  | d :: d' :: rest =>
      obtain ⟨t, ts, tokens⟩ := List.exists_cons_of_ne_nil d'.tokens_ne_nil
      rw [List.flatMap_cons, List.flatMap_cons, documentFrom?_tokens, tokens, List.cons_append,
        documentFrom?_after]
      rfl

/-! ### Pieces of a text -/

/-- What follows does not go on with a number or a word. -/
def Ends (rest : List Char) : Prop :=
  ∀ c ∈ rest.head?, inNumber c = false ∧ ¬ ('a' ≤ c ∧ c ≤ 'z')

def IsBlank (c : Char) : Prop := c = ' ' ∨ c = '\n'

variable {found : List Token} {rest : List Char}

theorem Ends.cons {c : Char} (h : inNumber c = false ∧ ¬ ('a' ≤ c ∧ c ≤ 'z')) :
    Ends (c :: rest) := by
  rintro _ ⟨⟩
  exact h

theorem Ends.blanks {blanks : List Char} (blank : ∀ c ∈ blanks, IsBlank c) (ends : Ends rest) :
    Ends (blanks ++ rest) := by
  cases blanks with
  | nil => exact ends
  | cons c blanks =>
      rcases blank c List.mem_cons_self with rfl | rfl
      · exact .cons (by decide)
      · exact .cons (by decide)

theorem tokensFrom?_blanks {blanks : List Char} (blank : ∀ c ∈ blanks, IsBlank c) :
    tokensFrom? .idle found (blanks ++ rest) = tokensFrom? .idle found rest := by
  induction blanks with
  | nil => rfl
  | cons c blanks ih =>
      obtain ⟨hc, blank⟩ := List.forall_mem_cons.1 blank
      rw [List.cons_append, ← ih blank]
      rcases hc with rfl | rfl
      · rfl
      · rfl

/-- What is under way ends where the next character begins something else. -/
theorem tokensFrom?_ended {scan : Scan} {ended : List Token} (finish : scan.finish? = some ended)
    (apart : ∀ c ∈ rest.head?, scan.step? c = (begin? c).map fun b => (b.1, ended ++ b.2)) :
    tokensFrom? scan found rest = tokensFrom? .idle (ended.reverse ++ found) rest := by
  cases rest with
  | nil => simp [tokensFrom?, finish, show Scan.idle.finish? = some [] from rfl]
  | cons c cs =>
      rw [tokensFrom?, tokensFrom?, apart c rfl, show Scan.idle.step? c = begin? c from rfl]
      cases begin? c with
      | none => rfl
      | some begun => simp

theorem tokensFrom?_number {chars : List Char} {digits : NumberText}
    (read : numberText? chars.reverse = some digits) (ends : Ends rest) :
    tokensFrom? (.number chars) found rest = tokensFrom? .idle (.num digits :: found) rest := by
  have finish : (Scan.number chars).finish? = some [.num digits] := by rw [Scan.finish?, read]; rfl
  refine tokensFrom?_ended finish fun c hc => ?_
  rw [Scan.step?, if_neg (by simp [(ends c hc).1]), finish]
  cases begin? c <;> rfl

theorem tokensFrom?_word {chars : List Char} {t : Token}
    (read : wordToken? chars.reverse = some t) (ends : Ends rest) :
    tokensFrom? (.word chars) found rest = tokensFrom? .idle (t :: found) rest := by
  have finish : (Scan.word chars).finish? = some [t] := by rw [Scan.finish?, read]; rfl
  refine tokensFrom?_ended finish fun c hc => ?_
  rw [Scan.step?, if_neg (by simpa using (ends c hc).2), finish]
  cases begin? c <;> rfl

theorem tokensFrom?_inNumber {more chars : List Char} (inside : ∀ c ∈ more, inNumber c = true) :
    tokensFrom? (.number chars) found (more ++ rest) =
      tokensFrom? (.number (more.reverse ++ chars)) found rest := by
  induction more generalizing chars with
  | nil => rfl
  | cons c more ih =>
      obtain ⟨hc, inside⟩ := List.forall_mem_cons.1 inside
      rw [List.cons_append, tokensFrom?, Scan.step?, if_pos hc, List.reverse_cons,
        List.append_assoc]
      exact ih inside

/-! ### Strings -/

theorem hexDigit?_digitChar : ∀ n < 16, hexDigit? (Nat.digitChar n) = some n := by decide

theorem controlEscape_ofNat : ∀ n < 32, controlEscape (Char.ofNat n) =
    ['\\', 'u', '0', '0', Nat.digitChar (n / 16), Nat.digitChar (n % 16)] := by decide +kernel

theorem joinUnit_of_lt {unit : Nat} (low : unit < 0xDC00) (points : List Nat) :
    joinUnit unit points = unit :: points := by
  cases points with
  | nil => rfl
  | cons p ps => rw [joinUnit, if_neg (by simp; omega)]

theorem tokensFrom?_unit {high low : Char} {a b : Nat} (readHigh : hexDigit? high = some a)
    (readLow : hexDigit? low = some b) (small : 16 * a + b < 0xDC00) (points : List Nat) :
    tokensFrom? (.text points) found ('\\' :: 'u' :: '0' :: '0' :: high :: low :: rest) =
      tokensFrom? (.text ((16 * a + b) :: points)) found rest := by
  have first : (Scan.hex points 2 0).step? high = some (.hex points 1 a, []) := by
    simp [Scan.step?, readHigh]
  have second : (Scan.hex points 1 a).step? low = some (.text ((16 * a + b) :: points), []) := by
    simp [Scan.step?, readLow, joinUnit_of_lt small]
  show tokensFrom? (.hex points 2 0) found (high :: low :: rest) = _
  rw [tokensFrom?, first]
  show tokensFrom? (.hex points 1 a) found (low :: rest) = _
  rw [tokensFrom?, second]
  rfl

/-- A character is read from what it stands as in a string. -/
theorem tokensFrom?_escapedChar (c : Char) (points : List Nat) :
    tokensFrom? (.text points) found (escapedChar c ++ rest) =
      tokensFrom? (.text (c.toNat :: points)) found rest := by
  by_cases short : c ∈ ['"', '\\', '\n', '\r', '\t', '\x08', '\x0c']
  · simp only [List.mem_cons, List.not_mem_nil, or_false] at short
    rcases short with rfl | rfl | rfl | rfl | rfl | rfl | rfl <;> rfl
  · simp only [List.mem_cons, List.not_mem_nil, or_false, not_or] at short
    obtain ⟨quote, backslash, line, carriage, tab, back, form⟩ := short
    rw [escapedChar, if_neg quote, if_neg backslash, if_neg line, if_neg carriage, if_neg tab,
      if_neg back, if_neg form]
    split
    next control =>
      have digits := controlEscape_ofNat _ control
      rw [c.ofNat_toNat] at digits
      rw [digits]
      have whole : 16 * (c.toNat / 16) + c.toNat % 16 = c.toNat := Nat.div_add_mod _ _
      refine (tokensFrom?_unit (hexDigit?_digitChar _ (by omega)) (hexDigit?_digitChar _ (by omega))
        (by omega) points).trans ?_
      rw [whole]
      rfl
    next plain =>
      rw [List.singleton_append, tokensFrom?, Scan.step?, if_neg quote, if_neg backslash,
        if_neg plain]
      rfl

theorem tokensFrom?_escaped (cs : List Char) (points : List Nat) :
    tokensFrom? (.text points) found (cs.flatMap escapedChar ++ rest) =
      tokensFrom? (.text ((cs.map Char.toNat).reverse ++ points)) found rest := by
  induction cs generalizing points with
  | nil => rfl
  | cons c cs ih =>
      rw [List.flatMap_cons, List.append_assoc, tokensFrom?_escapedChar, ih, List.map_cons,
        List.reverse_cons, List.append_assoc]
      rfl

/-- A string is read from between its quotes. -/
theorem tokensFrom?_quoteChars (s : String) :
    tokensFrom? .idle found (quoteChars s ++ rest) =
      tokensFrom? .idle (.str (stringPoints s) :: found) rest := by
  show tokensFrom? (.text []) found (s.toList.flatMap escapedChar ++ ['"'] ++ rest) = _
  rw [List.append_assoc, tokensFrom?_escaped, List.append_nil]
  show tokensFrom? .idle (.str ((s.toList.map Char.toNat).reverse).reverse :: found) rest = _
  rw [List.reverse_reverse]
  rfl

/-! ### Integers -/

/-- The digits of a number that is not zero do not begin with one. -/
theorem head?_toDigits_ne_zero {n : Nat} (positive : 0 < n) :
    (Nat.toDigits 10 n).head? ≠ some '0' := by
  induction n using Nat.strongRecOn with
  | ind n ih =>
      rcases Nat.lt_or_ge n 10 with small | large
      · have digit : ∀ d < 10, 0 < d → Nat.digitChar d ≠ '0' := by decide
        rw [Nat.toDigits_of_lt_base small]
        simpa using digit n small positive
      · obtain ⟨c, cs, leading⟩ := List.exists_cons_of_ne_nil (Nat.toDigits_ne_nil (n := n / 10))
        have front := ih (n / 10) (by omega) (by omega)
        rw [leading] at front
        rw [Nat.toDigits_of_base_le (by omega) large, leading]
        exact front

theorem isDigit_of_mem_toDigits {n : Nat} {c : Char} (h : c ∈ Nat.toDigits 10 n) :
    c.isDigit = true :=
  Nat.isDigit_of_mem_toDigits (by omega) (by omega) h

theorem spanDigits_of_digits {cs : List Char} (digits : ∀ c ∈ cs, c.isDigit = true) :
    spanDigits cs = (cs, []) := by
  rw [spanDigits, List.span_eq_takeWhile_dropWhile, List.takeWhile_eq_self_iff.2 digits,
    List.dropWhile_eq_nil_iff.2 digits]

theorem numberText?_toDigits (n : Nat) :
    numberText? (Nat.toDigits 10 n) = some ⟨false, Nat.toDigits 10 n, [], none⟩ ∧
      numberText? ('-' :: Nat.toDigits 10 n) = some ⟨true, Nat.toDigits 10 n, [], none⟩ := by
  obtain ⟨c, cs, leading⟩ := List.exists_cons_of_ne_nil (Nat.toDigits_ne_nil (n := n))
  have span := spanDigits_of_digits fun c => isDigit_of_mem_toDigits (n := n)
  have unpadded : c = '0' → cs = [] := by
    rintro rfl
    rcases Nat.eq_zero_or_pos n with rfl | positive
    · rw [Nat.toDigits_zero] at leading
      exact (List.cons.inj leading).2.symm
    · exact absurd (by rw [leading]; rfl) (head?_toDigits_ne_zero positive)
  have unsigned : c ≠ '-' := by
    rintro rfl
    exact absurd (isDigit_of_mem_toDigits (n := n) (leading ▸ List.mem_cons_self)) (by decide)
  rw [leading] at span ⊢
  constructor
  · simpa [numberText?, span, unsigned] using unpadded
  · simpa [numberText?, span] using unpadded

theorem toList_repr_int (value : Int) : (toString value).toList = Nat.toDigits 10 value.natAbs ∨
    (toString value).toList = '-' :: Nat.toDigits 10 value.natAbs := by
  rw [Int.toString_eq_repr]
  cases value with
  | ofNat n => exact .inl Nat.toList_repr
  | negSucc n =>
      refine .inr ?_
      show ("-" ++ (n + 1).repr).toList = _
      rw [String.toList_append, Nat.toList_repr]
      rfl

theorem begin?_numeral {c : Char} (first : (c.isDigit || c = '-') = true) :
    begin? c = some (.number [c], []) := by
  have others : ∀ d ∈ [' ', '\t', '\n', '\r', '[', ']', '\x7b', '\x7d', ',', ':', '"'],
      (d.isDigit || d = '-') = false := by simp
  have apart : ∀ d ∈ [' ', '\t', '\n', '\r', '[', ']', '\x7b', '\x7d', ',', ':', '"'], c ≠ d := by
    rintro d hd rfl
    cases first.symm.trans (others c hd)
  simp only [List.mem_cons, List.not_mem_nil, or_false, forall_eq_or_imp, forall_eq] at apart
  rw [begin?]
  simp only [apart, decide_false, Bool.or_false, if_false, if_pos first, Bool.false_eq_true]

theorem tokensFrom?_numeral {c : Char} {cs : List Char} {digits : NumberText}
    (first : (c.isDigit || c = '-') = true) (inside : ∀ c ∈ cs, inNumber c = true)
    (read : numberText? (c :: cs) = some digits) (ends : Ends rest) :
    tokensFrom? .idle found (c :: cs ++ rest) = tokensFrom? .idle (.num digits :: found) rest := by
  rw [List.cons_append, tokensFrom?, show Scan.idle.step? c = begin? c from rfl,
    begin?_numeral first]
  show tokensFrom? (.number [c]) found (cs ++ rest) = _
  rw [tokensFrom?_inNumber inside]
  exact tokensFrom?_number (by simpa using read) ends

/-- What is written of an integer is read as its digits. -/
theorem tokensFrom?_int (value : Int) (ends : Ends rest) :
    tokensFrom? .idle found ((Number.int value).render.toList ++ rest) =
      tokensFrom? .idle (.num (Number.int value).digits :: found) rest := by
  obtain ⟨read, readNegative⟩ := numberText?_toDigits value.natAbs
  obtain ⟨c, cs, leading⟩ := List.exists_cons_of_ne_nil
    (Nat.toDigits_ne_nil (n := value.natAbs) (b := 10))
  have digits : ∀ d ∈ c :: cs, d.isDigit = true := leading ▸ fun d => isDigit_of_mem_toDigits
  have inside : ∀ d ∈ c :: cs, inNumber d = true := fun d hd => by simp [inNumber, digits d hd]
  rw [leading] at read readNegative
  rw [Number.digits, show (Number.int value).render = toString value from rfl]
  rcases toList_repr_int value with text | text
  · rw [text, leading, read]
    exact tokensFrom?_numeral (by simp [digits c List.mem_cons_self])
      (fun d hd => inside d (List.mem_cons_of_mem c hd)) read ends
  · rw [text, leading, readNegative]
    exact tokensFrom?_numeral rfl inside readNegative ends

/-! ### Values -/

mutual

/-- The numbers of a value are integers. -/
def Integral : Json → Prop
  | .num (.real _ _) => False
  | .arr items => ItemsIntegral items
  | .obj members => MembersIntegral members
  | .null | .bool _ | .num (.int _) | .str _ => True

def ItemsIntegral : List Json → Prop
  | [] => True
  | j :: rest => j.Integral ∧ ItemsIntegral rest

def MembersIntegral : List (String × Json) → Prop
  | [] => True
  | (_, j) :: rest => j.Integral ∧ MembersIntegral rest

end

theorem itemsIntegral_iff {items : List Json} : ItemsIntegral items ↔ ∀ j ∈ items, j.Integral := by
  induction items with
  | nil => simp [ItemsIntegral]
  | cons j rest ih => rw [ItemsIntegral, ih, List.forall_mem_cons]

/-- A layout puts nothing but blanks around the tokens of a container. -/
structure Layout.Spaced (layout : Layout) : Prop where
  before : ∀ level, ∀ c ∈ layout.before level, IsBlank c
  after : ∀ level, ∀ c ∈ layout.after level, IsBlank c
  colon : ∃ blanks, layout.colon = ':' :: blanks ∧ ∀ c ∈ blanks, IsBlank c

theorem isBlank_of_mem_newLine {level : Nat} {c : Char} (h : c ∈ newLine level) : IsBlank c := by
  rcases List.mem_cons.1 h with rfl | h
  · exact .inr rfl
  · exact .inl (List.eq_of_mem_replicate h)

theorem Layout.spaced_pretty : Layout.pretty.Spaced where
  before _ _ := isBlank_of_mem_newLine
  after _ _ := isBlank_of_mem_newLine
  colon := ⟨[' '], rfl, fun _ hc => .inl (List.mem_singleton.1 hc)⟩

variable {layout : Layout} {level : Nat}

theorem ends_writeItems (spaced : layout.Spaced) (items : List Json) :
    Ends (writeItems layout level items ++ rest) := by
  cases items with
  | nil =>
      rw [writeItems, List.append_assoc]
      exact .blanks (spaced.after level) (.cons (by decide))
  | cons item items => exact .cons (by decide)

theorem ends_writeMembers (spaced : layout.Spaced) (members : List (String × Json)) :
    Ends (writeMembers layout level members ++ rest) := by
  cases members with
  | nil =>
      rw [writeMembers, List.append_assoc]
      exact .blanks (spaced.after level) (.cons (by decide))
  | cons member members => exact .cons (by decide)

/-- A name and the colon after it. -/
theorem tokensFrom?_name (spaced : layout.Spaced) (name : String) :
    tokensFrom? .idle found (quoteChars name ++ (layout.colon ++ rest)) =
      tokensFrom? .idle (.colon :: .str (stringPoints name) :: found) rest := by
  obtain ⟨blanks, colon, blank⟩ := spaced.colon
  rw [tokensFrom?_quoteChars, colon]
  exact tokensFrom?_blanks blank

mutual

/-- What is written of a value has the tokens of its document. -/
theorem tokensFrom?_write (spaced : layout.Spaced) (level : Nat) (j : Json) (integral : j.Integral)
    (found : List Token) (rest : List Char) (ends : Ends rest) :
    tokensFrom? .idle found (write layout level j ++ rest) =
      tokensFrom? .idle (j.toDocument.tokens.reverse ++ found) rest := by
  match j with
  | .null =>
      show tokensFrom? (.word ['l', 'l', 'u', 'n']) found rest = _
      exact tokensFrom?_word rfl ends
  | .bool true =>
      show tokensFrom? (.word ['e', 'u', 'r', 't']) found rest = _
      exact tokensFrom?_word rfl ends
  | .bool false =>
      show tokensFrom? (.word ['e', 's', 'l', 'a', 'f']) found rest = _
      exact tokensFrom?_word rfl ends
  | .num (.int value) => exact tokensFrom?_int value ends
  | .str s => exact tokensFrom?_quoteChars s
  | .arr [] | .obj [] => rfl
  | .arr (item :: items) =>
      obtain ⟨one, others⟩ := integral
      rw [write, toDocument, toDocuments, Document.tokens]
      show tokensFrom? .idle (.openArray :: found)
        (layout.before level ++ write layout (level + 1) item ++
          writeItems layout level items ++ rest) = _
      rw [List.append_assoc, List.append_assoc, tokensFrom?_blanks (spaced.before level),
        tokensFrom?_write spaced _ item one _ _ (ends_writeItems spaced items),
        tokensFrom?_writeItems spaced level items others]
      simp
  | .obj ((name, value) :: members) =>
      obtain ⟨one, others⟩ := integral
      rw [write, toDocument, toMembers, Document.tokens]
      show tokensFrom? .idle (.openObject :: found)
        (layout.before level ++ quoteChars name ++ layout.colon ++ write layout (level + 1) value ++
          writeMembers layout level members ++ rest) = _
      simp only [List.append_assoc]
      rw [tokensFrom?_blanks (spaced.before level), tokensFrom?_name spaced,
        tokensFrom?_write spaced _ value one _ _ (ends_writeMembers spaced members),
        tokensFrom?_writeMembers spaced level members others]
      simp

theorem tokensFrom?_writeItems (spaced : layout.Spaced) (level : Nat) (items : List Json)
    (integral : ItemsIntegral items) (found : List Token) (rest : List Char) :
    tokensFrom? .idle found (writeItems layout level items ++ rest) =
      tokensFrom? .idle ((itemsTokens (toDocuments items)).reverse ++ found) rest := by
  match items with
  | [] =>
      rw [writeItems, List.append_assoc, tokensFrom?_blanks (spaced.after level)]
      rfl
  | item :: items =>
      obtain ⟨one, others⟩ := integral
      rw [writeItems, toDocuments, itemsTokens]
      show tokensFrom? .idle (.comma :: found)
        (layout.before level ++ write layout (level + 1) item ++
          writeItems layout level items ++ rest) = _
      rw [List.append_assoc, List.append_assoc, tokensFrom?_blanks (spaced.before level),
        tokensFrom?_write spaced _ item one _ _ (ends_writeItems spaced items),
        tokensFrom?_writeItems spaced level items others]
      simp

theorem tokensFrom?_writeMembers (spaced : layout.Spaced) (level : Nat)
    (members : List (String × Json)) (integral : MembersIntegral members) (found : List Token)
    (rest : List Char) :
    tokensFrom? .idle found (writeMembers layout level members ++ rest) =
      tokensFrom? .idle ((membersTokens (toMembers members)).reverse ++ found) rest := by
  match members with
  | [] =>
      rw [writeMembers, List.append_assoc, tokensFrom?_blanks (spaced.after level)]
      rfl
  | (name, value) :: members =>
      obtain ⟨one, others⟩ := integral
      rw [writeMembers, toMembers, membersTokens]
      show tokensFrom? .idle (.comma :: found)
        (layout.before level ++ quoteChars name ++ layout.colon ++ write layout (level + 1) value ++
          writeMembers layout level members ++ rest) = _
      simp only [List.append_assoc]
      rw [tokensFrom?_blanks (spaced.before level), tokensFrom?_name spaced,
        tokensFrom?_write spaced _ value one _ _ (ends_writeMembers spaced members),
        tokensFrom?_writeMembers spaced level members others]
      simp

end

/-! ### Documents one after the other -/

/-- Values written one after the other, each ending its line. -/
def prettyLines (values : List Json) : String := String.join (values.map (·.pretty ++ "\n"))

theorem prettyLines_append (first second : List Json) :
    prettyLines (first ++ second) = prettyLines first ++ prettyLines second := by
  rw [prettyLines, List.map_append, ← String.toList_inj]
  simp [prettyLines]

theorem tokensFrom?_prettyLines {values : List Json} (integral : ∀ j ∈ values, j.Integral)
    (found : List Token) : tokensFrom? .idle found (prettyLines values).toList =
      some (found.reverse ++ values.flatMap (·.toDocument.tokens)) := by
  rw [prettyLines, String.toList_join, List.flatMap_map]
  induction values generalizing found with
  | nil => simp [tokensFrom?, Scan.finish?]
  | cons j rest ih =>
      obtain ⟨one, others⟩ := List.forall_mem_cons.1 integral
      rw [List.flatMap_cons, String.toList_append, pretty, String.toList_ofList, List.append_assoc,
        show "\n".toList = ['\n'] from rfl, List.singleton_append,
        tokensFrom?_write Layout.spaced_pretty 0 j one _ _ (.cons (by decide))]
      show tokensFrom? .idle (j.toDocument.tokens.reverse ++ found) (rest.flatMap _) = _
      rw [ih others]
      simp

/-- Of values written one after the other the document of one is read if it is the only one, and
none otherwise. -/
theorem read_prettyLines {values : List Json} (integral : ∀ j ∈ values, j.Integral) :
    Document.read (prettyLines values) = (single? values).map toDocument := by
  have cut : tokens? (prettyLines values).toList =
      some ((values.map toDocument).flatMap Document.tokens) := by
    rw [tokens?, tokensFrom?_prettyLines integral, List.flatMap_map]
    rfl
  rw [Document.read, cut, ← single?_map]
  exact documentFrom?_flatMap _

end Rollout.Json
