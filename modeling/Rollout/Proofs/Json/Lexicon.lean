import Mathlib.Data.List.Chain
import Rollout.Proofs.Json.Numeral
import Rollout.Proofs.Json.Quoted

/-!
# Tokens as written

A text lays out some tokens if it is made of what they are written as, one after the other, with
blanks around them. The tokens of a text are just those that it lays out, as long as no half of a
surrogate pair is left alone (`LaidOut.of_tokens?`) and no two tokens stand side by side that run
into one another (`tokens?_of_laidOut`).
-/

namespace Rollout.Json

def IsSpace (c : Char) : Prop := c ∈ [' ', '\t', '\n', '\r']

/-- What a token is written as. -/
inductive Token.IsText : Token → List Char → Prop
  | openArray : Token.IsText .openArray ['[']
  | closeArray : Token.IsText .closeArray [']']
  | openObject : Token.IsText .openObject ['\x7b']
  | closeObject : Token.IsText .closeObject ['\x7d']
  | comma : Token.IsText .comma [',']
  | colon : Token.IsText .colon [':']
  | null : Token.IsText .null ['n', 'u', 'l', 'l']
  | true : Token.IsText (.bool true) ['t', 'r', 'u', 'e']
  | false : Token.IsText (.bool false) ['f', 'a', 'l', 's', 'e']
  | num {digits : NumberText} {text : List Char} (numeral : Numeral digits text) :
      Token.IsText (.num digits) text
  | str {points : List Nat} {text : List Char} (string : StringText text points) :
      Token.IsText (.str points) ('"' :: (text ++ ['"']))

/-- A text is made of what some tokens are written as, with blanks around them. -/
inductive LaidOut : List Token → List Char → Prop
  | nil : LaidOut [] []
  | space {c : Char} {ts : List Token} {text : List Char} (space : IsSpace c)
      (rest : LaidOut ts text) : LaidOut ts (c :: text)
  | token {t : Token} {ts : List Token} {word text : List Char} (first : t.IsText word)
      (rest : LaidOut ts text) : LaidOut (t :: ts) (word ++ text)

/-- Each of the tokens that a text lays out is written in it. -/
theorem LaidOut.exists_isText {ts : List Token} {text : List Char} (h : LaidOut ts text) {t : Token}
    (mem : t ∈ ts) : ∃ word, t.IsText word := by
  induction h with
  | nil => cases mem
  | space _ _ ih => exact ih mem
  | token first _ ih =>
      rcases List.mem_cons.1 mem with rfl | later
      · exact ⟨_, first⟩
      · exact ih later

/-- No half of a surrogate pair is left alone in a token. -/
def Token.Whole : Token → Prop
  | .str points => ∀ p ∈ points, isHalf p = false
  | _ => True

instance : (t : Token) → Decidable t.Whole
  | .str points => inferInstanceAs (Decidable (∀ p ∈ points, isHalf p = false))
  | .openArray | .closeArray | .openObject | .closeObject | .comma | .colon | .null | .bool _
  | .num _ => .isTrue trivial

/-- A token runs into another one if they stand side by side. -/
def Token.IsLoose : Token → Prop
  | .null | .bool _ | .num _ => True
  | _ => False

/-- No two tokens that run into one another stand side by side. -/
def Apart (ts : List Token) : Prop := ts.IsChain fun a b => a.IsLoose → ¬ b.IsLoose

variable {found ts : List Token} {rest : List Char}

/-! ### Cutting a text -/

/-- What a character between tokens begins. -/
theorem begin?_cases {c : Char} {next : Scan} {ended : List Token}
    (h : begin? c = some (next, ended)) :
    (next = .idle ∧ (IsSpace c ∧ ended = [] ∨ ∃ t, t.IsText [c] ∧ ended = [t])) ∨
      (next = .text [] ∧ ended = [] ∧ c = '"') ∨
        ended = [] ∧ (next = .number [c] ∨ next = .word [c]) := by
  rw [begin?] at h
  rcases ite_eq_iff.1 h with ⟨space, h⟩ | ⟨-, h⟩
  · cases h
    simp only [Bool.or_eq_true, decide_eq_true_eq] at space
    exact .inl ⟨rfl, .inl ⟨by simpa [IsSpace, or_assoc] using space, rfl⟩⟩
  iterate 6
    rcases ite_eq_iff.1 h with ⟨rfl, h⟩ | ⟨-, h⟩
    · cases h
      exact .inl ⟨rfl, .inr ⟨_, by constructor, rfl⟩⟩
  rcases ite_eq_iff.1 h with ⟨quote, h⟩ | ⟨-, h⟩
  · cases h
    exact .inr (.inl ⟨rfl, rfl, quote⟩)
  rcases ite_eq_iff.1 h with ⟨-, h⟩ | ⟨-, h⟩
  · cases h
    exact .inr (.inr ⟨rfl, .inl rfl⟩)
  rcases ite_eq_iff.1 h with ⟨-, h⟩ | ⟨-, h⟩
  · cases h
    exact .inr (.inr ⟨rfl, .inr rfl⟩)
  · cases h

/-- A number or a word that is under way goes on up to a character that does not belong to it, and
is a token then. -/
theorem exists_run (scan : List Char → Scan) (inside : Char → Bool)
    (token? : List Char → Option Token)
    (finish : ∀ chars, (scan chars).finish? = (token? chars.reverse).map fun t => [t])
    (going : ∀ chars c, inside c = true → (scan chars).step? c = some (scan (c :: chars), []))
    (stopping : ∀ chars c, inside c = false → (scan chars).step? c =
      (scan chars).finish?.bind fun ended => (begin? c).map fun b => (b.1, ended ++ b.2))
    {chars cs : List Char} (h : tokensFrom? (scan chars) found cs = some ts) :
    ∃ more rest t, cs = more ++ rest ∧ token? (chars.reverse ++ more) = some t ∧
      tokensFrom? .idle (t :: found) rest = some ts := by
  have ended {chars cs : List Char} (h : tokensFrom? (scan chars) found cs = some ts)
      (apart : ∀ c ∈ cs.head?, inside c = false) : ∃ more rest t, cs = more ++ rest ∧
        token? (chars.reverse ++ more) = some t ∧
        tokensFrom? .idle (t :: found) rest = some ts := by
    cases read : token? chars.reverse with
    | none =>
        have stuck : (scan chars).finish? = none := by rw [finish, read]; rfl
        cases cs with
        | nil => simp [tokensFrom?, stuck] at h
        | cons c cs => simp [tokensFrom?, stopping chars c (apart c rfl), stuck] at h
    | some t =>
        have done : (scan chars).finish? = some [t] := by rw [finish, read]; rfl
        refine ⟨[], cs, t, rfl, by rw [List.append_nil, read], ?_⟩
        rwa [tokensFrom?_ended done] at h
        intro c hc
        rw [stopping chars c (apart c hc), done]
        rfl
  induction cs generalizing chars with
  | nil => exact ended h (by simp)
  | cons c cs ih =>
      cases belongs : inside c with
      | true =>
          rw [tokensFrom?, going chars c belongs] at h
          obtain ⟨more, rest, t, split, read, further⟩ := ih h
          refine ⟨c :: more, rest, t, congrArg (c :: ·) split, ?_, further⟩
          rwa [List.reverse_cons, List.append_assoc] at read
      | false => exact ended h (by simpa using belongs)

theorem exists_numeral {chars cs : List Char}
    (h : tokensFrom? (.number chars) found cs = some ts) :
    ∃ more rest t, cs = more ++ rest ∧
      (numberText? (chars.reverse ++ more)).map Token.num = some t ∧
      tokensFrom? .idle (t :: found) rest = some ts := by
  refine exists_run .number inNumber (fun cs => (numberText? cs).map .num) (fun chars => ?_)
    (fun chars c belongs => if_pos belongs) (fun chars c apart => ?_) h
  · rw [Scan.finish?, Option.map_map]
    rfl
  · rw [Scan.step?, if_neg (by simp [apart])]
    cases (Scan.number chars).finish? <;> cases begin? c <;> rfl

theorem exists_word {chars cs : List Char} (h : tokensFrom? (.word chars) found cs = some ts) :
    ∃ more rest t, cs = more ++ rest ∧ wordToken? (chars.reverse ++ more) = some t ∧
      tokensFrom? .idle (t :: found) rest = some ts := by
  refine exists_run .word (fun c => 'a' ≤ c && c ≤ 'z') wordToken? (fun chars => rfl)
    (fun chars c belongs => if_pos belongs) (fun chars c apart => ?_) h
  rw [Scan.step?, if_neg (by simp [apart])]
  cases (Scan.word chars).finish? <;> cases begin? c <;> rfl

theorem isText_of_wordToken? {text : List Char} {t : Token} (h : wordToken? text = some t) :
    t.IsText text := by
  unfold wordToken? at h
  split at h
  next word => cases h; exact word ▸ .null
  split at h
  next word => cases h; exact word ▸ .true
  split at h
  next word => cases h; exact word ▸ .false
  next => cases h

/-- What is found in a text is laid out by it, if no half of a surrogate pair is left alone
there. -/
def FoundIn (found ts : List Token) (text : List Char) : Prop :=
  ∃ more, ts = found.reverse ++ more ∧ ((∀ t ∈ more, t.Whole) → LaidOut more text)

theorem FoundIn.space {c : Char} {text : List Char} (space : IsSpace c)
    (h : FoundIn found ts text) : FoundIn found ts (c :: text) := by
  obtain ⟨more, rfl, laidOut⟩ := h
  exact ⟨more, rfl, fun whole => .space space (laidOut whole)⟩

theorem FoundIn.token {t : Token} {word text : List Char} (first : t.Whole → t.IsText word)
    (h : FoundIn (t :: found) ts text) : FoundIn found ts (word ++ text) := by
  obtain ⟨more, rfl, laidOut⟩ := h
  refine ⟨t :: more, by simp, fun whole => ?_⟩
  obtain ⟨one, others⟩ := List.forall_mem_cons.1 whole
  exact .token (first one) (laidOut others)

theorem foundIn_of_tokensFrom? {found : List Token} {cs : List Char}
    (h : tokensFrom? .idle found cs = some ts) : FoundIn found ts cs := by
  match cs with
  | [] =>
      cases h
      exact ⟨[], rfl, fun _ => .nil⟩
  | c :: cs =>
      obtain ⟨next, ended, step, further⟩ := tokensFrom?_cons_iff.1 h
      rcases begin?_cases step with ⟨rfl, ⟨space, rfl⟩ | ⟨t, mark, rfl⟩⟩ | ⟨rfl, rfl, rfl⟩ |
        ⟨rfl, rfl | rfl⟩
      · exact (foundIn_of_tokensFrom? further).space space
      · exact .token (fun _ => mark) (foundIn_of_tokensFrom? further)
      · obtain ⟨text, points, rest, split, string, further⟩ := exists_stringText further
        have written : '"' :: cs = '"' :: (text ++ ['"']) ++ rest := by simp [split]
        rw [written]
        exact .token (fun whole => .str (string whole)) (foundIn_of_tokensFrom? further)
      · obtain ⟨more, rest, t, split, read, further⟩ := exists_numeral further
        obtain ⟨digits, numeral, rfl⟩ := Option.map_eq_some_iff.1 read
        rw [split, ← List.cons_append]
        exact .token (fun _ => .num (numberText?_eq_some_iff.1 numeral))
          (foundIn_of_tokensFrom? further)
      · obtain ⟨more, rest, t, split, read, further⟩ := exists_word further
        rw [split, ← List.cons_append]
        exact .token (fun _ => isText_of_wordToken? read) (foundIn_of_tokensFrom? further)
termination_by cs.length
decreasing_by all_goals (simp only [*, List.length_cons, List.length_append]; omega)

/-- The tokens of a text are laid out by it, if no half of a surrogate pair is left alone in
them. -/
theorem LaidOut.of_tokens? {cs : List Char} (h : tokens? cs = some ts)
    (whole : ∀ t ∈ ts, t.Whole) : LaidOut ts cs := by
  obtain ⟨more, rfl, laidOut⟩ := foundIn_of_tokensFrom? h
  exact laidOut whole

/-! ### Laying out tokens -/

theorem tokensFrom?_space {c : Char} (space : IsSpace c) :
    tokensFrom? .idle found (c :: rest) = tokensFrom? .idle found rest := by
  simp only [IsSpace, List.mem_cons, List.not_mem_nil, or_false] at space
  rcases space with rfl | rfl | rfl | rfl <;> rfl

/-- What a token is written as is read as the token, if what follows does not go on with it. -/
theorem tokensFrom?_isText {t : Token} {word : List Char} (h : t.IsText word)
    (ends : t.IsLoose → Ends rest) : tokensFrom? .idle found (word ++ rest) =
      tokensFrom? .idle (t :: found) rest := by
  cases h with
  | openArray | closeArray | openObject | closeObject | comma | colon => rfl
  | null =>
      show tokensFrom? (.word ['l', 'l', 'u', 'n']) found rest = _
      exact tokensFrom?_word rfl (ends trivial)
  | true =>
      show tokensFrom? (.word ['e', 'u', 'r', 't']) found rest = _
      exact tokensFrom?_word rfl (ends trivial)
  | false =>
      show tokensFrom? (.word ['e', 's', 'l', 'a', 'f']) found rest = _
      exact tokensFrom?_word rfl (ends trivial)
  | num numeral =>
      obtain ⟨c, cs, rfl, first⟩ := numeral.exists_cons
      exact tokensFrom?_numeral first (fun d hd => numeral.inNumber d (List.mem_cons_of_mem c hd))
        (numberText?_eq_some_iff.2 numeral) (ends trivial)
  | str string =>
      rw [List.cons_append, List.append_assoc]
      exact tokensFrom?_stringText string

/-- No number and no word goes on where a text lays out tokens that do not run into it. -/
theorem LaidOut.ends {cs : List Char} (h : LaidOut ts cs)
    (apart : ∀ t ∈ ts.head?, ¬ t.IsLoose) : Ends cs := by
  cases h with
  | nil =>
      rintro c ⟨⟩
  | space space rest =>
      simp only [IsSpace, List.mem_cons, List.not_mem_nil, or_false] at space
      rcases space with rfl | rfl | rfl | rfl <;> exact .cons (by decide)
  | token first rest =>
      have tight := apart _ rfl
      cases first with
      | openArray | closeArray | openObject | closeObject | comma | colon | str =>
          exact .cons (by decide)
      | null | true | false | num => exact absurd trivial tight

theorem tokensFrom?_laidOut {cs : List Char} (h : LaidOut ts cs) (apart : Apart ts) :
    tokensFrom? .idle found cs = some (found.reverse ++ ts) := by
  induction h generalizing found with
  | nil => simp [tokensFrom?, Scan.finish?]
  | space space rest ih => rw [tokensFrom?_space space, ih apart]
  | @token t ts word text first rest ih =>
      obtain ⟨tight, apart⟩ := List.isChain_cons.1 apart
      rw [tokensFrom?_isText first fun loose => rest.ends fun t' ht' => tight t' ht' loose,
        ih apart]
      simp

/-- The tokens that a text lays out are read from it, if none of them runs into the next. -/
theorem tokens?_of_laidOut {cs : List Char} (h : LaidOut ts cs) (apart : Apart ts) :
    tokens? cs = some ts := tokensFrom?_laidOut h apart

end Rollout.Json
