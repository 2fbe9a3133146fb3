import Rollout.Proofs.Json.Text

/-!
# Numbers as written

A number is written as a minus or nothing, digits with no zero in front of others, a point with
digits behind it or nothing, and a power or nothing. `numberText?` accepts just what is written so
(`numberText?_eq_some_iff`).
-/

namespace Rollout.Json

def IsDigits (cs : List Char) : Prop := cs ≠ [] ∧ ∀ c ∈ cs, c.isDigit = true

/-- How the power of a number is written: a letter, a sign or none, and digits. -/
inductive PowerText : Option (Bool × List Char) → List Char → Prop
  | none : PowerText none []
  | plain {digits : List Char} (mark : Char) (known : mark = 'e' ∨ mark = 'E')
      (number : IsDigits digits) : PowerText (some (false, digits)) (mark :: digits)
  | signed {digits : List Char} (mark : Char) (known : mark = 'e' ∨ mark = 'E') (negative : Bool)
      (number : IsDigits digits) :
      PowerText (some (negative, digits)) (mark :: (if negative then '-' else '+') :: digits)

def minus (negative : Bool) : List Char := if negative then ['-'] else []

/-- The fraction of a number with the point in front of it, if there is one. -/
def pointed : List Char → List Char
  | [] => []
  | fraction => '.' :: fraction

structure Numeral (t : NumberText) (text : List Char) : Prop where
  written : ∃ power, PowerText t.power power ∧
    text = minus t.negative ++ (t.whole ++ (pointed t.fraction ++ power))
  whole : IsDigits t.whole
  unpadded : t.whole.head? = some '0' → t.whole.length = 1
  fraction : ∀ c ∈ t.fraction, c.isDigit = true

/-! ### The parts of a number -/

def signOf : List Char → Bool × List Char
  | '-' :: cs => (true, cs)
  | cs => (false, cs)

/-- The fraction in front of a text, and what is behind it. A point without a digit stays. -/
def fractionOf : List Char → List Char × List Char
  | '.' :: cs => ((spanDigits cs).1, if (spanDigits cs).1.isEmpty then ['.'] else (spanDigits cs).2)
  | cs => ([], cs)

/-- The power that a text is, or none if there is no text. -/
def powerOf? : List Char → Option (Option (Bool × List Char))
  | [] => some none
  | 'e' :: cs => (powerText? cs).map some
  | 'E' :: cs => (powerText? cs).map some
  | _ => none

theorem numberText?_eq (cs : List Char) : numberText? cs =
    let whole := spanDigits (signOf cs).2
    if whole.1.isEmpty || (whole.1.head? = some '0' && whole.1.length ≠ 1) then none
    else (powerOf? (fractionOf whole.2).2).map fun power =>
      ⟨(signOf cs).1, whole.1, (fractionOf whole.2).1, power⟩ := by
  have parts (negative : Bool) (whole fraction rest : List Char) : (match rest with
      | [] => some (⟨negative, whole, fraction, none⟩ : NumberText)
      | 'e' :: cs => (powerText? cs).map fun p => ⟨negative, whole, fraction, some p⟩
      | 'E' :: cs => (powerText? cs).map fun p => ⟨negative, whole, fraction, some p⟩
      | _ => none) =
        (powerOf? rest).map fun power => ⟨negative, whole, fraction, power⟩ := by
    unfold powerOf?
    split <;> simp [Function.comp_def]
  simp only [← parts]
  rfl

theorem signOf_spec (cs : List Char) : cs = minus (signOf cs).1 ++ (signOf cs).2 := by
  unfold signOf
  split <;> rfl

theorem signOf_minus {negative : Bool} {cs : List Char} (unsigned : cs.head? ≠ some '-') :
    signOf (minus negative ++ cs) = (negative, cs) := by
  cases negative with
  | true => rfl
  | false =>
      rw [minus, if_neg Bool.false_ne_true, List.nil_append, signOf]
      rintro rest rfl
      exact unsigned rfl

theorem spanDigits_append {digits rest : List Char} (inside : ∀ c ∈ digits, c.isDigit = true)
    (apart : ∀ c ∈ rest.head?, c.isDigit = false) :
    spanDigits (digits ++ rest) = (digits, rest) := by
  rw [spanDigits, List.span_eq_takeWhile_dropWhile, List.takeWhile_append_of_pos inside,
    List.dropWhile_append_of_pos inside]
  cases rest with
  | nil => simp
  | cons c rest =>
      have hc := apart c rfl
      simp [hc]

theorem spanDigits_spec (cs : List Char) : cs = (spanDigits cs).1 ++ (spanDigits cs).2 ∧
    ∀ c ∈ (spanDigits cs).1, c.isDigit = true := by
  rw [spanDigits, List.span_eq_takeWhile_dropWhile]
  exact ⟨List.takeWhile_append_dropWhile.symm, fun c hc => List.mem_takeWhile_imp hc⟩

theorem isDigits_iff {cs : List Char} :
    IsDigits cs ↔ ¬ (cs.isEmpty || !cs.all Char.isDigit) = true := by
  simp [IsDigits]

theorem IsDigits.head?_ne {digits : List Char} (h : IsDigits digits) {c : Char}
    (mark : c.isDigit = false) : digits.head? ≠ some c := by
  intro first
  have digit := h.2 c (List.mem_of_head? first)
  rw [mark] at digit
  cases digit

/-- The power of a number is read behind its letter. -/
theorem powerText?_eq_some_iff {mark : Char} (known : mark = 'e' ∨ mark = 'E') {cs : List Char}
    {power : Bool × List Char} :
    powerText? cs = some power ↔ PowerText (some power) (mark :: cs) := by
  constructor
  · intro h
    unfold powerText? at h
    split at h <;> split at h
    all_goals cases h
    next digits number => exact .signed mark known false (isDigits_iff.2 number)
    next digits number => exact .signed mark known true (isDigits_iff.2 number)
    next number => exact .plain mark known (isDigits_iff.2 number)
  · intro h
    cases h with
    | plain _ _ number =>
        rw [powerText?, if_neg (isDigits_iff.1 number)]
        · rintro rest rfl
          exact number.head?_ne (by decide) rfl
        · rintro rest rfl
          exact number.head?_ne (by decide) rfl
    | signed _ _ negative number =>
        cases negative <;> exact if_neg (isDigits_iff.1 number)

theorem powerOf?_eq_some_iff {cs : List Char} {power : Option (Bool × List Char)} :
    powerOf? cs = some power ↔ PowerText power cs := by
  constructor
  · intro h
    unfold powerOf? at h
    split at h
    · cases h
      exact .none
    · obtain ⟨p, hp, rfl⟩ := Option.map_eq_some_iff.1 h
      exact (powerText?_eq_some_iff (.inl rfl)).1 hp
    · obtain ⟨p, hp, rfl⟩ := Option.map_eq_some_iff.1 h
      exact (powerText?_eq_some_iff (.inr rfl)).1 hp
    · cases h
  · intro h
    match power, cs, h with
    | none, _, .none => rfl
    | some p, mark :: cs, h =>
        have known : mark = 'e' ∨ mark = 'E' := by
          cases h <;> assumption
        have read := (powerText?_eq_some_iff known).2 h
        rcases known with rfl | rfl <;> exact congrArg (Option.map some) read

theorem PowerText.head? {power : Option (Bool × List Char)} {cs : List Char}
    (h : PowerText power cs) : ∀ c ∈ cs.head?, c = 'e' ∨ c = 'E' := by
  cases h with
  | none => simp
  | plain mark known number => simpa using known
  | signed mark known negative number => simpa using known

theorem fractionOf_spec (cs : List Char) :
    (cs = pointed (fractionOf cs).1 ++ (fractionOf cs).2 ∨ (fractionOf cs).2 = ['.']) ∧
      ∀ c ∈ (fractionOf cs).1, c.isDigit = true := by
  unfold fractionOf
  split
  next cs =>
    obtain ⟨whole, inside⟩ := spanDigits_spec cs
    refine ⟨?_, inside⟩
    cases digits : (spanDigits cs).1 with
    | nil => exact .inr rfl
    | cons c rest =>
        rw [digits] at whole
        exact .inl (congrArg ('.' :: ·) whole)
  next => exact ⟨.inl rfl, by simp⟩

theorem fractionOf_pointed {fraction rest : List Char} (inside : ∀ c ∈ fraction, c.isDigit = true)
    (apart : ∀ c ∈ rest.head?, c = 'e' ∨ c = 'E') :
    fractionOf (pointed fraction ++ rest) = (fraction, rest) := by
  cases fraction with
  | nil =>
      show fractionOf rest = ([], rest)
      rw [fractionOf]
      rintro cs rfl
      exact absurd (apart '.' rfl) (by decide)
  | cons c fraction =>
      have split : spanDigits (c :: fraction ++ rest) = (c :: fraction, rest) := by
        refine spanDigits_append inside fun c hc => ?_
        rcases apart c hc with rfl | rfl <;> rfl
      show fractionOf ('.' :: (c :: fraction ++ rest)) = _
      rw [fractionOf, split]
      rfl

theorem head?_fraction {fraction power : List Char} (h : ∀ c ∈ power.head?, c = 'e' ∨ c = 'E') :
    ∀ c ∈ (pointed fraction ++ power).head?, c.isDigit = false := by
  cases fraction with
  | nil =>
      intro c hc
      rcases h c hc with rfl | rfl <;> rfl
  | cons c fraction =>
      rintro _ ⟨⟩
      rfl

/-- A number is read from just those texts that it is written as. -/
theorem numberText?_eq_some_iff {cs : List Char} {t : NumberText} :
    numberText? cs = some t ↔ Numeral t cs := by
  rw [numberText?_eq]
  constructor
  · intro h
    dsimp only at h
    split at h
    · cases h
    next whole =>
      obtain ⟨power, hpower, rfl⟩ := Option.map_eq_some_iff.1 h
      obtain ⟨digits, inside⟩ := spanDigits_spec (signOf cs).2
      obtain ⟨split | lone, fraction⟩ := fractionOf_spec (spanDigits (signOf cs).2).2
      · simp only [Bool.or_eq_true, Bool.and_eq_true, decide_eq_true_eq, not_or, not_and,
          List.isEmpty_iff, not_not] at whole
        refine ⟨⟨_, powerOf?_eq_some_iff.1 hpower, ?_⟩, ⟨whole.1, inside⟩, whole.2, fraction⟩
        exact (signOf_spec cs).trans (congrArg _ (digits.trans (congrArg _ split)))
      · rw [lone] at hpower
        cases hpower
  · rintro ⟨⟨power, hpower, rfl⟩, whole, unpadded, fraction⟩
    obtain ⟨first, rest, front⟩ := List.exists_cons_of_ne_nil whole.1
    have unsigned : (t.whole ++ (pointed t.fraction ++ power)).head? ≠ some '-' := by
      have apart := whole.head?_ne (c := '-') rfl
      rw [front] at apart ⊢
      exact apart
    have apart : ∀ c ∈ (pointed t.fraction ++ power).head?, c.isDigit = false :=
      head?_fraction hpower.head?
    have digits := spanDigits_append whole.2 apart
    simp only [signOf_minus unsigned, digits, fractionOf_pointed fraction hpower.head?,
      powerOf?_eq_some_iff.2 hpower]
    rw [if_neg]
    · rfl
    · simp only [Bool.or_eq_true, Bool.and_eq_true, decide_eq_true_eq, not_or, not_and,
        List.isEmpty_iff, not_not]
      exact ⟨whole.1, unpadded⟩

/-! ### The characters of a number -/

theorem inNumber_of_isDigit {c : Char} (h : c.isDigit = true) : inNumber c = true := by
  simp [inNumber, h]

theorem PowerText.inNumber {power : Option (Bool × List Char)} {cs : List Char}
    (h : PowerText power cs) : ∀ c ∈ cs, inNumber c = true := by
  cases h with
  | none => simp
  | plain mark known number =>
      refine List.forall_mem_cons.2 ⟨?_, fun c hc => inNumber_of_isDigit (number.2 c hc)⟩
      rcases known with rfl | rfl <;> rfl
  | signed mark known negative number =>
      refine List.forall_mem_cons.2 ⟨?_, List.forall_mem_cons.2
        ⟨?_, fun c hc => inNumber_of_isDigit (number.2 c hc)⟩⟩
      · rcases known with rfl | rfl <;> rfl
      · cases negative <;> rfl

theorem Numeral.inNumber {t : NumberText} {text : List Char} (h : Numeral t text) :
    ∀ c ∈ text, inNumber c = true := by
  obtain ⟨⟨power, hpower, rfl⟩, whole, -, fraction⟩ := h
  simp only [List.forall_mem_append]
  refine ⟨?_, fun c hc => inNumber_of_isDigit (whole.2 c hc), ?_, hpower.inNumber⟩
  · cases t.negative <;> simp [minus, Json.inNumber]
  · cases htext : t.fraction with
    | nil => simp [pointed]
    | cons c rest =>
        rw [htext] at fraction
        exact List.forall_mem_cons.2 ⟨rfl, fun c hc => inNumber_of_isDigit (fraction c hc)⟩

/-- A number begins with a digit or a minus. -/
theorem Numeral.exists_cons {t : NumberText} {text : List Char} (h : Numeral t text) :
    ∃ c cs, text = c :: cs ∧ (c.isDigit || c = '-') = true := by
  obtain ⟨⟨power, -, rfl⟩, whole, -, -⟩ := h
  cases t.negative with
  | true => exact ⟨'-', _, rfl, rfl⟩
  | false =>
      obtain ⟨c, cs, front⟩ := List.exists_cons_of_ne_nil whole.1
      have digit := whole.2 c (front ▸ List.mem_cons_self)
      rw [front]
      exact ⟨c, _, rfl, by simp [digit]⟩

end Rollout.Json
