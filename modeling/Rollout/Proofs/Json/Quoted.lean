import Rollout.Proofs.Json.Text

/-!
# Strings as written

A string is written in pieces, each of which stands for a unit: a character, a short escape, or an
escape with four hexadecimal digits. A unit that is no half of a surrogate pair is a code point, and
two halves in a row, the high one first, are one together. Where no half is left alone, the scanner
collects just these points (`StringText`, `tokensFrom?_stringText`, `exists_stringText`).
-/

namespace Rollout.Json

/-- A unit is the first half of a surrogate pair. -/
def IsHigh (unit : Nat) : Prop := 0xD800 ≤ unit ∧ unit ≤ 0xDBFF

/-- A unit is the second half of a surrogate pair. -/
def IsLow (unit : Nat) : Prop := 0xDC00 ≤ unit ∧ unit ≤ 0xDFFF

def pairPoint (high low : Nat) : Nat := 0x10000 + (high - 0xD800) * 0x400 + (low - 0xDC00)

inductive Piece : List Char → Nat → Prop
  | plain (c : Char) (printed : 32 ≤ c.toNat) (quote : c ≠ '"') (backslash : c ≠ '\\') :
      Piece [c] c.toNat
  | short {c : Char} {point : Nat} (read : shortEscape? c = some point) : Piece ['\\', c] point
  | hex {a b c d : Char} {w x y z : Nat} (first : hexDigit? a = some w)
      (second : hexDigit? b = some x) (third : hexDigit? c = some y)
      (fourth : hexDigit? d = some z) :
      Piece ['\\', 'u', a, b, c, d] (16 * (16 * (16 * w + x) + y) + z)

inductive Pieces : List Char → List Nat → Prop
  | nil : Pieces [] []
  | cons {text rest : List Char} {unit : Nat} {units : List Nat} (piece : Piece text unit)
      (pieces : Pieces rest units) : Pieces (text ++ rest) (unit :: units)

/-- Units are some code points, with no half left alone. -/
inductive Paired : List Nat → List Nat → Prop
  | nil : Paired [] []
  | whole {unit : Nat} {units points : List Nat} (whole : isHalf unit = false)
      (rest : Paired units points) : Paired (unit :: units) (unit :: points)
  | pair {high low : Nat} {units points : List Nat} (isHigh : IsHigh high) (isLow : IsLow low)
      (rest : Paired units points) : Paired (high :: low :: units) (pairPoint high low :: points)

/-- What stands for some code points in a string. -/
def StringText (text : List Char) (points : List Nat) : Prop :=
  ∃ units, Pieces text units ∧ Paired units points

/-! ### Halves of pairs -/

theorem isHalf_iff {unit : Nat} : isHalf unit = true ↔ IsHigh unit ∨ IsLow unit := by
  simp only [isHalf, IsHigh, IsLow, Bool.and_eq_true, decide_eq_true_eq]
  omega

theorem joinUnit_of_not_isLow {unit : Nat} (h : ¬ IsLow unit) (points : List Nat) :
    joinUnit unit points = unit :: points := by
  cases points with
  | nil => rfl
  | cons p ps =>
      rw [joinUnit, if_neg]
      simp only [Bool.and_eq_true, decide_eq_true_eq]
      exact fun join => h ⟨join.1.1.1, join.1.1.2⟩

theorem joinUnit_of_not_isHigh {p : Nat} (h : ¬ IsHigh p) (unit : Nat) (points : List Nat) :
    joinUnit unit (p :: points) = unit :: p :: points := by
  rw [joinUnit, if_neg]
  simp only [Bool.and_eq_true, decide_eq_true_eq]
  exact fun join => h ⟨join.1.2, join.2⟩

theorem joinUnit_pair {high low : Nat} (isHigh : IsHigh high) (isLow : IsLow low)
    (points : List Nat) : joinUnit low (high :: points) = pairPoint high low :: points := by
  have pair : (0xDC00 ≤ low && low ≤ 0xDFFF && 0xD800 ≤ high && high ≤ 0xDBFF) = true := by
    simp [isHigh.1, isHigh.2, isLow.1, isLow.2]
  exact if_pos pair

theorem not_isHigh_pairPoint (high low : Nat) : ¬ IsHigh (pairPoint high low) := by
  unfold IsHigh pairPoint
  omega

/-- Only the latest of the points can be joined. -/
theorem joinUnit_append (unit : Nat) {points : List Nat} (some : points ≠ []) (before : List Nat) :
    joinUnit unit (points ++ before) = joinUnit unit points ++ before := by
  obtain ⟨p, ps, rfl⟩ := List.exists_cons_of_ne_nil some
  rw [List.cons_append, joinUnit, joinUnit]
  split <;> rfl

theorem joinUnit_ne_nil (unit : Nat) (points : List Nat) : joinUnit unit points ≠ [] := by
  cases points with
  | nil => exact List.cons_ne_nil _ _
  | cons p ps =>
      rw [joinUnit]
      split <;> exact List.cons_ne_nil _ _

/-- Code points in reverse with some units put after them. -/
def joinUnits (units points : List Nat) : List Nat :=
  units.foldl (fun points unit => joinUnit unit points) points

theorem joinUnits_append (units : List Nat) {points : List Nat} (some : points ≠ [])
    (before : List Nat) :
    joinUnits units (points ++ before) = joinUnits units points ++ before := by
  induction units generalizing points with
  | nil => rfl
  | cons unit units ih =>
      show joinUnits units (joinUnit unit (points ++ before)) = _
      rw [joinUnit_append unit some before]
      exact ih (joinUnit_ne_nil unit points)

/-- What comes after a point that is no first half stays apart from it. -/
theorem joinUnits_singleton {p : Nat} (h : ¬ IsHigh p) (units : List Nat) :
    joinUnits units [p] = joinUnits units [] ++ [p] := by
  cases units with
  | nil => rfl
  | cons unit units =>
      show joinUnits units (joinUnit unit [p]) = _
      rw [joinUnit_of_not_isHigh h]
      exact joinUnits_append units (List.cons_ne_nil unit []) [p]

/-- Units with no half left alone are joined into their points. -/
theorem joinUnits_of_paired {units points : List Nat} (h : Paired units points)
    (before : List Nat) : joinUnits units before = points.reverse ++ before := by
  induction h generalizing before with
  | nil => rfl
  | @whole unit units points whole rest ih =>
      have single : ¬ IsLow unit := fun isLow => by
        rw [isHalf_iff.2 (.inr isLow)] at whole
        cases whole
      show joinUnits units (joinUnit unit before) = _
      rw [joinUnit_of_not_isLow single, ih]
      simp
  | @pair high low units points isHigh isLow rest ih =>
      have first : ¬ IsLow high := by
        unfold IsLow
        unfold IsHigh at isHigh
        omega
      show joinUnits units (joinUnit low (joinUnit high before)) = _
      rw [joinUnit_of_not_isLow first, joinUnit_pair isHigh isLow, ih]
      simp

/-- Units that are joined into points with no half among them have no half left alone. -/
theorem paired_joinUnits (units : List Nat) (whole : ∀ p ∈ joinUnits units [], isHalf p = false) :
    Paired units (joinUnits units []).reverse := by
  match units with
  | [] => exact .nil
  | [unit] => exact .whole (whole unit List.mem_cons_self) .nil
  | high :: low :: units =>
      by_cases pair : IsHigh high ∧ IsLow low
      · have joined : joinUnits (high :: low :: units) [] =
            joinUnits units [] ++ [pairPoint high low] := by
          rw [← joinUnits_singleton (not_isHigh_pairPoint high low)]
          show joinUnits units (joinUnit low [high]) = _
          rw [joinUnit_pair pair.1 pair.2]
        rw [joined] at whole ⊢
        rw [List.reverse_append]
        exact .pair pair.1 pair.2
          (paired_joinUnits units fun p hp => whole p (List.mem_append_left _ hp))
      · have apart : joinUnit low [high] = [low] ++ [high] := by
          by_cases isHigh : IsHigh high
          · exact joinUnit_of_not_isLow (fun isLow => pair ⟨isHigh, isLow⟩) [high]
          · exact joinUnit_of_not_isHigh isHigh low []
        have joined : joinUnits (high :: low :: units) [] =
            joinUnits (low :: units) [] ++ [high] := by
          show joinUnits units (joinUnit low [high]) = _
          rw [apart]
          exact joinUnits_append units (List.cons_ne_nil low []) [high]
        rw [joined] at whole ⊢
        rw [List.reverse_append]
        exact .whole (whole high (by simp))
          (paired_joinUnits (low :: units) fun p hp => whole p (List.mem_append_left _ hp))

/-! ### Code points -/

theorem hexDigit?_lt {c : Char} {n : Nat} (h : hexDigit? c = some n) : n < 16 := by
  simp only [hexDigit?, Bool.and_eq_true, decide_eq_true_eq, Char.le_def,
    UInt32.le_iff_toNat_le] at h
  simp at h
  grind

theorem shortEscape?_lt {c : Char} {point : Nat} (h : shortEscape? c = some point) :
    point < 128 := by
  unfold shortEscape? at h
  grind

theorem Piece.lt {text : List Char} {unit : Nat} (h : Piece text unit) : unit < 0x110000 := by
  cases h with
  | plain c =>
      have valid : c.toNat < 0xD800 ∨ 0xDFFF < c.toNat ∧ c.toNat < 0x110000 := c.valid
      omega
  | short read =>
      have small := shortEscape?_lt read
      omega
  | hex first second third fourth =>
      have := hexDigit?_lt first
      have := hexDigit?_lt second
      have := hexDigit?_lt third
      have := hexDigit?_lt fourth
      omega

theorem Pieces.lt {text : List Char} {units : List Nat} (h : Pieces text units) :
    ∀ unit ∈ units, unit < 0x110000 := by
  induction h with
  | nil => simp
  | cons piece _ ih => exact List.forall_mem_cons.2 ⟨piece.lt, ih⟩

theorem isHalf_eq_false_iff {point : Nat} (small : point < 0x110000) :
    isHalf point = false ↔ point.isValidChar := by
  simp only [isHalf, Nat.isValidChar, Bool.and_eq_false_iff, decide_eq_false_iff_not]
  omega

theorem Paired.isValidChar {units points : List Nat} (h : Paired units points)
    (small : ∀ unit ∈ units, unit < 0x110000) : ∀ p ∈ points, p.isValidChar := by
  induction h with
  | nil => simp
  | whole whole _ ih =>
      obtain ⟨unit, units⟩ := List.forall_mem_cons.1 small
      exact List.forall_mem_cons.2 ⟨(isHalf_eq_false_iff unit).1 whole, ih units⟩
  | pair isHigh isLow _ ih =>
      refine List.forall_mem_cons.2 ⟨.inr ?_, ih fun unit hunit => small unit (by simp [hunit])⟩
      unfold IsHigh at isHigh
      unfold IsLow at isLow
      unfold pairPoint
      omega

/-- The points of a string are those of characters. -/
theorem StringText.isValidChar {text : List Char} {points : List Nat}
    (h : StringText text points) : ∀ p ∈ points, p.isValidChar := by
  obtain ⟨units, pieces, paired⟩ := h
  exact paired.isValidChar pieces.lt

/-! ### Reading a string -/

variable {found ts : List Token} {rest : List Char} {points : List Nat}

theorem tokensFrom?_cons_iff {scan : Scan} {c : Char} {cs : List Char} :
    tokensFrom? scan found (c :: cs) = some ts ↔ ∃ next ended, scan.step? c = some (next, ended) ∧
      tokensFrom? next (ended.reverse ++ found) cs = some ts := by
  rw [tokensFrom?]
  cases scan.step? c with
  | none => simp
  | some reached =>
      refine ⟨fun h => ⟨_, _, rfl, h⟩, ?_⟩
      rintro ⟨_, _, ⟨⟩, h⟩
      exact h

theorem not_isLow_toNat (c : Char) : ¬ IsLow c.toNat := by
  have valid : c.toNat < 0xD800 ∨ 0xDFFF < c.toNat ∧ c.toNat < 0x110000 := c.valid
  unfold IsLow
  omega

theorem not_isLow_of_shortEscape {c : Char} {point : Nat} (read : shortEscape? c = some point) :
    ¬ IsLow point := by
  have small := shortEscape?_lt read
  unfold IsLow
  omega

/-- A hexadecimal digit of an escape. -/
theorem step?_hex (points : List Nat) (left value : Nat) {c : Char} {n : Nat}
    (read : hexDigit? c = some n) : (Scan.hex points left value).step? c =
      some (if left = 1 then .text (joinUnit (16 * value + n) points)
        else .hex points (left - 1) (16 * value + n), []) := by
  by_cases last : left = 1 <;> simp [Scan.step?, read, last]

/-- A piece of a string is read as its unit. -/
theorem tokensFrom?_piece {text : List Char} {unit : Nat} (piece : Piece text unit) :
    tokensFrom? (.text points) found (text ++ rest) =
      tokensFrom? (.text (joinUnit unit points)) found rest := by
  cases piece with
  | plain c printed quote backslash =>
      rw [joinUnit_of_not_isLow (not_isLow_toNat c), List.singleton_append, tokensFrom?, Scan.step?,
        if_neg quote, if_neg backslash, if_neg (Nat.not_lt.2 printed)]
      rfl
  | @short c _ read =>
      have step : (Scan.escape points).step? c = some (.text (unit :: points), []) := by
        rw [Scan.step?, if_neg, read]
        · rfl
        · rintro rfl
          cases read
      rw [joinUnit_of_not_isLow (not_isLow_of_shortEscape read)]
      show tokensFrom? (.escape points) found (c :: rest) = _
      rw [tokensFrom?, step]
      rfl
  | @hex a b c d w x y z first second third fourth =>
      show tokensFrom? (.hex points 4 0) found (a :: b :: c :: d :: rest) = _
      rw [tokensFrom?, step?_hex points 4 0 first]
      show tokensFrom? (.hex points 3 (16 * 0 + w)) found (b :: c :: d :: rest) = _
      rw [tokensFrom?, step?_hex points 3 _ second]
      show tokensFrom? (.hex points 2 (16 * (16 * 0 + w) + x)) found (c :: d :: rest) = _
      rw [tokensFrom?, step?_hex points 2 _ third]
      show tokensFrom? (.hex points 1 (16 * (16 * (16 * 0 + w) + x) + y)) found (d :: rest) = _
      rw [tokensFrom?, step?_hex points 1 _ fourth, Nat.mul_zero, Nat.zero_add]
      rfl

theorem tokensFrom?_pieces {text : List Char} {units : List Nat} (pieces : Pieces text units) :
    tokensFrom? (.text points) found (text ++ rest) =
      tokensFrom? (.text (joinUnits units points)) found rest := by
  induction pieces generalizing points with
  | nil => rfl
  | cons piece _ ih =>
      rw [List.append_assoc, tokensFrom?_piece piece, ih]
      rfl

/-- A string is read as its code points. -/
theorem tokensFrom?_stringText {text : List Char} (string : StringText text points) :
    tokensFrom? .idle found ('"' :: (text ++ '"' :: rest)) =
      tokensFrom? .idle (.str points :: found) rest := by
  obtain ⟨units, pieces, paired⟩ := string
  show tokensFrom? (.text []) found (text ++ '"' :: rest) = _
  rw [tokensFrom?_pieces pieces, joinUnits_of_paired paired, List.append_nil]
  show tokensFrom? .idle (.str points.reverse.reverse :: found) rest = _
  rw [List.reverse_reverse]

/-- A hexadecimal digit further in an escape. -/
theorem tokensFrom?_hex {left value : Nat} {cs : List Char}
    (h : tokensFrom? (.hex points left value) found cs = some ts) :
    ∃ c rest n, cs = c :: rest ∧ hexDigit? c = some n ∧
      tokensFrom? (if left = 1 then .text (joinUnit (16 * value + n) points)
        else .hex points (left - 1) (16 * value + n)) found rest = some ts := by
  cases cs with
  | nil => cases h
  | cons c rest =>
      obtain ⟨next, ended, step, further⟩ := tokensFrom?_cons_iff.1 h
      cases digit : hexDigit? c with
      | none => simp [Scan.step?, digit] at step
      | some n =>
          rw [step?_hex points left value digit] at step
          cases step
          exact ⟨c, rest, n, rfl, digit, further⟩

/-- An escape in a string that is read is a piece. -/
theorem tokensFrom?_escape {cs : List Char} (h : tokensFrom? (.escape points) found cs = some ts) :
    ∃ text unit rest, '\\' :: cs = text ++ rest ∧ text ≠ [] ∧ Piece text unit ∧
      tokensFrom? (.text (joinUnit unit points)) found rest = some ts := by
  cases cs with
  | nil => cases h
  | cons c cs =>
      obtain ⟨next, ended, step, further⟩ := tokensFrom?_cons_iff.1 h
      rw [Scan.step?] at step
      split at step
      next hex =>
        cases step
        obtain rfl := hex
        obtain ⟨a, cs, w, rfl, first, further⟩ := tokensFrom?_hex further
        obtain ⟨b, cs, x, rfl, second, further⟩ := tokensFrom?_hex further
        obtain ⟨c, cs, y, rfl, third, further⟩ := tokensFrom?_hex further
        obtain ⟨d, cs, z, rfl, fourth, further⟩ := tokensFrom?_hex further
        refine ⟨['\\', 'u', a, b, c, d], _, cs, rfl, List.cons_ne_nil _ _,
          .hex first second third fourth, ?_⟩
        simpa using further
      next short =>
        obtain ⟨point, read, reached⟩ := Option.map_eq_some_iff.1 step
        cases reached
        refine ⟨['\\', c], point, cs, rfl, List.cons_ne_nil _ _, .short read, ?_⟩
        rw [joinUnit_of_not_isLow (not_isLow_of_shortEscape read)]
        exact further

/-- A string that is read goes on with its end or with a piece. -/
theorem tokensFrom?_text {cs : List Char} (h : tokensFrom? (.text points) found cs = some ts) :
    (∃ rest, cs = '"' :: rest ∧
      tokensFrom? .idle (.str points.reverse :: found) rest = some ts) ∨
    ∃ text unit rest, cs = text ++ rest ∧ text ≠ [] ∧ Piece text unit ∧
      tokensFrom? (.text (joinUnit unit points)) found rest = some ts := by
  cases cs with
  | nil => cases h
  | cons c cs =>
      obtain ⟨next, ended, step, further⟩ := tokensFrom?_cons_iff.1 h
      rw [Scan.step?] at step
      split at step
      next quote =>
        cases step
        exact .inl ⟨cs, by rw [quote], further⟩
      next quote =>
      split at step
      next backslash =>
        cases step
        obtain rfl := backslash
        exact .inr (tokensFrom?_escape further)
      next backslash =>
      split at step
      · cases step
      next printed =>
        cases step
        refine .inr ⟨[c], c.toNat, cs, rfl, List.cons_ne_nil _ _,
          .plain c (Nat.not_lt.1 printed) quote backslash, ?_⟩
        rw [joinUnit_of_not_isLow (not_isLow_toNat c)]
        exact further

/-- A string that is read is made of pieces. -/
theorem exists_pieces {points : List Nat} {cs : List Char}
    (h : tokensFrom? (.text points) found cs = some ts) :
    ∃ text units rest, cs = text ++ '"' :: rest ∧ Pieces text units ∧
      tokensFrom? .idle (.str (joinUnits units points).reverse :: found) rest = some ts := by
  rcases tokensFrom?_text h with
    ⟨rest, ended, further⟩ | ⟨text, unit, rest, front, nonempty, piece, further⟩
  · exact ⟨[], [], rest, ended, .nil, further⟩
  · have shorter : rest.length < cs.length := by
      have := List.length_pos_iff.2 nonempty
      rw [front, List.length_append]
      omega
    obtain ⟨more, units, rest, back, pieces, further⟩ := exists_pieces further
    exact ⟨text ++ more, unit :: units, rest, by rw [front, back, List.append_assoc],
      .cons piece pieces, further⟩
termination_by cs.length

/-- A string that is read with no half among its points is written as these. -/
theorem exists_stringText {cs : List Char} (h : tokensFrom? (.text []) found cs = some ts) :
    ∃ text points rest, cs = text ++ '"' :: rest ∧
      ((∀ p ∈ points, isHalf p = false) → StringText text points) ∧
      tokensFrom? .idle (.str points :: found) rest = some ts := by
  obtain ⟨text, units, rest, rfl, pieces, further⟩ := exists_pieces h
  refine ⟨text, _, rest, rfl, fun whole => ⟨units, pieces, paired_joinUnits units fun p hp => ?_⟩,
    further⟩
  exact whole p (List.mem_reverse.2 hp)

end Rollout.Json
