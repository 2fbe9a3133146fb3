import Rollout.Http.Url
import Rollout.Json.Reader
import Rollout.Proofs.ModuleId.Grammar
import Rollout.Proofs.Text.Utf8

/-!
# Percent-encoded texts

A percent sign with two hexadecimal digits behind it stands for a byte, and every other character
for the bytes that it has. So the bytes are found again that were written behind percent signs.

A segment of a path is written with percent signs for some characters, but its own percent signs are
left as they are. So what is written stands for the segment, unless the segment holds what looks
like a byte behind a percent sign (`percentDecode_written`); then it stands for fewer bytes.
-/

namespace Rollout.Http

open Json (hexDigit?)
open Text (utf8 utf8_cons)

/-- The bytes that a percent-encoded text stands for. -/
def percentDecode : List Char → List UInt8
  | '%' :: a :: b :: cs =>
      match hexDigit? a, hexDigit? b with
      | some high, some low => UInt8.ofNat (16 * high + low) :: percentDecode cs
      | _, _ => utf8 ['%'] ++ percentDecode (a :: b :: cs)
  | c :: cs => utf8 [c] ++ percentDecode cs
  | [] => []

def IsHex (c : Char) : Prop := ∃ n, hexDigit? c = some n

def StartsHex (cs : List Char) : Prop := ∃ a b rest, cs = a :: b :: rest ∧ IsHex a ∧ IsHex b

instance (c : Char) : Decidable (IsHex c) :=
  decidable_of_iff ((hexDigit? c).isSome = true) Option.isSome_iff_exists

variable {c : Char} {rest : List Char}

theorem startsHex_cons_cons {a b : Char} : StartsHex (a :: b :: rest) ↔ IsHex a ∧ IsHex b := by
  refine ⟨?_, fun h => ⟨a, b, rest, rfl, h⟩⟩
  rintro ⟨a, b, rest, ⟨⟩, h⟩
  exact h

instance : (cs : List Char) → Decidable (StartsHex cs)
  | a :: b :: _ => decidable_of_iff (IsHex a ∧ IsHex b) startsHex_cons_cons.symm
  | [] | [_] => .isFalse (by simp [StartsHex])

theorem percentDecode_nil : percentDecode [] = [] := rfl

/-- A character that is no percent sign stands for its bytes. -/
theorem percentDecode_cons (h : c ≠ '%') :
    percentDecode (c :: rest) = utf8 [c] ++ percentDecode rest := by
  rw [percentDecode]
  rintro a b cs rfl
  exact absurd rfl h

/-- Without two hexadecimal digits behind it, a percent sign stands for itself. -/
theorem percentDecode_percent (h : ¬ StartsHex rest) :
    percentDecode ('%' :: rest) = utf8 ['%'] ++ percentDecode rest := by
  match rest with
  | [] | [_] => rfl
  | a :: b :: rest =>
      rw [percentDecode]
      split
      next high low ha hb => exact absurd ⟨a, b, rest, rfl, ⟨high, ha⟩, ⟨low, hb⟩⟩ h
      next => rfl

theorem percentDecode_plain {cs : List Char} (h : '%' ∉ cs) :
    percentDecode (cs ++ rest) = utf8 cs ++ percentDecode rest := by
  induction cs with
  | nil => rfl
  | cons c cs ih =>
      have hc : c ≠ '%' := fun percent => h (percent ▸ List.mem_cons_self)
      rw [List.cons_append, percentDecode_cons hc, ih (mt (List.mem_cons_of_mem c) h),
        utf8_cons c cs, List.append_assoc]

theorem percentDecode_hex {a b : Char} {high low : Nat} (ha : hexDigit? a = some high)
    (hb : hexDigit? b = some low) :
    percentDecode ('%' :: a :: b :: rest) =
      UInt8.ofNat (16 * high + low) :: percentDecode rest := by
  rw [percentDecode, ha, hb]

theorem hexDigit?_hexDigit : ∀ n < 16, hexDigit? (hexDigit n) = some n := by decide

theorem percentDecode_percentByte (b : UInt8) :
    percentDecode (percentByte b ++ rest) = b :: percentDecode rest := by
  have small : b.toNat < 256 := b.toNat_lt
  have whole : 16 * (b.toNat / 16) + b.toNat % 16 = b.toNat := Nat.div_add_mod _ _
  show percentDecode ('%' :: hexDigit (b.toNat / 16) :: hexDigit (b.toNat % 16) :: rest) = _
  rw [percentDecode_hex (hexDigit?_hexDigit _ (by omega)) (hexDigit?_hexDigit _ (by omega)), whole,
    UInt8.ofNat_toNat]

/-- The bytes that were written behind percent signs. -/
theorem percentDecode_bytes (bytes : List UInt8) :
    percentDecode (bytes.flatMap percentByte ++ rest) = bytes ++ percentDecode rest := by
  induction bytes with
  | nil => rfl
  | cons b bytes ih =>
      rw [List.flatMap_cons, List.append_assoc, percentDecode_percentByte, ih, List.cons_append]

/-! ### Segments as written -/

/-- A segment of a path as it is written on the network. -/
def written (cs : List Char) : List Char := cs.flatMap (encodeChar isPathSpecial)

/-- A text holds what looks like a byte behind a percent sign. -/
def HasEscape (cs : List Char) : Prop := ∃ a b, IsHex a ∧ IsHex b ∧ ['%', a, b] <:+: cs

section Written

variable {c : Char} {cs rest : List Char}

theorem written_cons : written (c :: cs) = encodeChar isPathSpecial c ++ written cs :=
  List.flatMap_cons

/-- A character is written as it is or behind percent signs, a percent sign as it is. -/
theorem encodeChar_cases (c : Char) : encodeChar isPathSpecial c = [c] ∨
    encodeChar isPathSpecial c = (utf8 [c]).flatMap percentByte ∧ c ≠ '%' := by
  rw [encodeChar]
  split
  next special =>
    refine .inr ⟨rfl, ?_⟩
    rintro rfl
    simp [isPathSpecial] at special
  next => exact .inl rfl

theorem utf8_singleton_ne_nil (c : Char) : utf8 [c] ≠ [] := by
  rw [utf8, List.flatMap_singleton, String.utf8EncodeChar]
  grind

theorem not_isHex_percent : ¬ IsHex '%' := by
  rintro ⟨n, hn⟩
  simp [hexDigit?] at hn

/-- A text that is written with a hexadecimal digit in front begins with it. -/
theorem cons_of_written {a : Char} (hex : IsHex a) (h : written cs = a :: rest) :
    ∃ more, cs = a :: more ∧ written more = rest := by
  cases cs with
  | nil => simp [written] at h
  | cons c cs =>
      rw [written_cons] at h
      rcases encodeChar_cases c with same | ⟨behind, -⟩
      · rw [same, List.singleton_append] at h
        obtain ⟨rfl, rfl⟩ := List.cons.inj h
        exact ⟨cs, rfl, rfl⟩
      · obtain ⟨b, bytes, hbytes⟩ := List.exists_cons_of_ne_nil (utf8_singleton_ne_nil c)
        rw [behind, hbytes, List.flatMap_cons] at h
        obtain rfl : '%' = a := (List.cons.inj h).1
        exact absurd hex not_isHex_percent

theorem StartsHex.of_written (h : StartsHex (written cs)) : StartsHex cs := by
  obtain ⟨a, b, rest, hcs, ha, hb⟩ := h
  obtain ⟨more, rfl, hmore⟩ := cons_of_written ha hcs
  obtain ⟨more, rfl, -⟩ := cons_of_written hb hmore
  exact ⟨a, b, more, rfl, ha, hb⟩

theorem isAlphanum_toNat {c : Char} (h : c.isAlphanum = true) : 48 ≤ c.toNat ∧ c.toNat ≤ 122 := by
  have same : c.val.toNat = c.toNat := rfl
  simp only [ModuleId.isAlphanum_iff, Char.le_def, UInt32.le_iff_toNat_le] at h
  simp at h
  omega

/-- Letters and digits are written as they are. -/
theorem encodeChar_of_isAlphanum (h : c.isAlphanum = true) : encodeChar isPathSpecial c = [c] := by
  have bounds := isAlphanum_toNat h
  have others : ∀ d ∈ [' ', '"', '#', '<', '>', '?', '^', '\x60', '\x7b', '\x7d'],
      d.isAlphanum = false := by simp
  have plain : isPathSpecial c = false :=
    decide_eq_false fun special => by simp [others c special] at h
  rw [encodeChar, if_neg]
  simp [plain]
  omega

theorem IsHex.isAlphanum (hex : IsHex c) : c.isAlphanum = true := by
  obtain ⟨n, hn⟩ := hex
  rw [ModuleId.isAlphanum_iff]
  simp only [hexDigit?, Bool.and_eq_true, decide_eq_true_eq, Char.le_def,
    UInt32.le_iff_toNat_le] at hn ⊢
  simp at hn ⊢
  grind

theorem IsHex.written_cons (hex : IsHex c) : written (c :: cs) = c :: written cs := by
  rw [Http.written_cons, encodeChar_of_isAlphanum hex.isAlphanum, List.singleton_append]

theorem hasEscape_cons : HasEscape (c :: cs) ↔ c = '%' ∧ StartsHex cs ∨ HasEscape cs := by
  constructor
  · rintro ⟨a, b, ha, hb, found⟩
    rcases List.infix_cons_iff.1 found with ⟨rest, front⟩ | later
    · obtain ⟨rfl, rfl⟩ := List.cons.inj front
      exact .inl ⟨rfl, a, b, rest, rfl, ha, hb⟩
    · exact .inr ⟨a, b, ha, hb, later⟩
  · rintro (⟨rfl, a, b, rest, rfl, ha, hb⟩ | ⟨a, b, ha, hb, later⟩)
    · exact ⟨a, b, ha, hb, [], rest, rfl⟩
    · exact ⟨a, b, ha, hb, List.infix_cons later⟩

instance : (cs : List Char) → Decidable (HasEscape cs)
  | [] => .isFalse (by simp [HasEscape])
  | c :: cs =>
      haveI := instDecidableHasEscape cs
      decidable_of_iff (c = '%' ∧ StartsHex cs ∨ HasEscape cs) hasEscape_cons.symm

/-- A character is read as it was, unless it is a percent sign in front of two hexadecimal
digits. -/
theorem percentDecode_written_cons (h : ¬ (c = '%' ∧ StartsHex cs)) :
    percentDecode (written (c :: cs)) = utf8 [c] ++ percentDecode (written cs) := by
  rw [written_cons]
  rcases encodeChar_cases c with same | ⟨behind, -⟩
  · rw [same, List.singleton_append]
    by_cases percent : c = '%'
    · subst percent
      exact percentDecode_percent fun starts => h ⟨rfl, starts.of_written⟩
    · exact percentDecode_cons percent
  · rw [behind, percentDecode_bytes]

/-- What a text is written as stands for its bytes, unless it holds what looks like a byte behind a
percent sign. -/
theorem percentDecode_written (h : ¬ HasEscape cs) : percentDecode (written cs) = utf8 cs := by
  induction cs with
  | nil => rfl
  | cons c cs ih =>
      rw [hasEscape_cons, not_or] at h
      rw [percentDecode_written_cons h.1, ih h.2, utf8_cons c cs]

theorem length_utf8_cons (c : Char) (cs : List Char) :
    (utf8 (c :: cs)).length = (utf8 [c]).length + (utf8 cs).length := by
  rw [utf8_cons, List.length_append]

/-- What a text is written as stands for no more bytes than the text has, and for fewer if it holds
what looks like a byte behind a percent sign. -/
theorem length_percentDecode_written (cs : List Char) :
    (percentDecode (written cs)).length ≤ (utf8 cs).length ∧
      (HasEscape cs → (percentDecode (written cs)).length < (utf8 cs).length) := by
  induction cs using percentDecode.induct with
  | case1 a b cs high low hb ha ih =>
      have read : percentDecode (written ('%' :: a :: b :: cs)) =
          UInt8.ofNat (16 * high + low) :: percentDecode (written cs) := by
        rw [written_cons, IsHex.written_cons ⟨high, ha⟩, IsHex.written_cons ⟨low, hb⟩]
        exact percentDecode_hex ha hb
      have positive (c : Char) := List.length_pos_iff.2 (utf8_singleton_ne_nil c)
      have first := positive '%'
      have second := positive a
      have third := positive b
      rw [read, List.length_cons, length_utf8_cons '%', length_utf8_cons a, length_utf8_cons b cs]
      omega
  | case2 a b cs other ih =>
      have apart : ¬ StartsHex (a :: b :: cs) := by
        rintro ⟨a, b, rest, hcs, ⟨high, ha⟩, low, hb⟩
        obtain ⟨rfl, rfl, -⟩ := by simpa using hcs
        exact other high low ha hb
      rw [percentDecode_written_cons fun h => apart h.2, List.length_append,
        length_utf8_cons '%' (a :: b :: cs), hasEscape_cons]
      simpa [apart] using ih
  | case3 c cs other ih =>
      have apart : ¬ (c = '%' ∧ StartsHex cs) := by
        rintro ⟨rfl, a, b, rest, rfl, -, -⟩
        exact other a b rest rfl rfl
      rw [percentDecode_written_cons apart, List.length_append, length_utf8_cons c cs,
        hasEscape_cons]
      simpa [apart] using ih
  | case4 => simp [written, percentDecode_nil, HasEscape]

end Written

end Rollout.Http
