import Rollout.Proofs.Http.Percent

/-!
# Reading pairs in form encoding

A query in form encoding is read by cutting it at ampersands, and each part at its first equals
sign; on both sides of that sign a plus stands for a blank, and what is behind percent signs for
bytes of a text. None of these signs is left in what form encoding makes of a text, so pairs are
read back as they were, whatever they hold (`formPairs_withPairs`).
-/

namespace Rollout.Http

open Text (utf8 ofUtf8 ofUtf8_utf8)

/-- The character that a character of a query stands for before percent signs are read. -/
def unplus (c : Char) : Char := if c = '+' then ' ' else c

/-- The text that a part in form encoding stands for. -/
def formText (cs : List Char) : String := String.ofList (ofUtf8 (percentDecode (cs.map unplus)))

def formPart (cs : List Char) : String × String :=
  (formText (cs.takeWhile (· ≠ '=')), formText ((cs.dropWhile (· ≠ '=')).drop 1))

/-- The pairs that a query in form encoding stands for. -/
def formPairs (query : String) : List (String × String) :=
  ((query.toList.splitOn '&').filter (· ≠ [])).map formPart

/-! ### Texts -/

def formByte (b : UInt8) : List Char :=
  let c := Char.ofNat b.toNat
  if b < 0x80 && (c.isAlphanum || c ∈ ['*', '-', '.', '_']) then [c]
  else if c = ' ' then ['+']
  else percentByte b

theorem formEncode_eq (s : String) : formEncode s = (utf8 s.toList).flatMap formByte := rfl

theorem formByte_separators : ∀ n < 256, '&' ∉ formByte (UInt8.ofNat n) ∧
    '=' ∉ formByte (UInt8.ofNat n) := by
  decide +kernel

/-- A byte goes behind a percent sign, or as the character of that byte. -/
theorem formByte_unplus : ∀ n < 256, let cs := (formByte (UInt8.ofNat n)).map unplus
    cs = percentByte (UInt8.ofNat n) ∨ utf8 cs = [UInt8.ofNat n] ∧ '%' ∉ cs := by
  decide +kernel

theorem percentDecode_formByte (b : UInt8) (rest : List Char) :
    percentDecode ((formByte b).map unplus ++ rest) = b :: percentDecode rest := by
  have cases := formByte_unplus b.toNat b.toNat_lt
  rw [UInt8.ofNat_toNat] at cases
  rcases cases with behind | ⟨bytes, plain⟩
  · rw [behind, percentDecode_percentByte]
  · rw [percentDecode_plain plain, bytes, List.singleton_append]

/-- A text is read back from its form encoding. -/
theorem formText_formEncode (s : String) : formText (formEncode s) = s := by
  have bytes (bytes : List UInt8) :
      percentDecode ((bytes.flatMap formByte).map unplus) = bytes := by
    induction bytes with
    | nil => rfl
    | cons b bytes ih => rw [List.flatMap_cons, List.map_append, percentDecode_formByte, ih]
  rw [formText, formEncode_eq, bytes, ofUtf8_utf8, String.ofList_toList]

theorem separators_not_mem_formEncode (s : String) : '&' ∉ formEncode s ∧ '=' ∉ formEncode s := by
  have apart (b : UInt8) : '&' ∉ formByte b ∧ '=' ∉ formByte b := by
    simpa using formByte_separators b.toNat b.toNat_lt
  simp only [formEncode_eq, List.mem_flatMap, not_exists, not_and]
  exact ⟨fun b _ => (apart b).1, fun b _ => (apart b).2⟩

/-! ### Pairs -/

theorem formPart_formPair (pair : String × String) : formPart (formPair pair) = pair := by
  have name : ∀ c ∈ formEncode pair.1, decide (c ≠ '=') = true := fun c hc =>
    decide_eq_true (ne_of_mem_of_not_mem hc (separators_not_mem_formEncode pair.1).2)
  rw [formPart, formPair, List.takeWhile_append_of_pos name, List.dropWhile_append_of_pos name,
    List.takeWhile_cons_of_neg (by simp), List.dropWhile_cons_of_neg (by simp), List.append_nil,
    List.drop_succ_cons, List.drop_zero, formText_formEncode, formText_formEncode]

theorem formPair_ne_nil (pair : String × String) : formPair pair ≠ [] := by
  simp [formPair]

theorem ampersand_not_mem_formPair (pair : String × String) : '&' ∉ formPair pair := by
  simp [formPair, (separators_not_mem_formEncode _).1]

/-- Pairs are read back from a query that holds nothing else. -/
theorem formPairs_intercalate (pairs : List (String × String)) :
    formPairs (String.intercalate "&" (pairs.map fun pair => String.ofList (formPair pair))) =
      pairs := by
  cases pairs with
  | nil => rfl
  | cons pair rest =>
      have text : (String.intercalate "&"
          ((pair :: rest).map fun pair => String.ofList (formPair pair))).toList =
            ['&'].intercalate ((pair :: rest).map formPair) := by
        simp [String.toList_intercalate, Function.comp_def]
      have parts : (['&'].intercalate ((pair :: rest).map formPair)).splitOn '&' =
          (pair :: rest).map formPair := by
        refine List.splitOn_intercalate '&' (fun part hpart => ?_) (List.cons_ne_nil _ _)
        obtain ⟨pair, -, rfl⟩ := List.mem_map.1 hpart
        exact ampersand_not_mem_formPair pair
      have present :
          ((pair :: rest).map formPair).filter (· ≠ []) = (pair :: rest).map formPair := by
        refine List.filter_eq_self.2 fun part hpart => decide_eq_true ?_
        obtain ⟨pair, -, rfl⟩ := List.mem_map.1 hpart
        exact formPair_ne_nil pair
      rw [formPairs, text, parts, present, List.map_map]
      exact List.map_id'' formPart_formPair _

example : formPairs "a=1+2&b=%26%C3%A9&&c" = [("a", "1 2"), ("b", "&\u00e9"), ("c", "")] := by
  decide

/-- Pairs that are added to an address without a query are read back from it. -/
theorem formPairs_withPairs {u : Url} (plain : u.query = none) {pairs : List (String × String)}
    (present : pairs ≠ []) :
    ∃ query, u.withPairs pairs = { u with query := some query } ∧ formPairs query = pairs := by
  refine ⟨_, ?_, formPairs_intercalate pairs⟩
  simp [Url.withPairs, present, plain]

end Rollout.Http
