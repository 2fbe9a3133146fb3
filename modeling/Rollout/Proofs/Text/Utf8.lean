import Mathlib.Tactic.SplitIfs
import Rollout.Text.Utf8

/-!
# What was written in bytes is read back

The first byte of a character says how many bytes follow it, and each of these lies within the
bounds that are set for it. So the bytes of a text are read as that text, and two texts with the
same bytes are the same.
-/

namespace Rollout.Text

/-! ### First bytes -/

theorem followers_one : ∀ n < 128, followers (UInt8.ofNat n) = some (0, 0x80, 0xBF) := by
  decide +kernel

theorem followers_two : ∀ n < 32, 2 ≤ n →
    followers (UInt8.ofNat (n + 192)) = some (1, 0x80, 0xBF) := by decide

theorem followers_three : ∀ n < 16, followers (UInt8.ofNat (n + 224)) =
    some (2, if n = 0 then 0xA0 else 0x80, if n = 13 then 0x9F else 0xBF) := by decide

theorem followers_four : ∀ n < 5, followers (UInt8.ofNat (n + 240)) =
    some (3, if n = 0 then 0x90 else 0x80, if n = 4 then 0x8F else 0xBF) := by decide

section Steps

variable {n bits owed first lead : Nat} {low high : UInt8} (bs : List UInt8)

theorem toNat_ofNat_of_lt (small : n < 256) : (UInt8.ofNat n).toNat = n := by
  rw [UInt8.toNat_ofNat', Nat.mod_eq_of_lt small]

/-- The first of several bytes begins a character. -/
theorem readUtf8_lead (follow : followers (UInt8.ofNat first) = some (owed + 1, low, high))
    (value : leadBits (owed + 1) (UInt8.ofNat first) = lead) :
    readUtf8 none (UInt8.ofNat first :: bs) = readUtf8 (some ⟨owed + 1, low, high, lead⟩) bs := by
  simp [readUtf8, startChar, follow, value]

theorem within_bounds (small : n < 64) (least : low.toNat ≤ n + 128) (most : n + 128 ≤ high.toNat) :
    (low ≤ UInt8.ofNat (n + 128) && UInt8.ofNat (n + 128) ≤ high) = true := by
  simp only [Bool.and_eq_true, decide_eq_true_eq, UInt8.le_iff_toNat_le,
    toNat_ofNat_of_lt (show n + 128 < 256 by omega)]
  exact ⟨least, most⟩

/-- A byte within its bounds carries six bits on. -/
theorem readUtf8_carry (small : n < 64) (least : low.toNat ≤ n + 128)
    (most : n + 128 ≤ high.toNat) :
    readUtf8 (some ⟨owed + 2, low, high, bits⟩) (UInt8.ofNat (n + 128) :: bs) =
      readUtf8 (some ⟨owed + 1, 0x80, 0xBF, bits * 64 + n⟩) bs := by
  have value : (n + 128) % 64 = n := by omega
  rw [readUtf8, if_pos (within_bounds small least most), toNat_ofNat_of_lt (by omega), value]
  simp

/-- The last byte of a character completes it. -/
theorem readUtf8_last (small : n < 64) (least : low.toNat ≤ n + 128)
    (most : n + 128 ≤ high.toNat) :
    readUtf8 (some ⟨1, low, high, bits⟩) (UInt8.ofNat (n + 128) :: bs) =
      Char.ofNat (bits * 64 + n) :: readUtf8 none bs := by
  have value : (n + 128) % 64 = n := by omega
  rw [readUtf8, if_pos (within_bounds small least most), toNat_ofNat_of_lt (by omega), value]
  simp

end Steps

/-- A character is read from its bytes. -/
theorem readUtf8_encodeChar (c : Char) (bs : List UInt8) :
    readUtf8 none (String.utf8EncodeChar c ++ bs) = c :: readUtf8 none bs := by
  obtain ⟨v, hv⟩ : ∃ v, c.toNat = v := ⟨_, rfl⟩
  have valid : v < 55296 ∨ 57343 < v ∧ v < 1114112 := hv ▸ c.valid
  have whole : Char.ofNat v = c := hv ▸ c.ofNat_toNat
  rw [String.utf8EncodeChar, show c.val.toNat = v from hv]
  split_ifs with one two three
  · have value : (UInt8.ofNat v).toNat = v := toNat_ofNat_of_lt (by omega)
    simp [readUtf8, startChar, followers_one v (by omega), value, whole]
  · have lead : leadBits 1 (UInt8.ofNat (v / 64 % 32 + 192)) = v / 64 := by
      rw [leadBits, toNat_ofNat_of_lt (by omega)]
      omega
    have parts : v / 64 * 64 + v % 64 = v := by omega
    rw [List.cons_append, List.cons_append, List.nil_append,
      readUtf8_lead _ (followers_two _ (by omega) (by omega)) lead,
      readUtf8_last _ (by omega) (by simp) (by simp; omega), parts, whole]
  · have lead : leadBits 2 (UInt8.ofNat (v / 4096 % 16 + 224)) = v / 4096 := by
      rw [leadBits, toNat_ofNat_of_lt (by omega)]
      omega
    have parts : (v / 4096 * 64 + v / 64 % 64) * 64 + v % 64 = v := by omega
    rw [List.cons_append, List.cons_append, List.cons_append, List.nil_append,
      readUtf8_lead _ (followers_three _ (by omega)) lead,
      readUtf8_carry _ (by omega) (by split <;> simp; omega) (by split <;> (simp; omega)),
      readUtf8_last _ (by omega) (by simp) (by simp; omega), parts, whole]
  · have lead : leadBits 3 (UInt8.ofNat (v / 262144 % 8 + 240)) = v / 262144 := by
      show (UInt8.ofNat (v / 262144 % 8 + 240)).toNat % 8 = _
      rw [toNat_ofNat_of_lt (by omega)]
      omega
    have parts : ((v / 262144 * 64 + v / 4096 % 64) * 64 + v / 64 % 64) * 64 + v % 64 = v := by
      omega
    rw [List.cons_append, List.cons_append, List.cons_append, List.cons_append, List.nil_append,
      readUtf8_lead _ (followers_four _ (by omega)) lead,
      readUtf8_carry _ (by omega) (by split <;> simp; omega) (by split <;> (simp; omega)),
      readUtf8_carry _ (by omega) (by simp) (by simp; omega),
      readUtf8_last _ (by omega) (by simp) (by simp; omega), parts, whole]

theorem utf8_cons (c : Char) (cs : List Char) : utf8 (c :: cs) = utf8 [c] ++ utf8 cs := by
  simp [utf8]

/-- What was written is read back. -/
theorem ofUtf8_utf8 (cs : List Char) : ofUtf8 (utf8 cs) = cs := by
  rw [ofUtf8, utf8]
  induction cs with
  | nil => rfl
  | cons c cs ih => rw [List.flatMap_cons, readUtf8_encodeChar, ih]

theorem utf8_injective : Function.Injective utf8 := Function.LeftInverse.injective ofUtf8_utf8

end Rollout.Text
