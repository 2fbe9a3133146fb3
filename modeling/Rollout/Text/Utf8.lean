/-!
# Bytes of a text

`utf8` writes a text as bytes. `ofUtf8` reads bytes that may be damaged: every longest start of a
character that is not carried through, and every byte that starts none, becomes one replacement
character. What was written is read back unchanged.
-/

namespace Rollout.Text

def utf8 (cs : List Char) : List UInt8 := cs.flatMap String.utf8EncodeChar

def replacement : Char := '\ufffd'

/-- How many bytes follow a first byte, and the bounds of the one right after it; nothing when no
character starts with that byte. -/
def followers (b : UInt8) : Option (Nat × UInt8 × UInt8) :=
  if b < 0x80 then some (0, 0x80, 0xBF)
  else if 0xC2 ≤ b && b ≤ 0xDF then some (1, 0x80, 0xBF)
  else if b = 0xE0 then some (2, 0xA0, 0xBF)
  else if b = 0xED then some (2, 0x80, 0x9F)
  else if 0xE1 ≤ b && b ≤ 0xEF then some (2, 0x80, 0xBF)
  else if b = 0xF0 then some (3, 0x90, 0xBF)
  else if 0xF1 ≤ b && b ≤ 0xF3 then some (3, 0x80, 0xBF)
  else if b = 0xF4 then some (3, 0x80, 0x8F)
  else none

/-- The bits of a first byte that belong to the code point, for the number of bytes after it. -/
def leadBits (count : Nat) (b : UInt8) : Nat :=
  match count with
  | 0 => b.toNat
  | 1 => b.toNat % 32
  | 2 => b.toNat % 16
  | _ => b.toNat % 8

/-- A character under way: the bytes it still needs, the bounds of the next, and the bits so far. -/
structure PartialChar where
  owed : Nat
  low : UInt8
  high : UInt8
  bits : Nat

/-- What a byte does between characters: a whole character, the start of one, or a replacement. -/
def startChar (b : UInt8) : Option PartialChar × List Char :=
  match followers b with
  | none => (none, [replacement])
  | some (0, _, _) => (none, [Char.ofNat b.toNat])
  | some (n, low, high) => (some ⟨n, low, high, leadBits n b⟩, [])

/-- Reads bytes after those of the character under way. -/
def readUtf8 : Option PartialChar → List UInt8 → List Char
  | none, [] => []
  | some _, [] => [replacement]
  | none, b :: bs => (startChar b).2 ++ readUtf8 (startChar b).1 bs
  | some p, b :: bs =>
      if p.low ≤ b && b ≤ p.high then
        let bits := p.bits * 64 + b.toNat % 64
        if p.owed = 1 then Char.ofNat bits :: readUtf8 none bs
        else readUtf8 (some ⟨p.owed - 1, 0x80, 0xBF, bits⟩) bs
      else replacement :: ((startChar b).2 ++ readUtf8 (startChar b).1 bs)

/-- The text of bytes, damaged places replaced. -/
def ofUtf8 (bytes : List UInt8) : List Char := readUtf8 none bytes

end Rollout.Text
