import Rollout.Text.Utf8
import Rollout.Yaml.Cursor
import Rollout.Yaml.Scalar.Quoted
import Rollout.Yaml.Token.Basic

/-!
# Anchors, tags and directives

An anchor names a node and an alias refers to one. A tag names the type of a node: either in full
between angle brackets, or by a handle that a directive may have given, and a suffix. The characters
of a tag may be escaped by a percent sign and two hexadecimal digits for each byte.
-/

namespace Rollout.Yaml

def endsAnchor (c : Option Char) : Bool :=
  endsWord c || c.any fun c => c ∈ ['?', ':', ',', ']', '\x7d', '%', '@', '\x60']

def anchorName? (c : Cursor) : Option (String × Cursor) :=
  let (name, c) := (c.skip 1).takeWhile isNameChar
  if name.isEmpty || !(endsAnchor (c.peek 0)) then none else some (String.ofList name, c)

def isTagChar (full : Bool) (c : Char) : Bool :=
  isNameChar c || c ∈ [';', '/', '?', ':', '@', '&', '=', '+', '$', '.', '%', '!', '~', '*', '\'',
    '(', ')'] || (full && c ∈ [',', '[', ']'])

def escapedByte? : List Char → Option UInt8
  | '%' :: a :: b :: _ => do return UInt8.ofNat (16 * (← hexValue? a) + (← hexValue? b))
  | _ => none

def byteCount? (b : UInt8) : Option Nat :=
  if b < 0x80 then some 1
  else if b &&& 0xE0 = 0xC0 then some 2
  else if b &&& 0xF0 = 0xE0 then some 3
  else if b &&& 0xF8 = 0xF0 then some 4
  else none

def followingBytes? : Nat → List Char → Option (List UInt8)
  | 0, _ => some []
  | n + 1, cs => do
      let b ← escapedByte? cs
      if b &&& 0xC0 = 0x80 then return b :: (← followingBytes? n (cs.drop 3)) else none

def escapedChar? (cs : List Char) : Option (List UInt8) := do
  let b ← escapedByte? cs
  return b :: (← followingBytes? ((← byteCount? b) - 1) (cs.drop 3))

def tagBytes? (full : Bool) : (fuel : Nat) → List Char → Option (List UInt8 × Nat)
  | 0, _ => some ([], 0)
  | _ + 1, [] => some ([], 0)
  | fuel + 1, c :: cs =>
      if !(isTagChar full c) then some ([], 0)
      else if c = '%' then do
        let bytes ← escapedChar? (c :: cs)
        let (rest, length) ← tagBytes? full fuel ((c :: cs).drop (3 * bytes.length))
        return (bytes ++ rest, 3 * bytes.length + length)
      else do
        let (rest, length) ← tagBytes? full fuel cs
        return (Text.utf8 [c] ++ rest, length + 1)

def tagText? (full : Bool) (c : Cursor) : Option (String × Cursor) := do
  let (bytes, length) ← tagBytes? full (c.rest.length + 1) c.rest
  return (String.ofList (Text.ofUtf8 bytes), c.skip length)

/-- The handle here: an exclamation mark, a name, and another exclamation mark if there is one. -/
def tagHandle? (c : Cursor) : Option (String × Cursor) :=
  if !(c.at? '!') then none
  else
    let (name, c) := (c.skip 1).takeWhile isNameChar
    if c.at? '!' then some (String.ofList ('!' :: name ++ ['!']), c.skip 1)
    else some (String.ofList ('!' :: name), c)

/-- Whether a handle is closed by an exclamation mark of its own. -/
def isClosedHandle (handle : String) : Bool :=
  1 < handle.length && handle.toList.getLast? = some '!'

def fullTag? (c : Cursor) : Option (Token × Cursor) := do
  let (text, c) ← tagText? true (c.skip 2)
  if text.isEmpty || !(c.at? '>') then none else return (.tag "" text, c.skip 1)

/-- The tag by handle and suffix here. What was taken for a handle but is not closed belongs to the
suffix. -/
def shortTag? (c : Cursor) : Option (Token × Cursor) := do
  let (handle, c) ← tagHandle? c
  let (text, c) ← tagText? false c
  if isClosedHandle handle then
    if text.isEmpty then none else return (.tag handle text, c)
  else
    let suffix := (handle.drop 1).toString ++ text
    if suffix.isEmpty then return (.tag "" "!", c) else return (.tag "!" suffix, c)

def tag? (inFlow : Bool) (c : Cursor) : Option (Token × Cursor) := do
  let (token, c) ← if c.peek 1 = some '<' then fullTag? c else shortTag? c
  if (inFlow && c.at? ',') || endsWord (c.peek 0) then return (token, c) else none

/-- The number of a version here: at most nine digits. -/
def versionNumber? (c : Cursor) : Option (Nat × Cursor) :=
  let (digits, c) := c.takeWhile Char.isDigit
  if digits.isEmpty || 9 < digits.length then none
  else some (digits.foldl (fun n d => 10 * n + (d.toNat - 48)) 0, c)

def versionDirective? (c : Cursor) : Option (Token × Cursor) := do
  let (major, c) ← versionNumber? (c.skipWhile isSpacing)
  if !(c.at? '.') then none
  let (minor, c) ← versionNumber? (c.skip 1)
  return (.versionDirective major minor, c)

def tagDirective? (c : Cursor) : Option (Token × Cursor) := do
  let (handle, c) ← tagHandle? (c.skipWhile isSpacing)
  if handle ≠ "!" ∧ isClosedHandle handle = false then none
  if !((c.peek 0).any isSpacing) then none
  let (lead, c) ← tagText? true (c.skipWhile isSpacing)
  if lead.isEmpty || !(endsWord (c.peek 0)) then none
  return (.tagDirective handle lead, c)

def directive? (c : Cursor) : Option (Token × Cursor) := do
  let (name, c) := (c.skip 1).takeWhile isNameChar
  if !(endsWord (c.peek 0)) then none
  let (token, c) ←
    if name = ['Y', 'A', 'M', 'L'] then versionDirective? c
    else if name = ['T', 'A', 'G'] then tagDirective? c
    else none
  return (token, ← c.restOfLine?)

end Rollout.Yaml
