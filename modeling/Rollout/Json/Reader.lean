import Rollout.Json.Document

/-!
# Reading JSON

A JSON text is cut into tokens, and the tokens are folded into a document with the containers part
way through on a stack. Both passes go through their input once, so they end without a measure and
without a bound on nesting. `Document.read` accepts the texts of RFC 8259 and no others: one value,
blanks (space, tab, line feed, carriage return) around tokens only, no byte order mark, no control
character in a string. `Json.read` also asks for a meaning, with 127 levels of nesting at most.
-/

namespace Rollout.Json

inductive Token where
  | openArray
  | closeArray
  | openObject
  | closeObject
  | comma
  | colon
  | null
  | bool (value : Bool)
  | num (digits : NumberText)
  | str (points : List Nat)
  deriving DecidableEq, Repr

/-- What the last characters began: nothing, a string, an escape in one, the hexadecimal digits of
one, a number or a word. What was collected stands in reverse. -/
inductive Scan where
  | idle
  | text (points : List Nat)
  | escape (points : List Nat)
  | hex (points : List Nat) (left value : Nat)
  | number (chars : List Char)
  | word (chars : List Char)

def spanDigits (cs : List Char) : List Char × List Char := cs.span Char.isDigit

def powerText? : List Char → Option (Bool × List Char)
  | '+' :: cs => if cs.isEmpty || !cs.all Char.isDigit then none else some (false, cs)
  | '-' :: cs => if cs.isEmpty || !cs.all Char.isDigit then none else some (true, cs)
  | cs => if cs.isEmpty || !cs.all Char.isDigit then none else some (false, cs)

/-- The number that characters write: no leading zero, digits on both sides of a point. -/
def numberText? (cs : List Char) : Option NumberText := do
  let (negative, cs) := match cs with
    | '-' :: cs => (true, cs)
    | cs => (false, cs)
  let (whole, cs) := spanDigits cs
  if whole.isEmpty || (whole.head? = some '0' && whole.length ≠ 1) then none
  else
    let (fraction, cs) := match cs with
      | '.' :: cs =>
          ((spanDigits cs).1, if (spanDigits cs).1.isEmpty then ['.'] else (spanDigits cs).2)
      | cs => ([], cs)
    match cs with
    | [] => some ⟨negative, whole, fraction, none⟩
    | 'e' :: cs => (powerText? cs).map fun p => ⟨negative, whole, fraction, some p⟩
    | 'E' :: cs => (powerText? cs).map fun p => ⟨negative, whole, fraction, some p⟩
    | _ => none

def wordToken? (chars : List Char) : Option Token :=
  if chars = ['n', 'u', 'l', 'l'] then some .null
  else if chars = ['t', 'r', 'u', 'e'] then some (.bool true)
  else if chars = ['f', 'a', 'l', 's', 'e'] then some (.bool false)
  else none

def inNumber (c : Char) : Bool := c.isDigit || c = '-' || c = '+' || c = '.' || c = 'e' || c = 'E'

/-- What a character between tokens begins, and the token it is if it is one. -/
def begin? (c : Char) : Option (Scan × List Token) :=
  if c = ' ' || c = '\t' || c = '\n' || c = '\r' then some (.idle, [])
  else if c = '[' then some (.idle, [.openArray])
  else if c = ']' then some (.idle, [.closeArray])
  else if c = '\x7b' then some (.idle, [.openObject])
  else if c = '\x7d' then some (.idle, [.closeObject])
  else if c = ',' then some (.idle, [.comma])
  else if c = ':' then some (.idle, [.colon])
  else if c = '"' then some (.text [], [])
  else if c.isDigit || c = '-' then some (.number [c], [])
  else if 'a' ≤ c && c ≤ 'z' then some (.word [c], [])
  else none

def hexDigit? (c : Char) : Option Nat :=
  if '0' ≤ c && c ≤ '9' then some (c.toNat - 48)
  else if 'a' ≤ c && c ≤ 'f' then some (c.toNat - 87)
  else if 'A' ≤ c && c ≤ 'F' then some (c.toNat - 55)
  else none

def shortEscape? (c : Char) : Option Nat :=
  if c = '"' then some 34
  else if c = '\\' then some 92
  else if c = '/' then some 47
  else if c = 'b' then some 8
  else if c = 'f' then some 12
  else if c = 'n' then some 10
  else if c = 'r' then some 13
  else if c = 't' then some 9
  else none

/-- Puts an escaped unit after code points in reverse; the second half of a pair joins the first. -/
def joinUnit (unit : Nat) : List Nat → List Nat
  | [] => [unit]
  | p :: ps =>
      if 0xDC00 ≤ unit && unit ≤ 0xDFFF && 0xD800 ≤ p && p ≤ 0xDBFF then
        (0x10000 + (p - 0xD800) * 0x400 + (unit - 0xDC00)) :: ps
      else unit :: p :: ps

/-- The token that ends where the next character does not belong to it. -/
def Scan.finish? : Scan → Option (List Token)
  | .idle => some []
  | .number chars => (numberText? chars.reverse).map fun t => [.num t]
  | .word chars => (wordToken? chars.reverse).map fun t => [t]
  | _ => none

def Scan.step? (scan : Scan) (c : Char) : Option (Scan × List Token) :=
  match scan with
  | .idle => begin? c
  | .text points =>
      if c = '"' then some (.idle, [.str points.reverse])
      else if c = '\\' then some (.escape points, [])
      else if c.toNat < 32 then none
      else some (.text (c.toNat :: points), [])
  | .escape points =>
      if c = 'u' then some (.hex points 4 0, [])
      else (shortEscape? c).map fun p => (.text (p :: points), [])
  | .hex points left value => do
      let value := 16 * value + (← hexDigit? c)
      if left = 1 then some (.text (joinUnit value points), [])
      else some (.hex points (left - 1) value, [])
  | .number chars =>
      if inNumber c then some (.number (c :: chars), [])
      else do
        let ended ← (Scan.number chars).finish?
        let (next, begun) ← begin? c
        some (next, ended ++ begun)
  | .word chars =>
      if 'a' ≤ c && c ≤ 'z' then some (.word (c :: chars), [])
      else do
        let ended ← (Scan.word chars).finish?
        let (next, begun) ← begin? c
        some (next, ended ++ begun)

def tokensFrom? (scan : Scan) (found : List Token) : List Char → Option (List Token)
  | [] => scan.finish?.map fun ended => found.reverse ++ ended
  | c :: cs =>
      match scan.step? c with
      | none => none
      | some (next, ended) => tokensFrom? next (ended.reverse ++ found) cs

def tokens? (cs : List Char) : Option (List Token) := tokensFrom? .idle [] cs

/-- A container part way through: what it holds already, in reverse, and the name under way. -/
inductive Frame where
  | array (before : List Document)
  | object (before : List (List Nat × Document)) (name : List Nat)

/-- What may come next: a value, one or the end of the array just opened, a name or the end of the
object just opened, a name, the colon after a name, or what follows a value. -/
inductive Expect where
  | value
  | valueOrEnd
  | nameOrEnd (before : List (List Nat × Document))
  | name (before : List (List Nat × Document))
  | colon (before : List (List Nat × Document)) (name : List Nat)
  | after (value : Document)

def Token.atom? : Token → Option Document
  | .null => some .null
  | .bool b => some (.bool b)
  | .num t => some (.num t)
  | .str points => some (.str points)
  | _ => none

def Expect.valueStep (stack : List Frame) : Token → Option (Expect × List Frame)
  | .openArray => some (.valueOrEnd, stack)
  | .openObject => some (.nameOrEnd [], stack)
  | t => t.atom?.map fun d => (.after d, stack)

def Expect.step? (expect : Expect) (stack : List Frame) (t : Token) :
    Option (Expect × List Frame) :=
  match expect with
  | .value => Expect.valueStep stack t
  | .valueOrEnd =>
      match t with
      | .closeArray => some (.after (.arr []), stack)
      | t => Expect.valueStep (.array [] :: stack) t
  | .nameOrEnd before =>
      match t with
      | .closeObject => some (.after (.obj before.reverse), stack)
      | .str points => some (.colon before points, stack)
      | _ => none
  | .name before =>
      match t with
      | .str points => some (.colon before points, stack)
      | _ => none
  | .colon before key =>
      match t with
      | .colon => some (.value, .object before key :: stack)
      | _ => none
  | .after d =>
      match stack, t with
      | .array before :: stack, .comma => some (.value, .array (d :: before) :: stack)
      | .array before :: stack, .closeArray =>
          some (.after (.arr (d :: before).reverse), stack)
      | .object before key :: stack, .comma => some (.name ((key, d) :: before), stack)
      | .object before key :: stack, .closeObject =>
          some (.after (.obj ((key, d) :: before).reverse), stack)
      | _, _ => none

def documentFrom? (expect : Expect) (stack : List Frame) : List Token → Option Document
  | [] =>
      match expect, stack with
      | .after value, [] => some value
      | _, _ => none
  | t :: ts =>
      match expect.step? stack t with
      | none => none
      | some (expect, stack) => documentFrom? expect stack ts

def Document.read (s : String) : Option Document := do
  documentFrom? .value [] (← tokens? s.toList)

def maxDepth : Nat := 127

def read (s : String) : Option Json := do (← Document.read s).meaning? maxDepth

end Rollout.Json
