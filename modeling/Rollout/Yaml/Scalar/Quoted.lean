import Rollout.Yaml.Scalar.Gap

/-!
# Quoted scalars

Between single quotes a quote is written twice and nothing else is special. Between double quotes a
backslash begins an escape; one at the end of a line drops the line end. Spaces around a line end
are dropped in both, and the line ends are folded.
-/

namespace Rollout.Yaml

/-- The words of a quoted scalar up to a gap or its end: what it reads as, how many characters that
took, and whether an escaped line end follows. -/
structure QuotedWord where
  text : List Char
  length : Nat
  atEscapedBreak : Bool

/-- A word with one more character in front, which took some characters. -/
def QuotedWord.push (char : Char) (length : Nat) (w : QuotedWord) : QuotedWord :=
  { w with text := char :: w.text, length := length + w.length }

def QuotedWord.stop : QuotedWord := ⟨[], 0, false⟩

def singleWord : List Char → QuotedWord
  | [] => .stop
  | [c] => if c = '\'' || endsWord (some c) then .stop else .push c 1 .stop
  | c :: d :: cs =>
      if c = '\'' then
        if d = '\'' then .push '\'' 2 (singleWord cs) else .stop
      else if endsWord (some c) then .stop
      else .push c 1 (singleWord (d :: cs))

/-- What may follow a backslash: one character that stands for another, or a mark for a number of
hexadecimal digits. -/
inductive Escape where
  | char (c : Char)
  | digits (count : Nat)

def escape? : Char → Option Escape
  | '0' => some (.char '\x00')
  | 'a' => some (.char '\x07')
  | 'b' => some (.char '\x08')
  | 't' => some (.char '\t')
  | '\t' => some (.char '\t')
  | 'n' => some (.char '\n')
  | 'v' => some (.char '\x0b')
  | 'f' => some (.char '\x0c')
  | 'r' => some (.char '\r')
  | 'e' => some (.char '\x1b')
  | ' ' => some (.char ' ')
  | '"' => some (.char '"')
  | '/' => some (.char '/')
  | '\\' => some (.char '\\')
  | 'N' => some (.char '\x85')
  | '_' => some (.char '\xa0')
  | 'L' => some (.char '\u2028')
  | 'P' => some (.char '\u2029')
  | 'x' => some (.digits 2)
  | 'u' => some (.digits 4)
  | 'U' => some (.digits 8)
  | _ => none

def hexValue? (c : Char) : Option Nat :=
  if '0' ≤ c ∧ c ≤ '9' then some (c.toNat - 48)
  else if 'a' ≤ c ∧ c ≤ 'f' then some (c.toNat - 87)
  else if 'A' ≤ c ∧ c ≤ 'F' then some (c.toNat - 55)
  else none

/-- The value of hexadecimal digits after those before, which amount to `value`. -/
def hexNumber? (value : Nat) : List Char → Option Nat
  | [] => some value
  | c :: cs => do hexNumber? (16 * value + (← hexValue? c)) cs

/-- The character with a code point, unless that is half of a surrogate pair or out of range. -/
def charOfPoint? (n : Nat) : Option Char :=
  if n.isValidChar then some (Char.ofNat n) else none

def doubleWord? : (fuel : Nat) → List Char → Option QuotedWord
  | 0, _ => none
  | _ + 1, [] => some .stop
  | fuel + 1, c :: cs =>
      if c = '"' || endsWord (some c) then some .stop
      else if c = '\\' then
        match cs with
        | [] => none
        | d :: ds =>
            if isBreak d then some ⟨[], 1, true⟩
            else
              match escape? d with
              | none => none
              | some (.char char) => (doubleWord? fuel ds).map (.push char 2)
              | some (.digits count) => do
                  let digits := ds.take count
                  if digits.length < count then none
                  let char ← charOfPoint? (← hexNumber? 0 digits)
                  return (← doubleWord? fuel (ds.drop count)).push char (2 + count)
      else (doubleWord? fuel cs).map (.push c 1)

def quotedWord? (quote : Char) (cs : List Char) : Option QuotedWord :=
  if quote = '\'' then some (singleWord cs) else doubleWord? (cs.length + 1) cs

def quotedFrom? (quote : Char) : (fuel : Nat) → List Char → Cursor → Option (List Char × Cursor)
  | 0, _, _ => none
  | fuel + 1, text, c =>
      if c.isDocumentIndicator || (c.peek 0).isNone then none
      else do
        let word ← quotedWord? quote c.rest
        let text := text ++ word.text
        let c := c.skip word.length
        if c.at? quote && !word.atEscapedBreak then return (text, c.skip 1)
        let (gap, c) ←
          if word.atEscapedBreak then Gap.extend? 0 (c.rest.length + 1) .escaped c.takeBreak.2
          else Gap.extend? 0 (c.rest.length + 1) .none c
        quotedFrom? quote fuel (text ++ gap.text) c

def quoted? (quote : Char) (c : Cursor) : Option (List Char × Cursor) :=
  quotedFrom? quote (c.rest.length + 2) [] (c.skip 1)

end Rollout.Yaml
