/-!
# A place in a text

Indentation and the length of keys decide how a YAML text is read, so the place in the text is
carried along: what is left, how many characters came before, and the line and column.

A line ends at a line feed, a carriage return, both together, a next-line character, or one of the
two Unicode separators. All but the separators count as a line feed in what is read.
-/

namespace Rollout.Yaml

structure Cursor where
  rest : List Char
  index : Nat
  line : Nat
  column : Nat

def isSpacing (c : Char) : Bool := c = ' ' || c = '\t'

/-- Whether a character separates lines without counting as a line feed. -/
def isSeparator (c : Char) : Bool := c = '\u2028' || c = '\u2029'

def isBreak (c : Char) : Bool := c = '\n' || c = '\r' || c = '\x85' || isSeparator c

def endsLine (c : Option Char) : Bool := c.all isBreak

def endsWord (c : Option Char) : Bool := c.all fun c => isSpacing c || isBreak c

def isNameChar (c : Char) : Bool := c.isAlphanum || c = '_' || c = '-'

def isAllowed (c : Char) : Bool :=
  let n := c.toNat
  n = 9 || n = 10 || n = 13 || (32 ≤ n && n ≤ 126) || n = 0x85 || (0xA0 ≤ n && n ≤ 0xFFFD) ||
    0x10000 ≤ n

namespace Cursor

def start (cs : List Char) : Cursor := ⟨cs, 0, 0, 0⟩

/-- The character at a distance, if the text reaches that far. -/
def peek (c : Cursor) (distance : Nat) : Option Char := c.rest[distance]?

def at? (c : Cursor) (char : Char) : Bool := c.peek 0 = some char

def skip (c : Cursor) (count : Nat) : Cursor :=
  ⟨c.rest.drop count, c.index + count, c.line, c.column + count⟩

def takeWhile (c : Cursor) (p : Char → Bool) : List Char × Cursor :=
  let taken := c.rest.takeWhile p
  (taken, c.skip taken.length)

def skipWhile (c : Cursor) (p : Char → Bool) : Cursor := (c.takeWhile p).2

def takeBreak (c : Cursor) : List Char × Cursor :=
  match c.rest with
  | '\r' :: '\n' :: rest => (['\n'], ⟨rest, c.index + 2, c.line + 1, 0⟩)
  | char :: rest =>
      if isBreak char then
        ([if isSeparator char then char else '\n'], ⟨rest, c.index + 1, c.line + 1, 0⟩)
      else ([], c)
  | [] => ([], c)

/-- The place after the spaces, tabs and comment that may stand before the end of a line, if the
line ends there. -/
def restOfLine? (c : Cursor) : Option Cursor :=
  let c := c.skipWhile isSpacing
  let c := if c.at? '#' then c.skipWhile (!isBreak ·) else c
  if endsLine (c.peek 0) then some c.takeBreak.2 else none

/-- Whether three characters and the end of a word stand here at the start of a line. -/
def isIndicator (c : Cursor) (char : Char) : Bool :=
  c.column = 0 && c.rest.take 3 = [char, char, char] && endsWord (c.peek 3)

def isDocumentIndicator (c : Cursor) : Bool := c.isIndicator '-' || c.isIndicator '.'

end Cursor

end Rollout.Yaml
