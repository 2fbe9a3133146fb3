import Rollout.Text.Ranges

/-!
# Blanks, words and lines

A blank is a character with the Unicode property White_Space. `trimmed` cuts the blanks at both
ends of a text, `words` are the longest pieces without a blank, and `lines` are the pieces between
line feeds, a carriage return before a line feed belonging to the line end. A last line without an
end counts only when it is not empty.
-/

namespace Rollout.Text

def blankRanges : Ranges := [
  (9, 13), (32, 32), (133, 133), (160, 160), (5760, 5760), (8192, 8202), (8232, 8233),
  (8239, 8239), (8287, 8287), (12288, 12288)]

def isBlank (c : Char) : Bool := blankRanges.contains c.toNat

def trimStart (cs : List Char) : List Char := cs.dropWhile isBlank

/-- A text without those characters at its end that pass a test. -/
def dropEndWhile (p : Char → Bool) (cs : List Char) : List Char :=
  (cs.reverse.dropWhile p).reverse

def trimEnd (cs : List Char) : List Char := dropEndWhile isBlank cs

def trimmed (cs : List Char) : List Char := trimEnd (trimStart cs)

def words (cs : List Char) : List (List Char) := (cs.splitOnP isBlank).filter (· ≠ [])

def dropReturn (line : List Char) : List Char :=
  if line.getLast? = some '\r' then line.dropLast else line

/-- The lines of the text that remains when `rest` are the pieces between line feeds: every piece
but the last one was ended by a line feed, and the last counts if it holds anything. -/
def linesOfPieces : List (List Char) → List (List Char)
  | [] => []
  | [last] => if last.isEmpty then [] else [last]
  | piece :: rest => dropReturn piece :: linesOfPieces rest

def lines (cs : List Char) : List (List Char) := linesOfPieces (cs.splitOn '\n')

def holds (needle : List Char) : List Char → Bool
  | [] => needle.isEmpty
  | c :: cs => needle.isPrefixOf (c :: cs) || holds needle cs

theorem holds_iff {needle cs : List Char} : holds needle cs = true ↔ needle <:+: cs := by
  induction cs with
  | nil => cases needle <;> simp [holds]
  | cons c cs ih => simp only [holds, Bool.or_eq_true, List.isPrefixOf_iff_prefix, ih,
      List.infix_cons_iff]

def trim (s : String) : String := String.ofList (trimmed s.toList)

def withoutSlashes (s : String) : String := String.ofList (dropEndWhile (· = '/') s.toList)

def contains (s needle : String) : Bool := holds needle.toList s.toList

end Rollout.Text
