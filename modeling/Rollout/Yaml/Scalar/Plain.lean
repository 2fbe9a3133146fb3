import Rollout.Yaml.Scalar.Gap

/-!
# Plain scalars

A plain scalar has no quotes and ends where an indicator could not belong to it: at a colon before a
blank, at a comment, at a line that is not indented enough, at a document indicator, and between
brackets also at a comma or a bracket.
-/

namespace Rollout.Yaml

/-- Whether a character marks the structure between brackets. -/
def isFlowMark (c : Char) : Bool := c = ',' || c = '[' || c = ']' || c = '\x7b' || c = '\x7d'

/-- The characters of a plain scalar up to a blank or its end. Between brackets a colon before a
mark is refused. -/
def plainWord? (inFlow : Bool) : List Char → Option (List Char)
  | [] => some []
  | c :: cs =>
      if endsWord (some c) then some []
      else if inFlow && c = ':' && cs.head?.any (fun d => isFlowMark d || d = '?') then none
      else if (c = ':' && endsWord cs.head?) || (inFlow && isFlowMark c) then some []
      else (plainWord? inFlow cs).map (c :: ·)

/-- Goes on with a plain scalar after some text and a gap. Answers the whole text, whether a line
ended after it, and the place behind it. -/
def plainFrom? (inFlow : Bool) (floor : Nat) :
    (fuel : Nat) → List Char → Gap → Cursor → Option (List Char × Bool × Cursor)
  | 0, text, gap, c => some (text, gap.broken, c)
  | fuel + 1, text, gap, c =>
      if c.isDocumentIndicator || c.at? '#' then some (text, gap.broken, c)
      else do
        let word ← plainWord? inFlow c.rest
        let (text, gap) := if word.isEmpty then (text, gap) else (text ++ gap.text ++ word, .none)
        let c := c.skip word.length
        if !(endsWord (c.peek 0)) || (c.peek 0).isNone then return (text, gap.broken, c)
        let (gap, c) ← Gap.extend? floor (c.rest.length + 1) gap c
        if !inFlow && c.column < floor then return (text, gap.broken, c)
        plainFrom? inFlow floor fuel text gap c

def plain? (inFlow : Bool) (floor : Nat) (c : Cursor) : Option (List Char × Bool × Cursor) :=
  plainFrom? inFlow floor (c.rest.length + 1) [] .none c

end Rollout.Yaml
