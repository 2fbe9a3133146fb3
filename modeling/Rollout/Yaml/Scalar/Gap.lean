import Rollout.Yaml.Cursor

/-!
# Gaps inside scalars

Between the words of a plain or quoted scalar stand spaces or line ends. Spaces are kept when no
line ends there. A single line end is folded into a space; of several, the first is dropped and the
others stay. A separator is never folded.
-/

namespace Rollout.Yaml

/-- What stands between two words of a scalar: spaces, or line ends, of which the first is set
apart. -/
structure Gap where
  spaces : List Char
  firstBreak : List Char
  otherBreaks : List Char
  broken : Bool

namespace Gap

def none : Gap := ⟨[], [], [], false⟩

def escaped : Gap := ⟨[], [], [], true⟩

def text (g : Gap) : List Char :=
  if !g.broken then g.spaces
  else if g.firstBreak = ['\n'] then (if g.otherBreaks.isEmpty then [' '] else g.otherBreaks)
  else g.firstBreak ++ g.otherBreaks

/-- Goes on with a gap. A tab in front of the column `floor` on a new line is refused. -/
def extend? (floor : Nat) : (fuel : Nat) → Gap → Cursor → Option (Gap × Cursor)
  | 0, g, c => some (g, c)
  | fuel + 1, g, c =>
      match c.peek 0 with
      | Option.none => some (g, c)
      | some char =>
          if isSpacing char then
            if g.broken then
              if char = '\t' ∧ c.column < floor then Option.none
              else extend? floor fuel g (c.skip 1)
            else extend? floor fuel { g with spaces := g.spaces ++ [char] } (c.skip 1)
          else if isBreak char then
            let (lineEnd, next) := c.takeBreak
            if g.broken then
              extend? floor fuel { g with otherBreaks := g.otherBreaks ++ lineEnd } next
            else extend? floor fuel ⟨[], lineEnd, [], true⟩ next
          else some (g, c)

end Gap

end Rollout.Yaml
