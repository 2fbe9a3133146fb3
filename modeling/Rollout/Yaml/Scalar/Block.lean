import Rollout.Yaml.Cursor

/-!
# Block scalars

A block scalar is the lines after its header that are indented as far as the first of them, or as
the header says. A literal one keeps its line ends. A folded one joins two lines by a space unless
one of them begins with a blank or an empty line stands between them. The header also says what
becomes of the line ends after the last line: one stays, or none, or all.
-/

namespace Rollout.Yaml

/-- What becomes of the line ends after the last line. -/
inductive Chomping where
  | clip
  | strip
  | keep
  deriving DecidableEq

/-- What the header of a block scalar says: what becomes of the last line ends, and how much deeper
than its surroundings the scalar is indented. -/
structure BlockHeader where
  chomping : Chomping
  increment : Option Nat

def chomping? : Option Char → Option Chomping
  | some '+' => some .keep
  | some '-' => some .strip
  | _ => none

/-- The mark for an indentation: no mark, or one that is not zero. Nothing if it is zero. -/
def increment? (char : Option Char) : Option (Option Nat) :=
  match char with
  | some d =>
      if d = '0' then none else if d.isDigit then some (some (d.toNat - 48)) else some none
  | none => some none

def blockHeader? (c : Cursor) : Option (BlockHeader × Cursor) :=
  match chomping? (c.peek 0) with
  | some chomping => do
      let increment ← increment? (c.peek 1)
      return (⟨chomping, increment⟩, c.skip (if increment.isSome then 2 else 1))
  | none => do
      let increment ← increment? (c.peek 0)
      if increment.isNone then return (⟨.clip, none⟩, c)
      match chomping? (c.peek 1) with
      | some chomping => return (⟨chomping, increment⟩, c.skip 2)
      | none => return (⟨.clip, increment⟩, c.skip 1)

/-- Skips the indentation and the empty lines here. Answers the line ends, the deepest indentation
that was met, and the place. A tab in the indentation is refused. -/
def blockBreaks? (indent : Option Nat) :
    (fuel : Nat) → List Char → Nat → Cursor → Option (List Char × Nat × Cursor)
  | 0, breaks, deepest, c => some (breaks, deepest, c)
  | fuel + 1, breaks, deepest, c =>
      let room := match indent with
        | some n => n - c.column
        | none => c.rest.length
      let c := c.skip ((c.rest.take room).takeWhile (· = ' ')).length
      let deepest := max deepest c.column
      if indent.all (c.column < ·) ∧ c.at? '\t' = true then none
      else if (c.peek 0).any isBreak then
        let (lineEnd, next) := c.takeBreak
        blockBreaks? indent fuel (breaks ++ lineEnd) deepest next
      else some (breaks, deepest, c)

/-- The part of a block scalar that was read: its text, the end of its last line, the empty lines
after that, and whether the last line began with a blank. -/
structure BlockRead where
  text : List Char
  lineEnd : List Char
  breaks : List Char
  afterBlank : Bool

def BlockRead.joint (r : BlockRead) (literal nextBlank : Bool) : List Char :=
  if !literal && r.lineEnd = ['\n'] && !r.afterBlank && !nextBlank then
    if r.breaks.isEmpty then [' '] else r.breaks
  else r.lineEnd ++ r.breaks

def blockLines? (literal : Bool) (indent : Nat) :
    (fuel : Nat) → BlockRead → Cursor → Option (BlockRead × Cursor)
  | 0, r, c => some (r, c)
  | fuel + 1, r, c =>
      if c.column ≠ indent ∨ (c.peek 0).isNone = true then some (r, c)
      else do
        let blank := (c.peek 0).any isSpacing
        let (line, next) := c.takeWhile (!isBreak ·)
        let (lineEnd, next) := next.takeBreak
        let (breaks, _, next) ← blockBreaks? (some indent) (next.rest.length + 1) [] 0 next
        blockLines? literal indent fuel
          ⟨r.text ++ r.joint literal blank ++ line, lineEnd, breaks, blank⟩ next

def BlockRead.chomped (r : BlockRead) : Chomping → List Char
  | .strip => r.text
  | .clip => r.text ++ r.lineEnd
  | .keep => r.text ++ r.lineEnd ++ r.breaks

/-- The block scalar here, whose surroundings are indented by `parent`, and the place behind it. -/
def block? (literal : Bool) (parent : Int) (c : Cursor) : Option (List Char × Cursor) := do
  let (header, c) ← blockHeader? (c.skip 1)
  let c ← c.restOfLine?
  let given := header.increment.map fun n => if 0 ≤ parent then parent.toNat + n else n
  let (breaks, deepest, c) ← blockBreaks? given (c.rest.length + 1) [] 0 c
  let indent := given.getD (max deepest (max (parent + 1).toNat 1))
  let (r, c) ← blockLines? literal indent (c.rest.length + 1) ⟨[], [], breaks, false⟩ c
  return (r.chomped header.chomping, c)

end Rollout.Yaml
