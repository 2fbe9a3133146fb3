import Rollout.Yaml.Scalar.Block
import Rollout.Yaml.Scalar.Plain
import Rollout.Yaml.Scalar.Quoted
import Rollout.Yaml.Token.Property

/-!
# Finding the tokens of a text

Two things are kept in mind while the tokens of a text are found. The indentations of the block
collections that are open: deeper indentation opens one and shallower indentation closes them. And
the places where a key may have begun, one for each level of brackets: when a colon follows on the
same line and not too far on, a key token is put in front of what was found there.

A key that begins where the lines of its mapping do is required, so the colon may not be missing.
-/

namespace Rollout.Yaml

/-- A place where a key may have begun: whether it has to be one, how many tokens come before it,
and where it stands in the text. -/
structure KeyPlace where
  required : Bool
  before : Nat
  index : Nat
  line : Nat
  column : Nat

def maxKeyLength : Nat := 1024

/-- The state while tokens are found: the place in the text, the indentation of the innermost block
collection and those around it, whether a key may begin here, the place where one may have begun at
the innermost level of brackets and at those around it, and the tokens so far, in reverse. -/
structure Scan where
  cursor : Cursor
  indent : Int
  indents : List Int
  keyAllowed : Bool
  key : Option KeyPlace
  outerKeys : List (Option KeyPlace)
  tokens : List Token
  count : Nat

namespace Scan

def start (cs : List Char) : Scan := ⟨.start cs, -1, [], true, none, [], [], 0⟩

def inFlow (s : Scan) : Bool := !s.outerKeys.isEmpty

def push (s : Scan) (t : Token) : Scan := { s with tokens := t :: s.tokens, count := s.count + 1 }

def insert (s : Scan) (before : Nat) (t : Token) : Scan :=
  let later := s.count - before
  { s with tokens := s.tokens.take later ++ t :: s.tokens.drop later, count := s.count + 1 }

def moveTo (s : Scan) (c : Cursor) : Scan := { s with cursor := c }

/-- The place of the next token: blanks, comments and line ends are passed over. A tab may not stand
where a line of a block collection could begin. -/
def toToken : (fuel : Nat) → Scan → Scan
  | 0, s => s
  | fuel + 1, s =>
      let c := s.cursor
      let c := if c.column = 0 && c.at? '\ufeff' then c.skip 1 else c
      let c := c.skipWhile fun char => char = ' ' || ((s.inFlow || !s.keyAllowed) && char = '\t')
      let c := if c.at? '#' then c.skipWhile (!isBreak ·) else c
      if (c.peek 0).any isBreak then
        toToken fuel { s with cursor := c.takeBreak.2, keyAllowed := s.keyAllowed || !s.inFlow }
      else s.moveTo c

def isStale (c : Cursor) (k : KeyPlace) : Bool :=
  k.line < c.line || k.index + maxKeyLength < c.index

/-- Gives up a place where a key may have begun if it can no longer be one, unless it has to be. -/
def freshKey? (c : Cursor) (key : Option KeyPlace) : Option (Option KeyPlace) :=
  match key with
  | none => some none
  | some k => if isStale c k then (if k.required then none else some none) else some (some k)

/-- Gives up every place where a key can no longer have begun. -/
def dropStale? (s : Scan) : Option Scan := do
  let key ← freshKey? s.cursor s.key
  let outerKeys ← s.outerKeys.mapM (freshKey? s.cursor)
  return { s with key := key, outerKeys := outerKeys }

/-- Gives up the place where a key may have begun, unless it has to be one. -/
def dropKey? (s : Scan) : Option Scan :=
  if s.key.any (·.required) then none else some { s with key := none }

/-- Remembers that a key may begin here, if that is so. -/
def saveKey? (s : Scan) : Option Scan :=
  if s.keyAllowed then do
    let c := s.cursor
    let required := !s.inFlow && s.indent = c.column
    let s ← s.dropKey?
    return { s with key := some ⟨required, s.count, c.index, c.line, c.column⟩ }
  else some s

/-- Opens a block collection at a column deeper than the others, its token after the first `before`
tokens. -/
def openBlock (s : Scan) (column before : Nat) (t : Token) : Scan :=
  if !s.inFlow && s.indent < column then
    { s.insert before t with indent := column, indents := s.indent :: s.indents }
  else s

def closeBlocks (s : Scan) (column : Int) : List Int → Scan
  | [] => { s with indents := [] }
  | outer :: rest =>
      if column < s.indent then closeBlocks { s.push .blockEnd with indent := outer } column rest
      else { s with indents := outer :: rest }

def closeTo (s : Scan) (column : Int) : Scan :=
  if s.inFlow then s else s.closeBlocks column s.indents

/-- A token of some characters that take no part in a key. -/
def mark? (s : Scan) (length : Nat) (keyAllowed : Bool) (t : Token) : Option Scan := do
  let s ← s.dropKey?
  return ({ s with keyAllowed := keyAllowed }.push t).moveTo (s.cursor.skip length)

/-- A token that may be a key or begin one. -/
def content? (s : Scan) (read : Cursor → Option (Token × Cursor)) : Option Scan := do
  let s ← s.saveKey?
  let (t, c) ← read s.cursor
  return ({ s with keyAllowed := false }.push t).moveTo c

def openFlow? (s : Scan) (t : Token) : Option Scan := do
  let s ← s.saveKey?
  let s := s.push t
  return { s with
    cursor := s.cursor.skip 1, keyAllowed := true, key := none, outerKeys := s.key :: s.outerKeys }

def closeFlow? (s : Scan) (t : Token) : Option Scan := do
  let s ← s.mark? 1 false t
  match s.outerKeys with
  | [] => return s
  | key :: outer => return { s with key := key, outerKeys := outer }

/-- A mark that begins an entry of a block collection: a hyphen or a question mark. -/
def blockMark? (s : Scan) (collection t : Token) (keyAfter : Bool) : Option Scan :=
  if s.inFlow then s.mark? 1 keyAfter t
  else if s.keyAllowed then
    (s.openBlock s.cursor.column s.count collection).mark? 1 keyAfter t
  else none

/-- A colon: the value of the key that may have begun before it, or of one marked by itself. -/
def value? (s : Scan) : Option Scan :=
  match s.key with
  | some k =>
      let s := (s.insert k.before .key).openBlock k.column k.before .blockMappingStart
      some (({ s with key := none, keyAllowed := false }.push .value).moveTo (s.cursor.skip 1))
  | none => s.blockMark? .blockMappingStart .value (!s.inFlow)

def atMargin? (s : Scan) (read : Cursor → Option (Token × Cursor)) : Option Scan := do
  let s ← (s.closeTo (-1)).dropKey?
  let (t, c) ← read s.cursor
  return ({ s with keyAllowed := false }.push t).moveTo c

/-- A plain scalar. A key may begin after it when a line ended in between. -/
def plain? (s : Scan) : Option Scan := do
  let s ← s.saveKey?
  let (text, broken, c) ← Yaml.plain? s.inFlow (s.indent + 1).toNat s.cursor
  return ({ s with keyAllowed := broken }.push (.scalar (String.ofList text) .plain)).moveTo c

def quoted? (s : Scan) (quote : Char) (style : ScalarStyle) : Option Scan :=
  s.content? fun c => (Yaml.quoted? quote c).map fun r => (.scalar (String.ofList r.1) style, r.2)

def block? (s : Scan) (literal : Bool) : Option Scan := do
  let s ← s.dropKey?
  let (text, c) ← Yaml.block? literal s.indent s.cursor
  let style := if literal then ScalarStyle.literal else .folded
  return ({ s with keyAllowed := true }.push (.scalar (String.ofList text) style)).moveTo c

/-- Whether a plain scalar may begin with a character before what may be another. -/
def beginsPlain (inFlow : Bool) (c : Char) (next : Option Char) : Bool :=
  !(endsWord (some c) || c ∈ ['-', '?', ':', ',', '[', ']', '\x7b', '\x7d', '#', '&', '*', '!', '|',
    '>', '\'', '"', '%', '@', '\x60']) ||
  (c = '-' && !(next.any isSpacing)) ||
  (!inFlow && (c = '?' || c = ':') && !(endsWord next))

def token? (s : Scan) (char : Char) : Option Scan :=
  let c := s.cursor
  let next := c.peek 1
  if c.column = 0 && char = '%' then s.atMargin? directive?
  else if c.isIndicator '-' then s.atMargin? fun c => some (.documentStart, c.skip 3)
  else if c.isIndicator '.' then s.atMargin? fun c => some (.documentEnd, c.skip 3)
  else if char = '[' then s.openFlow? .flowSequenceStart
  else if char = '\x7b' then s.openFlow? .flowMappingStart
  else if char = ']' then s.closeFlow? .flowSequenceEnd
  else if char = '\x7d' then s.closeFlow? .flowMappingEnd
  else if char = ',' then s.mark? 1 true .flowEntry
  else if char = '-' && endsWord next then s.blockMark? .blockSequenceStart .blockEntry true
  else if char = '?' && (s.inFlow || endsWord next) then
    s.blockMark? .blockMappingStart .key (!s.inFlow)
  else if char = ':' && (s.inFlow || endsWord next) then s.value?
  else if char = '*' then s.content? fun c => (anchorName? c).map fun r => (.alias r.1, r.2)
  else if char = '&' then s.content? fun c => (anchorName? c).map fun r => (.anchor r.1, r.2)
  else if char = '!' then s.content? (tag? s.inFlow)
  else if char = '|' && !s.inFlow then s.block? true
  else if char = '>' && !s.inFlow then s.block? false
  else if char = '\'' then s.quoted? '\'' .singleQuoted
  else if char = '"' then s.quoted? '"' .doubleQuoted
  else if beginsPlain s.inFlow char next then s.plain?
  else none

/-- The end of the text: it ends the last line and whatever is open. -/
def finish? (s : Scan) : Option (List Token) := do
  let s ← (s.closeTo (-1)).dropKey?
  return s.tokens.reverse

def run? : (fuel : Nat) → Scan → Option (List Token)
  | 0, _ => none
  | fuel + 1, s => do
      let s ← (s.toToken (s.cursor.rest.length + 1)).dropStale?
      let s := s.closeTo s.cursor.column
      match s.cursor.peek 0 with
      | none => s.finish?
      | some char => run? fuel (← s.token? char)

end Scan

def tokens? (cs : List Char) : Option (List Token) :=
  if cs.all isAllowed then (Scan.start cs).run? (cs.length + 1) else none

end Rollout.Yaml
