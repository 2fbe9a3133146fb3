import Rollout.Yaml.Token.Scan

/-!
# Nodes of a YAML document

A document is a tree of scalars, sequences and mappings in which an alias stands for an anchored
node. An anchored node may hold aliases of itself, so aliases are not replaced: they refer by number
to the nodes that the document lists as anchored.

Nodes are read from tokens. Where a node may be missing, an empty plain scalar stands for it.
-/

namespace Rollout.Yaml

inductive Node where
  | scalar (text : String) (style : ScalarStyle) (tag : Option String)
  | sequence (items : List Node)
  | mapping (entries : List (Node × Node))
  | alias (id : Nat)
  deriving Inhabited

structure Document where
  root : Node
  anchored : List (Nat × Node)

def Document.resolve (d : Document) : Node → Node
  | .alias id => (d.anchored.lookup id).getD (.alias id)
  | n => n

namespace Node

def empty : Node := .scalar "" .plain none

/-- The state while nodes are read: the tokens to come, what the handles of tags stand for, the
number of each anchor that is in force, the anchored nodes so far, and how many anchors there
were. -/
structure Reading where
  tokens : List Token
  handles : List (String × String)
  names : List (String × Nat)
  anchored : List (Nat × Node)
  count : Nat

abbrev Reader := StateT Reading Option

/-- The handles that need no directive. -/
def standardHandles : List (String × String) := [("!", "!"), ("!!", "tag:yaml.org,2002:")]

def peek : Reader (Option Token) := do return (← get).tokens.head?

def advance : Reader Unit := modify fun s => { s with tokens := s.tokens.drop 1 }

def comes (ts : List Token) : Reader Bool := do return (← peek).any (· ∈ ts)

def accept (t : Token) : Reader Bool := do
  if (← peek) = some t then
    advance
    return true
  else return false

def tagOf (handle suffix : String) : Reader String := do
  if handle = "" then return suffix
  match (← get).handles.lookup handle with
  | some lead => return lead ++ suffix
  | none => failure

/-- The anchor and the tag in front of a node, in either order. -/
def properties : Reader (Option String × Option String) := do
  match ← peek with
  | some (.anchor name) =>
      advance
      match ← peek with
      | some (.tag handle suffix) =>
          advance
          return (some name, some (← tagOf handle suffix))
      | _ => return (some name, none)
  | some (.tag handle suffix) =>
      advance
      match ← peek with
      | some (.anchor name) =>
          advance
          return (some name, some (← tagOf handle suffix))
      | _ => return (none, some (← tagOf handle suffix))
  | _ => return (none, none)

/-- Puts an anchor in force and answers its number. -/
def declare (name : String) : Reader Nat := do
  let s ← get
  set { s with names := (name, s.count) :: s.names, count := s.count + 1 }
  return s.count

def aliased (name : String) : Reader Node := do
  match (← get).names.lookup name with
  | some id => return .alias id
  | none => failure

/-- The tag that a scalar keeps: the one that only says that there is one is dropped. -/
def scalarTag (tag : Option String) : Option String := if tag = some "!" then none else tag

mutual

/-- The node to come. Block collections count only in a block, and a sequence without an indentation
of its own only where that is allowed. -/
def node (inBlock indentless : Bool) : (fuel : Nat) → Reader Node
  | 0 => failure
  | fuel + 1 => do
      match ← peek with
      | some (.alias name) =>
          advance
          aliased name
      | _ =>
          let (anchor, tag) ← properties
          let id ← anchor.mapM declare
          let found ← content inBlock indentless (anchor.isSome || tag.isSome) tag fuel
          match id with
          | some id => modify fun s => { s with anchored := (id, found) :: s.anchored }
          | none => pure ()
          return found

/-- What follows the properties of a node; it may be missing only if there are any. -/
def content (inBlock indentless optional : Bool) (tag : Option String) :
    (fuel : Nat) → Reader Node
  | 0 => failure
  | fuel + 1 => do
      match ← peek with
      | some (.scalar text style) =>
          advance
          return .scalar text style (scalarTag tag)
      | some .flowSequenceStart =>
          advance
          return .sequence (← flowItems true fuel)
      | some .flowMappingStart =>
          advance
          return .mapping (← flowEntries true fuel)
      | t =>
          if t = some .blockEntry && indentless then return .sequence (← indentlessItems fuel)
          else if t = some .blockSequenceStart && inBlock then
            advance
            return .sequence (← blockItems fuel)
          else if t = some .blockMappingStart && inBlock then
            advance
            return .mapping (← blockEntries fuel)
          else if optional then return .scalar "" .plain tag
          else failure

/-- A node in a block, or a missing one if one of some tokens comes instead. -/
def blockNodeUnless (ends : List Token) (indentless : Bool) : (fuel : Nat) → Reader Node
  | 0 => failure
  | fuel + 1 => do if ← comes ends then return empty else node true indentless fuel

/-- A node between brackets, or a missing one if one of some tokens comes instead. -/
def flowNodeUnless (ends : List Token) : (fuel : Nat) → Reader Node
  | 0 => failure
  | fuel + 1 => do if ← comes ends then return empty else node false false fuel

def blockItems : (fuel : Nat) → Reader (List Node)
  | 0 => failure
  | fuel + 1 => do
      if ← accept .blockEntry then
        let item ← blockNodeUnless [.blockEntry, .blockEnd] false fuel
        return item :: (← blockItems fuel)
      else if ← accept .blockEnd then return []
      else failure

/-- The items of a sequence without an indentation of its own. -/
def indentlessItems : (fuel : Nat) → Reader (List Node)
  | 0 => failure
  | fuel + 1 => do
      if ← accept .blockEntry then
        let item ← blockNodeUnless [.blockEntry, .key, .value, .blockEnd] false fuel
        return item :: (← indentlessItems fuel)
      else return []

def blockEntries : (fuel : Nat) → Reader (List (Node × Node))
  | 0 => failure
  | fuel + 1 => do
      if ← accept .key then
        let key ← blockNodeUnless [.key, .value, .blockEnd] true fuel
        let value ← if ← accept .value then blockNodeUnless [.key, .value, .blockEnd] true fuel
          else pure empty
        return (key, value) :: (← blockEntries fuel)
      else if ← accept .blockEnd then return []
      else failure

/-- The items of a sequence between brackets and its end. A single pair of a key and a value may
stand for a mapping. -/
def flowItems (first : Bool) : (fuel : Nat) → Reader (List Node)
  | 0 => failure
  | fuel + 1 => do
      if ← accept .flowSequenceEnd then return []
      if !first then
        if !(← accept .flowEntry) then failure
      if ← accept .key then
        let pair ← flowPair fuel
        return .mapping [pair] :: (← flowItems false fuel)
      else if ← accept .flowSequenceEnd then return []
      else
        let item ← node false false fuel
        return item :: (← flowItems false fuel)

/-- The key and the value of a single pair. Where the key is missing, the token that comes instead
is passed. -/
def flowPair : (fuel : Nat) → Reader (Node × Node)
  | 0 => failure
  | fuel + 1 => do
      let key ←
        if ← comes [.value, .flowEntry, .flowSequenceEnd] then
          advance
          pure empty
        else node false false fuel
      let value ← if ← accept .value then flowNodeUnless [.flowEntry, .flowSequenceEnd] fuel
        else pure empty
      return (key, value)

def flowEntries (first : Bool) : (fuel : Nat) → Reader (List (Node × Node))
  | 0 => failure
  | fuel + 1 => do
      if ← accept .flowMappingEnd then return []
      if !first then
        if !(← accept .flowEntry) then failure
      if ← accept .key then
        let key ← flowNodeUnless [.value, .flowEntry, .flowMappingEnd] fuel
        let value ← if ← accept .value then flowNodeUnless [.flowEntry, .flowMappingEnd] fuel
          else pure empty
        return (key, value) :: (← flowEntries false fuel)
      else if ← accept .flowMappingEnd then return []
      else
        let key ← node false false fuel
        return (key, empty) :: (← flowEntries false fuel)

end

/-- The directives in front of a document: at most one version, 1.1 or 1.2, and at most one meaning
for each handle. -/
def directives (versioned : Bool) : (fuel : Nat) → Reader Unit
  | 0 => failure
  | fuel + 1 => do
      match ← peek with
      | some (.versionDirective major minor) =>
          if versioned || major ≠ 1 || (minor ≠ 1 && minor ≠ 2) then failure
          advance
          directives true fuel
      | some (.tagDirective handle lead) =>
          let s ← get
          if (s.handles.lookup handle).isSome then failure
          set { s with handles := (handle, lead) :: s.handles }
          advance
          directives versioned fuel
      | _ => modify fun s => { s with handles := s.handles ++ standardHandles }

def documentEnds : Reader Unit :=
  modify fun s => { s with tokens := s.tokens.dropWhile (· = .documentEnd) }

def atDocumentEnd : Reader Bool := do
  match ← peek with
  | none | some .documentStart | some .documentEnd | some (.versionDirective _ _)
  | some (.tagDirective _ _) => return true
  | _ => return false

def onlyDocument (fuel : Nat) : Reader Node := do
  let explicit := match ← peek with
    | some .documentStart | some (.versionDirective _ _) | some (.tagDirective _ _) => true
    | _ => false
  directives false fuel
  if explicit then
    if !(← accept .documentStart) then failure
  let root ← if explicit && (← atDocumentEnd) then pure empty else node true false fuel
  documentEnds
  if (← get).tokens.isEmpty then return root else failure

end Node

def Document.ofTokens? (tokens : List Token) : Option Document := do
  let fuel := 4 * tokens.length + 4
  let (root, s) ← (Node.onlyDocument fuel).run ⟨tokens, [], [], [], 0⟩
  return ⟨root, s.anchored⟩

def Document.read (s : String) : Option Document := do Document.ofTokens? (← tokens? s.toList)

end Rollout.Yaml
