import Rollout.Json.Value

/-!
# Writing JSON

`compact` writes a value without blanks, `pretty` with one item to a line, two spaces for each level
and nothing between the brackets of an empty container. Strings escape the quote, the backslash and
the control characters; the other characters stand as they are.
-/

namespace Rollout.Json

def controlEscape (c : Char) : List Char :=
  let digits := Nat.toDigits 16 c.toNat
  ['\\', 'u'] ++ List.replicate (4 - digits.length) '0' ++ digits

def escapedChar (c : Char) : List Char :=
  if c = '"' then ['\\', '"']
  else if c = '\\' then ['\\', '\\']
  else if c = '\n' then ['\\', 'n']
  else if c = '\r' then ['\\', 'r']
  else if c = '\t' then ['\\', 't']
  else if c = '\x08' then ['\\', 'b']
  else if c = '\x0c' then ['\\', 'f']
  else if c.toNat < 32 then controlEscape c
  else [c]

def quoteChars (s : String) : List Char := '"' :: s.toList.flatMap escapedChar ++ ['"']

/-- How a writer lays out the items of a container: what stands after the opening bracket and after
each comma, before the closing bracket, and after a colon. -/
structure Layout where
  before : Nat → List Char
  after : Nat → List Char
  colon : List Char

def Layout.compact : Layout := ⟨fun _ => [], fun _ => [], [':']⟩

def newLine (level : Nat) : List Char := '\n' :: List.replicate (2 * level) ' '

def Layout.pretty : Layout := ⟨fun level => newLine (level + 1), newLine, [':', ' ']⟩

mutual

def write (layout : Layout) (level : Nat) : Json → List Char
  | .null => ['n', 'u', 'l', 'l']
  | .bool true => ['t', 'r', 'u', 'e']
  | .bool false => ['f', 'a', 'l', 's', 'e']
  | .num n => n.render.toList
  | .str s => quoteChars s
  | .arr [] => ['[', ']']
  | .arr (item :: rest) =>
      '[' :: layout.before level ++ write layout (level + 1) item ++ writeItems layout level rest
  | .obj [] => ['\x7b', '\x7d']
  | .obj ((name, value) :: rest) =>
      '\x7b' :: layout.before level ++ quoteChars name ++ layout.colon ++
        write layout (level + 1) value ++ writeMembers layout level rest

def writeItems (layout : Layout) (level : Nat) : List Json → List Char
  | [] => layout.after level ++ [']']
  | item :: rest =>
      ',' :: layout.before level ++ write layout (level + 1) item ++ writeItems layout level rest

def writeMembers (layout : Layout) (level : Nat) : List (String × Json) → List Char
  | [] => layout.after level ++ ['\x7d']
  | (name, value) :: rest =>
      ',' :: layout.before level ++ quoteChars name ++ layout.colon ++
        write layout (level + 1) value ++ writeMembers layout level rest

end

def compact (j : Json) : String := String.ofList (write .compact 0 j)

def pretty (j : Json) : String := String.ofList (write .pretty 0 j)

end Rollout.Json
