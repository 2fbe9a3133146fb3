import Rollout.Error

/-!
# Module ids

A module id is a name followed by a version. The name is made of lower-case letters, hyphens and
underscores and ends before the first digit; the version starts at that digit and keeps the rest of
the id, which may hold letters, digits, points, underscores and hyphens. The hyphens and underscores
around the name are marks between the parts and no part of it. One id is reserved for the platform
itself and resolves to no module.
-/

namespace Rollout

/-- The id that the platform keeps for itself. -/
def reservedId : String := "okapi"

def sidecarSuffix : String := "-sc"

structure ModuleId where
  name : String
  version : String
  deriving DecidableEq, Repr

namespace ModuleId

/-- What an id that is not malformed stands for. -/
inductive Resolution where
  | reserved
  | resolved (id : ModuleId)
  deriving DecidableEq, Repr

def isNameChar (c : Char) : Bool := ('a' ≤ c && c ≤ 'z') || c = '-' || c = '_'

def isVersionChar (c : Char) : Bool := c.isAlphanum || c = '.' || c = '_' || c = '-'

/-- Whether a character only separates. -/
def isMark (c : Char) : Bool := c = '-' || c = '_'

def trimMarks (cs : List Char) : List Char :=
  ((cs.dropWhile isMark).reverse.dropWhile isMark).reverse

/-- Whether a text is a version: a digit first, and version characters after it. -/
def isVersion : List Char → Bool
  | [] => false
  | c :: cs => c.isDigit && cs.all isVersionChar

def split? (cs : List Char) : Option ModuleId :=
  let name := trimMarks (cs.takeWhile isNameChar)
  let version := cs.dropWhile isNameChar
  if name ≠ [] ∧ isVersion version = true then
    some ⟨String.ofList name, String.ofList version⟩
  else none

def read (raw : String) : Except Error Resolution :=
  if raw = reservedId then .ok .reserved
  else
    match split? raw.toList with
    | some id => .ok (.resolved id)
    | none => .error (.malformedIdentifier raw)

/-- The parts of an id that has to be one of a module; the reserved id is malformed here. -/
def readModule (raw : String) : Except Error ModuleId := do
  match ← read raw with
  | .resolved id => .ok id
  | .reserved => .error (.malformedIdentifier raw)

def sidecarName (id : ModuleId) : String := id.name ++ sidecarSuffix

end ModuleId

def sidecarUrl (name network : String) (port : Nat) : String :=
  "http://" ++ name ++ sidecarSuffix ++ "." ++ network ++ ":" ++ toString port

end Rollout
