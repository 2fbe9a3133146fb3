import Rollout.Config.Basic
import Rollout.Text.Alphanumeric
import Rollout.Text.Case

/-!
# Names of roles

A role is configured under a key and bears on the platform a name made from it: each word of the
key, a longest run of letters and digits, begins with a capital and goes on in small letters, and
what stands between the words stays. The way back from a platform name to the key lower-cases it.
-/

namespace Rollout.Roles

open Text (isAlphanumeric uppercase lowercase lowered)

/-- A text with its words capitalized; `wordStart` says whether a word would begin here. -/
def capitalized (wordStart : Bool) : List Char → List Char
  | [] => []
  | c :: cs =>
      if isAlphanumeric c then
        (if wordStart then uppercase c else lowercase c) ++ capitalized false cs
      else c :: capitalized true cs

def platformName (key : String) : String := String.ofList (capitalized true key.toList)

end Rollout.Roles

namespace Rollout

def Config.roleFor? (c : Config) (platformName : String) : Option (String × RoleSettings) :=
  let key := Text.lowered platformName
  (c.roles.get? key).map fun settings => (key, settings)

end Rollout
