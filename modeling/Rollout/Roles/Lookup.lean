import Rollout.Procedure.Action
import Rollout.Roles.Name

/-!
# Looking up roles

A role is looked up by its platform name. No match means that the role is missing, which is
tolerated; more than one match is fatal, since nothing says which role is meant.
-/

namespace Rollout.Roles

inductive Lookup where
  | found (role : Role)
  | missing
  deriving DecidableEq, Repr

def lookupOf (name : String) : List Role → Except Error Lookup
  | [] => .ok .missing
  | [role] => .ok (.found role)
  | roles => .error (.ambiguousRole name roles.length)

def find (session : Session) (name : String) : Action Lookup := do
  let roles ← Action.operate ("looking up role " ++ name ++ " in tenant " ++ session.tenant)
    (.findRoles session name)
  Action.ofExcept (lookupOf name roles)

def found {α : Type} (lookups : List (Lookup × α)) : List (Role × α) :=
  lookups.filterMap fun l =>
    match l.1 with
    | .found role => some (role, l.2)
    | .missing => none

def entity (name : String) : String := "role " ++ name

def configured (c : Config) (session : Session) : Action (List (Role × List String)) := do
  let lookups ← each (fun (entry : String × RoleSettings) => do
    let name := platformName entry.1
    let lookup ← (find session name).forEntity (some session.tenant) (entity name)
    return (lookup, entry.2.capabilitySets)) (c.rolesOf session.tenant)
  return found lookups

end Rollout.Roles
