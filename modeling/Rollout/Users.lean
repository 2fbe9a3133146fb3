import Rollout.Roles.Lookup

/-!
# Users

A configured user is created, given its password and bound to those of its roles that the platform
has. Removal goes by what the platform lists: only a user that is configured for the same tenant is
removed, and a deletion that fails is tolerated.
-/

namespace Rollout.Users

structure Provisioned where
  username : String
  id : String
  roles : Nat
  deriving DecidableEq, Repr

def roleIds (session : Session) (user : User) : Action (List String) := do
  let lookups ← each (fun key => do
    return (← Roles.find session (Roles.platformName key), ())) user.roleNames.toList
  return (Roles.found lookups).map (·.1.id)

def provision (session : Session) (user : User) : Action Provisioned := do
  let id ← Action.operate "creating user" (.createUser session user)
  Action.operate "attaching credentials" (.attachCredentials session id user.username user.password)
  let ids ← roleIds session user
  if !ids.isEmpty then
    Action.operate "attaching roles" (.attachUserRoles session id ids)
  return ⟨user.username, id, ids.length⟩

def create (c : Config) (session : Session) : Action (List Provisioned) :=
  each (fun (user : User) =>
    (provision session user).forEntity (some session.tenant) ("user " ++ user.username))
    (c.usersOf session.tenant)

def isConfigured (c : Config) (tenant : String) (user : UserRecord) : Bool :=
  match c.users.get? user.username with
  | some settings => settings.tenant = tenant
  | none => false

def remove (c : Config) (session : Session) : Action (List String) := do
  let users ← Action.operate "listing users" (.listUsers session)
  let removed ← Action.sweep (fun (u : UserRecord) => .deleteUser session u.id)
    (users.filter (isConfigured c session.tenant))
  return removed.map (·.username)

end Rollout.Users
