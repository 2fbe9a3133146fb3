import Rollout.Roles.Lookup
import Rollout.Roles.Selection

/-!
# Creating roles and binding capability sets

Roles are created from their configuration and removed by what the platform lists: only a role whose
name leads back to a key configured for the same tenant is removed. Binding first detaches every
capability set from the configured roles and then attaches what each of them selects; a role that
selects nothing is passed over. Deletions and detachments that fail are tolerated.
-/

namespace Rollout.Roles

def create (c : Config) (session : Session) : Action (List String) :=
  each (fun (entry : String × RoleSettings) => do
    let name := platformName entry.1
    (Action.operate "creating role" (.createRole session name defaultDescription)).forEntity
      (some session.tenant) (entity name)
    return name) (c.rolesOf session.tenant)

def isConfigured (c : Config) (tenant : String) (role : Role) : Bool :=
  match c.roleFor? role.name with
  | some entry => entry.2.tenant = tenant
  | none => false

def remove (c : Config) (session : Session) : Action (List String) := do
  let roles ← Action.operate "listing roles" (.listRoles session)
  let removed ← Action.sweep (fun (r : Role) => .deleteRole session r.id)
    (roles.filter (isConfigured c session.tenant))
  return removed.map (·.name)

def detach (c : Config) (session : Session) : Action (List String) := do
  let roles ← configured c session
  let detached ← Action.sweep (fun (r : Role × List String) => .detachCapabilitySets session r.1.id)
    roles
  return detached.map (·.1.name)

structure Binding where
  role : String
  capabilitySets : Nat
  deriving DecidableEq, Repr

/-- Attaches to a role what its names select, if that is anything. -/
def attachTo (session : Session) (role : Role) (names : List String) : Action (Option Binding) := do
  let sets ← select session (.ofNames names)
  let ids := sets.map (·.id)
  if ids.isEmpty then return none
  Action.operate "attaching capability sets" (.attachCapabilitySets session role.id ids)
  return some ⟨role.name, ids.length⟩

def attach (c : Config) (session : Session) : Action (List Binding) := do
  let roles ← configured c session
  let bindings ← each (fun (r : Role × List String) =>
    (attachTo session r.1 r.2).forEntity (some session.tenant) (entity r.1.name)) roles
  return bindings.filterMap id

def bind (c : Config) (session : Session) : Action (List Binding) := do
  let _ ← detach c session
  attach c session

end Rollout.Roles
