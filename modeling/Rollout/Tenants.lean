import Rollout.Config.Basic
import Rollout.Procedure.Action

/-!
# Tenants and entitlements

Tenants are created from the configuration, whether they exist or not. Everything else starts from
the tenants that the platform lists and concerns only those whose name is configured, so that a
tenant of someone else is never touched.
-/

namespace Rollout.Tenants

def configured (c : Config) (tenants : List Tenant) : List Tenant :=
  tenants.filter (c.hasTenant ·.name)

theorem configured_eq (c : Config) (tenants : List Tenant) :
    configured c tenants = tenants.filter (·.name ∈ c.tenants) := rfl

def existing (c : Config) : Action (List Tenant) := do
  return configured c (← Action.operate "listing tenants" .listTenants)

def create (c : Config) : Action (List String) :=
  each (fun name => do
    (Action.operate "creating tenant" (.createTenant name defaultDescription)).forEntity
      (some name) ("tenant " ++ name)
    return name) c.tenants.toList

def remove (c : Config) : Action (List String) := do
  let removed ← Action.sweep (fun (t : Tenant) => .deleteTenant t.id) (← existing c)
  return removed.map (·.name)

def entitlements (c : Config) (doing : String) (operation : Entitlement → Operation) :
    Action (List String) := do
  each (fun (t : Tenant) => do
    let _ ← (Action.operate doing (operation (.to t.id c.applicationId))).forEntity
      (some t.name) ("entitlement " ++ c.applicationId)
    return t.name) (← existing c)

def entitle (c : Config) : Action (List String) :=
  entitlements c "creating entitlement" (.createEntitlement · c.application.tenantParameters)

def disentitle (c : Config) : Action (List String) :=
  entitlements c "removing entitlement" .deleteEntitlement

end Rollout.Tenants
