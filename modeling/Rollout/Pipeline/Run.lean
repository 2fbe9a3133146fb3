import Rollout.Pipeline.Report
import Rollout.Pipeline.Stages

/-!
# Rolling out and tearing down

`run` goes through all stages and stops at the first failure: the health gate, the application, the
tenants and their entitlements, and then for each entitled tenant, once its capability sets are
generated, its roles, their bindings and its users.

`teardown` goes the other way: users and roles for each tenant, then entitlements, tenants and
applications. Each answers a report.
-/

namespace Rollout

namespace Pipeline

def provisionTenant (p : Pipeline) (tenant : String) : Staged TenantReport := do
  let lagPolls ← p.awaitCapabilitySets tenant
  let roles ← p.createRoles tenant
  let bindings ← p.bindCapabilitySets tenant
  let users ← p.createUsers tenant
  return { tenant, lagPolls, roles, bindings, users }

def run (p : Pipeline) : Staged RunReport := do
  let healthy ← p.awaitHealth
  let (descriptor, discoveryEntries) ← p.deployApplication
  let _ ← p.createTenants
  let entitled ← p.createEntitlements
  let tenants ← each p.provisionTenant entitled
  return {
    application := descriptor.id
    healthyModules := healthy.map (·.name)
    backendModules := descriptor.backendModules.length
    frontendModules := descriptor.frontendModules.length
    discoveryEntries
    tenants }

def teardownTenant (p : Pipeline) (tenant : String) : Staged (List String × List String) := do
  let users ← p.removeUsers tenant
  let roles ← p.removeRoles tenant
  return (users, roles)

def teardown (p : Pipeline) : Staged TeardownReport := do
  let existing ← p.existingTenants
  let removed ← each p.teardownTenant existing
  let entitlements ← p.removeEntitlements
  let tenants ← p.removeTenants
  let applications ← removeApplications
  return {
    users := removed.flatMap (·.1)
    roles := removed.flatMap (·.2)
    entitlements
    tenants
    applications }

end Pipeline

end Rollout
