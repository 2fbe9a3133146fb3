import Rollout.Json.Value
import Rollout.Roles.Binding
import Rollout.Users

/-!
# Reports

What a rollout and a teardown answer when nothing fatal happens, and how it is written as JSON.
-/

namespace Rollout

structure TenantReport where
  tenant : String
  lagPolls : Nat
  roles : List String
  bindings : List Roles.Binding
  users : List Users.Provisioned
  deriving DecidableEq, Repr

structure RunReport where
  application : String
  healthyModules : List String
  backendModules : Nat
  frontendModules : Nat
  discoveryEntries : Nat
  tenants : List TenantReport
  deriving DecidableEq, Repr

structure TeardownReport where
  users : List String
  roles : List String
  entitlements : List String
  tenants : List String
  applications : List String
  deriving DecidableEq, Repr

def Roles.Binding.toJson (b : Roles.Binding) : Json :=
  .obj [("role", .str b.role), ("capability_sets", .nat b.capabilitySets)]

def Users.Provisioned.toJson (u : Users.Provisioned) : Json :=
  .obj [("username", .str u.username), ("id", .str u.id), ("roles", .nat u.roles)]

def TenantReport.toJson (r : TenantReport) : Json := .obj [
  ("tenant", .str r.tenant), ("lag_polls", .nat r.lagPolls), ("roles", .strings r.roles),
  ("bindings", .arr (r.bindings.map Roles.Binding.toJson)),
  ("users", .arr (r.users.map Users.Provisioned.toJson))]

def RunReport.toJson (r : RunReport) : Json := .obj [
  ("application", .str r.application), ("healthy_modules", .strings r.healthyModules),
  ("backend_modules", .nat r.backendModules), ("frontend_modules", .nat r.frontendModules),
  ("discovery_entries", .nat r.discoveryEntries),
  ("tenants", .arr (r.tenants.map TenantReport.toJson))]

def TeardownReport.toJson (r : TeardownReport) : Json := .obj [
  ("users", .strings r.users), ("roles", .strings r.roles),
  ("entitlements", .strings r.entitlements), ("tenants", .strings r.tenants),
  ("applications", .strings r.applications)]

end Rollout
