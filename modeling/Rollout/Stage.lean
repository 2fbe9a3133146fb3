/-!
# Stages of a rollout

The stages are listed in the order in which a rollout goes through them; teardown undoes them.
Each has a name, by which messages and documents know it.
-/

namespace Rollout

inductive Stage where
  | resolve
  | healthGate
  | application
  | discovery
  | tenants
  | entitlements
  | capabilityBarrier
  | roles
  | capabilityBinding
  | users
  | teardown
  deriving DecidableEq, Repr

namespace Stage

def all : List Stage := [
  .resolve, .healthGate, .application, .discovery, .tenants, .entitlements, .capabilityBarrier,
  .roles, .capabilityBinding, .users, .teardown]

def name : Stage → String
  | .resolve => "resolve"
  | .healthGate => "health-gate"
  | .application => "application"
  | .discovery => "discovery"
  | .tenants => "tenants"
  | .entitlements => "entitlements"
  | .capabilityBarrier => "capability-barrier"
  | .roles => "roles"
  | .capabilityBinding => "capability-binding"
  | .users => "users"
  | .teardown => "teardown"

def ofName? (name : String) : Option Stage := all.find? (·.name = name)

theorem mem_all (s : Stage) : s ∈ all := by cases s <;> decide

theorem ofName?_name (s : Stage) : ofName? s.name = some s := by cases s <;> decide

end Stage

end Rollout
