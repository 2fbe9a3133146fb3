import Rollout.Platform.Record

/-!
# Commands

What the command line can be asked for. A command works on the platform as a whole, or does one task
for one tenant after the other.
-/

namespace Rollout.CommandLine

inductive Format where
  | human
  | json
  deriving DecidableEq, Repr

def Format.name : Format → String
  | .human => "human"
  | .json => "json"

def Format.ofName? (name : String) : Option Format := [human, json].find? (·.name = name)

/-- What can be done for one tenant after the other. Capability sets are attached at once, or when
they are all generated. -/
inductive TenantTask where
  | createRoles
  | removeRoles
  | attachCapabilitySets (wait : Bool)
  | detachCapabilitySets
  | createUsers
  | removeUsers
  deriving DecidableEq, Repr

/-- What can be asked for. A task may be asked for one tenant only. -/
inductive Command where
  | run
  | deployApplication
  | removeApplications
  | createTenants
  | removeTenants
  | createEntitlements
  | removeEntitlements
  | forTenants (task : TenantTask) (only : Option String)
  | updateDiscovery (id : String) (location : Option String) (restore : Bool) (port : Port)
  | awaitHealth
  | teardown
  deriving DecidableEq, Repr

end Rollout.CommandLine
