import Rollout.Application.Assembly
import Rollout.Discovery
import Rollout.Health.Wait
import Rollout.Roles.Binding
import Rollout.Tenants
import Rollout.Timings
import Rollout.Users

/-!
# The stages of a rollout

A pipeline is a configuration with the timings of its barriers. Each of its stages can be run by
itself, and an error in a stage becomes the failure of that stage. A stage that works for a tenant
first acquires a token for it.
-/

namespace Rollout

/-- A configuration to roll out, and the timings to do it with. -/
structure Pipeline where
  config : Config
  timings : Timings

namespace Pipeline

open Rollout.Action (inStage)

variable {α : Type}

def session (tenant : String) : Action Session := do
  let token ← Action.requestFor ("acquiring access token for tenant " ++ tenant)
    (.accessToken tenant)
  return ⟨tenant, token⟩

def inSession (stage : Stage) (tenant : String) (work : Session → Action α) : Staged α :=
  inStage stage (some tenant) none (session tenant >>= work)

def healthTargets (p : Pipeline) : List Health.Target :=
  p.config.backendModules.entries.filterMap fun entry =>
    if entry.2.deploy then entry.2.healthPort.map fun port => ⟨entry.1, port⟩ else none

def awaitHealth (p : Pipeline) : Staged (List Health.Healthy) :=
  inStage .healthGate none none <|
    if p.healthTargets.isEmpty then pure []
    else Health.awaitAllHealthy p.healthTargets p.timings.probePolicy

def deployApplication (p : Pipeline) : Staged (ApplicationDescriptor × Nat) := do
  let descriptor ← inStage .resolve none none (Application.assemble p.config)
  let entries ← inStage .application none (some descriptor.id) (Application.create descriptor)
  return (descriptor, entries)

def removeApplications : Staged (List String) :=
  inStage .teardown none none Application.removeAll

def updateDiscovery (p : Pipeline) (id : String) (location : Option String) (restore : Bool)
    (port : Port) : Staged DiscoveryEntry :=
  inStage .discovery none (some id)
    (Discovery.update p.config.network id location restore port)

def createTenants (p : Pipeline) : Staged (List String) :=
  inStage .tenants none none (Tenants.create p.config)

def removeTenants (p : Pipeline) : Staged (List String) :=
  inStage .teardown none none (Tenants.remove p.config)

def createEntitlements (p : Pipeline) : Staged (List String) :=
  inStage .entitlements none none (Tenants.entitle p.config)

def removeEntitlements (p : Pipeline) : Staged (List String) :=
  inStage .teardown none none (Tenants.disentitle p.config)

def existingTenants (p : Pipeline) : Staged (List String) :=
  inStage .tenants none none do return (← Tenants.existing p.config).map (·.name)

def awaitCapabilitySets (p : Pipeline) (tenant : String) : Staged Nat :=
  let group := p.config.capabilityGroup
  inStage .capabilityBarrier (some tenant) (some group)
    (Lag.waitForDrain group tenant p.timings.lagPolicy)

def createRoles (p : Pipeline) (tenant : String) : Staged (List String) :=
  inSession .roles tenant (Roles.create p.config)

def removeRoles (p : Pipeline) (tenant : String) : Staged (List String) :=
  inSession .teardown tenant (Roles.remove p.config)

def detachCapabilitySets (p : Pipeline) (tenant : String) : Staged (List String) :=
  inSession .capabilityBinding tenant (Roles.detach p.config)

def attachCapabilitySets (p : Pipeline) (tenant : String) : Staged (List Roles.Binding) :=
  inSession .capabilityBinding tenant (Roles.attach p.config)

def bindCapabilitySets (p : Pipeline) (tenant : String) : Staged (List Roles.Binding) :=
  inSession .capabilityBinding tenant (Roles.bind p.config)

def createUsers (p : Pipeline) (tenant : String) : Staged (List Users.Provisioned) :=
  inSession .users tenant (Users.create p.config)

def removeUsers (p : Pipeline) (tenant : String) : Staged (List String) :=
  inSession .teardown tenant (Users.remove p.config)

end Pipeline

end Rollout
