import Rollout.Application.Plan
import Rollout.Procedure.Action
import Rollout.Text.Blank

/-!
# Assembling an application

The descriptor of the application is made from its plan. Each module is entered with its descriptor,
fetched from the descriptor registry, or else with the address at which the registry serves it; a
backend module with a port is also entered for discovery. The application is created first and its
discovery entries, if there are any, in one batch after it.
-/

namespace Rollout.Application

def descriptorUrl (registry id : String) : String :=
  Text.withoutSlashes registry ++ "/_/proxy/modules/" ++ id

structure Described where
  planned : PlannedModule
  descriptor : Option Json

namespace Described

def entry (registry : String) (d : Described) : ModuleEntry :=
  let m := d.planned.module
  ⟨m.id, m.name, m.version,
    if d.descriptor.isNone then some (descriptorUrl registry m.id) else none⟩

def discovery? (network : String) (d : Described) : Option DiscoveryEntry :=
  let m := d.planned.module
  m.serverPort.map fun port => ⟨m.id, m.name, m.version, sidecarUrl m.name network port.toNat⟩

end Described

def descriptorOf (c : Config) (registry : String) (modules : List Described) :
    ApplicationDescriptor :=
  let backend := modules.filter (·.planned.placement = .backend)
  let frontend := modules.filter (·.planned.placement = .frontend)
  { id := c.applicationId
    name := c.application.name
    version := c.application.version
    description := defaultDescription
    platform := c.application.platform
    dependencies := c.application.dependencies
    backendModules := backend.map (Described.entry registry)
    frontendModules := frontend.map (Described.entry registry)
    moduleDescriptors := backend.filterMap (·.descriptor)
    frontendModuleDescriptors := frontend.filterMap (·.descriptor)
    discovery := backend.filterMap (Described.discovery? c.network) }

def describe (c : Config) (registry : String) (planned : PlannedModule) : Action Described := do
  if c.application.fetchDescriptors then
    let url := descriptorUrl registry planned.module.id
    let descriptor ← (Action.operate ("fetching descriptor from " ++ url)
      (.moduleDescriptor url)).forEntity none ("module " ++ planned.module.id)
    return ⟨planned, some descriptor⟩
  else return ⟨planned, none⟩

def descriptorRegistry (c : Config) : Except Error String :=
  match c.descriptorRegistryUrl? with
  | some url => .ok url
  | none => .error <| .config <|
      "descriptor registry " ++ c.descriptorRegistry ++ " is not among the configured registries"

def assemble (c : Config) : Action ApplicationDescriptor := do
  let registry ← Action.ofExcept (descriptorRegistry c)
  let listings ← each (fun (entry : String × String) =>
    Action.operate ("listing " ++ entry.1 ++ " registry") (.registryModules entry.2))
    c.registries.entries
  let planned ← Action.ofExcept (plan c listings)
  let modules ← each (describe c registry) planned
  return descriptorOf c registry modules

def create (d : ApplicationDescriptor) : Action Nat := do
  Action.operate ("creating application " ++ d.id) (.createApplication d)
  if !d.discovery.isEmpty then
    Action.operate "creating module discovery" (.createDiscovery d.discovery)
  return d.discovery.length

def removeAll : Action (List String) := do
  let applications ← Action.operate "listing applications" .listApplications
  let removed ← Action.sweep (fun (a : ApplicationSummary) => .deleteApplication a.id) applications
  return removed.map (·.id)

end Rollout.Application
