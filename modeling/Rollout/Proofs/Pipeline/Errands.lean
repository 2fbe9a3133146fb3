import Rollout.Proofs.Pipeline.Footprint
import Rollout.Proofs.Procedure.Laws

/-!
# The errands of a rollout

A rollout is made of errands: waiting at the health gate, listing a registry, creating a role, and
so on. An errand has a place in the rollout, which is its stage, its tenant and its entity; and it
has its work, which knows nothing of the place. What stops the work is the failure of the place.

`rolloutOutline` says which errands there are, in which order, and what follows from their results.
It mentions neither calls nor errors. Carrying out the outline, each errand in its place, is the
rollout (`carryOut_rolloutOutline`).
-/

namespace Rollout

open Application (PlannedModule Described)

inductive Errand where
  | health
  | registry
  | listing (name url : String)
  | plan (listings : List (List RegistryModule))
  | descriptor (url id : String)
  | application (descriptor : ApplicationDescriptor)
  | tenant (name : String)
  | existing
  | entitlement (tenant : Tenant)
  | barrier (tenant : String)
  | token (stage : Stage) (tenant : String)
  | role (session : Session) (name : String)
  | lookup (session : Session) (name : String)
  | stripping (session : Session) (role : Role)
  | binding (session : Session) (role : Role) (names : List String)
  | user (session : Session) (user : User)

namespace Errand

abbrev Result : Errand → Type
  | health => List Health.Healthy
  | registry => String
  | listing _ _ => List RegistryModule
  | plan _ => List PlannedModule
  | descriptor _ _ => Json
  | application _ => Nat
  | tenant _ => Unit
  | existing => List Tenant
  | entitlement _ => Unit
  | barrier _ => Nat
  | token _ _ => String
  | role _ _ => Unit
  | lookup _ _ => Roles.Lookup
  | stripping _ _ => Bool
  | binding _ _ _ => Option Roles.Binding
  | user _ _ => Users.Provisioned

def stage : Errand → Stage
  | health => .healthGate
  | registry | listing _ _ | plan _ | descriptor _ _ => .resolve
  | application _ => .application
  | tenant _ => .tenants
  | existing | entitlement _ => .entitlements
  | barrier _ => .capabilityBarrier
  | token stage _ => stage
  | role _ _ => .roles
  | lookup _ _ | stripping _ _ | binding _ _ _ => .capabilityBinding
  | user _ _ => .users

def tenant? : Errand → Option String
  | tenant name | barrier name | token _ name => some name
  | entitlement t => some t.name
  | role session _ | lookup session _ | stripping session _ | binding session _ _
  | user session _ => some session.tenant
  | health | registry | listing _ _ | plan _ | descriptor _ _ | application _ | existing => none

/-- The entity that an errand is for: the module whose descriptor is fetched, the application, the
tenant that is created, the entitlement, the consumer group of the barrier, the role or the user. -/
def entity? (c : Config) : Errand → Option String
  | descriptor _ id => some ("module " ++ id)
  | application d => some d.id
  | tenant name => some ("tenant " ++ name)
  | entitlement _ => some ("entitlement " ++ c.applicationId)
  | barrier _ => some c.capabilityGroup
  | role _ name | lookup _ name => some (Roles.entity name)
  | stripping _ r | binding _ r _ => some (Roles.entity r.name)
  | user _ u => some ("user " ++ u.username)
  | health | registry | listing _ _ | plan _ | existing | token _ _ => none

/-- What is done in an errand, wherever it has its place. -/
def work (p : Pipeline) : (e : Errand) → Action e.Result
  | health =>
      if p.healthTargets.isEmpty then pure []
      else Health.awaitAllHealthy p.healthTargets p.timings.probePolicy
  | registry => .ofExcept (Application.descriptorRegistry p.config)
  | listing name url => .operate ("listing " ++ name ++ " registry") (.registryModules url)
  | plan listings => .ofExcept (Application.plan p.config listings)
  | descriptor url _ => .operate ("fetching descriptor from " ++ url) (.moduleDescriptor url)
  | application d => Application.create d
  | tenant name => .operate "creating tenant" (.createTenant name defaultDescription)
  | existing => Tenants.existing p.config
  | entitlement t =>
      .operate "creating entitlement" (.createEntitlement (.to t.id p.config.applicationId)
        p.config.application.tenantParameters)
  | barrier name => Lag.waitForDrain p.config.capabilityGroup name p.timings.lagPolicy
  | token _ name =>
      .requestFor ("acquiring access token for tenant " ++ name) (.accessToken name)
  | role session name => .operate "creating role" (.createRole session name defaultDescription)
  | lookup session name => Roles.find session name
  | stripping session r => .attempt (.detachCapabilitySets session r.id)
  | binding session r names => Roles.attachTo session r names
  | user session u => Users.provision session u

def Calls (p : Pipeline) : Errand → Call → Prop
  | health, c => ∃ target ∈ p.healthTargets, c = .probe target.port
  | registry, _ | plan _, _ => False
  | listing _ url, c => c = .platform (.registryModules url)
  | descriptor url _, c => c = .platform (.moduleDescriptor url)
  | application d, c =>
      c = .platform (.createApplication d) ∨ c = .platform (.createDiscovery d.discovery)
  | tenant name, c => c = .platform (.createTenant name defaultDescription)
  | existing, c => c = .platform .listTenants
  | entitlement t, c =>
      c = .platform (.createEntitlement (.to t.id p.config.applicationId)
        p.config.application.tenantParameters)
  | barrier _, c => c = .describeGroup p.config.capabilityGroup
  | token _ name, c => c = .accessToken name
  | role session name, c => c = .platform (.createRole session name defaultDescription)
  | lookup session name, c => c = .platform (.findRoles session name)
  | stripping session r, c => c = .platform (.detachCapabilitySets session r.id)
  | binding session _ _, c | user session _, c => c.Within session

def perform (p : Pipeline) (e : Errand) : Staged e.Result :=
  Action.inStage e.stage e.tenant? (e.entity? p.config) (e.work p)

end Errand

/-- Errands in an order that may depend on what they bring. -/
inductive Outline (α : Type) : Type where
  | done (value : α)
  | errand (e : Errand) (next : e.Result → Outline α)

namespace Outline

variable {α β : Type}

def bind : Outline α → (α → Outline β) → Outline β
  | done value, f => f value
  | errand e next, f => errand e fun result => (next result).bind f

instance : Monad Outline where
  pure := done
  bind := bind

def one (e : Errand) : Outline e.Result := errand e done

def carryOut (p : Pipeline) : Outline α → Staged α
  | done value => pure value
  | errand e next => e.perform p >>= fun result => (next result).carryOut p

variable {p : Pipeline}

theorem carryOut_pure (value : α) : (pure value : Outline α).carryOut p = pure value := rfl

theorem carryOut_bind (o : Outline α) (f : α → Outline β) :
    (o >>= f).carryOut p = o.carryOut p >>= fun x => (f x).carryOut p := by
  induction o with
  | done value => exact (pure_bind value fun x => (f x).carryOut p).symm
  | errand e next ih =>
      show (e.perform p >>= fun result => (next result >>= f).carryOut p) = _
      simp only [ih, carryOut, bind_assoc]

theorem carryOut_mapM' (f : α → Outline β) (items : List α) :
    (items.mapM' f).carryOut p = each (fun x => (f x).carryOut p) items := by
  induction items with
  | nil => rfl
  | cons x rest ih => simp only [List.mapM', carryOut_bind, carryOut_pure, each, ih]

end Outline

/-! ### The outline of a rollout -/

open Outline (one)

/-- The descriptor of a module is fetched, if the configuration asks for it. -/
def describedOutline (c : Config) (registry : String) (planned : PlannedModule) :
    Outline Described := do
  if c.application.fetchDescriptors then
    let id := planned.module.id
    let descriptor ← one (.descriptor (Application.descriptorUrl registry id) id)
    return ⟨planned, some descriptor⟩
  else return ⟨planned, none⟩

def applicationOutline (c : Config) : Outline (ApplicationDescriptor × Nat) := do
  let registry ← one .registry
  let listings ← c.registries.entries.mapM' fun entry => one (.listing entry.1 entry.2)
  let planned ← one (.plan listings)
  let modules ← planned.mapM' (describedOutline c registry)
  let d := Application.descriptorOf c registry modules
  let entries ← one (.application d)
  return (d, entries)

def lookupOutline (c : Config) (session : Session) : Outline (List (Role × List String)) := do
  let lookups ← (c.rolesOf session.tenant).mapM' fun entry => do
    let lookup ← one (.lookup session (Roles.platformName entry.1))
    return (lookup, entry.2.capabilitySets)
  return Roles.found lookups

def tenantOutline (c : Config) (tenant : String) : Outline TenantReport := do
  let lagPolls ← one (.barrier tenant)
  let token ← one (.token .roles tenant)
  let roles ← (c.rolesOf tenant).mapM' fun entry => do
    let name := Roles.platformName entry.1
    one (.role ⟨tenant, token⟩ name)
    return name
  let token ← one (.token .capabilityBinding tenant)
  let stripped ← lookupOutline c ⟨tenant, token⟩
  let _ ← stripped.mapM' fun r => one (.stripping ⟨tenant, token⟩ r.1)
  let resolved ← lookupOutline c ⟨tenant, token⟩
  let bindings ← resolved.mapM' fun r => one (.binding ⟨tenant, token⟩ r.1 r.2)
  let token ← one (.token .users tenant)
  let users ← (c.usersOf tenant).mapM' fun user => one (.user ⟨tenant, token⟩ user)
  return { tenant, lagPolls, roles, bindings := bindings.filterMap id, users }

def rolloutOutline (c : Config) : Outline RunReport := do
  let healthy ← one .health
  let (descriptor, discoveryEntries) ← applicationOutline c
  let _ ← c.tenants.toList.mapM' fun name => do
    one (.tenant name)
    return name
  let existing ← one .existing
  let entitled ← existing.mapM' fun t => do
    one (.entitlement t)
    return t.name
  let tenants ← entitled.mapM' (tenantOutline c)
  return {
    application := descriptor.id
    healthyModules := healthy.map (·.name)
    backendModules := descriptor.backendModules.length
    frontendModules := descriptor.frontendModules.length
    discoveryEntries
    tenants }

namespace Pipeline

open Rollout.Action (inStage_pure inStage_bind inStage_each inStage_forEntity sweep_bind_const)
open Outline (carryOut carryOut_pure carryOut_bind carryOut_mapM')

variable {p : Pipeline} {tenant : String}

/-- A stage for a tenant asks for a token, and then works under its own name. -/
theorem inSession_eq {α : Type} (p : Pipeline) (stage : Stage) (work : Session → Action α) :
    inSession stage tenant work = (Errand.token stage tenant).perform p >>= fun token =>
      Action.inStage stage (some tenant) none (work ⟨tenant, token⟩) := by
  simp only [inSession, session, bind_assoc, pure_bind, inStage_bind]
  rfl

theorem carryOut_describedOutline (registry : String) (planned : PlannedModule) :
    (describedOutline p.config registry planned).carryOut p =
      Action.inStage .resolve none none (Application.describe p.config registry planned) := by
  rw [describedOutline, Application.describe]
  split
  · simp only [one, carryOut_bind, carryOut, carryOut_pure, bind_pure, inStage_bind,
      inStage_forEntity]
    rfl
  · rfl

theorem carryOut_applicationOutline :
    (applicationOutline p.config).carryOut p = p.deployApplication := by
  simp only [applicationOutline, carryOut_bind, one, carryOut, carryOut_mapM', carryOut_pure,
    carryOut_describedOutline, bind_pure, deployApplication, Application.assemble, inStage_bind,
    inStage_each, inStage_pure, bind_assoc, pure_bind]
  rfl

/-- Each role is looked up in its place. -/
theorem carryOut_lookupOutline (session : Session) :
    (lookupOutline p.config session).carryOut p =
      Action.inStage .capabilityBinding (some session.tenant) none
        (Roles.configured p.config session) := by
  simp only [lookupOutline, carryOut_bind, one, carryOut, carryOut_mapM', carryOut_pure, bind_pure,
    Roles.configured, inStage_bind, inStage_each, inStage_pure, inStage_forEntity]
  rfl

theorem createRoles_eq : p.createRoles tenant = (Errand.token .roles tenant).perform p >>=
    fun token => each (fun entry => (Errand.role ⟨tenant, token⟩
      (Roles.platformName entry.1)).perform p >>= fun _ => pure (Roles.platformName entry.1))
        (p.config.rolesOf tenant) := by
  simp only [createRoles, inSession_eq p, Roles.create, inStage_each, inStage_bind, inStage_pure,
    inStage_forEntity]
  rfl

theorem bindCapabilitySets_eq : p.bindCapabilitySets tenant =
    (Errand.token .capabilityBinding tenant).perform p >>= fun token => do
      let stripped ← (lookupOutline p.config ⟨tenant, token⟩).carryOut p
      let _ ← each (fun r => (Errand.stripping ⟨tenant, token⟩ r.1).perform p) stripped
      let resolved ← (lookupOutline p.config ⟨tenant, token⟩).carryOut p
      let bindings ← each (fun r => (Errand.binding ⟨tenant, token⟩ r.1 r.2).perform p) resolved
      return bindings.filterMap id := by
  simp only [carryOut_lookupOutline, bindCapabilitySets, inSession_eq p, Roles.bind, Roles.detach,
    Roles.attach, bind_assoc, pure_bind, sweep_bind_const, inStage_bind, inStage_each,
    inStage_pure, inStage_forEntity]
  rfl

theorem createUsers_eq : p.createUsers tenant = (Errand.token .users tenant).perform p >>=
    fun token => each (fun user => (Errand.user ⟨tenant, token⟩ user).perform p)
      (p.config.usersOf tenant) := by
  simp only [createUsers, inSession_eq p, Users.create, inStage_each, inStage_forEntity]
  rfl

theorem carryOut_tenantOutline :
    (tenantOutline p.config tenant).carryOut p = p.provisionTenant tenant := by
  simp only [tenantOutline, carryOut_bind, one, carryOut, carryOut_mapM', carryOut_pure, bind_pure,
    provisionTenant, createRoles_eq, bindCapabilitySets_eq, createUsers_eq, bind_assoc, pure_bind]
  rfl

/-- A rollout is its errands, each in its place. -/
theorem carryOut_rolloutOutline : (rolloutOutline p.config).carryOut p = p.run := by
  simp only [rolloutOutline, carryOut_bind, one, carryOut, carryOut_mapM', carryOut_pure, bind_pure,
    carryOut_applicationOutline, carryOut_tenantOutline, run, createTenants, Tenants.create,
    createEntitlements, Tenants.entitle, Tenants.entitlements, inStage_bind, inStage_each,
    inStage_pure, inStage_forEntity, bind_assoc]
  rfl

end Pipeline

end Rollout
