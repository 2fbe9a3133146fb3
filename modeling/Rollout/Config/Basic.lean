import Rollout.Platform.Record

/-!
# The configuration of a rollout

A configuration says which application to assemble from which registries, which of their modules to
deploy and where, and which tenants, roles and users to create. It does not change during a rollout.

A configuration is accepted when the application has a name and a version and every role and every
user belongs to a configured tenant.
-/

namespace Rollout

structure ApplicationSettings where
  name : String
  version : String
  platform : String
  dependencies : SortedMap String
  fetchDescriptors : Bool
  tenantParameters : String
  deriving DecidableEq

/-- A role: its tenant, and the names of the capability sets to attach. -/
structure RoleSettings where
  tenant : String
  capabilitySets : List String
  deriving DecidableEq, Repr

/-- A user: its tenant, password and names, and the keys of its roles. -/
structure UserSettings where
  tenant : String
  password : String
  firstName : String
  lastName : String
  roles : List String
  deriving DecidableEq, Repr

/-- A backend module: whether it is deployed, the port that it serves inside the network, the port
on which the host sees its health, and the version to take instead of the listed one. -/
structure BackendSettings where
  deploy : Bool
  serverPort : Option Port
  healthPort : Option Port
  version : Option String
  deriving DecidableEq, Repr

structure FrontendSettings where
  deploy : Bool
  version : Option String
  deriving DecidableEq, Repr

structure QueueSettings where
  container : String
  broker : String
  deriving DecidableEq, Repr

structure Config where
  environment : String
  network : String
  registries : SortedMap String
  descriptorRegistry : String
  application : ApplicationSettings
  tenants : SortedSet
  roles : SortedMap RoleSettings
  users : SortedMap UserSettings
  backendModules : SortedMap BackendSettings
  frontendModules : SortedMap FrontendSettings
  queue : QueueSettings
  deriving DecidableEq

namespace Config

/-- What a configuration says of an entry that belongs to no configured tenant. -/
def unknownTenant (kind key tenant : String) : String :=
  kind ++ " " ++ key ++ " references unknown tenant " ++ tenant

/-- The first of some entries that belongs to no configured tenant, as what is said of it. -/
def stray? {α : Type} (c : Config) (kind : String) (tenantOf : α → String) :
    List (String × α) → Option String
  | [] => none
  | entry :: rest =>
      if tenantOf entry.2 ∈ c.tenants then c.stray? kind tenantOf rest
      else some (unknownTenant kind entry.1 (tenantOf entry.2))

def fault? (c : Config) : Option String :=
  if c.application.name = "" ∨ c.application.version = "" then
    some "application name and version are required"
  else
    c.stray? "role" RoleSettings.tenant c.roles.entries <|>
      c.stray? "user" UserSettings.tenant c.users.entries

def Accepted (c : Config) : Prop :=
  c.application.name ≠ "" ∧ c.application.version ≠ "" ∧
    (∀ role ∈ c.roles.entries, role.2.tenant ∈ c.tenants) ∧
    ∀ user ∈ c.users.entries, user.2.tenant ∈ c.tenants

theorem stray?_eq_none_iff {α : Type} {c : Config} {kind : String} {tenantOf : α → String}
    {l : List (String × α)} :
    c.stray? kind tenantOf l = none ↔ ∀ entry ∈ l, tenantOf entry.2 ∈ c.tenants := by
  induction l with
  | nil => simp [stray?]
  | cons entry rest ih =>
      rw [stray?]
      split
      next h => simp [ih, h]
      next h => simp [h]

theorem fault?_eq_none_iff {c : Config} : c.fault? = none ↔ c.Accepted := by
  rw [fault?, Accepted]
  split
  next h =>
    simp only [reduceCtorEq, false_iff, not_and]
    rintro hname hversion
    exact absurd h (by simp [hname, hversion])
  next h =>
    rw [not_or] at h
    simp [Option.or_eq_none_iff, stray?_eq_none_iff, h.1, h.2]

def applicationId (c : Config) : String :=
  Rollout.applicationId c.application.name c.application.version

def hasTenant (c : Config) (name : String) : Bool := c.tenants.contains name

def descriptorRegistryUrl? (c : Config) : Option String := c.registries.get? c.descriptorRegistry

/-- The consumer group that turns entitlements into capability sets. -/
def capabilityGroup (c : Config) : String :=
  c.environment ++ "-mod-roles-keycloak-capability-group"

/-- The roles of a tenant with their keys, in the order of the keys. -/
def rolesOf (c : Config) (tenant : String) : List (String × RoleSettings) :=
  c.roles.entries.filter (·.2.tenant = tenant)

def userOf (entry : String × UserSettings) : User where
  username := entry.1
  tenant := entry.2.tenant
  password := entry.2.password
  firstName := entry.2.firstName
  lastName := entry.2.lastName
  roleNames := .ofList entry.2.roles

/-- The users of a tenant, in the order of their names. -/
def usersOf (c : Config) (tenant : String) : List User :=
  (c.users.entries.filter (·.2.tenant = tenant)).map userOf

end Config

end Rollout
