import Rollout.Platform.Operation
import Rollout.Error

/-!
# A platform in memory

`Memory` is a platform that holds its records itself and logs every mutation. It starts with
whatever records it is given and a set of operations that fail. Reading changes nothing; a mutation
that is not set to fail is logged and carried out. Descriptors and capability sets are given and
never change, and neither entitlements nor discovery entries nor bindings are held: of those only
the log tells.
-/

namespace Rollout

/-- The records of a platform, the operations that fail, and the mutations so far, the latest
first. -/
structure Memory where
  registries : SortedMap (List RegistryModule)
  descriptors : SortedMap Json
  applications : List ApplicationSummary
  tenants : List Tenant
  roles : SortedMap (List Role)
  capabilitySets : SortedMap (List CapabilitySet)
  users : SortedMap (List UserRecord)
  failing : List String
  log : List Operation

namespace Memory

def under {α : Type} (m : SortedMap (List α)) (key : String) : List α := (m.get? key).getD []

def push {α : Type} (m : SortedMap (List α)) (key : String) (item : α) : SortedMap (List α) :=
  m.insert key (under m key ++ [item])

def retain {α : Type} (m : SortedMap (List α)) (key : String) (keep : α → Bool) :
    SortedMap (List α) :=
  match m.get? key with
  | some items => m.insert key (items.filter keep)
  | none => m

def newTenantId (name : String) : String := name ++ "-id"

def newRoleId (count : Nat) : String := "role-" ++ toString (count + 1)

def newUserId (username : String) : String := "user-" ++ username

def change (m : Memory) : Operation → Memory
  | .createApplication d =>
      { m with applications := m.applications ++ [⟨d.id, d.name, d.version⟩] }
  | .deleteApplication id => { m with applications := m.applications.filter (·.id ≠ id) }
  | .createTenant name description =>
      { m with tenants := m.tenants ++ [⟨newTenantId name, name, some description⟩] }
  | .deleteTenant id => { m with tenants := m.tenants.filter (·.id ≠ id) }
  | .createRole session name _ =>
      { m with
        roles := push m.roles session.tenant
          ⟨newRoleId (under m.roles session.tenant).length, name, none⟩ }
  | .deleteRole session id => { m with roles := retain m.roles session.tenant (·.id ≠ id) }
  | .createUser session user =>
      { m with
        users := push m.users session.tenant ⟨newUserId user.username, user.username⟩ }
  | .deleteUser session id => { m with users := retain m.users session.tenant (·.id ≠ id) }
  | _ => m

def answer (m : Memory) : (op : Operation) → Except Failure op.Answer
  | .registryModules url => .ok (under m.registries url)
  | .moduleDescriptor url =>
      match m.descriptors.get? url with
      | some descriptor => .ok descriptor
      | none => .error (.of ("fetch module descriptor returned 404 Not Found: " ++ url))
  | .listApplications => .ok m.applications
  | .listTenants => .ok m.tenants
  | .listRoles session => .ok (under m.roles session.tenant)
  | .findRoles session name => .ok ((under m.roles session.tenant).filter (·.name = name))
  | .applicationCapabilitySets session id =>
      .ok ((under m.capabilitySets session.tenant).filter (·.applicationId = id))
  | .findCapabilitySets session name =>
      .ok ((under m.capabilitySets session.tenant).filter (·.name = name))
  | .listUsers session => .ok (under m.users session.tenant)
  | .createUser _ user => .ok (newUserId user.username)
  | .createApplication _ | .deleteApplication _ | .createDiscovery _ | .replaceDiscovery _
  | .createTenant _ _ | .deleteTenant _ | .createEntitlement _ _ | .deleteEntitlement _
  | .createRole _ _ _ | .deleteRole _ _ | .detachCapabilitySets _ _ | .attachCapabilitySets _ _ _
  | .deleteUser _ _ | .attachCredentials _ _ _ _ | .attachUserRoles _ _ _ => .ok ()

def injected (op : Operation) : Failure := .of (op.name ++ " failed: injected error")

def perform (m : Memory) (op : Operation) : Except Failure op.Answer × Memory :=
  if op.name ∈ m.failing then (.error (injected op), m)
  else if op.isMutation then (m.answer op, { m.change op with log := op :: m.log })
  else (m.answer op, m)

end Memory

end Rollout
