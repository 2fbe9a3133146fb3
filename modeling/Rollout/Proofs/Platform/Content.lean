import Mathlib.Logic.Function.Basic
import Rollout.Platform.Memory

/-!
# What a platform in memory holds

The content of a platform is what can be read of it: the records under each key, whether or not
there is an entry for the key. A platform answers what its content answers (`content_answer`), and
a mutation acts on the content (`content_change`), so that a platform may be taken for its content.
-/

namespace Rollout

open Function (update)

structure Content where
  registries : String → List RegistryModule
  descriptors : String → Option Json
  applications : List ApplicationSummary
  tenants : List Tenant
  roles : String → List Role
  capabilitySets : String → List CapabilitySet
  users : String → List UserRecord

def Content.change (k : Content) : Operation → Content
  | .createApplication d =>
      { k with applications := k.applications ++ [⟨d.id, d.name, d.version⟩] }
  | .deleteApplication id => { k with applications := k.applications.filter (·.id ≠ id) }
  | .createTenant name description =>
      { k with tenants := k.tenants ++ [⟨Memory.newTenantId name, name, some description⟩] }
  | .deleteTenant id => { k with tenants := k.tenants.filter (·.id ≠ id) }
  | .createRole s name _ =>
      { k with
        roles := update k.roles s.tenant
          (k.roles s.tenant ++ [⟨Memory.newRoleId (k.roles s.tenant).length, name, none⟩]) }
  | .deleteRole s id =>
      { k with roles := update k.roles s.tenant ((k.roles s.tenant).filter (·.id ≠ id)) }
  | .createUser s user =>
      { k with
        users := update k.users s.tenant
          (k.users s.tenant ++ [⟨Memory.newUserId user.username, user.username⟩]) }
  | .deleteUser s id =>
      { k with users := update k.users s.tenant ((k.users s.tenant).filter (·.id ≠ id)) }
  | _ => k

def Content.answer (k : Content) : (op : Operation) → Except Failure op.Answer
  | .registryModules url => .ok (k.registries url)
  | .moduleDescriptor url =>
      match k.descriptors url with
      | some descriptor => .ok descriptor
      | none => .error (.of ("fetch module descriptor returned 404 Not Found: " ++ url))
  | .listApplications => .ok k.applications
  | .listTenants => .ok k.tenants
  | .listRoles s => .ok (k.roles s.tenant)
  | .findRoles s name => .ok ((k.roles s.tenant).filter (·.name = name))
  | .applicationCapabilitySets s id =>
      .ok ((k.capabilitySets s.tenant).filter (·.applicationId = id))
  | .findCapabilitySets s name => .ok ((k.capabilitySets s.tenant).filter (·.name = name))
  | .listUsers s => .ok (k.users s.tenant)
  | .createUser _ user => .ok (Memory.newUserId user.username)
  | .createApplication _ | .deleteApplication _ | .createDiscovery _ | .replaceDiscovery _
  | .createTenant _ _ | .deleteTenant _ | .createEntitlement _ _ | .deleteEntitlement _
  | .createRole _ _ _ | .deleteRole _ _ | .detachCapabilitySets _ _ | .attachCapabilitySets _ _ _
  | .deleteUser _ _ | .attachCredentials _ _ _ _ | .attachUserRoles _ _ _ => .ok ()

namespace Memory

def content (m : Memory) : Content where
  registries := under m.registries
  descriptors := m.descriptors.get?
  applications := m.applications
  tenants := m.tenants
  roles := under m.roles
  capabilitySets := under m.capabilitySets
  users := under m.users

theorem under_push {α : Type} (m : SortedMap (List α)) (key : String) (item : α) :
    under (push m key item) = update (under m) key (under m key ++ [item]) := by
  funext other
  by_cases h : other = key
  · subst h
    simp [under, push, SortedMap.get?_insert]
  · simp [under, push, SortedMap.get?_insert, h]

theorem under_retain {α : Type} (m : SortedMap (List α)) (key : String) (keep : α → Bool) :
    under (retain m key keep) = update (under m) key ((under m key).filter keep) := by
  funext other
  cases hget : m.get? key with
  | none =>
      by_cases h : other = key
      · subst h
        simp [under, retain, hget]
      · simp [under, retain, hget, h]
  | some items =>
      by_cases h : other = key
      · subst h
        simp [under, retain, hget, SortedMap.get?_insert]
      · simp [under, retain, hget, SortedMap.get?_insert, h]

/-- A platform answers what its content answers. -/
theorem content_answer (m : Memory) (op : Operation) : m.content.answer op = m.answer op := by
  cases op <;> rfl

theorem change_failing (m : Memory) (op : Operation) : (m.change op).failing = m.failing := by
  cases op <;> rfl

/-- A mutation acts on the content. -/
theorem content_change (m : Memory) (op : Operation) :
    (m.change op).content = m.content.change op := by
  cases op <;> simp [change, content, Content.change, under_push, under_retain]

end Memory

end Rollout
