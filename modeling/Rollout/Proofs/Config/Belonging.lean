import Rollout.Config.Basic

/-!
# What belongs to a tenant

In a configuration that was accepted, a tenant to which a role or a user belongs is configured.
`sample` is a small configuration of this kind, with an entry of each sort.
-/

namespace Rollout

namespace Config

variable {c : Config} {t : String}

theorem hasTenant_iff : c.hasTenant t = true ↔ t ∈ c.tenants := by
  simp [hasTenant, SortedSet.contains]

/-- A user to be created is what a configured entry says: its roles are the set of those listed. -/
structure Describes (entry : String × UserSettings) (user : User) : Prop where
  username : user.username = entry.1
  tenant : user.tenant = entry.2.tenant
  password : user.password = entry.2.password
  firstName : user.firstName = entry.2.firstName
  lastName : user.lastName = entry.2.lastName
  roles : ∀ role, role ∈ user.roleNames ↔ role ∈ entry.2.roles

theorem describes_userOf (entry : String × UserSettings) : Describes entry (userOf entry) where
  username := rfl
  tenant := rfl
  password := rfl
  firstName := rfl
  lastName := rfl
  roles _ := SortedSet.mem_ofList

variable (c) in
theorem tenant_of_mem_rolesOf {entry : String × RoleSettings} (he : entry ∈ c.rolesOf t) :
    entry.2.tenant = t :=
  of_decide_eq_true (List.mem_filter.1 he).2

variable (c) in
theorem tenant_of_mem_usersOf {user : User} (hu : user ∈ c.usersOf t) : user.tenant = t := by
  obtain ⟨entry, he, rfl⟩ := List.mem_map.1 hu
  exact of_decide_eq_true (List.mem_filter.1 he).2

theorem Accepted.tenant_of_role (h : c.Accepted) {entry : String × RoleSettings}
    (he : entry ∈ c.rolesOf t) : t ∈ c.tenants :=
  c.tenant_of_mem_rolesOf he ▸ h.2.2.1 entry (List.mem_filter.1 he).1

theorem Accepted.tenant_of_user (h : c.Accepted) {user : User} (hu : user ∈ c.usersOf t) :
    t ∈ c.tenants := by
  have ht := c.tenant_of_mem_usersOf hu
  obtain ⟨entry, he, rfl⟩ := List.mem_map.1 hu
  exact ht ▸ h.2.2.2 entry (List.mem_filter.1 he).1

/-- Some settings of a role with a key, in a tenant. -/
def RoleIn (c : Config) (key tenant : String) : Prop :=
  ∃ settings, c.roles.get? key = some settings ∧ settings.tenant = tenant

/-- Some settings of a user with a name, in a tenant. -/
def UserIn (c : Config) (username tenant : String) : Prop :=
  ∃ settings, c.users.get? username = some settings ∧ settings.tenant = tenant

def HasUser (c : Config) (user : User) (tenant : String) : Prop :=
  ∃ entry ∈ c.users.entries, entry.2.tenant = tenant ∧ Describes entry user

instance (c : Config) (key tenant : String) : Decidable (c.RoleIn key tenant) :=
  inferInstanceAs (Decidable (∃ settings ∈ c.roles.get? key, settings.tenant = tenant))

instance (c : Config) (username tenant : String) : Decidable (c.UserIn username tenant) :=
  inferInstanceAs (Decidable (∃ settings ∈ c.users.get? username, settings.tenant = tenant))

theorem roleIn_iff {key : String} : c.RoleIn key t ↔ ∃ settings, (key, settings) ∈ c.rolesOf t := by
  simp [RoleIn, rolesOf, SortedMap.get?_eq_some_iff]

theorem roleIn_of_mem_rolesOf {entry : String × RoleSettings} (he : entry ∈ c.rolesOf t) :
    c.RoleIn entry.1 t :=
  roleIn_iff.2 ⟨entry.2, he⟩

theorem hasUser_of_mem_usersOf {user : User} (hu : user ∈ c.usersOf t) : c.HasUser user t := by
  obtain ⟨entry, he, rfl⟩ := List.mem_map.1 hu
  obtain ⟨hmem, htenant⟩ := List.mem_filter.1 he
  exact ⟨entry, hmem, of_decide_eq_true htenant, describes_userOf entry⟩

theorem userIn_iff {username : String} :
    c.UserIn username t ↔ ∃ user ∈ c.usersOf t, user.username = username := by
  simp only [UserIn, usersOf, SortedMap.get?_eq_some_iff, List.mem_map, List.mem_filter,
    decide_eq_true_eq]
  constructor
  · rintro ⟨settings, hmem, htenant⟩
    exact ⟨_, ⟨(username, settings), ⟨hmem, htenant⟩, rfl⟩, rfl⟩
  · rintro ⟨_, ⟨entry, ⟨hmem, htenant⟩, rfl⟩, rfl⟩
    exact ⟨entry.2, hmem, htenant⟩

theorem Accepted.tenant_of_roleIn (h : c.Accepted) {key : String} (hr : c.RoleIn key t) :
    t ∈ c.tenants := by
  obtain ⟨settings, hget, rfl⟩ := hr
  exact h.2.2.1 _ (SortedMap.get?_eq_some_iff.1 hget)

theorem Accepted.tenant_of_userIn (h : c.Accepted) {username : String}
    (hu : c.UserIn username t) : t ∈ c.tenants := by
  obtain ⟨settings, hget, rfl⟩ := hu
  exact h.2.2.2 _ (SortedMap.get?_eq_some_iff.1 hget)

/-- One tenant with a role and a user, and one backend module that is waited for. -/
def sample : Config where
  environment := "dev"
  network := "net"
  registries := .ofList [("modules", "http://registry")]
  descriptorRegistry := "modules"
  application := ⟨"app", "1.0", "base", .empty, false, ""⟩
  tenants := .ofList ["north"]
  roles := .ofList [("admin", ⟨"north", ["all"]⟩)]
  users := .ofList [("ann", ⟨"north", "secret", "Ann", "Lee", ["admin"]⟩)]
  backendModules := .ofList [("mod-users", ⟨true, some 8081, some 9081, none⟩)]
  frontendModules := .empty
  queue := ⟨"kafka", "broker:9092"⟩

theorem sample_accepted : sample.Accepted := fault?_eq_none_iff.1 (by decide)

end Config

end Rollout
