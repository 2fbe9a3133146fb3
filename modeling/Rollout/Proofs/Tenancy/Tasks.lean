import Rollout.Proofs.Pipeline.Ownership
import Rollout.Proofs.Procedure.Alike
import Rollout.Roles.Binding
import Rollout.Users

/-!
# Tasks for a tenant in two sessions

A task for a tenant is done in a session. It may be done side by side in two sessions for the
tenant, each with a token of its own, from two configurations that say the same of the tenant. Then
the operations of one are the counterparts of those of the other, and when counterparts are answered
alike, the task ends alike (`Task.agree`).

The users of the two configurations need only go together, in whichever sense `same` says, and
differ at most in their passwords.
-/

namespace Rollout

inductive Task where
  | createRoles
  | removeRoles
  | detachCapabilitySets
  | attachCapabilitySets
  | bindCapabilitySets
  | createUsers
  | removeUsers
  deriving DecidableEq, Repr

namespace Task

abbrev Result : Task → Type
  | createRoles | removeRoles | detachCapabilitySets | removeUsers => List String
  | attachCapabilitySets | bindCapabilitySets => List Roles.Binding
  | createUsers => List Users.Provisioned

def action (c : Config) (session : Session) : (task : Task) → Action task.Result
  | createRoles => Roles.create c session
  | removeRoles => Roles.remove c session
  | detachCapabilitySets => Roles.detach c session
  | attachCapabilitySets => Roles.attach c session
  | bindCapabilitySets => Roles.bind c session
  | createUsers => Users.create c session
  | removeUsers => Users.remove c session

end Task

/-- An operation within one session and the same within another, or the listing of the
applications. -/
inductive Operation.Counterpart (same : User → User → Prop) (s s' : Session) :
    Operation → Operation → Prop
  | listApplications : Counterpart same s s' .listApplications .listApplications
  | listRoles : Counterpart same s s' (.listRoles s) (.listRoles s')
  | findRoles (name : String) : Counterpart same s s' (.findRoles s name) (.findRoles s' name)
  | createRole (name description : String) :
      Counterpart same s s' (.createRole s name description) (.createRole s' name description)
  | deleteRole (id : String) : Counterpart same s s' (.deleteRole s id) (.deleteRole s' id)
  | applicationCapabilitySets (id : String) :
      Counterpart same s s' (.applicationCapabilitySets s id) (.applicationCapabilitySets s' id)
  | findCapabilitySets (name : String) :
      Counterpart same s s' (.findCapabilitySets s name) (.findCapabilitySets s' name)
  | detachCapabilitySets (id : String) :
      Counterpart same s s' (.detachCapabilitySets s id) (.detachCapabilitySets s' id)
  | attachCapabilitySets (id : String) (ids : List String) :
      Counterpart same s s' (.attachCapabilitySets s id ids) (.attachCapabilitySets s' id ids)
  | listUsers : Counterpart same s s' (.listUsers s) (.listUsers s')
  | createUser {user user' : User} (together : same user user') :
      Counterpart same s s' (.createUser s user) (.createUser s' user')
  | deleteUser (id : String) : Counterpart same s s' (.deleteUser s id) (.deleteUser s' id)
  | attachCredentials (id : String) {user user' : User} (together : same user user') :
      Counterpart same s s' (.attachCredentials s id user.username user.password)
        (.attachCredentials s' id user'.username user'.password)
  | attachUserRoles (id : String) (ids : List String) :
      Counterpart same s s' (.attachUserRoles s id ids) (.attachUserRoles s' id ids)

def User.anonymous (user : User) : User := { user with password := "" }

/-- Two configurations have the same roles for a tenant, and users that go together. -/
structure Config.Matches (same : User → User → Prop) (tenant : String) (c c' : Config) : Prop where
  roles : c.rolesOf tenant = c'.rolesOf tenant
  users : List.Forall₂ same (c.usersOf tenant) (c'.usersOf tenant)

/-- The operations within two sessions are answered alike, and users that go together differ at most
in their passwords. -/
structure Pairing.Serves {σ σ' : Type} {surroundings : Surroundings σ}
    {surroundings' : Surroundings σ'} (pairing : Pairing surroundings surroundings')
    (same : User → User → Prop) (s s' : Session) : Prop where
  asks : ∀ {op op'}, Operation.Counterpart same s s' op op' → pairing.Asks op op'
  together : ∀ {user user'}, same user user' → user.anonymous = user'.anonymous

open Pairing (Agree)

variable {σ σ' : Type} {surroundings : Surroundings σ} {surroundings' : Surroundings σ'}
  {pairing : Pairing surroundings surroundings'} {same : User → User → Prop} {c c' : Config}
  {tenant token token' : String}

namespace Roles

theorem isConfigured_congr (roles : c.rolesOf tenant = c'.rolesOf tenant) :
    isConfigured c tenant = isConfigured c' tenant := by
  funext role
  rw [Bool.eq_iff_iff, isConfigured_iff, isConfigured_iff, Config.roleIn_iff, Config.roleIn_iff,
    roles]

end Roles

namespace Users

theorem isConfigured_congr
    (users : (c.usersOf tenant).map User.anonymous = (c'.usersOf tenant).map User.anonymous) :
    isConfigured c tenant = isConfigured c' tenant := by
  have names : ∀ c : Config, ∀ username, (∃ user ∈ c.usersOf tenant, user.username = username) ↔
      ∃ user ∈ (c.usersOf tenant).map User.anonymous, user.username = username := by
    simp [User.anonymous]
  funext user
  rw [Bool.eq_iff_iff, isConfigured_iff, isConfigured_iff, Config.userIn_iff, Config.userIn_iff,
    names, users, ← names]

end Users

section

variable (serves : pairing.Serves same ⟨tenant, token⟩ ⟨tenant, token'⟩)

include serves

namespace Roles

theorem find_agree (name : String) :
    pairing.Agree (find ⟨tenant, token⟩ name) (find ⟨tenant, token'⟩ name) Eq :=
  .bind_same (.of_heq (.operate (serves.asks (.findRoles name)))) fun _ => .ofExcept

theorem configured_agree (roles : c.rolesOf tenant = c'.rolesOf tenant) :
    pairing.Agree (configured c ⟨tenant, token⟩) (configured c' ⟨tenant, token'⟩) Eq := by
  rw [configured, configured, ← roles]
  refine .bind_same (.each_same fun entry _ => ?_) fun _ => .pure rfl
  exact .bind_same (.forEntity (find_agree serves _)) fun _ => .pure rfl

theorem select_agree (selection : Selection) :
    pairing.Agree (select ⟨tenant, token⟩ selection) (select ⟨tenant, token'⟩ selection) Eq := by
  cases selection with
  | all =>
      exact .bind_same (.of_heq (.operate (serves.asks .listApplications))) fun _ =>
        .bind_same (.each_same fun a _ =>
          .of_heq (.operate (serves.asks (.applicationCapabilitySets a.id)))) fun _ => .pure rfl
  | named names =>
      exact .bind_same (.each_same fun name _ =>
        .of_heq (.operate (serves.asks (.findCapabilitySets name)))) fun _ => .pure rfl

theorem create_agree (roles : c.rolesOf tenant = c'.rolesOf tenant) :
    pairing.Agree (create c ⟨tenant, token⟩) (create c' ⟨tenant, token'⟩) Eq := by
  rw [create, create, ← roles]
  exact .each_same fun entry _ =>
    .bind_same (.forEntity (.of_heq (.operate (serves.asks (.createRole _ _))))) fun _ => .pure rfl

theorem remove_agree (roles : c.rolesOf tenant = c'.rolesOf tenant) :
    pairing.Agree (remove c ⟨tenant, token⟩) (remove c' ⟨tenant, token'⟩) Eq := by
  rw [remove, remove, isConfigured_congr roles]
  refine .bind_same (.of_heq (.operate (serves.asks .listRoles))) fun roles => ?_
  exact .bind_same (.sweep fun r _ => serves.asks (.deleteRole r.id)) fun _ => .pure rfl

theorem detach_agree (roles : c.rolesOf tenant = c'.rolesOf tenant) :
    pairing.Agree (detach c ⟨tenant, token⟩) (detach c' ⟨tenant, token'⟩) Eq :=
  .bind_same (configured_agree serves roles) fun _ =>
    .bind_same (.sweep fun r _ => serves.asks (.detachCapabilitySets r.1.id)) fun _ => .pure rfl

theorem attachTo_agree (role : Role) (names : List String) :
    pairing.Agree (attachTo ⟨tenant, token⟩ role names) (attachTo ⟨tenant, token'⟩ role names)
      Eq := by
  refine .bind_same (select_agree serves _) fun sets => ?_
  dsimp only
  split
  · exact .pure rfl
  · exact .bind_same (.of_heq (.operate (serves.asks (.attachCapabilitySets _ _)))) fun _ =>
      .pure rfl

theorem attach_agree (roles : c.rolesOf tenant = c'.rolesOf tenant) :
    pairing.Agree (attach c ⟨tenant, token⟩) (attach c' ⟨tenant, token'⟩) Eq :=
  .bind_same (configured_agree serves roles) fun _ =>
    .bind_same (.each_same fun _ _ => .forEntity (attachTo_agree serves _ _)) fun _ => .pure rfl

theorem bind_agree (roles : c.rolesOf tenant = c'.rolesOf tenant) :
    pairing.Agree (bind c ⟨tenant, token⟩) (bind c' ⟨tenant, token'⟩) Eq :=
  .bind_same (detach_agree serves roles) fun _ => attach_agree serves roles

end Roles

namespace Users

theorem roleIds_agree {user user' : User} (roles : user.roleNames = user'.roleNames) :
    pairing.Agree (roleIds ⟨tenant, token⟩ user) (roleIds ⟨tenant, token'⟩ user') Eq := by
  rw [roleIds, roleIds, ← roles]
  refine .bind_same (.each_same fun key _ => ?_) fun _ => .pure rfl
  exact .bind_same (Roles.find_agree serves _) fun _ => .pure rfl

theorem provision_agree {user user' : User} (together : same user user') :
    pairing.Agree (provision ⟨tenant, token⟩ user) (provision ⟨tenant, token'⟩ user') Eq := by
  -- With the users taken apart, all but their passwords is the same.
  obtain ⟨username, home, password, firstName, lastName, roleNames⟩ := user
  cases serves.together together
  refine .bind_same (.of_heq (.operate (serves.asks (.createUser together)))) fun id => ?_
  refine .bind_same (.of_heq (.operate (serves.asks (.attachCredentials id together)))) fun _ => ?_
  refine .bind_same (roleIds_agree serves rfl) fun ids => ?_
  dsimp only
  split
  · exact .bind_same (.of_heq (.operate (serves.asks (.attachUserRoles id ids)))) fun _ => .pure rfl
  · exact .pure rfl

theorem create_agree (users : List.Forall₂ same (c.usersOf tenant) (c'.usersOf tenant)) :
    pairing.Agree (create c ⟨tenant, token⟩) (create c' ⟨tenant, token'⟩) Eq := by
  refine .each users fun user user' together => ?_
  have name := congrArg User.username (serves.together together)
  rw [show user.username = user'.username from name]
  exact .forEntity (provision_agree serves together)

theorem remove_agree (users : List.Forall₂ same (c.usersOf tenant) (c'.usersOf tenant)) :
    pairing.Agree (remove c ⟨tenant, token⟩) (remove c' ⟨tenant, token'⟩) Eq := by
  have anonymous : (c.usersOf tenant).map User.anonymous =
      (c'.usersOf tenant).map User.anonymous := by
    rw [← List.forall₂_eq_eq_eq, List.forall₂_map_left_iff, List.forall₂_map_right_iff]
    exact users.imp fun _ _ => serves.together
  rw [remove, remove, isConfigured_congr anonymous]
  refine .bind_same (.of_heq (.operate (serves.asks .listUsers))) fun listed => ?_
  exact .bind_same (.sweep fun u _ => serves.asks (.deleteUser u.id)) fun _ => .pure rfl

end Users

/-- A task done in two sessions for a tenant, from configurations that say the same of it, ends
alike. -/
theorem Task.agree (configs : Config.Matches same tenant c c') (task : Task) :
    pairing.Agree (task.action c ⟨tenant, token⟩) (task.action c' ⟨tenant, token'⟩) Eq := by
  cases task with
  | createRoles => exact Roles.create_agree serves configs.roles
  | removeRoles => exact Roles.remove_agree serves configs.roles
  | detachCapabilitySets => exact Roles.detach_agree serves configs.roles
  | attachCapabilitySets => exact Roles.attach_agree serves configs.roles
  | bindCapabilitySets => exact Roles.bind_agree serves configs.roles
  | createUsers => exact Users.create_agree serves configs.users
  | removeUsers => exact Users.remove_agree serves configs.users

end

end Rollout
