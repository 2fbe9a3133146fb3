import Rollout.Proofs.Http.Address
import Rollout.Proofs.Http.Replay
import Rollout.Proofs.Pipeline.Activity

/-!
# Secrets go only where they belong

Two pipelines that differ in nothing but the passwords of their users undertake the same on a
discreet network, each with tokens of its own. Whatever is done in nobody's name goes the same in
both; a stage for a tenant opens a session and does a task there, whose operations have counterparts
in the session of the other (`Undertaking.agree`). So all results and errors are equal, and what
arrives differs only where a secret belongs: in the token of a request to the gateway, and in the
token and the password where the credentials of a user are posted. Only a network that redirects can
make such a request go anywhere else, and then it takes its token along.
-/

namespace Rollout

/-- A configuration without the passwords of its users. -/
def Config.anonymous (c : Config) : Config :=
  { c with users := c.users.map fun settings => { settings with password := "" } }

namespace Pipeline

namespace Activity

abbrev Result : Activity → Type
  | awaitHealth => List Health.Healthy
  | deployApplication => ApplicationDescriptor × Nat
  | removeApplications | createTenants | removeTenants | createEntitlements | removeEntitlements
  | existingTenants => List String
  | awaitCapabilitySets _ => Nat
  | createRoles _ | removeRoles _ | detachCapabilitySets _ | removeUsers _ => List String
  | attachCapabilitySets _ | bindCapabilitySets _ => List Roles.Binding
  | createUsers _ => List Users.Provisioned
  | provisionTenant _ => TenantReport
  | run => RunReport
  | teardown => TeardownReport

def perform (p : Pipeline) : (activity : Activity) → Staged activity.Result
  | awaitHealth => p.awaitHealth
  | deployApplication => p.deployApplication
  | removeApplications => Pipeline.removeApplications
  | createTenants => p.createTenants
  | removeTenants => p.removeTenants
  | createEntitlements => p.createEntitlements
  | removeEntitlements => p.removeEntitlements
  | existingTenants => p.existingTenants
  | awaitCapabilitySets tenant => p.awaitCapabilitySets tenant
  | createRoles tenant => p.createRoles tenant
  | removeRoles tenant => p.removeRoles tenant
  | detachCapabilitySets tenant => p.detachCapabilitySets tenant
  | attachCapabilitySets tenant => p.attachCapabilitySets tenant
  | bindCapabilitySets tenant => p.bindCapabilitySets tenant
  | createUsers tenant => p.createUsers tenant
  | removeUsers tenant => p.removeUsers tenant
  | provisionTenant tenant => p.provisionTenant tenant
  | run => p.run
  | teardown => p.teardown

end Activity

inductive Undertaking where
  | healthTargets
  | updateDiscovery (id : String) (location : Option String) (restore : Bool) (port : Port)
  | activity (activity : Activity)

namespace Undertaking

abbrev Result : Undertaking → Type
  | healthTargets => List Health.Target
  | updateDiscovery _ _ _ _ => DiscoveryEntry
  | activity a => a.Result

def perform (p : Pipeline) : (u : Undertaking) → Staged u.Result
  | healthTargets => pure p.healthTargets
  | updateDiscovery id location restore port => p.updateDiscovery id location restore port
  | activity a => a.perform p

end Undertaking

def withUsers (p : Pipeline) (users : SortedMap UserSettings) : Pipeline where
  config := { p.config with users }
  timings := p.timings

end Pipeline

namespace Application

variable (c : Config) (users : SortedMap UserSettings)

theorem planFrom_users (seen ids : List String) :
    planFrom { c with users } seen ids = planFrom c seen ids := by
  have same : planModule? { c with users } = planModule? c := rfl
  induction ids generalizing seen with
  | nil => rfl
  | cons id rest ih => simp only [planFrom, ih, same]

theorem assemble_users : assemble { c with users } = assemble c := by
  have same : plan { c with users } = plan c := funext fun _ => planFrom_users c users _ _
  simp only [assemble, same]
  rfl

theorem removeAll_makes : Action.Makes Call.General removeAll :=
  .bind (.operate ⟨_, rfl, rfl⟩) fun _ => .bind (.sweep fun _ => ⟨_, rfl, rfl⟩) fun _ => .pure

end Application

namespace Tenants

variable {c : Config}

theorem existing_makes : Action.Makes Call.General (existing c) :=
  existing_orderly.makes.mono fun _ h => ⟨_, h, rfl⟩

theorem remove_makes : Action.Makes Call.General (remove c) :=
  existing_makes.bind fun _ => .bind (.sweep fun _ => ⟨_, rfl, rfl⟩) fun _ => .pure

end Tenants

namespace Http.Network

variable {n : Network} {tokens tokens' : String → Except Failure String} (discreet : n.Discreet)

include discreet

theorem agree_self {α ε : Type} {a : ExceptT ε Procedure α}
    (makes : Action.Makes Call.Impersonal a) : (n.pairing tokens tokens').Agree a a Eq := by
  refine Pairing.Alike.weaken (Pairing.alike_self makes.run (fun c impersonal => ?_) ?_)
    fun _ _ => .of_eq
  · refine .ask_same fun past clock past' clock' h => ?_
    obtain ⟨answer, arrived⟩ := answer_impersonal discreet impersonal h.2
    exact ⟨answer, h.1, arrived⟩
  · exact .gate Iff.rfl fun port _ _ => answer_impersonal discreet (.inr (.inr ⟨port, rfl⟩))

end Http.Network

namespace Config

theorem usersOf_anonymous (c : Config) (tenant : String) :
    c.anonymous.usersOf tenant = (c.usersOf tenant).map User.anonymous := by
  simp [usersOf, anonymous, SortedMap.map, List.filter_map, Function.comp_def, userOf,
    User.anonymous]

/-- Configurations that differ in passwords only say the same of every tenant, but for those. -/
theorem matches_of_anonymous {c c' : Config} (h : c.anonymous = c'.anonymous) (tenant : String) :
    Matches (fun user user' => user.anonymous = user'.anonymous) tenant c c' where
  roles := by
    have roles := congrArg (rolesOf · tenant) h
    exact roles
  users := by
    have users : c.anonymous.usersOf tenant = c'.anonymous.usersOf tenant := by rw [h]
    rwa [usersOf_anonymous, usersOf_anonymous, ← List.forall₂_eq_eq_eq,
      List.forall₂_map_left_iff, List.forall₂_map_right_iff] at users

theorem eq_of_anonymous {c c' : Config} (h : c.anonymous = c'.anonymous) :
    c' = { c with users := c'.users } := by
  cases c
  cases c'
  simp only [anonymous, mk.injEq] at h
  simp [h]

end Config

namespace Pipeline

open Http (isHeaderValue Network)

variable {n : Network} {tokens tokens' : String → Except Failure String} {p p' : Pipeline}

theorem eq_withUsers (timings : p.timings = p'.timings)
    (configs : p.config.anonymous = p'.config.anonymous) : p' = p.withUsers p'.config.users := by
  rw [withUsers, ← Config.eq_of_anonymous configs, timings]

/-- A tenant is given a token in both runs, and tokens that can be sent, or in neither. -/
def LegalTokens (tokens tokens' : String → Except Failure String) : Prop :=
  ∀ tenant, SameOutcome
    (fun token token' => isHeaderValue token = true ∧ isHeaderValue token' = true)
    (tokens tenant) (tokens' tenant)

theorem existingTenants_makes : Action.Makes Call.General p.existingTenants :=
  .inStage (Tenants.existing_makes.bind fun _ => .pure)

section Undertakings

variable (discreet : n.Discreet) (legal : LegalTokens tokens tokens')

include discreet

theorem general_agree {α ε : Type} {a : ExceptT ε Procedure α}
    (makes : Action.Makes Call.General a) : (n.pairing tokens tokens').Agree a a Eq :=
  Network.agree_self discreet (makes.mono fun _ => .inl)

theorem awaitHealth_agree : (n.pairing tokens tokens').Agree p.awaitHealth p.awaitHealth Eq :=
  Network.agree_self discreet (awaitHealth_orderly.makes.mono fun _ h =>
    .inr (.inr (h.elim fun target h => ⟨target.port, h.2⟩)))

theorem awaitCapabilitySets_agree (tenant : String) :
    (n.pairing tokens tokens').Agree (p.awaitCapabilitySets tenant) (p.awaitCapabilitySets tenant)
      Eq :=
  Network.agree_self discreet (awaitCapabilitySets_orderly.makes.mono fun _ h => .inr (.inl ⟨_, h⟩))

theorem deployApplication_agree (users : SortedMap UserSettings) :
    (n.pairing tokens tokens').Agree p.deployApplication (p.withUsers users).deployApplication
      Eq := by
  have same : (p.withUsers users).deployApplication = p.deployApplication := by
    rw [deployApplication, withUsers, Application.assemble_users]
    rfl
  rw [same]
  exact general_agree discreet deployApplication_orderly.makes

include legal

omit discreet in
/-- Stages that do tasks in sessions for a tenant go alike when the tasks do. -/
theorem inSession_agree {α : Type} {stage : Stage} {tenant : String}
    {work work' : Session → Action α}
    (worked : ∀ token token', isHeaderValue token = true → isHeaderValue token' = true →
      (n.pairing tokens tokens').Agree (work ⟨tenant, token⟩) (work' ⟨tenant, token'⟩) Eq) :
    (n.pairing tokens tokens').Agree (inSession stage tenant work) (inSession stage tenant work')
      Eq := by
  refine .inStage ?_
  rw [session, bind_assoc, bind_assoc]
  refine .bind (.reply (.ask fun past clock past' clock' h => ⟨legal tenant, h⟩)) ?_
  rintro token token' ⟨hlegal, hlegal'⟩
  simpa only [pure_bind] using worked token token' hlegal hlegal'

/-- A task for a tenant, as a stage of two pipelines that differ in passwords only. -/
theorem task_agree (configs : p.config.anonymous = p'.config.anonymous) {stage : Stage}
    {tenant : String} (task : Task) :
    (n.pairing tokens tokens').Agree (inSession stage tenant (task.action p.config ·))
      (inSession stage tenant (task.action p'.config ·)) Eq :=
  inSession_agree legal fun _ _ hlegal hlegal' =>
    Task.agree (Network.pairing_serves discreet id hlegal hlegal')
      (Config.matches_of_anonymous configs tenant) task

variable {users : SortedMap UserSettings}
  (configs : p.config.anonymous = (p.withUsers users).config.anonymous)

include configs

theorem provisionTenant_agree (tenant : String) :
    (n.pairing tokens tokens').Agree (p.provisionTenant tenant)
      ((p.withUsers users).provisionTenant tenant) Eq :=
  .bind_same (awaitCapabilitySets_agree discreet tenant) fun _ =>
    .bind_same (task_agree discreet legal configs .createRoles) fun _ =>
      .bind_same (task_agree discreet legal configs .bindCapabilitySets) fun _ =>
        .bind_same (task_agree discreet legal configs .createUsers) fun _ => .pure rfl

theorem run_agree : (n.pairing tokens tokens').Agree p.run (p.withUsers users).run Eq :=
  .bind_same (awaitHealth_agree discreet) fun _ =>
    .bind_same (deployApplication_agree discreet users) fun _ =>
      .bind_same (general_agree discreet createTenants_orderly.makes) fun _ =>
        .bind_same (general_agree discreet createEntitlements_orderly.makes) fun _ =>
          .bind_same
            (.each_same fun tenant _ => provisionTenant_agree discreet legal configs tenant)
            fun _ => .pure rfl

theorem teardownTenant_agree (tenant : String) :
    (n.pairing tokens tokens').Agree (p.teardownTenant tenant)
      ((p.withUsers users).teardownTenant tenant) Eq :=
  .bind_same (task_agree discreet legal configs .removeUsers) fun _ =>
    .bind_same (task_agree discreet legal configs .removeRoles) fun _ => .pure rfl

theorem teardown_agree :
    (n.pairing tokens tokens').Agree p.teardown (p.withUsers users).teardown Eq :=
  .bind_same (general_agree discreet existingTenants_makes) fun _ =>
    .bind_same (.each_same fun tenant _ => teardownTenant_agree discreet legal configs tenant)
      fun _ =>
        .bind_same (general_agree discreet (.inStage Tenants.disentitle_orderly.makes)) fun _ =>
          .bind_same (general_agree discreet (.inStage Tenants.remove_makes)) fun _ =>
            .bind_same (general_agree discreet (.inStage Application.removeAll_makes)) fun _ =>
              .pure rfl

theorem Activity.agree (activity : Activity) :
    (n.pairing tokens tokens').Agree (activity.perform p) (activity.perform (p.withUsers users))
      Eq := by
  cases activity with
  | awaitHealth => exact awaitHealth_agree discreet
  | deployApplication => exact deployApplication_agree discreet users
  | removeApplications => exact general_agree discreet (.inStage Application.removeAll_makes)
  | createTenants => exact general_agree discreet createTenants_orderly.makes
  | removeTenants => exact general_agree discreet (.inStage Tenants.remove_makes)
  | createEntitlements => exact general_agree discreet createEntitlements_orderly.makes
  | removeEntitlements =>
      exact general_agree discreet (.inStage Tenants.disentitle_orderly.makes)
  | existingTenants => exact general_agree discreet existingTenants_makes
  | awaitCapabilitySets tenant => exact awaitCapabilitySets_agree discreet tenant
  | createRoles => exact task_agree discreet legal configs .createRoles
  | removeRoles => exact task_agree discreet legal configs .removeRoles
  | detachCapabilitySets => exact task_agree discreet legal configs .detachCapabilitySets
  | attachCapabilitySets => exact task_agree discreet legal configs .attachCapabilitySets
  | bindCapabilitySets => exact task_agree discreet legal configs .bindCapabilitySets
  | createUsers => exact task_agree discreet legal configs .createUsers
  | removeUsers => exact task_agree discreet legal configs .removeUsers
  | provisionTenant tenant => exact provisionTenant_agree discreet legal configs tenant
  | run => exact run_agree discreet legal configs
  | teardown => exact teardown_agree discreet legal configs

/-- Whatever two pipelines undertake that differ in passwords only, it goes alike. -/
theorem Undertaking.agree (u : Undertaking) :
    (n.pairing tokens tokens').Agree (u.perform p) (u.perform (p.withUsers users)) Eq := by
  cases u with
  | healthTargets => exact .pure rfl
  | updateDiscovery => exact general_agree discreet (.inStage Discovery.update_orderly.makes)
  | activity a => exact a.agree discreet legal configs

end Undertakings

def rekeyed : Config where
  __ := Config.sample
  users := .ofList [("ann", ⟨"north", "hidden", "Ann", "Lee", ["admin"]⟩)]

def welcoming : Network :=
  Http.Server.network ⟨true, "http://platform", ⟨"kafka", "broker"⟩, some [⟨"", ""⟩], .missing⟩
    [⟨"POST", "http://platform:8000/users-keycloak/users",
      ⟨201, none, "\x7b\"id\": \"ann-1\"\x7d"⟩, false, false⟩]

end Pipeline

end Rollout
