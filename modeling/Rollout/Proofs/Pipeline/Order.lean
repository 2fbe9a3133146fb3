import Rollout.Proofs.Config.Belonging
import Rollout.Proofs.Pipeline.Footprint
import Rollout.Proofs.Procedure.Follows

/-!
# The order of a rollout

`RolloutSteps` says in which order a rollout has its milestones: the application and its discovery,
the configured tenants, the listing from which the tenants to entitle are taken, their entitlements,
and then for each of these tenants in turn its roles, their bindings and its users. Whatever the
surroundings answer, a rollout has these milestones or a beginning of them.
-/

namespace Rollout

open Rollout.Action (Follows)

variable {c : Config} {session : Session}

theorem Event.milestone?_of_reads {e : Event} (h : e.call.Reads session) : e.milestone? = none := by
  obtain ⟨time, call, reply⟩ := e
  obtain ⟨op, rfl, hread, hsession⟩ := h
  refine milestone?_read hread ?_ time reply
  rintro rfl
  simp [Operation.session?] at hsession

theorem Event.milestone?_of_consults {e : Event} (h : e.call.Consults) : e.milestone? = none := by
  obtain ⟨time, call, reply⟩ := e
  obtain ⟨url, rfl | rfl⟩ := h
  · exact milestone?_read rfl (by simp) time reply
  · exact milestone?_read rfl (by simp) time reply

theorem Event.milestone?_of_not_platform {e : Event} (h : ∀ op, e.call ≠ .platform op) :
    e.milestone? = none := by
  obtain ⟨time, call, reply⟩ := e
  cases call with
  | platform op => exact absurd rfl (h op)
  | accessToken tenant => rfl
  | describeGroup group => rfl
  | probe port => rfl

/-- The milestones of a user: it is created, given its password and bound at most once. -/
def UserSteps (session : Session) (user : User) (steps : List Milestone) : Prop :=
  ∃ id bound, steps =
      [.changed (.createUser session user),
        .changed (.attachCredentials session id user.username user.password)] ++ bound ∧
    (bound = [] ∨ ∃ roles, bound = [.changed (.attachUserRoles session id roles)])

/-- The milestones of the roles of a tenant: one for each, in the order of the keys. -/
def RoleSteps (c : Config) (session : Session) : List Milestone :=
  (c.roles.entries.filter (·.2.tenant = session.tenant)).map fun entry =>
    .changed (.createRole session (Roles.platformName entry.1) defaultDescription)

/-- The milestones of binding: some roles are stripped, and then some are given capability sets. -/
def BindingSteps (session : Session) (steps : List Milestone) : Prop :=
  ∃ (stripped : List String) (given : List (String × List String)), steps =
    stripped.map (fun role => .changed (.detachCapabilitySets session role)) ++
      given.map fun g => .changed (.attachCapabilitySets session g.1 g.2)

/-- The milestones of a tenant: its roles, their bindings, and its users one after the other. -/
def TenantSteps (c : Config) (tenant : String) (steps : List Milestone) : Prop :=
  ∃ first second third : Session,
    (first.tenant = tenant ∧ second.tenant = tenant ∧ third.tenant = tenant) ∧
      ∃ bindings users, steps = RoleSteps c first ++ bindings ++ users.flatten ∧
        BindingSteps second bindings ∧
          List.Forall₂ (fun entry steps => ∃ user, Config.Describes entry user ∧
            UserSteps third user steps) (c.users.entries.filter (·.2.tenant = tenant)) users

/-- The milestones of an application: it is created, and its discovery if there is any. -/
def ApplicationSteps (descriptor : ApplicationDescriptor) : List Milestone :=
  .changed (.createApplication descriptor) ::
    if descriptor.discovery.isEmpty then [] else [.changed (.createDiscovery descriptor.discovery)]

def entitlementStep (c : Config) (t : Tenant) : Milestone :=
  .changed (.createEntitlement (.to t.id c.applicationId) c.application.tenantParameters)

/-- The milestones of a rollout. The tenants that are entitled and provisioned are those of the
listing whose names are configured. -/
def RolloutSteps (c : Config) (steps : List Milestone) : Prop :=
  ∃ descriptor listed blocks, steps =
      ApplicationSteps descriptor ++
      c.tenants.toList.map (fun name => .changed (.createTenant name defaultDescription)) ++
      .listed listed :: (listed.filter (·.name ∈ c.tenants)).map (entitlementStep c) ++
      blocks.flatten ∧
    List.Forall₂ (fun (t : Tenant) block => TenantSteps c t.name block)
      (listed.filter (·.name ∈ c.tenants)) blocks

namespace Application

theorem create_follows (d : ApplicationDescriptor) :
    Follows (create d) fun steps _ => steps = ApplicationSteps d := by
  refine .bind (.operate rfl) fun _ => ?_
  dsimp only
  split
  next h =>
    refine .bind (.operate rfl) fun _ => .pure ?_
    rintro before rfl created rfl
    simp_all [ApplicationSteps]
  next h =>
    refine .pure ?_
    rintro created rfl
    simp_all [ApplicationSteps]

end Application

namespace Tenants

theorem create_follows :
    Follows (create c) fun steps _ =>
      steps = c.tenants.toList.map fun name =>
        .changed (.createTenant name defaultDescription) := by
  refine .weaken (.each_single (r := id) fun name _ => ?_) fun _ _ h => h.1
  refine .bind (.forEntity (.operate rfl)) fun _ => .pure ?_
  rintro steps rfl
  exact ⟨rfl, rfl⟩

theorem existing_follows :
    Follows (existing c) fun steps tenants =>
      ∃ listed, steps = [.listed listed] ∧ tenants = listed.filter (·.name ∈ c.tenants) := by
  refine .bind (.reply (S := fun steps listed => steps = [.listed listed]) (fun _ _ => rfl)
    ⟨_, [], rfl⟩) fun listed => .pure ?_
  rintro steps rfl
  exact ⟨listed, rfl, configured_eq c listed⟩

theorem entitle_follows :
    Follows (entitle c) fun steps names => ∃ listed,
      steps = .listed listed :: (listed.filter (·.name ∈ c.tenants)).map (entitlementStep c) ∧
        names = (listed.filter (·.name ∈ c.tenants)).map (·.name) := by
  refine .bind existing_follows fun tenants => ?_
  refine .weaken (.each_single (g := entitlementStep c) (r := Tenant.name) fun t _ => ?_) ?_
  · refine .bind (.forEntity (.operate rfl)) fun _ => .pure ?_
    rintro steps rfl
    exact ⟨rfl, rfl⟩
  · rintro steps names ⟨rfl, rfl⟩ before ⟨listed, rfl, rfl⟩
    exact ⟨listed, rfl, rfl⟩

end Tenants

/-- What only reads in a session has no milestones. -/
theorem follows_of_reads {α : Type} [Nonempty α] {a : Action α}
    (h : Action.Orderly (Call.Reads session) a) : Follows a fun steps _ => steps = [] :=
  .quiet h.makes fun _ => Event.milestone?_of_reads

namespace Roles

theorem create_follows : Follows (create c session) fun steps _ => steps = RoleSteps c session := by
  refine .weaken (.each_single (r := fun entry => platformName entry.1) fun entry _ => ?_)
    fun _ _ h => h.1
  refine .bind (.forEntity (.operate rfl)) fun _ => .pure ?_
  rintro steps rfl
  exact ⟨rfl, rfl⟩

theorem detach_follows :
    Follows (detach c session) fun steps _ => ∃ stripped : List String,
      steps = stripped.map fun role => .changed (.detachCapabilitySets session role) := by
  refine .bind (follows_of_reads configured_orderly) fun roles =>
    .bind (.sweep fun _ _ => rfl) fun detached => .pure ?_
  rintro steps rfl before rfl
  exact ⟨detached.map (·.1.id), by simp⟩

theorem attachTo_follows (role : Role) (names : List String) :
    Follows (attachTo session role names) fun steps _ => steps = [] ∨
      ∃ sets, steps = [.changed (.attachCapabilitySets session role.id sets)] := by
  refine .bind (follows_of_reads (select_orderly _)) fun sets => ?_
  dsimp only
  split
  · refine .pure ?_
    rintro steps rfl
    exact .inl rfl
  · refine .bind (.operate rfl) fun _ => .pure ?_
    rintro steps rfl before rfl
    exact .inr ⟨_, rfl⟩

theorem attach_follows :
    Follows (attach c session) fun steps _ => ∃ given : List (String × List String),
      steps = given.map fun g => .changed (.attachCapabilitySets session g.1 g.2) := by
  refine .bind (follows_of_reads configured_orderly) fun roles =>
    .bind (.each fun r _ => .forEntity (attachTo_follows r.1 r.2)) fun bindings => .pure ?_
  rintro steps ⟨stretches, rfl, hall⟩ before rfl
  simp only [List.nil_append, List.append_nil]
  induction hall with
  | nil => exact ⟨[], rfl⟩
  | @cons r stretch _ _ hstretch _ ih =>
      obtain ⟨given, hgiven⟩ := ih
      rcases hstretch with rfl | ⟨sets, rfl⟩
      · exact ⟨given, hgiven⟩
      · exact ⟨(r.1.id, sets) :: given, by simp [hgiven]⟩

theorem bind_follows : Follows (bind c session) fun steps _ => BindingSteps session steps := by
  refine .bind detach_follows fun _ => .weaken attach_follows ?_
  rintro steps bindings ⟨given, rfl⟩ before ⟨stripped, rfl⟩
  exact ⟨stripped, given, rfl⟩

end Roles

namespace Users

theorem provision_follows (user : User) :
    Follows (provision session user) fun steps _ => UserSteps session user steps := by
  refine .bind (.operate rfl) fun id => .bind (.operate rfl) fun _ =>
    .bind (follows_of_reads (roleIds_orderly user)) fun ids => ?_
  dsimp only
  split
  · refine .bind (.operate rfl) fun _ => .pure ?_
    rintro bound rfl quiet rfl given rfl created rfl
    exact ⟨id, _, rfl, .inr ⟨ids, rfl⟩⟩
  · refine .pure ?_
    rintro quiet rfl given rfl created rfl
    exact ⟨id, [], rfl, .inl rfl⟩

theorem create_follows :
    Follows (create c session) fun steps _ => ∃ users : List (List Milestone),
      steps = users.flatten ∧
        List.Forall₂ (UserSteps session) (c.usersOf session.tenant) users :=
  .each fun user _ => .forEntity (provision_follows user)

end Users

namespace Pipeline

variable {p : Pipeline} {tenant : String}

theorem awaitHealth_follows : Follows p.awaitHealth fun steps _ => steps = [] :=
  .quiet awaitHealth_orderly.makes fun _ ⟨_, _, hcall⟩ =>
    Event.milestone?_of_not_platform (by simp [hcall])

theorem awaitCapabilitySets_follows :
    Follows (p.awaitCapabilitySets tenant) fun steps _ => steps = [] :=
  .quiet awaitCapabilitySets_orderly.makes fun _ hcall =>
    Event.milestone?_of_not_platform (by simp [hcall])

/-- A stage for a tenant has the milestones of its work in some session for that tenant. -/
theorem inSession_follows {α : Type} {stage : Stage} {work : Session → Action α}
    {S : Session → List Milestone → α → Prop} (h : ∀ session, Follows (work session) (S session)) :
    Follows (inSession stage tenant work) fun steps x =>
      ∃ session : Session, session.tenant = tenant ∧ S session steps x := by
  have opened : Follows (session tenant) fun steps s => steps = [] ∧ s.tenant = tenant := by
    refine .bind (.reply (S := fun steps _ => steps = []) (fun _ _ => rfl) ⟨_, "", rfl⟩)
      fun token => .pure ?_
    rintro steps rfl
    exact ⟨rfl, rfl⟩
  refine .inStage (.bind opened fun s => .weaken (h s) ?_)
  rintro steps x hS before ⟨rfl, htenant⟩
  exact ⟨s, htenant, hS⟩

theorem provisionTenant_follows :
    Follows (p.provisionTenant tenant) fun steps _ => TenantSteps p.config tenant steps := by
  refine .bind awaitCapabilitySets_follows fun _ =>
    .bind (inSession_follows fun _ => Roles.create_follows) fun _ =>
      .bind (inSession_follows fun _ => Roles.bind_follows) fun _ =>
        .bind (inSession_follows fun _ => Users.create_follows) fun _ => .pure ?_
  rintro steps ⟨third, hthird, users, rfl, husers⟩ bindings ⟨second, hsecond, hbindings⟩
    roles ⟨first, hfirst, rfl⟩ quiet rfl
  refine ⟨first, second, third, ⟨hfirst, hsecond, hthird⟩, bindings, users, by simp, hbindings, ?_⟩
  exact hthird ▸ (List.forall₂_map_left_iff.1 husers).imp fun entry _ h =>
    ⟨Config.userOf entry, Config.describes_userOf entry, h⟩

theorem deployApplication_follows :
    Follows p.deployApplication fun steps _ => ∃ d, steps = ApplicationSteps d := by
  have : Nonempty ApplicationDescriptor := ⟨Application.descriptorOf p.config "" []⟩
  refine .bind (.inStage (.quiet Application.assemble_orderly.makes
    fun _ => Event.milestone?_of_consults)) fun d =>
      .bind (.inStage (Application.create_follows d)) fun _ => .pure ?_
  rintro steps rfl before rfl
  exact ⟨d, by simp⟩

theorem run_follows : Follows p.run fun steps _ => RolloutSteps p.config steps := by
  refine .bind awaitHealth_follows fun _ => .bind deployApplication_follows fun deployed =>
    .bind (.inStage Tenants.create_follows) fun _ =>
      .bind (.inStage Tenants.entitle_follows) fun entitled =>
        .bind (.each fun t _ => provisionTenant_follows) fun _ => .pure ?_
  rintro steps ⟨blocks, rfl, hblocks⟩ entitlements ⟨listed, rfl, rfl⟩ created rfl application
    ⟨descriptor, rfl⟩ quiet rfl
  exact ⟨descriptor, listed, blocks, by simp, List.forall₂_map_left_iff.1 hblocks⟩

end Pipeline

end Rollout
