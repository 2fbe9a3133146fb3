import Rollout.Proofs.Config.Belonging
import Rollout.Proofs.Pipeline.Footprint

/-!
# Nothing of someone else is touched

`Permitted c past op` says that a mutation is one that the configuration `c` stands for, after what
was seen: a record that is deleted was in the last listing and belongs to the configuration, a role
that is bound was the only answer to a look-up of a configured role, and what is attached to a user
is attached to one that was just created. Reading is always permitted, and so are the mutations of
applications and their discovery, which no ownership restricts.
-/

namespace Rollout

open History (Answered Latest Lasting)

def OwnTenant (c : Config) (past : History) (id : String) : Prop :=
  ∃ listed : List Tenant, Latest (.platform .listTenants) listed past ∧
    ∃ t ∈ listed, t.id = id ∧ t.name ∈ c.tenants

/-- The id of a role that was the only answer to a look-up of a role configured for the tenant. -/
def OwnRole (c : Config) (past : History) (session : Session) (id : String) : Prop :=
  ∃ key, c.RoleIn key session.tenant ∧ ∃ role : Role,
    Answered (.platform (.findRoles session (Roles.platformName key))) [role] past ∧ role.id = id

/-- The id that was answered when a user configured for the tenant was created. -/
def OwnUser (c : Config) (past : History) (session : Session) (id : String) : Prop :=
  ∃ user, c.HasUser user session.tenant ∧
    Answered (.platform (.createUser session user)) id past

/-- What the configuration allows to be done after what was seen. -/
def Permitted (c : Config) (past : History) : Operation → Prop
  | .createTenant name _ => name ∈ c.tenants
  | .deleteTenant id => OwnTenant c past id
  | .createEntitlement e _ | .deleteEntitlement e =>
      ∃ id, e = .to id c.applicationId ∧ OwnTenant c past id
  | .createRole s name _ =>
      s.tenant ∈ c.tenants ∧ ∃ key, c.RoleIn key s.tenant ∧ name = Roles.platformName key
  | .deleteRole s id =>
      s.tenant ∈ c.tenants ∧ ∃ listed : List Role, Latest (.platform (.listRoles s)) listed past ∧
        ∃ r ∈ listed, r.id = id ∧ c.RoleIn (Text.lowered r.name) s.tenant
  | .detachCapabilitySets s id | .attachCapabilitySets s id _ =>
      s.tenant ∈ c.tenants ∧ OwnRole c past s id
  | .createUser s user => s.tenant ∈ c.tenants ∧ c.HasUser user s.tenant
  | .deleteUser s id =>
      s.tenant ∈ c.tenants ∧
        ∃ listed : List UserRecord, Latest (.platform (.listUsers s)) listed past ∧
          ∃ u ∈ listed, u.id = id ∧ c.UserIn u.username s.tenant
  | .attachCredentials s id _ _ | .attachUserRoles s id _ =>
      s.tenant ∈ c.tenants ∧ OwnUser c past s id
  | _ => True

/-- The rule that only what is permitted is asked of the platform. -/
def OnlyPermitted (c : Config) (past : History) (e : Event) : Prop :=
  ∀ op, e.call = .platform op → Permitted c past op

theorem onlyPermitted_of_permitted {c : Config} {past : History} {op : Operation} {time : Nat}
    {reply : Call.Reply (.platform op)} (h : Permitted c past op) :
    OnlyPermitted c past ⟨time, .platform op, reply⟩ := by
  intro op' hop'
  cases hop'
  exact h

theorem permitted_of_not_mutation {c : Config} {past : History} {op : Operation}
    (h : op.isMutation = false) : Permitted c past op := by
  cases op <;> trivial

theorem lasting_ownRole (c : Config) (session : Session) (id : String) :
    Lasting fun past => OwnRole c past session id := by
  rintro past e ⟨key, hkey, role, h, hid⟩
  exact ⟨key, hkey, role, History.lasting_answered _ _ past e h, hid⟩

theorem lasting_ownUser (c : Config) (session : Session) (id : String) :
    Lasting fun past => OwnUser c past session id := by
  rintro past e ⟨user, hu, h⟩
  exact ⟨user, hu, History.lasting_answered _ _ past e h⟩

open Rollout.Action (Abides)

/-- Whatever was seen before, an action asks for nothing that is not permitted. -/
def Restrained (c : Config) {α ε : Type} (a : ExceptT ε Procedure α) : Prop :=
  Abides (OnlyPermitted c) (fun _ => True) a fun _ _ => True

variable {c : Config} {session : Session}

namespace Tenants

/-- Tenants are the configured ones of the last listing. -/
def FromListing (c : Config) (tenants : List Tenant) (past : History) : Prop :=
  ∃ listed : List Tenant, Latest (.platform .listTenants) listed past ∧
    tenants = configured c listed

theorem FromListing.own {tenants : List Tenant} {past : History} (h : FromListing c tenants past)
    {t : Tenant} (ht : t ∈ tenants) : OwnTenant c past t.id := by
  obtain ⟨listed, hlatest, rfl⟩ := h
  obtain ⟨hmem, hname⟩ := List.mem_filter.1 ht
  exact ⟨listed, hlatest, t, hmem, rfl, by simpa [Config.hasTenant, SortedSet.contains] using hname⟩

theorem FromListing.append {tenants : List Tenant} {past : History}
    (h : FromListing c tenants past) {e : Event} (hne : e.call ≠ .platform .listTenants) :
    FromListing c tenants (past ++ [e]) := by
  obtain ⟨listed, hlatest, heq⟩ := h
  exact ⟨listed, hlatest.append hne, heq⟩

theorem existing_abides :
    Abides (OnlyPermitted c) (fun _ => True) (existing c) (FromListing c) :=
  .bind (.operate (fun _ _ _ _ => onlyPermitted_of_permitted trivial)
      fun past time listed _ =>
        History.latest_append_self (.platform .listTenants) listed past time)
    fun listed => .pure fun _ h => ⟨listed, h, rfl⟩

theorem create_restrained : Restrained c (create c) :=
  .each_keeps fun _ hname =>
    .bind (Q := fun _ _ => True) (.forEntity (.operate
      (fun _ _ _ _ => onlyPermitted_of_permitted hname) fun _ _ _ _ => trivial))
      fun _ => .pure fun _ _ => trivial

theorem remove_restrained : Restrained c (remove c) := by
  refine existing_abides.bind fun tenants => ?_
  refine Abides.bind (.sweep fun t ht past time reply h => ⟨?_, ?_⟩)
    fun _ => .pure fun _ _ => trivial
  · exact onlyPermitted_of_permitted (h.own ht)
  · exact h.append (by simp)

/-- What is done with entitlements is permitted when it is permitted for those of own tenants. -/
theorem entitlements_restrained {doing : String} {operation : Entitlement → Operation}
    (other : ∀ e, operation e ≠ .listTenants)
    (permitted : ∀ past id, OwnTenant c past id →
      Permitted c past (operation (.to id c.applicationId))) :
    Restrained c (entitlements c doing operation) := by
  refine existing_abides.bind fun tenants => ?_
  refine Abides.weaken (P := FromListing c tenants) (.each_keeps fun t ht => ?_) (fun _ => id)
    fun _ _ _ => trivial
  refine .bind (.forEntity (.operate (fun past time reply h => ?_) fun past time x h => ?_))
    fun _ => .pure fun _ => id
  · exact onlyPermitted_of_permitted (permitted past t.id (h.own ht))
  · exact h.append fun heq => other _ (Call.platform.inj heq)

theorem entitle_restrained : Restrained c (entitle c) :=
  entitlements_restrained (by simp) fun _ id h => ⟨id, rfl, h⟩

theorem disentitle_restrained : Restrained c (disentitle c) :=
  entitlements_restrained (by simp) fun _ id h => ⟨id, rfl, h⟩

end Tenants

namespace Roles

/-- Each of some roles was found by the look-up of a role configured for the session's tenant. -/
def AllOwn (c : Config) (session : Session) (roles : List (Role × List String))
    (past : History) : Prop :=
  ∀ r ∈ roles, OwnRole c past session r.1.id

theorem lasting_allOwn (roles : List (Role × List String)) :
    Lasting (AllOwn c session roles) :=
  fun past e h r hr => lasting_ownRole c session _ past e (h r hr)

/-- Calls that only read are permitted, and no assertion that lasts is ended by them. -/
theorem abides_of_reads {α : Type} {a : Action α} {P : History → Prop}
    (h : Action.Orderly (Call.Reads session) a) (hP : Lasting P) :
    Abides (OnlyPermitted c) P a fun _ => P := by
  refine h.makes.abides fun past e hpast hkind => ⟨fun op hop => ?_, hP past e hpast⟩
  obtain ⟨op', hop', hread, -⟩ := hkind
  rw [hop] at hop'
  cases hop'
  exact permitted_of_not_mutation hread

/-- A look-up finds a role only if that was the only answer. -/
theorem find_abides (name : String) :
    Abides (OnlyPermitted c) (fun _ => True) (find session name) fun lookup past =>
      ∀ role, lookup = .found role →
        Answered (.platform (.findRoles session name)) [role] past := by
  refine .bind (Q := fun roles past => Answered (.platform (.findRoles session name)) roles past)
    (.operate (fun _ _ _ _ => onlyPermitted_of_permitted trivial)
      fun past time roles _ => History.answered_append_self _ _ past time)
    fun roles => .ofExcept fun lookup past hlookup h role hrole => ?_
  subst hrole
  match roles, hlookup with
  | [_], hlookup =>
      cases hlookup
      exact h

theorem configured_abides :
    Abides (OnlyPermitted c) (fun _ => True) (configured c session) (AllOwn c session) := by
  refine .bind (.each (T := fun y past => ∀ role, y.1 = .found role →
    OwnRole c past session role.id) (fun y past e h role hy => ?_) fun entry he => ?_)
    fun lookups => .pure fun past h r hr => ?_
  · exact lasting_ownRole c session _ past e (h role hy)
  · refine .bind (.forEntity (find_abides _)) fun lookup => .pure fun past h => ⟨trivial, ?_⟩
    exact fun role hrole =>
      ⟨entry.1, Config.roleIn_of_mem_rolesOf he, role, h role hrole, rfl⟩
  · obtain ⟨lookup, hl, hfound⟩ := List.mem_filterMap.1 hr
    cases hlookup : lookup.1 with
    | found role =>
        rw [hlookup] at hfound
        cases hfound
        exact h.2 lookup hl role hlookup
    | missing => simp [hlookup] at hfound

theorem create_restrained (accepted : c.Accepted) : Restrained c (create c session) := by
  refine .each_keeps fun entry he => .bind (Q := fun _ _ => True) (.forEntity (.operate
    (fun past time reply _ => onlyPermitted_of_permitted ?_) fun _ _ _ _ => trivial))
    fun _ => .pure fun _ _ => trivial
  exact ⟨accepted.tenant_of_role he, entry.1, Config.roleIn_of_mem_rolesOf he, rfl⟩

theorem isConfigured_iff {tenant : String} {role : Role} :
    isConfigured c tenant role = true ↔ c.RoleIn (Text.lowered role.name) tenant := by
  cases h : c.roles.get? (Text.lowered role.name) <;>
    simp [isConfigured, Config.roleFor?, Config.RoleIn, h]

theorem remove_restrained (accepted : c.Accepted) : Restrained c (remove c session) := by
  refine .bind (Q := fun listed past => Latest (.platform (.listRoles session)) listed past)
    (.operate (fun _ _ _ _ => onlyPermitted_of_permitted trivial)
      fun past time listed _ => History.latest_append_self _ _ past time) fun listed => ?_
  refine Abides.bind (.sweep fun r hr past time reply h => ⟨?_, ?_⟩)
    fun _ => .pure fun _ _ => trivial
  · obtain ⟨hmem, hconfigured⟩ := List.mem_filter.1 hr
    have hin : c.RoleIn (Text.lowered r.name) session.tenant := isConfigured_iff.1 hconfigured
    exact onlyPermitted_of_permitted
      ⟨accepted.tenant_of_roleIn hin, listed, h, r, hmem, rfl, hin⟩
  · exact h.append (by simp)

theorem AllOwn.permitted (accepted : c.Accepted) {roles : List (Role × List String)}
    {past : History} (h : AllOwn c session roles past) {r : Role × List String} (hr : r ∈ roles) :
    session.tenant ∈ c.tenants ∧ OwnRole c past session r.1.id := by
  obtain ⟨key, hkey, role, hanswered, hid⟩ := h r hr
  exact ⟨accepted.tenant_of_roleIn hkey, key, hkey, role, hanswered, hid⟩

theorem detach_restrained (accepted : c.Accepted) : Restrained c (detach c session) := by
  refine configured_abides.bind fun roles => ?_
  refine Abides.bind (.sweep fun r hr past time reply h => ⟨?_, ?_⟩)
    fun _ => .pure fun _ _ => trivial
  · exact onlyPermitted_of_permitted (h.permitted accepted hr)
  · exact lasting_allOwn roles past _ h

theorem attachTo_abides (accepted : c.Accepted) {roles : List (Role × List String)}
    {r : Role × List String} (hr : r ∈ roles) :
    Abides (OnlyPermitted c) (AllOwn c session roles) (attachTo session r.1 r.2)
      fun _ => AllOwn c session roles := by
  refine (abides_of_reads (select_orderly _) (lasting_allOwn roles)).bind fun sets => ?_
  dsimp only
  split
  · exact .pure fun _ => id
  · refine .bind (.operate (fun past time reply h => ?_) fun past time x h => ?_)
      fun _ => .pure fun _ => id
    · exact onlyPermitted_of_permitted (h.permitted accepted hr)
    · exact lasting_allOwn roles past _ h

theorem attach_restrained (accepted : c.Accepted) : Restrained c (attach c session) :=
  configured_abides.bind fun _ =>
    .bind (.each_keeps fun _ hr => .forEntity (attachTo_abides accepted hr))
      fun _ => .pure fun _ _ => trivial

theorem bind_restrained (accepted : c.Accepted) : Restrained c (bind c session) :=
  .bind (detach_restrained accepted) fun _ => attach_restrained accepted

end Roles

namespace Users

/-- What is attached to a user is attached to the one that was created for it. -/
theorem provision_restrained (accepted : c.Accepted) {user : User}
    (hu : user ∈ c.usersOf session.tenant) : Restrained c (provision session user) := by
  have htenant := accepted.tenant_of_user hu
  have has := Config.hasUser_of_mem_usersOf hu
  refine .bind (Q := fun id past => OwnUser c past session id)
    (.operate (fun _ _ _ _ => onlyPermitted_of_permitted ⟨htenant, has⟩)
      fun past time id _ => ⟨user, has, History.answered_append_self _ _ past time⟩) fun id => ?_
  have attach {op : Operation} {doing : String}
      (hop : ∀ past, OwnUser c past session id → Permitted c past op) :
      Abides (OnlyPermitted c) (fun past => OwnUser c past session id)
        (Action.operate doing op) fun _ past => OwnUser c past session id :=
    .operate (fun past time reply h => onlyPermitted_of_permitted (hop past h))
      fun past time x h => lasting_ownUser c session id past _ h
  refine .bind (attach fun _ h => ⟨htenant, h⟩) fun _ =>
    .bind (Roles.abides_of_reads (roleIds_orderly user) (lasting_ownUser c session id))
      fun ids => ?_
  dsimp only
  split
  · exact .bind (attach fun _ h => ⟨htenant, h⟩) fun _ => .pure fun _ _ => trivial
  · exact .pure fun _ _ => trivial

theorem create_restrained (accepted : c.Accepted) : Restrained c (create c session) :=
  .each_keeps fun _ hu => .forEntity (provision_restrained accepted hu)

theorem isConfigured_iff {tenant : String} {user : UserRecord} :
    isConfigured c tenant user = true ↔ c.UserIn user.username tenant := by
  cases h : c.users.get? user.username <;> simp [isConfigured, Config.UserIn, h]

theorem remove_restrained (accepted : c.Accepted) : Restrained c (remove c session) := by
  refine .bind (Q := fun listed past => Latest (.platform (.listUsers session)) listed past)
    (.operate (fun _ _ _ _ => onlyPermitted_of_permitted trivial)
      fun past time listed _ => History.latest_append_self _ _ past time) fun listed => ?_
  refine Abides.bind (.sweep fun u hu past time reply h => ⟨?_, ?_⟩)
    fun _ => .pure fun _ _ => trivial
  · obtain ⟨hmem, hconfigured⟩ := List.mem_filter.1 hu
    have hin : c.UserIn u.username session.tenant := isConfigured_iff.1 hconfigured
    exact onlyPermitted_of_permitted
      ⟨accepted.tenant_of_userIn hin, listed, h, u, hmem, rfl, hin⟩
  · exact h.append (by simp)

end Users

end Rollout
