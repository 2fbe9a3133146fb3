import Rollout.Proofs.Health.Outcomes
import Rollout.Proofs.Pipeline.Visits
import Rollout.Proofs.Procedure.Shows
import Rollout.Proofs.Rehearsal.Fresh

/-!
# What the report of a rollout tells

The deeds of a rollout are the calls that its report tells of. A rollout that succeeds has made them
as the report says: one application with at most one batch of discovery entries, an entitlement for
each tenant of the report, and then for each of these, after as many polls as are counted, its
roles, an attachment for each binding, and its users, each followed by the roles that it was given.
-/

namespace Rollout

open List (Forall₂)
open Rollout.Action (Makes Orderly Shows)

/-- A call that a report tells of, with what came back where that is told. -/
inductive Deed where
  | application (d : ApplicationDescriptor)
  | discovery (entries : List DiscoveryEntry)
  | listing (reply : Except Failure (List Tenant))
  | entitlement (e : Entitlement)
  | role (tenant name : String)
  | attachment (tenant roleId : String) (ids : List String)
  | user (tenant username : String) (reply : Except Failure String)
  | userRoles (tenant userId : String) (ids : List String)

def Event.deed? : Event → Option Deed
  | ⟨_, .platform (.createApplication d), _⟩ => some (.application d)
  | ⟨_, .platform (.createDiscovery entries), _⟩ => some (.discovery entries)
  | ⟨_, .platform .listTenants, reply⟩ => some (.listing reply)
  | ⟨_, .platform (.createEntitlement e _), _⟩ => some (.entitlement e)
  | ⟨_, .platform (.createRole session name _), _⟩ => some (.role session.tenant name)
  | ⟨_, .platform (.attachCapabilitySets session id ids), _⟩ =>
      some (.attachment session.tenant id ids)
  | ⟨_, .platform (.createUser session user), reply⟩ =>
      some (.user session.tenant user.username reply)
  | ⟨_, .platform (.attachUserRoles session id ids), _⟩ => some (.userRoles session.tenant id ids)
  | _ => none

def deeds (events : List Event) : List Deed := events.filterMap Event.deed?

@[simp] theorem deeds_nil : deeds [] = [] := rfl

@[simp] theorem deeds_append (first second : List Event) :
    deeds (first ++ second) = deeds first ++ deeds second :=
  List.filterMap_append

/-! ### What the report says of it -/

/-- An application is created, and then its discovery entries in one batch, if it has any. -/
def applicationDeeds (d : ApplicationDescriptor) : List Deed :=
  .application d :: if d.discovery.isEmpty then [] else [.discovery d.discovery]

def Resolved (tenant : String) (role : Role) (events : List Event) : Prop :=
  ∃ time session name, session.tenant = tenant ∧
    (⟨time, .platform (.findRoles session name), .ok [role]⟩ : Event) ∈ events

theorem Resolved.mono {tenant : String} {role : Role} {events events' : List Event}
    (h : Resolved tenant role events) (sub : events ⊆ events') : Resolved tenant role events' := by
  obtain ⟨time, session, name, hsession, he⟩ := h
  exact ⟨time, session, name, hsession, sub he⟩

/-- Capability sets were attached to a role that was looked up, once for each binding. -/
def Attached (tenant : String) (events : List Event) (bindings : List Roles.Binding) : Prop :=
  ∃ attachments : List (Role × List String),
    deeds events = attachments.map (fun a => .attachment tenant a.1.id a.2) ∧
    (∀ a ∈ attachments, Resolved tenant a.1 events) ∧
    bindings = attachments.map fun a => ⟨a.1.name, a.2.length⟩

/-- A user is created under the id that it is given, and then given its roles, if it has any. -/
def userDeeds (tenant : String) (u : Users.Provisioned) (ids : List String) : List Deed :=
  .user tenant u.username (.ok u.id) :: if ids.isEmpty then [] else [.userRoles tenant u.id ids]

/-- The users were created one after the other and given their roles. -/
def Welcomed (tenant : String) (events : List Event) (users : List Users.Provisioned) : Prop :=
  ∃ given : List (List String), Forall₂ (fun u ids => u.roles = ids.length) users given ∧
    deeds events = (List.zipWith (userDeeds tenant) users given).flatten

/-- The report on a tenant tells what was polled for it, and which roles, bindings and users were
made for it. -/
structure TenantReport.Tells (r : TenantReport) (c : Config) (tenant : String)
    (polls creating binding welcoming : List Event) : Prop where
  named : r.tenant = tenant
  polled : ∀ e ∈ polls, e.call = .describeGroup c.capabilityGroup
  lagPolls : r.lagPolls = polls.length
  called : ∀ e ∈ creating ++ (binding ++ welcoming), e.call.For tenant
  roles : deeds creating = r.roles.map (.role tenant)
  bindings : Attached tenant binding r.bindings
  users : Welcomed tenant welcoming r.users

def Reported (c : Config) (tenant : String) (events : List Event) (r : TenantReport) : Prop :=
  ∃ polls creating binding welcoming,
    events = polls ++ (creating ++ (binding ++ welcoming)) ∧
    r.Tells c tenant polls creating binding welcoming

/-- The report of a rollout tells which modules were healthy, the application that was created with
its discovery entries, and the tenants that were entitled. -/
structure RunReport.Tells (r : RunReport) (c : Config) (prelude visits : List Event)
    (d : ApplicationDescriptor) (listed : List Tenant) : Prop where
  healthyModules : r.healthyModules = (c.backendModules.entries.filter fun entry =>
    entry.2.deploy && entry.2.healthPort.isSome).map (·.1)
  ascending : r.healthyModules.Pairwise (· < ·)
  application : r.application = d.id
  backendModules : r.backendModules = d.backendModules.length
  frontendModules : r.frontendModules = d.frontendModules.length
  discoveryEntries : r.discoveryEntries = d.discovery.length
  unpolled : ∀ e ∈ prelude, e.call.NoPoll
  made : deeds prelude = applicationDeeds d ++ .listing (.ok listed) ::
    (listed.filter (·.name ∈ c.tenants)).map fun t => .entitlement (.to t.id c.applicationId)
  tenants : r.tenants.map (·.tenant) = (listed.filter (·.name ∈ c.tenants)).map (·.name)
  visited : InTurn (Reported c) ((listed.filter (·.name ∈ c.tenants)).map (·.name)) visits r.tenants

/-! ### How deeds come about -/

theorem deeds_eq_nil {events : List Event} (h : ∀ e ∈ events, e.deed? = none) :
    deeds events = [] :=
  List.filterMap_eq_nil_iff.2 h

theorem Call.Reads.no_deed {session : Session} {call : Call} (h : call.Reads session) (time : Nat)
    (reply : call.Reply) : Event.deed? ⟨time, call, reply⟩ = none := by
  obtain ⟨op, rfl, reads, hsession⟩ := h
  cases op <;> first | rfl | (cases reads; done) | simp [Operation.session?] at hsession

theorem shows_quiet {ε α : Type} {a : ExceptT ε Procedure α} {kind : Call → Prop}
    (h : Makes kind a)
    (quiet : ∀ call, kind call → ∀ time reply, Event.deed? ⟨time, call, reply⟩ = none) :
    Shows a fun events _ => deeds events = [] :=
  (Shows.of_makes h).mono fun _ _ hkind =>
    deeds_eq_nil fun e he => quiet e.call (hkind e he) e.time e.reply

/-- What is told of stretches of events that follow one another is told of all of them. -/
theorem InTurn.gather {α β : Type} {T : List α → List Event → List β → Prop} {items : List α}
    {events : List Event} {ys : List β} (nil : T [] [] [])
    (cons : ∀ x y first xs rest ys, T [x] first [y] → T xs rest ys →
      T (x :: xs) (first ++ rest) (y :: ys))
    (h : InTurn (fun x events y => T [x] events [y]) items events ys) : T items events ys := by
  induction h with
  | nil => exact nil
  | cons head _ ih => exact cons _ _ _ _ _ _ head ih

/-- What is told of each item is told of all of them. -/
theorem shows_each {ε α β : Type} {f : α → ExceptT ε Procedure β} {items : List α}
    {T : List α → List Event → List β → Prop} (nil : T [] [] [])
    (cons : ∀ x y first xs rest ys, T [x] first [y] → T xs rest ys →
      T (x :: xs) (first ++ rest) (y :: ys))
    (item : ∀ x ∈ items, Shows (f x) fun events y => T [x] events [y]) :
    Shows (each f items) (T items) :=
  (Shows.each item).mono fun _ _ => InTurn.gather nil cons

variable {c : Config} {session : Session}

namespace Application

theorem assemble_quiet : Shows (assemble c) fun events _ => deeds events = [] := by
  refine shows_quiet assemble_orderly.makes ?_
  rintro call ⟨url, rfl | rfl⟩ time reply
  · rfl
  · rfl

theorem create_shows (d : ApplicationDescriptor) : Shows (create d) fun events n =>
    deeds events = applicationDeeds d ∧ n = d.discovery.length := by
  refine .bind (S := fun events _ => deeds events = [.application d]) (.operate fun _ _ => rfl)
    fun _ => ?_
  dsimp only
  split
  next h =>
    refine .bind (S := fun events _ => deeds events = [.discovery d.discovery])
      (.operate fun _ _ => rfl) fun _ => .pure ?_
    intro second hdiscovery first happlication
    simp_all [applicationDeeds]
  next h =>
    refine .pure fun first happlication => ?_
    simp_all [applicationDeeds]

end Application

namespace Tenants

theorem create_quiet : Shows (create c) fun events _ => deeds events = [] := by
  refine shows_quiet create_orderly.makes ?_
  rintro call ⟨name, -, rfl⟩ time reply
  rfl

theorem existing_shows : Shows (existing c) fun events tenants => ∃ listed,
    deeds events = [.listing (.ok listed)] ∧ tenants = listed.filter (·.name ∈ c.tenants) :=
  .bind_pure (.operate fun _ listed => ⟨listed, rfl, configured_eq c listed⟩)

theorem entitle_shows : Shows (entitle c) fun events names => ∃ listed,
    deeds events = .listing (.ok listed) ::
      (listed.filter (·.name ∈ c.tenants)).map
        (fun t => .entitlement (.to t.id c.applicationId)) ∧
    names = (listed.filter (·.name ∈ c.tenants)).map (·.name) := by
  refine existing_shows.bind fun tenants => (shows_each (T := fun tenants events names =>
    deeds events = tenants.map (fun t => .entitlement (.to t.id c.applicationId)) ∧
      names = tenants.map (·.name)) ⟨rfl, rfl⟩ (by simp_all) fun t _ => ?_).mono ?_
  · exact .bind_pure (.forEntity (.operate fun _ _ => ⟨rfl, rfl⟩))
  · rintro events names ⟨hentitled, hnames⟩ before ⟨listed, hlisted, rfl⟩
    refine ⟨listed, ?_, hnames⟩
    rw [deeds_append, hlisted, hentitled]
    rfl

end Tenants

namespace Roles

theorem create_shows : Shows (create c session) fun events names =>
    deeds events = names.map (.role session.tenant) := by
  refine shows_each (T := fun _ events names => deeds events = names.map (.role session.tenant))
    rfl (by simp_all) fun entry _ => ?_
  exact .bind_pure (.forEntity (.operate fun _ _ => rfl))

theorem find_shows (name : String) : Shows (find session name) fun events lookup =>
    ∀ role, lookup = .found role → Resolved session.tenant role events := by
  refine .bind (S := fun events roles => ∃ time,
    events = [⟨time, .platform (.findRoles session name), .ok roles⟩])
    (.operate fun time _ => ⟨time, rfl⟩) fun roles => .ofExcept ?_
  rintro lookup hlookup _ ⟨time, rfl⟩ role rfl
  rw [lookupOf.eq_def] at hlookup
  split at hlookup
  · cases hlookup
  · cases hlookup
    exact ⟨time, session, name, rfl, List.mem_cons_self⟩
  · cases hlookup

theorem configured_quiet : Shows (configured c session) fun events _ => deeds events = [] :=
  shows_quiet configured_orderly.makes fun _ => Call.Reads.no_deed

theorem configured_shows : Shows (configured c session) fun events roles =>
    ∀ r ∈ roles, Resolved session.tenant r.1 events := by
  refine .bind_pure (Shows.mono (shows_each (T := fun _ events
      (lookups : List (Lookup × List String)) => ∀ l ∈ lookups, ∀ role, l.1 = .found role →
        Resolved session.tenant role events) nofun ?_ fun entry _ => ?_) ?_)
  · intro _ l first _ rest ls head tail
    refine List.forall_mem_cons.2 ⟨fun role hrole => ?_, fun l' hl' role hrole => ?_⟩
    · exact (head l (List.mem_singleton.2 rfl) role hrole).mono (List.subset_append_left _ _)
    · exact (tail l' hl' role hrole).mono (List.subset_append_right _ _)
  · refine .bind_pure ((find_shows (platformName entry.1)).forEntity.mono ?_)
    exact fun events lookup resolved => List.forall_mem_singleton.2 resolved
  · intro events lookups resolved r hr
    obtain ⟨l, hl, hfound⟩ := List.mem_filterMap.1 hr
    split at hfound
    next role hrole =>
      cases hfound
      exact resolved l hl role hrole
    next => cases hfound

theorem detach_quiet : Shows (detach c session) fun events _ => deeds events = [] := by
  have detaches (roles : List (Role × List String)) :
      Shows (Action.sweep (fun r => .detachCapabilitySets session r.1.id) roles)
        fun events _ => deeds events = [] :=
    Shows.sweep.mono fun _ _ swept => deeds_eq_nil (swept.forall_mem fun _ _ _ _ => rfl)
  refine configured_quiet.bind fun roles => .bind_pure ((detaches roles).mono ?_)
  intro detaching _ hdetaching looking hlooking
  rw [deeds_append, hlooking, hdetaching, List.append_nil]

/-- Capability sets were attached to some of these roles, once for each binding. -/
def BoundAmong (tenant : String) (roles : List Role) (events : List Event)
    (bindings : List Binding) : Prop :=
  ∃ attachments : List (Role × List String), (∀ a ∈ attachments, a.1 ∈ roles) ∧
    deeds events = attachments.map (fun a => .attachment tenant a.1.id a.2) ∧
    bindings = attachments.map fun a => ⟨a.1.name, a.2.length⟩

theorem BoundAmong.append {tenant : String} {roles roles' : List Role} {first rest : List Event}
    {bindings bindings' : List Binding} (h : BoundAmong tenant roles first bindings)
    (h' : BoundAmong tenant roles' rest bindings') :
    BoundAmong tenant (roles ++ roles') (first ++ rest) (bindings ++ bindings') := by
  obtain ⟨attachments, hroles, hfirst, rfl⟩ := h
  obtain ⟨attachments', hroles', hrest, rfl⟩ := h'
  refine ⟨attachments ++ attachments', ?_, by simp [hfirst, hrest], by simp⟩
  exact List.forall_mem_append.2 ⟨fun a ha => List.mem_append_left _ (hroles a ha),
    fun a ha => List.mem_append_right _ (hroles' a ha)⟩

/-- What is selected for a role is attached to it, if that is anything. -/
theorem attachTo_shows (role : Role) (names : List String) :
    Shows (attachTo session role names) fun events binding =>
      BoundAmong session.tenant [role] events binding.toList := by
  refine .bind (shows_quiet (select_orderly _).makes fun _ => Call.Reads.no_deed) fun sets => ?_
  dsimp only
  split
  next h => exact .pure fun events quiet => ⟨[], nofun, by rwa [List.append_nil], rfl⟩
  next h =>
    refine .bind (S := fun events _ =>
      deeds events = [.attachment session.tenant role.id (sets.map (·.id))])
      (.operate fun _ _ => rfl) fun _ => .pure ?_
    intro attaching hattach selecting quiet
    exact ⟨[(role, sets.map (·.id))], by simp, by simp [quiet, hattach], by simp⟩

theorem attach_shows : Shows (attach c session) (Attached session.tenant) := by
  refine .bind (configured_quiet.and configured_shows) fun roles => .bind_pure
    ((shows_each (T := fun (roles : List (Role × List String)) events bindings =>
      BoundAmong session.tenant (roles.map (·.1)) events (bindings.filterMap id))
      ⟨[], nofun, rfl, rfl⟩ ?_ fun r _ => (attachTo_shows r.1 r.2).forEntity.mono ?_).mono ?_)
  · intro r binding first roles rest bindings head tail
    have bound := head.append tail
    rwa [← List.map_append, ← List.filterMap_append] at bound
  -- a role that is passed over has neither an attachment nor a binding
  · intro events binding bound
    cases binding <;> exact bound
  · rintro attaching _ ⟨attachments, hroles, hdeeds, hbindings⟩ resolving ⟨quiet, resolved⟩
    refine ⟨attachments, by simpa [quiet] using hdeeds, fun a ha => ?_, hbindings⟩
    obtain ⟨r, hr, hrole⟩ := List.mem_map.1 (hroles a ha)
    rw [← hrole]
    exact (resolved r hr).mono (List.subset_append_left _ _)

end Roles

namespace Users

theorem roleIds_quiet (user : User) :
    Shows (roleIds session user) fun events _ => deeds events = [] :=
  shows_quiet (roleIds_orderly user).makes fun _ => Call.Reads.no_deed

theorem provision_shows (user : User) : Shows (provision session user) fun events u =>
    ∃ ids : List String, u.roles = ids.length ∧ deeds events = userDeeds session.tenant u ids := by
  refine .bind (S := fun events id =>
    deeds events = [.user session.tenant user.username (.ok id)]) (.operate fun _ _ => rfl)
    fun id => .bind (S := fun events _ => deeds events = []) (.operate fun _ _ => rfl) fun _ =>
      (roleIds_quiet user).bind fun ids => ?_
  dsimp only
  split
  next h =>
    refine .bind (S := fun events _ => deeds events = [.userRoles session.tenant id ids])
      (.operate fun _ _ => rfl) fun _ => .pure ?_
    intro attaching hattach third quiet second hsecond first hfirst
    refine ⟨ids, rfl, ?_⟩
    simp_all [userDeeds]
  next h =>
    refine .pure fun third quiet second hsecond first hfirst => ⟨ids, rfl, ?_⟩
    simp_all [userDeeds]

theorem create_shows : Shows (create c session) (Welcomed session.tenant) := by
  refine shows_each (T := fun _ => Welcomed session.tenant) ⟨[], .nil, rfl⟩ ?_
    fun user _ => (provision_shows user).forEntity.mono ?_
  · rintro _ u first _ rest us ⟨head, hhead, hfirst⟩ ⟨tail, htail, hrest⟩
    rcases hhead with _ | ⟨hroles, ⟨⟩⟩
    refine ⟨_ :: tail, .cons hroles htail, ?_⟩
    rw [deeds_append, hfirst, hrest]
    simp
  · rintro events u ⟨ids, hroles, hdeeds⟩
    exact ⟨[ids], .cons hroles .nil, by simpa using hdeeds⟩

end Users

namespace Pipeline

variable {p : Pipeline} {tenant : String}

theorem session_shows : Shows (Pipeline.session tenant) fun events session => ∃ time token,
    events = [⟨time, .accessToken tenant, .ok token⟩] ∧ session = ⟨tenant, token⟩ :=
  .bind_pure (.reply fun time token => ⟨time, token, rfl, rfl⟩)

theorem inSession_shows {α : Type} {stage : Stage} {work : Session → Action α}
    {S : Session → List Event → α → Prop} (works : ∀ session, Shows (work session) (S session)) :
    Shows (inSession stage tenant work) (Admitted tenant S) := by
  refine .inStage (session_shows.bind fun session => (works session).mono ?_)
  rintro rest x hwork _ ⟨time, token, rfl, rfl⟩
  exact ⟨time, token, rest, rfl, hwork⟩

theorem createRoles_shows : Shows (p.createRoles tenant) fun events names =>
    deeds events = names.map (.role tenant) := by
  refine (inSession_shows fun _ => Roles.create_shows).mono ?_
  rintro _ names ⟨time, token, events, rfl, hdeeds⟩
  exact hdeeds

theorem bindCapabilitySets_shows : Shows (p.bindCapabilitySets tenant) (Attached tenant) := by
  refine (inSession_shows (S := fun session => Attached session.tenant) fun _ =>
    Roles.detach_quiet.bind fun _ => Roles.attach_shows.mono ?_).mono ?_
  · rintro attaching bindings ⟨attachments, hdeeds, resolved, hbindings⟩ detaching quiet
    exact ⟨attachments, by simp [quiet, hdeeds],
      fun a ha => (resolved a ha).mono (List.subset_append_right _ _), hbindings⟩
  · rintro _ bindings ⟨time, token, events, rfl, attachments, hdeeds, resolved, hbindings⟩
    exact ⟨attachments, hdeeds, fun a ha => (resolved a ha).mono (List.subset_cons_self _ _),
      hbindings⟩

theorem createUsers_shows : Shows (p.createUsers tenant) (Welcomed tenant) := by
  refine (inSession_shows fun _ => Users.create_shows).mono ?_
  rintro _ users ⟨time, token, events, rfl, given, hroles, hdeeds⟩
  exact ⟨given, hroles, hdeeds⟩

theorem awaitCapabilitySets_shows : Shows (p.awaitCapabilitySets tenant) fun events n =>
    n = events.length ∧ ∀ e ∈ events, e.call = .describeGroup p.config.capabilityGroup :=
  .and (.inStage Lag.waitForDrain_counts) (.of_makes awaitCapabilitySets_orderly.makes)

theorem provisionTenant_shows : Shows (p.provisionTenant tenant) (Reported p.config tenant) := by
  refine awaitCapabilitySets_shows.bind fun lagPolls =>
    (createRoles_shows.and (.of_makes createRoles_orderly.makes)).bind fun roles =>
      (bindCapabilitySets_shows.and (.of_makes bindCapabilitySets_orderly.makes)).bind
        fun bindings => (createUsers_shows.and (.of_makes createUsers_orderly.makes)).bind
          fun users => .pure ?_
  rintro welcoming ⟨hwelcoming, forUsers⟩ binding ⟨hbinding, forBinding⟩ creating
    ⟨hcreating, forRoles⟩ polls ⟨hpolls, polled⟩
  refine ⟨polls, creating, binding, welcoming, by simp, {
    named := rfl
    polled, lagPolls := hpolls
    called := List.forall_mem_append.2 ⟨forRoles, List.forall_mem_append.2 ⟨forBinding, forUsers⟩⟩
    roles := hcreating
    bindings := hbinding
    users := hwelcoming }⟩

/-! ### What a rollout shows -/

theorem healthTargets_names : p.healthTargets.map (·.name) =
    (p.config.backendModules.entries.filter fun entry =>
      entry.2.deploy && entry.2.healthPort.isSome).map (·.1) := by
  rw [healthTargets]
  induction p.config.backendModules.entries with
  | nil => rfl
  | cons entry rest ih =>
      cases hdeploy : entry.2.deploy <;> cases hport : entry.2.healthPort <;>
        simp [hdeploy, hport, ih]

theorem healthTargets_ascending : (p.healthTargets.map (·.name)).Pairwise (· < ·) := by
  rw [healthTargets_names, List.pairwise_map]
  exact p.config.backendModules.sorted.sublist List.filter_sublist

theorem awaitHealth_shows : Shows p.awaitHealth fun events healthy => deeds events = [] ∧
    healthy.map (·.name) = p.healthTargets.map (·.name) := by
  refine .and (shows_quiet awaitHealth_orderly.makes ?_) (.inStage ?_)
  · rintro call ⟨target, -, rfl⟩ time reply
    rfl
  · split
    next h => exact .pure (by rw [List.isEmpty_iff.1 h]; rfl)
    next h => exact fun events healthy => Health.awaitAllHealthy_names healthTargets_ascending

theorem deployApplication_shows : Shows p.deployApplication fun events deployed =>
    deeds events = applicationDeeds deployed.1 ∧
      deployed.2 = deployed.1.discovery.length := by
  refine .bind (.inStage Application.assemble_quiet) fun d =>
    .bind (.inStage (Application.create_shows d)) fun n => .pure ?_
  rintro creating ⟨hdeeds, hn⟩ assembling quiet
  exact ⟨by simp [quiet, hdeeds], hn⟩

/-- What is seen of a rollout that succeeds is what its report tells. -/
theorem run_shows : Shows p.run fun events report => ∃ d listed prelude visits,
    events = prelude ++ visits ∧ report.Tells p.config prelude visits d listed := by
  have unpolled {α : Type} {a : Staged α} (h : Orderly Call.General a) :
      Shows a fun events _ => ∀ e ∈ events, e.call.NoPoll :=
    .of_makes (h.mono fun _ => Call.General.noPoll).makes
  refine (awaitHealth_shows.and (.of_makes awaitHealth_noPoll)).bind fun healthy =>
    (deployApplication_shows.and (unpolled deployApplication_orderly)).bind fun deployed =>
      (Shows.inStage Tenants.create_quiet |>.and (unpolled createTenants_orderly)).bind fun _ =>
        (Shows.inStage Tenants.entitle_shows |>.and (unpolled createEntitlements_orderly)).bind
          fun entitled => (Shows.each fun t _ => provisionTenant_shows).bind
            fun tenants => .pure ?_
  rintro visits visited entitling ⟨⟨listed, hentitling, rfl⟩, noPoll₄⟩ creating ⟨hcreating, noPoll₃⟩
    deploying ⟨⟨hdeploying, hentries⟩, noPoll₂⟩ waiting ⟨⟨hwaiting, hhealthy⟩, noPoll₁⟩
  refine ⟨deployed.1, listed, waiting ++ (deploying ++ (creating ++ entitling)), visits, by simp, {
    healthyModules := hhealthy.trans healthTargets_names
    ascending := hhealthy ▸ healthTargets_ascending
    application := rfl
    backendModules := rfl
    frontendModules := rfl
    discoveryEntries := hentries
    unpolled := List.forall_mem_append.2 ⟨noPoll₁, List.forall_mem_append.2
      ⟨noPoll₂, List.forall_mem_append.2 ⟨noPoll₃, noPoll₄⟩⟩⟩
    made := by simp [hwaiting, hdeploying, hcreating, hentitling]
    tenants := ?_
    visited }⟩
  exact InTurn.gather (T := fun names _ reports => reports.map (·.tenant) = names) rfl
    (by simp_all) (visited.mono fun _ _ _ ⟨_, _, _, _, _, tells⟩ => by simp [tells.named])

/-- Whatever the surroundings answer, a rollout that succeeds has done what its report tells, and
nothing else that a report tells of. -/
theorem run_reported {σ : Type} (p : Pipeline) (surroundings : Surroundings σ) (state : σ)
    (clock : Nat) {report : RunReport}
    (succeeded : (p.run.run.run surroundings state clock).value = .ok report) :
    ∃ d listed prelude visits,
      (p.run.run.run surroundings state clock).events = prelude ++ visits ∧
        report.Tells p.config prelude visits d listed := by
  have hy := Procedure.yields_run surroundings p.run.run state clock
  rw [succeeded] at hy
  exact run_shows hy

/-- A platform that has generated two capability sets for the tenant of the sample. -/
def stocked : Scripted.State where
  __ := bare
  memory := { bare.memory with
    capabilitySets := .ofList
      [("north", [⟨"s1", "Users", "app-1.0"⟩, ⟨"s2", "Notes", "app-1.0"⟩])] }

/-- Both are attached to the role that selects everything. -/
theorem run_reported_stocked :
    let p : Pipeline := ⟨Config.sample, .standard⟩
    let r := p.run.run.run (Scripted.surroundings calm) stocked 0
    let report : RunReport := ⟨"app-1.0", ["mod-users"], 1, 0, 1,
      [⟨"north", 1, ["Admin"], [⟨"Admin", 2⟩], [⟨"ann", "user-ann", 1⟩]⟩]⟩
    r.value = .ok report ∧ ∃ d listed prelude visits, r.events = prelude ++ visits ∧
      report.Tells p.config prelude visits d listed := by
  have succeeded : ((run ⟨Config.sample, .standard⟩).run.run (Scripted.surroundings calm)
      stocked 0).value = .ok ⟨"app-1.0", ["mod-users"], 1, 0, 1,
        [⟨"north", 1, ["Admin"], [⟨"Admin", 2⟩], [⟨"ann", "user-ann", 1⟩]⟩]⟩ := by
    decide +kernel
  exact ⟨succeeded, run_reported ⟨Config.sample, .standard⟩ (Scripted.surroundings calm) stocked 0
    succeeded⟩

end Pipeline

end Rollout
