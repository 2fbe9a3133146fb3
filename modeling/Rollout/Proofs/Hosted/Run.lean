import Rollout.Proofs.Hosted.Bindings
import Rollout.Proofs.Hosted.Roles
import Rollout.Proofs.Pipeline.Footprint

/-!
# What a rollout leaves on a hosted platform

A platform is vacant for a configuration when nothing fails and nothing on it is in the way of what
the configuration says. A rollout that succeeds there leaves what was there, the application, the
tenants, and for each of these the roles and the users of the configuration; and it was given a
token for every tenant. Whether it succeeds is up to the modules, the queue and the registries.
-/

namespace Rollout

open Function (update)

variable {σ : Type} {surroundings : Surroundings σ} {host : Host surroundings} {m : Memory}
  {mayFail : Prop} {k : Content} {c : Config} {session : Session}

namespace Application

theorem assemble_ends : host.Ends (assemble c) m True fun d m' =>
    (d.id = c.applicationId ∧ d.name = c.application.name ∧ d.version = c.application.version) ∧
      m' = m := by
  have named : host.Ends (assemble c) m True fun d _ =>
      d.id = c.applicationId ∧ d.name = c.application.name ∧
        d.version = c.application.version :=
    .bind .any fun _ _ _ => .bind .any fun _ _ _ => .bind .any fun _ _ _ => .bind .any fun _ _ _ =>
      .pure ⟨rfl, rfl, rfl⟩
  refine named.and (.still assemble_orderly.makes ?_)
  rintro op ⟨url, h | h⟩
  · cases h
    rfl
  · cases h
    rfl

theorem create_ends (shows : m.Shows k []) (d : ApplicationDescriptor) :
    host.Ends (create d) m mayFail fun _ m' =>
      m'.Shows { k with applications := k.applications ++ [⟨d.id, d.name, d.version⟩] } [] := by
  refine .bind (.mutate shows rfl rfl (by simp)) fun _ m₁ hm₁ => ?_
  obtain ⟨-, rfl⟩ := hm₁
  have shows₁ := shows.after (.createApplication d)
  dsimp only
  split
  · refine .bind (.mutate shows₁ rfl rfl (by simp)) fun _ m₂ hm₂ => .pure ?_
    obtain ⟨-, rfl⟩ := hm₂
    exact shows₁.after (.createDiscovery d.discovery)
  · exact .pure shows₁

end Application

namespace Tenants

theorem create_ends (shows : m.Shows k []) :
    host.Ends (create c) m mayFail fun _ m' =>
      m'.Shows { k with tenants := k.tenants ++ created c.tenants.toList } [] := by
  refine .each (I := fun (done : List String) (_ : List String) m' =>
    m'.Shows { k with tenants := k.tenants ++ created done } []) ?_ ?_
  · rw [show created [] = [] from rfl, List.append_nil]
    exact shows
  · rintro done names name rest - m' shows'
    refine .bind (.forEntity (.mutate shows' rfl rfl (by simp))) fun _ m'' hm'' => .pure ?_
    obtain ⟨-, rfl⟩ := hm''
    have after := shows'.after (.createTenant name defaultDescription)
    simpa [Content.change, created] using after

theorem existing_ends (shows : m.Shows k []) :
    host.Ends (existing c) m mayFail fun tenants m' =>
      tenants = configured c k.tenants ∧ m' = m := by
  refine .bind (.read shows rfl rfl (by simp)) fun tenants m' hm' => .pure ?_
  exact ⟨by rw [hm'.1], hm'.2⟩

/-- Neither entitling nor taking it back changes what can be read of the platform. -/
theorem entitlements_ends (shows : m.Shows k []) {doing : String}
    {operation : Entitlement → Operation} (mutation : ∀ e, (operation e).isMutation = true)
    (keeps : ∀ e, k.change (operation e) = k) :
    host.Ends (entitlements c doing operation) m mayFail fun names m' =>
      names = (configured c k.tenants).map (·.name) ∧ m'.Shows k [] := by
  refine .bind (existing_ends shows) fun tenants m' hm' => ?_
  obtain ⟨rfl, rfl⟩ := hm'
  refine .each (I := fun (done : List Tenant) (names : List String) m'' =>
    names = done.map (·.name) ∧ m''.Shows k []) ⟨rfl, shows⟩ ?_
  rintro done names t rest - m'' ⟨rfl, shows'⟩
  obtain ⟨x, answer⟩ := k.answer_of_mutation (mutation (.to t.id c.applicationId))
  refine .bind (.forEntity (.mutate shows' (mutation _) answer (by simp))) fun _ m₃ hm₃ => .pure ?_
  obtain ⟨-, rfl⟩ := hm₃
  have after := shows'.after (operation (.to t.id c.applicationId))
  rw [keeps] at after
  exact ⟨by simp, after⟩

end Tenants

namespace Users

theorem provision_ends (shows : m.Shows k []) (user : User) :
    host.Ends (provision session user) m True fun _ m' => m'.Shows
      ((Collection.users session).put k (k.users session.tenant ++ created [user])) [] := by
  refine .bind (.mutate shows rfl rfl fun _ => trivial) fun id m₁ hm₁ => ?_
  obtain ⟨-, rfl⟩ := hm₁
  have shows₁ := shows.after (.createUser session user)
  refine .bind (.mutate shows₁ rfl rfl fun _ => trivial) fun _ m₂ hm₂ => ?_
  obtain ⟨-, rfl⟩ := hm₂
  have shows₂ := shows₁.after (.attachCredentials session id user.username user.password)
  have reads : ∀ op, Call.Reads session (.platform op) → op.isMutation = false := by
    rintro _ ⟨op, ⟨⟩, hreads, -⟩
    exact hreads
  refine .bind (.still (roleIds_orderly user).makes reads) fun ids m₃ hm₃ => ?_
  subst hm₃
  dsimp only
  split
  · refine .bind (.mutate shows₂ rfl rfl fun _ => trivial) fun _ m₄ hm₄ => .pure ?_
    obtain ⟨-, rfl⟩ := hm₄
    exact shows₂.after (.attachUserRoles session id ids)
  · exact .pure shows₂

theorem create_ends (shows : m.Shows k []) (fresh : k.users session.tenant = []) :
    host.Ends (create c session) m True fun _ m' => m'.Shows
      ((Collection.users session).put k (created (c.usersOf session.tenant))) [] := by
  refine .each (I := fun (done : List User) (_ : List Provisioned) m' =>
    m'.Shows ((Collection.users session).put k (created done)) []) ?_ ?_
  · rw [show created [] = (Collection.users session).get k from fresh.symm, Collection.put_get]
    exact shows
  · rintro done results user rest - m' shows'
    refine .forEntity ((provision_ends shows' user).weaken fun _ m'' shows'' => ?_)
    rw [Collection.put_put] at shows''
    have users : ((Collection.users session).put k (created done)).users session.tenant =
        created done := (Collection.users session).get_put k (created done)
    rw [users] at shows''
    simpa [created] using shows''

end Users

namespace Pipeline

variable {p : Pipeline} {tenant : String}

theorem inSession_ends {α : Type} {stage : Stage} {work : Session → Action α}
    {Q : α → Memory → Prop} (admitted : mayFail ∨ surroundings.Admits tenant)
    (worked : ∀ token, surroundings.Serves tenant → host.Ends (work ⟨tenant, token⟩) m mayFail Q) :
    host.Ends (inSession stage tenant work) m mayFail Q := by
  refine .inStage (.bind (Q := fun session m' => (∃ token, session = ⟨tenant, token⟩) ∧
    surroundings.Serves tenant ∧ m' = m) ?_ ?_)
  · exact .bind (.token admitted) fun token m' hm' => .pure ⟨⟨token, rfl⟩, hm'.2, hm'.1⟩
  · rintro _ m' ⟨⟨token, rfl⟩, serves, rfl⟩
    exact worked token serves

theorem createRoles_ends (shows : m.Shows k []) (noRoles : k.roles tenant = []) :
    host.Ends (p.createRoles tenant) m True fun _ m' => surroundings.Serves tenant ∧
      m'.Shows { k with
        roles := update k.roles tenant (Roles.created (p.config.rolesOf tenant)) } [] :=
  inSession_ends (.inl trivial) fun _ serves =>
    (Roles.create_ends shows noRoles).weaken fun _ _ h => ⟨serves, h.2⟩

theorem bindCapabilitySets_ends (shows : m.Shows k []) :
    host.Ends (p.bindCapabilitySets tenant) m True fun _ m' => m'.Shows k [] :=
  inSession_ends (.inl trivial) fun _ _ =>
    (Roles.bind_ends shows fun _ => ∅).weaken fun _ _ h => h.1

theorem createUsers_ends (shows : m.Shows k []) (noUsers : k.users tenant = []) :
    host.Ends (p.createUsers tenant) m True fun _ m' => m'.Shows { k with
      users := update k.users tenant (Users.created (p.config.usersOf tenant)) } [] :=
  inSession_ends (.inl trivial) fun _ _ => Users.create_ends shows noUsers

theorem provisionTenant_ends (shows : m.Shows k []) (noRoles : k.roles tenant = [])
    (noUsers : k.users tenant = []) :
    host.Ends (p.provisionTenant tenant) m True fun _ m' => surroundings.Serves tenant ∧
      m'.Shows { k with
        roles := update k.roles tenant (Roles.created (p.config.rolesOf tenant))
        users := update k.users tenant (Users.created (p.config.usersOf tenant)) } [] := by
  have polls : ∀ op, (.platform op : Call) = .describeGroup p.config.capabilityGroup →
      op.isMutation = false := nofun
  refine .bind (.still awaitCapabilitySets_orderly.makes polls) fun _ m₁ hm₁ => ?_
  subst hm₁
  refine .bind (createRoles_ends shows noRoles) fun _ m₂ hm₂ => ?_
  obtain ⟨serves, shows₂⟩ := hm₂
  refine .bind (bindCapabilitySets_ends shows₂) fun _ m₃ shows₃ => ?_
  refine .bind (createUsers_ends shows₃ noUsers) fun _ m₄ shows₄ => ?_
  exact .pure ⟨serves, shows₄⟩

/-- Tenants are provisioned one after the other, and each is then served with tokens. -/
theorem provisionAll_ends {tenants : List String} (nodup : tenants.Nodup)
    (shows : m.Shows k []) (noRoles : ∀ t ∈ tenants, k.roles t = [])
    (noUsers : ∀ t ∈ tenants, k.users t = []) :
    host.Ends (each p.provisionTenant tenants) m True fun _ m' =>
      (∀ t ∈ tenants, surroundings.Serves t) ∧
        m'.Shows (k.provisioned p.config tenants) [] := by
  refine .each (I := fun (done : List String) (_ : List TenantReport) m' =>
    (∀ t ∈ done, surroundings.Serves t) ∧ m'.Shows (k.provisioned p.config done) []) ?_ ?_
  · exact ⟨nofun, by rwa [Content.provisioned_nil]⟩
  · rintro done reports t rest rfl m' ⟨serves, shows'⟩
    have hnew : t ∉ done := fun h =>
      (List.nodup_append.1 nodup).2.2 t h t List.mem_cons_self rfl
    have hmem : t ∈ done ++ t :: rest := by simp
    refine (provisionTenant_ends shows' ?_ ?_).weaken ?_
    · simp [Content.provisioned, hnew, noRoles t hmem]
    · simp [Content.provisioned, hnew, noUsers t hmem]
    · rintro report m'' ⟨served, shows''⟩
      rw [Content.provisioned_concat]
      refine ⟨fun t' ht' => ?_, shows''⟩
      rcases List.mem_append.1 ht' with h | h
      · exact serves t' h
      · rwa [List.mem_singleton.1 h]

/-- Nothing fails, and nothing is in the way of a configuration: there is no application, no tenant
bears a configured name or the id of such a tenant, and the configured tenants have no roles and no
users. -/
structure Vacant (c : Config) (m : Memory) : Prop where
  working : m.failing = []
  applications : m.content.applications = []
  names : ∀ t ∈ m.content.tenants, t.name ∉ c.tenants
  ids : ∀ t ∈ m.content.tenants, ∀ name ∈ c.tenants, t.id ≠ Memory.newTenantId name
  roles : ∀ t ∈ c.tenants, m.content.roles t = []
  users : ∀ t ∈ c.tenants, m.content.users t = []

/-- A rollout that succeeds on a vacant platform leaves what was there and what the configuration
says. -/
theorem run_ends (vacant : Vacant p.config m) :
    host.Ends p.run m True fun _ m' => (∀ t ∈ p.config.tenants, surroundings.Serves t) ∧
      m'.Shows ((m.content.deployed p.config).provisioned p.config p.config.tenants.toList) [] := by
  have shows : m.Shows m.content [] := ⟨rfl, vacant.working⟩
  have probes : ∀ op, (∃ target ∈ p.healthTargets, .platform op = Call.probe target.port) →
      op.isMutation = false := nofun
  refine .bind (.still awaitHealth_orderly.makes probes) fun healthy m₁ hm₁ => ?_
  subst hm₁
  have deploying : host.Ends p.deployApplication m₁ True fun _ m' => m'.Shows { m₁.content with
      applications := m₁.content.applications ++
        [⟨p.config.applicationId, p.config.application.name, p.config.application.version⟩] }
      [] := by
    refine .bind (.inStage Application.assemble_ends) fun d m' hm' => ?_
    obtain ⟨⟨hid, hname, hversion⟩, rfl⟩ := hm'
    refine .bind (.inStage (Application.create_ends shows d)) fun _ m'' shows'' => .pure ?_
    rwa [hid, hname, hversion] at shows''
  refine .bind deploying fun deployed m₂ shows₂ => ?_
  refine .bind (.inStage (Tenants.create_ends shows₂)) fun created m₃ shows₃ => ?_
  refine .bind (.inStage (Tenants.entitlements_ends shows₃ (fun _ => rfl) fun _ => rfl))
    fun entitled m₄ hm₄ => ?_
  obtain ⟨rfl, shows₄⟩ := hm₄
  rw [show (Tenants.configured p.config _).map _ = _ from
    Tenants.configured_append_created vacant.names]
  exact .bind (provisionAll_ends p.config.tenants.nodup_toList shows₄ vacant.roles vacant.users)
    fun reports m₅ h => .pure h

end Pipeline

end Rollout
