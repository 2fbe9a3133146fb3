import Rollout.Proofs.Hosted.Run

/-!
# Tearing down what a rollout left

Creation goes by the configuration, removal by what the platform lists. On a platform that was
vacant and holds what a rollout left, the two meet: the users and the roles of each tenant that the
teardown finds configured are those that were created, as are the tenants, and no application was
there before. So the teardown leaves what was there before the rollout. It cannot fail if a tenant
that was given a token during the rollout is given one again.
-/

namespace Rollout

open Function (update)

/-- A tenant that is given a token at some time is given one at any time. -/
def Surroundings.Steady {σ : Type} (surroundings : Surroundings σ) : Prop :=
  ∀ tenant, surroundings.Serves tenant → surroundings.Admits tenant

/-- Scripted surroundings always give a tenant the same token. -/
theorem Scripted.steady (script : Script) : (surroundings script).Steady :=
  fun _ ⟨_, token, served⟩ _ => ⟨token, served⟩

variable {σ : Type} {surroundings : Surroundings σ} {host : Host surroundings} {m : Memory}
  {mayFail : Prop} {k : Content} {c : Config} {session : Session}

/-- Of records among which new ones came last, without the ids of these the old ones remain. -/
theorem Collection.without_append {α : Type} (C : Collection α) {old new : List α}
    (had : C.get k = old ++ new) (distinct : ∀ x ∈ old, ∀ y ∈ new, C.idOf x ≠ C.idOf y) :
    C.without k (new.map C.idOf) = C.put k old := by
  have kept : old.filter (C.idOf · ∉ new.map C.idOf) = old := by
    refine List.filter_eq_self.2 fun x hx => decide_eq_true fun h => ?_
    obtain ⟨y, hy, hid⟩ := List.mem_map.1 h
    exact distinct x hx y hy hid.symm
  have gone : new.filter (C.idOf · ∉ new.map C.idOf) = [] := by
    refine List.filter_eq_nil_iff.2 fun y hy => ?_
    simpa using ⟨y, hy, rfl⟩
  rw [without, had, List.filter_append, kept, gone, List.append_nil]

/-- A sweep that deletes the new records leaves the old ones. -/
theorem Collection.sweep_new_ends {α : Type} (C : Collection α) {old new : List α}
    (shows : m.Shows k []) (had : C.get k = old ++ new)
    (distinct : ∀ x ∈ old, ∀ y ∈ new, C.idOf x ≠ C.idOf y) :
    host.Ends (Action.sweep (fun x => C.delete (C.idOf x)) new) m mayFail fun _ m' =>
      m'.Shows (C.put k old) [] := by
  rw [← C.without_append had distinct]
  exact (C.sweep_ends shows List.not_mem_nil new).weaken fun _ _ h => h.2

namespace Users

theorem isConfigured_of_mem_created {tenant : String} {user : UserRecord}
    (h : user ∈ created (c.usersOf tenant)) : isConfigured c tenant user = true := by
  obtain ⟨_, huser, rfl⟩ := List.mem_map.1 h
  obtain ⟨entry, hentry, rfl⟩ := List.mem_map.1 huser
  obtain ⟨hmem, htenant⟩ := List.mem_filter.1 hentry
  simpa [isConfigured, Config.userOf, SortedMap.get?_eq_some_iff.2 hmem] using htenant

theorem remove_ends (shows : m.Shows k []) :
    host.Ends (remove c session) m mayFail fun names m' =>
      let configured := (k.users session.tenant).filter (isConfigured c session.tenant)
      names = configured.map (·.username) ∧
        m'.Shows ((Collection.users session).without k (configured.map (·.id))) [] := by
  refine .bind (.read shows rfl rfl (by simp)) fun users m' hm' => ?_
  obtain ⟨rfl, rfl⟩ := hm'
  refine .bind ((Collection.users session).sweep_ends shows (by simp) _) fun removed m' hm' => ?_
  obtain ⟨rfl, shows'⟩ := hm'
  exact .pure ⟨rfl, shows'⟩

/-- The users that were created are all removed. -/
theorem remove_created_ends (shows : m.Shows k [])
    (had : k.users session.tenant = created (c.usersOf session.tenant)) :
    host.Ends (remove c session) m mayFail fun _ m' =>
      m'.Shows ((Collection.users session).put k []) [] := by
  have all : (k.users session.tenant).filter (isConfigured c session.tenant) =
      k.users session.tenant :=
    List.filter_eq_self.2 fun user h => isConfigured_of_mem_created (had ▸ h)
  refine (remove_ends shows).weaken fun _ m' h => ?_
  rw [all] at h
  rw [← (Collection.users session).without_append (List.nil_append _).symm nofun]
  exact h.2

end Users

namespace Roles

theorem leadsBack_platformName {tenant : String} {entry : String × RoleSettings}
    (h : entry ∈ c.rolesOf tenant) (reverts : Text.lowered (platformName entry.1) = entry.1) :
    leadsBack c tenant (platformName entry.1) = true := by
  obtain ⟨hmem, htenant⟩ := List.mem_filter.1 h
  rw [leadsBack_iff, reverts]
  exact ⟨entry.2, SortedMap.get?_eq_some_iff.2 hmem, of_decide_eq_true htenant⟩

/-- The roles that were created are all removed if their names lead back to their keys. -/
theorem remove_all_ends (shows : m.Shows k [])
    (had : k.roles session.tenant = created (c.rolesOf session.tenant))
    (reverts : ∀ entry ∈ c.rolesOf session.tenant,
      Text.lowered (platformName entry.1) = entry.1) :
    host.Ends (remove c session) m mayFail fun _ m' =>
      m'.Shows ((Collection.roles session).put k []) [] := by
  refine (remove_created_ends shows had).weaken ?_
  rintro names m' ⟨-, shows'⟩
  have none : (created (c.rolesOf session.tenant)).filter
      (! leadsBack c session.tenant ·.name) = [] := by
    refine List.filter_eq_nil_iff.2 fun role hrole => ?_
    have hname := List.mem_map_of_mem (f := Role.name) hrole
    rw [map_name_created] at hname
    obtain ⟨entry, hentry, hname⟩ := List.mem_map.1 hname
    simp [← hname, leadsBack_platformName hentry (reverts entry hentry)]
  rwa [none] at shows'

end Roles

namespace Tenants

/-- The tenants that bear a configured name are removed, and those that share an id with them. -/
theorem remove_ends (shows : m.Shows k []) :
    host.Ends (remove c) m mayFail fun names m' => names = (configured c k.tenants).map (·.name) ∧
      m'.Shows (Collection.tenants.without k ((configured c k.tenants).map (·.id))) [] := by
  refine .bind (existing_ends shows) fun tenants m' hm' => ?_
  obtain ⟨rfl, rfl⟩ := hm'
  refine .bind (Collection.tenants.sweep_ends shows (by simp) _) fun removed m' hm' => ?_
  obtain ⟨rfl, shows'⟩ := hm'
  exact .pure ⟨rfl, shows'⟩

/-- The tenants that were created are all removed, and no others are. -/
theorem remove_created_ends
    (shows : m.Shows { k with tenants := k.tenants ++ created c.tenants.toList } [])
    (names : ∀ t ∈ k.tenants, t.name ∉ c.tenants)
    (ids : ∀ t ∈ k.tenants, ∀ name ∈ c.tenants, t.id ≠ Memory.newTenantId name) :
    host.Ends (remove c) m mayFail fun _ m' => m'.Shows k [] := by
  have distinct : ∀ t ∈ k.tenants, ∀ new ∈ created c.tenants.toList, t.id ≠ new.id := by
    intro t ht _ hnew
    obtain ⟨name, hname, rfl⟩ := List.mem_map.1 hnew
    exact ids t ht name hname
  have kept : Collection.tenants.without { k with tenants := k.tenants ++ created c.tenants.toList }
      ((created c.tenants.toList).map (·.id)) = k :=
    Collection.tenants.without_append rfl distinct
  refine (remove_ends shows).weaken fun _ m' h => ?_
  rw [configured_append names, kept] at h
  exact h.2

end Tenants

theorem Application.removeAll_ends (shows : m.Shows k []) :
    host.Ends removeAll m mayFail fun _ m' => m'.Shows { k with applications := [] } [] := by
  refine .bind (.read shows rfl rfl (by simp)) fun applications m' hm' => ?_
  obtain ⟨rfl, rfl⟩ := hm'
  exact .bind (Collection.applications.sweep_new_ends shows (List.nil_append _).symm nofun)
    fun _ _ shows' => .pure shows'

/-- Without the roles and the users of the first of some provisioned tenants, the others are
provisioned. -/
theorem Content.provisioned_cons {tenant : String} {rest : List String}
    (noRoles : k.roles tenant = []) (noUsers : k.users tenant = []) (hnew : tenant ∉ rest) :
    { k.provisioned c (tenant :: rest) with
      roles := update (k.provisioned c (tenant :: rest)).roles tenant []
      users := update (k.provisioned c (tenant :: rest)).users tenant [] } =
        k.provisioned c rest := by
  simp only [provisioned, Content.mk.injEq, true_and]
  constructor
  · funext t
    by_cases h : t = tenant
    · simp [h, noRoles, hnew]
    · simp [h]
  · funext t
    by_cases h : t = tenant
    · simp [h, noUsers, hnew]
    · simp [h]

namespace Pipeline

variable {p : Pipeline} {tenant : String}

theorem existingTenants_ends (shows : m.Shows k []) :
    host.Ends p.existingTenants m mayFail fun names m' =>
      names = (Tenants.configured p.config k.tenants).map (·.name) ∧ m' = m := by
  refine .inStage (.bind (Tenants.existing_ends shows) fun tenants m' hm' => .pure ?_)
  obtain ⟨rfl, rfl⟩ := hm'
  exact ⟨rfl, rfl⟩

theorem removeUsers_ends (shows : m.Shows k []) (admitted : surroundings.Admits tenant)
    (had : k.users tenant = Users.created (p.config.usersOf tenant)) :
    host.Ends (p.removeUsers tenant) m mayFail fun _ m' =>
      m'.Shows { k with users := update k.users tenant [] } [] :=
  inSession_ends (.inr admitted) fun _ _ => Users.remove_created_ends shows had

theorem removeRoles_ends (shows : m.Shows k []) (admitted : surroundings.Admits tenant)
    (had : k.roles tenant = Roles.created (p.config.rolesOf tenant))
    (reverts : ∀ entry ∈ p.config.rolesOf tenant,
      Text.lowered (Roles.platformName entry.1) = entry.1) :
    host.Ends (p.removeRoles tenant) m mayFail fun _ m' =>
      m'.Shows { k with roles := update k.roles tenant [] } [] :=
  inSession_ends (.inr admitted) fun _ _ => Roles.remove_all_ends shows had reverts

theorem teardownTenant_ends (shows : m.Shows k []) (admitted : surroundings.Admits tenant)
    (hadRoles : k.roles tenant = Roles.created (p.config.rolesOf tenant))
    (hadUsers : k.users tenant = Users.created (p.config.usersOf tenant))
    (reverts : ∀ entry ∈ p.config.rolesOf tenant,
      Text.lowered (Roles.platformName entry.1) = entry.1) :
    host.Ends (p.teardownTenant tenant) m mayFail fun _ m' => m'.Shows { k with
      roles := update k.roles tenant []
      users := update k.users tenant [] } [] := by
  refine .bind (removeUsers_ends shows admitted hadUsers) fun _ m₁ shows₁ => ?_
  refine .bind (removeRoles_ends shows₁ admitted hadRoles reverts) fun _ m₂ shows₂ => ?_
  exact .pure shows₂

/-- One tenant after the other is torn down; those still to come stay provisioned. -/
theorem teardownAll_ends {tenants : List String} (nodup : tenants.Nodup)
    (shows : m.Shows (k.provisioned p.config tenants) [])
    (admitted : ∀ t ∈ tenants, surroundings.Admits t) (noRoles : ∀ t ∈ tenants, k.roles t = [])
    (noUsers : ∀ t ∈ tenants, k.users t = [])
    (reverts : ∀ key ∈ p.config.roles.keys, Text.lowered (Roles.platformName key) = key) :
    host.Ends (each p.teardownTenant tenants) m mayFail fun _ m' => m'.Shows k [] := by
  refine .weaken (.each (I := fun (done : List String) (_ : List (List String × List String)) m' =>
    ∀ rest, tenants = done ++ rest → m'.Shows (k.provisioned p.config rest) []) ?_ ?_)
    fun _ m' h => ?_
  · rintro rest rfl
    exact shows
  · rintro done results t rest hsplit m' shows'
    have hmem : t ∈ tenants := by simp [hsplit]
    have hnew : t ∉ rest := by
      rw [hsplit] at nodup
      exact (List.nodup_cons.1 (List.nodup_append.1 nodup).2.1).1
    refine (teardownTenant_ends (shows' (t :: rest) hsplit) (admitted t hmem) ?_ ?_ ?_).weaken ?_
    · exact Content.provisioned_roles _ _ List.mem_cons_self
    · exact Content.provisioned_users _ _ List.mem_cons_self
    · intro entry hentry
      exact reverts entry.1 (List.mem_map_of_mem (List.mem_filter.1 hentry).1)
    · intro _ m'' shows'' rest' hrest'
      obtain rfl : rest' = rest := by simpa [hsplit] using hrest'.symm
      rwa [Content.provisioned_cons (noRoles t hmem) (noUsers t hmem) hnew] at shows''
  · have last := h [] (by simp)
    rwa [Content.provisioned_nil] at last

/-- A teardown of what a rollout left on a vacant platform succeeds and leaves what was there. -/
theorem teardown_ends {m₀ : Memory} (vacant : Vacant p.config m₀)
    (shows : m.Shows ((m₀.content.deployed p.config).provisioned p.config
      p.config.tenants.toList) [])
    (admitted : ∀ t ∈ p.config.tenants, surroundings.Admits t)
    (reverts : ∀ key ∈ p.config.roles.keys, Text.lowered (Roles.platformName key) = key) :
    host.Ends p.teardown m mayFail fun _ m' => m'.Shows m₀.content [] := by
  have names : (Tenants.configured p.config ((m₀.content.deployed p.config).provisioned p.config
      p.config.tenants.toList).tenants).map (·.name) = p.config.tenants.toList :=
    Tenants.configured_append_created vacant.names
  refine .bind (existingTenants_ends shows) fun existing m' hm' => ?_
  rw [names] at hm'
  obtain ⟨rfl, rfl⟩ := hm'
  refine .bind (teardownAll_ends p.config.tenants.nodup_toList shows admitted vacant.roles
    vacant.users reverts) fun _ m₁ shows₁ => ?_
  refine .bind (.inStage (Tenants.entitlements_ends shows₁ (fun _ => rfl) fun _ => rfl))
    fun _ m₂ hm₂ => ?_
  refine .bind (.inStage (Tenants.remove_created_ends (k := { m₀.content.deployed p.config with
    tenants := m₀.content.tenants }) hm₂.2 vacant.names vacant.ids)) fun _ m₃ shows₃ => ?_
  refine .bind (.inStage (Application.removeAll_ends shows₃)) fun _ m₄ shows₄ => .pure ?_
  rw [← vacant.applications] at shows₄
  exact shows₄

/-- A rollout that succeeds on a vacant platform is undone by a teardown, at whatever time it is
made: the teardown succeeds, and whatever is read of the platform then is what was read of it before
the rollout. -/
theorem teardown_run (host : Host surroundings) (steady : surroundings.Steady)
    {state state' : σ} {clock : Nat} (clock' : Nat)
    (vacant : Vacant p.config (host.memory state))
    (reverts : ∀ key ∈ p.config.roles.keys, Text.lowered (Roles.platformName key) = key)
    {report : RunReport}
    (succeeded : (p.run.run.run surroundings state clock).value = .ok report)
    (resulting : host.memory state' = host.memory (p.run.run.run surroundings state clock).state) :
    let r := p.teardown.run.run surroundings state' clock'
    (∃ report', r.value = .ok report') ∧ ∀ op : Operation, op.isMutation = false →
      ((host.memory r.state).perform op).1 = ((host.memory state).perform op).1 := by
  intro r
  have rolling : host.Ends p.run (host.memory state) True _ := run_ends vacant
  obtain ⟨served, shows⟩ := rolling.of_ok rfl succeeded
  have tearing : host.Ends p.teardown (host.memory state') False _ :=
    teardown_ends vacant (resulting ▸ shows) (fun t ht => steady t (served t ht)) reverts
  obtain ⟨report', hreport, shows'⟩ := tearing.outcome clock' rfl
  refine ⟨⟨report', hreport⟩, fun op reads => ?_⟩
  rw [shows'.perform_read List.not_mem_nil reads,
    Memory.Shows.perform_read ⟨rfl, vacant.working⟩ List.not_mem_nil reads]

def moduleless : Pipeline where
  config := { Config.sample with backendModules := .empty }
  timings := .standard

/-- A platform with a tenant of someone else, who has a role and a user like those of the sample. -/
def inhabited : Scripted.State where
  memory := {
    registries := ∅, descriptors := ∅, applications := [], tenants := [⟨"t1", "south", none⟩]
    roles := .ofList [("south", [⟨"role-1", "Admin", none⟩])]
    capabilitySets := ∅
    users := .ofList [("south", [⟨"user-ann", "ann"⟩])]
    failing := [], log := [] }
  probed := []
  polled := 0

/-- A rollout and a teardown that leave someone else's tenant as it was. -/
theorem teardown_run_inhabited :
    let surroundings := Scripted.surroundings calm
    let r := moduleless.run.run.run surroundings inhabited 0
    let r' := moduleless.teardown.run.run surroundings r.state r.clock
    surroundings.Steady ∧ Vacant moduleless.config inhabited.memory ∧
      (∀ key ∈ moduleless.config.roles.keys, Text.lowered (Roles.platformName key) = key) ∧
      (∃ report, r.value = .ok report) ∧ (∃ report, r'.value = .ok report) ∧
      ∀ op : Operation, op.isMutation = false →
        (r'.state.memory.perform op).1 = (inhabited.memory.perform op).1 := by
  have vacant : Vacant moduleless.config inhabited.memory := {
    working := rfl
    applications := rfl
    names := by decide +kernel
    ids := by decide +kernel
    roles := by decide +kernel
    users := by decide +kernel }
  have reverts : ∀ key ∈ moduleless.config.roles.keys,
      Text.lowered (Roles.platformName key) = key := by decide +kernel
  have succeeded : (moduleless.run.run.run (Scripted.surroundings calm) inhabited 0).value =
      .ok ⟨"app-1.0", [], 0, 0, 0, [⟨"north", 1, ["Admin"], [], [⟨"ann", "user-ann", 1⟩]⟩]⟩ := by
    decide +kernel
  exact ⟨Scripted.steady calm, vacant, reverts, ⟨_, succeeded⟩,
    teardown_run (Scripted.host calm) (Scripted.steady calm) _ vacant reverts succeeded rfl⟩

end Pipeline

end Rollout
