import Rollout.Proofs.Hosted.Teardown

/-!
# Tearing down a second time

What a teardown removes it finds by name and deletes by id, so several records may go at once, and
a record may go with one of another name. Yet nothing that a teardown looks for is left after it: no
tenant that is listed bears a configured name, and no application is listed. A platform of which
that is true is cleared, and a teardown of a cleared platform makes no mutation.
-/

namespace Rollout

/-- No tenant bears a configured name, and there is no application. -/
structure Cleared (c : Config) (k : Content) : Prop where
  tenants : ∀ t ∈ k.tenants, t.name ∉ c.tenants
  applications : k.applications = []

variable {σ : Type} {surroundings : Surroundings σ} {host : Host surroundings} {m : Memory}
  {mayFail : Prop} {k : Content} {c : Config} {session : Session}

/-- A sweep leaves no record that it was meant for, whatever other records have the same ids. -/
theorem Collection.get_without_filter {α : Type} (C : Collection α) (test : α → Bool) :
    ∀ x ∈ C.get (C.without k (((C.get k).filter test).map C.idOf)), test x = false := by
  intro x hx
  rw [without, get_put] at hx
  obtain ⟨hmem, hid⟩ := List.mem_filter.1 hx
  rw [Bool.eq_false_iff]
  intro htest
  exact of_decide_eq_true hid (List.mem_map_of_mem (List.mem_filter.2 ⟨hmem, htest⟩))

theorem Cleared.configured_eq_nil (cleared : Cleared c k) :
    Tenants.configured c k.tenants = [] := by
  refine List.filter_eq_nil_iff.2 fun t ht => ?_
  rw [Config.hasTenant_iff]
  exact cleared.tenants t ht

namespace Tenants

theorem entitlements_cleared (shows : m.Shows k []) (cleared : Cleared c k) {doing : String}
    {operation : Entitlement → Operation} :
    host.Ends (entitlements c doing operation) m mayFail fun names m' => names = [] ∧ m' = m := by
  refine .bind (existing_ends shows) fun tenants m' hm' => ?_
  obtain ⟨rfl, rfl⟩ := hm'
  rw [cleared.configured_eq_nil]
  exact .pure ⟨rfl, rfl⟩

theorem remove_cleared (shows : m.Shows k []) (cleared : Cleared c k) :
    host.Ends (remove c) m mayFail fun names m' => names = [] ∧ m' = m := by
  refine .bind (existing_ends shows) fun tenants m' hm' => ?_
  obtain ⟨rfl, rfl⟩ := hm'
  rw [cleared.configured_eq_nil]
  exact .pure ⟨rfl, rfl⟩

end Tenants

theorem Application.removeAll_cleared (shows : m.Shows k []) (cleared : Cleared c k) :
    host.Ends removeAll m mayFail fun ids m' => ids = [] ∧ m' = m := by
  refine .bind (.read shows rfl rfl (by simp)) fun applications m' hm' => ?_
  obtain ⟨rfl, rfl⟩ := hm'
  rw [cleared.applications]
  exact .pure ⟨rfl, rfl⟩

namespace Pipeline

variable {p : Pipeline} {tenant : String}

/-- Where nothing fails, the users and the roles of a tenant are removed without an error. -/
theorem teardownTenant_working (working : m.failing = []) (admitted : surroundings.Admits tenant) :
    host.Ends (p.teardownTenant tenant) m mayFail fun _ m' => m'.failing = [] := by
  refine .bind (Q := fun _ m' => m'.failing = []) (inSession_ends (.inr admitted) fun _ _ =>
    (Users.remove_ends ⟨rfl, working⟩).weaken fun _ _ h => h.2.failing) fun _ m₁ working₁ => ?_
  refine .bind (Q := fun _ m' => m'.failing = []) (inSession_ends (.inr admitted) fun _ _ =>
    (Roles.remove_ends ⟨rfl, working₁⟩).weaken fun _ _ h => h.2.failing) fun _ m₂ working₂ => ?_
  exact .pure working₂

/-- Where nothing fails, a teardown succeeds and clears the platform, whatever it held. -/
theorem teardown_clears (working : m.failing = [])
    (admitted : ∀ t ∈ p.config.tenants, surroundings.Admits t) :
    host.Ends p.teardown m mayFail fun _ m' => m'.failing = [] ∧ Cleared p.config m'.content := by
  have shows : m.Shows m.content [] := ⟨rfl, working⟩
  refine .bind (existingTenants_ends shows) fun existing m' hm' => ?_
  obtain ⟨rfl, rfl⟩ := hm'
  refine .bind (.each (I := fun _ _ m'' => m''.failing = []) working ?_) fun _ m₁ working₁ => ?_
  · intro done results name rest hsplit m'' working'
    have hname : name ∈ (Tenants.configured p.config m'.content.tenants).map (·.name) := by
      simp [hsplit]
    obtain ⟨t, ht, rfl⟩ := List.mem_map.1 hname
    have configured := Config.hasTenant_iff.1 (List.mem_filter.1 ht).2
    exact teardownTenant_working working' (admitted t.name configured)
  refine .bind (.inStage (Tenants.entitlements_ends ⟨rfl, working₁⟩ (fun _ => rfl) fun _ => rfl))
    fun _ m₂ hm₂ => ?_
  refine .bind (.inStage (Tenants.remove_ends hm₂.2)) fun _ m₃ hm₃ => ?_
  refine .bind (.inStage (Application.removeAll_ends hm₃.2)) fun _ m₄ shows₄ => .pure ?_
  refine ⟨shows₄.failing, ?_⟩
  rw [shows₄.content]
  refine ⟨fun t ht htenant => ?_, rfl⟩
  have other := Collection.tenants.get_without_filter (p.config.hasTenant ·.name) t ht
  rw [Config.hasTenant_iff.2 htenant] at other
  cases other

/-- On a cleared platform a teardown removes nothing and mutates nothing. -/
theorem teardown_cleared (shows : m.Shows k []) (cleared : Cleared p.config k) :
    host.Ends p.teardown m mayFail fun report m' => report = ⟨[], [], [], [], []⟩ ∧ m' = m := by
  refine .bind (existingTenants_ends shows) fun existing m₁ hm₁ => ?_
  rw [cleared.configured_eq_nil] at hm₁
  obtain ⟨rfl, rfl⟩ := hm₁
  refine .bind (Q := fun removed m' => removed = [] ∧ m' = m₁) (.pure ⟨rfl, rfl⟩)
    fun removed m₂ hm₂ => ?_
  obtain ⟨rfl, rfl⟩ := hm₂
  refine .bind (.inStage (Tenants.entitlements_cleared shows cleared)) fun _ m₃ hm₃ => ?_
  obtain ⟨rfl, rfl⟩ := hm₃
  refine .bind (.inStage (Tenants.remove_cleared shows cleared)) fun _ m₄ hm₄ => ?_
  obtain ⟨rfl, rfl⟩ := hm₄
  refine .bind (.inStage (Application.removeAll_cleared shows cleared)) fun _ m₅ hm₅ => ?_
  obtain ⟨rfl, rfl⟩ := hm₅
  exact .pure ⟨rfl, rfl⟩

/-- Where nothing fails and every configured tenant is given its token, a teardown succeeds and
clears the platform, whatever that held. A second teardown then succeeds with an empty report, and
leaves the platform as it is, with its log of mutations. -/
theorem teardown_teardown (host : Host surroundings) (state : σ) (clock : Nat)
    (working : (host.memory state).failing = [])
    (admitted : ∀ t ∈ p.config.tenants, surroundings.Admits t) :
    let r := p.teardown.run.run surroundings state clock
    let r' := p.teardown.run.run surroundings r.state r.clock
    (∃ report, r.value = .ok report) ∧ Cleared p.config (host.memory r.state).content ∧
      r'.value = .ok ⟨[], [], [], [], []⟩ ∧ host.memory r'.state = host.memory r.state := by
  intro r r'
  have clearing : host.Ends p.teardown (host.memory state) False _ :=
    teardown_clears working admitted
  obtain ⟨report, hreport, working', cleared⟩ := clearing.outcome clock rfl
  have repeating : host.Ends p.teardown (host.memory r.state) False _ :=
    teardown_cleared ⟨rfl, working'⟩ cleared
  obtain ⟨_, hempty, rfl, same⟩ := repeating.outcome r.clock rfl
  exact ⟨⟨report, hreport⟩, cleared, hempty, same⟩

/-- A platform on which a tenant is listed twice, a tenant of someone else has the id of one of
them, and roles and users share ids and names. -/
def cluttered : Scripted.State where
  memory := {
    registries := ∅, descriptors := ∅
    applications := [⟨"app-1.0", "app", "1.0"⟩, ⟨"other-2.0", "other", "2.0"⟩]
    tenants := [⟨"t1", "north", none⟩, ⟨"t2", "north", none⟩, ⟨"t2", "south", none⟩,
      ⟨"t3", "east", none⟩]
    roles := .ofList [("north", [⟨"r1", "ADMIN", none⟩, ⟨"r1", "Reader", none⟩,
      ⟨"r2", "Reader", none⟩])]
    capabilitySets := ∅
    users := .ofList [("north", [⟨"u1", "ann"⟩, ⟨"u1", "bob"⟩, ⟨"u2", "ann"⟩])]
    failing := [], log := [] }
  probed := []
  polled := 0

/-- The first teardown of a cluttered platform visits a tenant twice and takes records of others
along; the second has nothing to do. -/
theorem teardown_teardown_cluttered :
    let surroundings := Scripted.surroundings calm
    let r := moduleless.teardown.run.run surroundings cluttered 0
    let r' := moduleless.teardown.run.run surroundings r.state r.clock
    r.value = .ok ⟨["ann", "ann"], ["ADMIN"], ["north", "north"], ["north", "north"],
      ["app-1.0", "other-2.0"]⟩ ∧
      r.state.memory.tenants = [⟨"t3", "east", none⟩] ∧
      r'.value = .ok ⟨[], [], [], [], []⟩ ∧ r'.state.memory = r.state.memory := by
  have tearing := teardown_teardown (p := moduleless) (Scripted.host calm) cluttered 0 rfl
    fun _ _ _ => ⟨"token", rfl⟩
  refine ⟨?_, ?_, tearing.2.2⟩
  · decide +kernel
  · decide +kernel

end Pipeline

end Rollout
