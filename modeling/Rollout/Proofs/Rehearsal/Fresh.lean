import Rollout.Proofs.Config.Belonging
import Rollout.Proofs.Rehearsal.Provision

/-!
# A rollout on a fresh platform

A platform is fresh for a rollout when nothing fails, nothing that the configuration names is there
yet, and the modules, the tokens and the queue do what the rollout waits for. On such a platform a
rollout ends with a report if and only if the names of the roles of each tenant are distinct; then
the platform holds what it held and what the configuration says. Otherwise the rollout fails at the
binding of a role whose name is ambiguous.
-/

namespace Rollout

open Scripted (Script Situation Succeeds Fails)

def Content.deployed (c : Config) (k : Content) : Content :=
  { k with
    applications := k.applications ++
      [⟨c.applicationId, c.application.name, c.application.version⟩]
    tenants := k.tenants ++ Tenants.created c.tenants.toList }

namespace Pipeline

variable {p : Pipeline} {script : Script} {s : Situation}

/-- What makes a platform, with the script of a rehearsal, fresh for a rollout: no operation fails,
no tenant bears a configured name, the configured tenants have no roles and no users, and the
application can be assembled; each wait at the health gate ends with a healthy module, there is a
token for each configured tenant, and their backlogs are consumed in turn. -/
structure Fresh (p : Pipeline) (script : Script) (state : Scripted.State) (clock : Nat) :
    Prop where
  working : state.memory.failing = []
  tenants : ∀ t ∈ state.memory.tenants, t.name ∉ p.config.tenants
  roles : ∀ t ∈ p.config.tenants, Memory.under state.memory.roles t = []
  users : ∀ t ∈ p.config.tenants, Memory.under state.memory.users t = []
  assemblable : ∃ registry, Application.Assemblable p.config state.memory.content registry
  healthy : ∀ outcome ∈ (Health.playGate (Scripted.surroundings script) p.healthTargets
    p.timings.probePolicy clock state).value, ∃ module, outcome = .ok module
  tokens : ∀ t ∈ p.config.tenants, ∃ token, script.tokens.tokenFor t = .ok token
  drains : Lag.DrainsInTurn script p.config.capabilityGroup p.timings.lagMaxAttempts state.polled
    p.config.tenants.toList

variable {state : Scripted.State} {clock : Nat}

/-- The health gate opens, and leaves the platform and the queue alone. -/
theorem Fresh.awaitHealth (fresh : Fresh p script state clock) :
    ∃ healthy,
      (p.awaitHealth.run.run (Scripted.surroundings script) state clock).value = .ok healthy ∧
      (p.awaitHealth.run.run (Scripted.surroundings script) state clock).state.In
        state.situation := by
  have start := Scripted.State.in_situation fresh.working
  rw [Pipeline.awaitHealth, Action.run_inStage]
  split
  · exact ⟨[], rfl, start⟩
  · obtain ⟨healthy, hverdict⟩ := Health.verdict_of_ok fresh.healthy
    refine ⟨healthy, ?_, ?_⟩
    · show Except.mapError _ (Health.verdict _) = _
      rw [hverdict]
      rfl
    · exact Health.playGate_keeps (I := fun s : Scripted.State => s.In state.situation)
        _ _ (fun _ _ h => h) _ _ start

theorem deployApplication_succeeds {registry : String}
    (h : Application.Assemblable p.config s.content registry) :
    Succeeds script p.deployApplication s fun _ s' => s' = { s with
      content.applications := s.content.applications ++
        [⟨p.config.applicationId, p.config.application.name, p.config.application.version⟩] } := by
  refine .bind (.inStage (Application.assemble_succeeds h)) fun d s₁ hs₁ => ?_
  obtain ⟨⟨hid, hname, hversion⟩, rfl⟩ := hs₁
  refine .bind (.inStage (Application.create_succeeds d)) fun _ s₂ hs₂ => .pure ?_
  rw [hs₂, hid, hname, hversion]

theorem createTenants_succeeds :
    Succeeds script p.createTenants s fun _ s' => s' = { s with
      content.tenants := s.content.tenants ++ Tenants.created p.config.tenants.toList } :=
  .inStage Tenants.create_succeeds

theorem createEntitlements_succeeds :
    Succeeds script p.createEntitlements s fun names s' =>
      names = (Tenants.configured p.config s.content.tenants).map (·.name) ∧ s' = s :=
  .inStage Tenants.entitle_succeeds

/-- All tenants are entitled, and are pending once the application is deployed. What becomes of the
rollout is what becomes of them. -/
theorem Fresh.run_eq (fresh : Fresh p script state clock) :
    ∃ (report : List TenantReport → RunReport) (state' : Scripted.State) (clock' : Nat),
      state'.In ⟨state.memory.content.deployed p.config, state.polled⟩ ∧
      let r := p.run.run.run (Scripted.surroundings script) state clock
      let r' := (each p.provisionTenant p.config.tenants.toList >>= fun tenants =>
        pure (report tenants)).run.run (Scripted.surroundings script) state' clock'
      r.value = r'.value ∧ r.state = r'.state := by
  obtain ⟨healthy, hhealthy, hstate⟩ := fresh.awaitHealth
  obtain ⟨registry, assemblable⟩ := fresh.assemblable
  let r := p.awaitHealth.run.run (Scripted.surroundings script) state clock
  obtain ⟨⟨d, entries⟩, s₁, hdeployed, hstate₁, rfl⟩ :=
    deployApplication_succeeds (p := p) assemblable r.clock hstate
  let r₁ := p.deployApplication.run.run (Scripted.surroundings script) r.state r.clock
  obtain ⟨created, s₂, hcreated, hstate₂, rfl⟩ :=
    createTenants_succeeds (p := p) r₁.clock hstate₁
  let r₂ := p.createTenants.run.run (Scripted.surroundings script) r₁.state r₁.clock
  obtain ⟨entitled, s₃, hentitled, hstate₃, hnames, rfl⟩ :=
    createEntitlements_succeeds (p := p) r₂.clock hstate₂
  let r₃ := p.createEntitlements.run.run (Scripted.surroundings script) r₂.state r₂.clock
  obtain rfl : entitled = p.config.tenants.toList :=
    hnames.trans (Tenants.configured_append_created fresh.tenants)
  refine ⟨fun tenants => ⟨d.id, healthy.map (·.name), d.backendModules.length,
    d.frontendModules.length, entries, tenants⟩, r₃.state, r₃.clock, hstate₃, ?_⟩
  rw [run, Action.run_bind_ok hhealthy, Action.run_bind_ok hdeployed,
    Action.run_bind_ok hcreated, Action.run_bind_ok hentitled]
  exact ⟨rfl, rfl⟩

theorem Fresh.pending (fresh : Fresh p script state clock) :
    Pending p script ⟨state.memory.content.deployed p.config, state.polled⟩
      p.config.tenants.toList where
  roles := fresh.roles
  users := fresh.users
  tokens := fresh.tokens
  drains := fresh.drains

/-- With distinct names of roles, a fresh rollout ends with a report. -/
theorem Fresh.run_succeeds (fresh : Fresh p script state clock)
    (distinct : ∀ t ∈ p.config.tenants, (Roles.namesOf p.config t).Nodup) :
    let r := p.run.run.run (Scripted.surroundings script) state clock
    (∃ report, r.value = .ok report) ∧ r.state.memory.content =
      (state.memory.content.deployed p.config).provisioned p.config p.config.tenants.toList := by
  obtain ⟨report, state', clock', hin, hvalue, hstate⟩ := fresh.run_eq
  have nodup := p.config.tenants.nodup_toList
  have pending := fresh.pending
  rw [← List.append_nil p.config.tenants.toList] at nodup pending
  obtain ⟨_, s', hreport, hend, hcontent⟩ := Succeeds.bind
    (R := fun (_ : RunReport) s' => s'.content = (state.memory.content.deployed
      p.config).provisioned p.config p.config.tenants.toList)
    (provisionAll_succeeds nodup pending distinct)
    (fun tenants _ h => .pure (x := report tenants) h.1) clock' hin
  exact ⟨⟨_, hvalue.trans hreport⟩, by rw [hstate, hend.2.1, hcontent]⟩

/-- Otherwise it fails at the first tenant with a name that is ambiguous. -/
theorem Fresh.run_fails (fresh : Fresh p script state clock)
    (collision : ¬ ∀ t ∈ p.config.tenants, (Roles.namesOf p.config t).Nodup) :
    ∃ tenant ∈ p.config.tenants, ∃ failure, Collision p.config tenant failure ∧
      (p.run.run.run (Scripted.surroundings script) state clock).value = .error failure := by
  obtain ⟨report, state', clock', hin, hvalue, -⟩ := fresh.run_eq
  cases hfind : p.config.tenants.toList.find? fun t => ¬ (Roles.namesOf p.config t).Nodup with
  | none =>
      refine absurd (fun t ht => ?_) collision
      simpa using List.find?_eq_none.1 hfind t ht
  | some tenant =>
      obtain ⟨hcollision, before, after, hsplit, hbefore⟩ :=
        List.find?_eq_some_iff_append.1 hfind
      have nodup : (before ++ tenant :: after).Nodup := hsplit ▸ p.config.tenants.nodup_toList
      have provisioned := provisionAll_succeeds nodup (hsplit ▸ fresh.pending)
        fun t ht => by simpa using hbefore t ht
      have fails : Fails script (each p.provisionTenant (before ++ tenant :: after)) _
          (Collision p.config tenant) :=
        .each provisioned fun _ s' h => by
          obtain ⟨others, hawaited, -⟩ := h.2.head
          exact provisionTenant_fails hawaited (by simpa using hcollision)
      obtain ⟨failure, herror, hfailure⟩ := (Fails.bind_first fails) clock' hin
      rw [hsplit] at hvalue
      have hmem : tenant ∈ p.config.tenants.toList := List.mem_of_find?_eq_some hfind
      exact ⟨tenant, hmem, failure, hfailure, hvalue.trans herror⟩

/-- On a fresh platform, a rollout ends with a report if and only if the names of the roles of each
tenant are distinct. Then the platform holds what it held, the configured application, the
configured tenants in the order of their names, and for each of these the configured roles and users
and no others. If it fails, it does so at a name that several roles of a tenant bear. -/
theorem run_fresh (fresh : Fresh p script state clock) :
    let r := p.run.run.run (Scripted.surroundings script) state clock
    ((∃ report, r.value = .ok report) ↔
      ∀ t ∈ p.config.tenants, (Roles.namesOf p.config t).Nodup) ∧
    (∀ report, r.value = .ok report → r.state.memory.content =
      (state.memory.content.deployed p.config).provisioned p.config p.config.tenants.toList) ∧
    ∀ failure, r.value = .error failure →
      ∃ tenant ∈ p.config.tenants, Collision p.config tenant failure := by
  intro r
  by_cases distinct : ∀ t ∈ p.config.tenants, (Roles.namesOf p.config t).Nodup
  · obtain ⟨⟨report, hreport⟩, hcontent⟩ := fresh.run_succeeds distinct
    refine ⟨⟨fun _ => distinct, fun _ => ⟨report, hreport⟩⟩, fun _ _ => hcontent, ?_⟩
    intro failure hfailure
    exact absurd (hreport.symm.trans hfailure) nofun
  · obtain ⟨tenant, hmem, failure, hcollision, herror⟩ := fresh.run_fails distinct
    have noReport : ∀ report, r.value ≠ .ok report :=
      fun report h => absurd (herror.symm.trans h) nofun
    refine ⟨⟨fun ⟨report, h⟩ => absurd h (noReport report), fun h => absurd h distinct⟩,
      fun report h => absurd h (noReport report), fun failure' h => ?_⟩
    obtain rfl : failure = failure' := Except.error.inj (herror.symm.trans h)
    exact ⟨tenant, hmem, hcollision⟩

def calm : Script where
  probes := [(9081, [⟨some "OK", 0⟩])]
  polls := [.ok ⟨"group topic-north 0 7 7 0", ""⟩]
  tokens := .always "token"

def bare : Scripted.State where
  memory := ⟨.ofList [("http://registry", [⟨"mod-users-1.0.0", none⟩])], ∅, [], [], ∅, ∅, ∅, [], []⟩
  probed := []
  polled := 0

/-- The sample can be rolled out on a bare platform. -/
theorem run_fresh_sample :
    Fresh ⟨Config.sample, .standard⟩ calm bare 0 ∧
      ∃ report, ((run ⟨Config.sample, .standard⟩).run.run (Scripted.surroundings calm)
        bare 0).value = .ok report := by
  have healthy : (Health.playGate (Scripted.surroundings calm) [⟨"mod-users", 9081⟩]
      Timings.standard.probePolicy 0 bare).value = [.ok ⟨"mod-users", 1⟩] := by
    let ended : Health.Ended := ⟨0, Timings.standard.healthInterval, .ok ⟨"mod-users", 1⟩⟩
    exact congrArg (List.map Health.Ended.outcome) (List.mergeSort_singleton ended)
  have fresh : Fresh ⟨Config.sample, .standard⟩ calm bare 0 := {
    working := rfl
    tenants := nofun
    roles := fun _ _ => rfl
    users := fun _ _ => rfl
    assemblable := ⟨"http://registry", {
      served := rfl
      readable := fun listing h m hm => by
        obtain rfl : listing = [⟨"mod-users-1.0.0", none⟩] := List.mem_singleton.1 h
        obtain rfl := List.mem_singleton.1 hm
        exact ⟨_, rfl⟩
      described := nofun }⟩
    healthy := fun outcome h => ⟨⟨"mod-users", 1⟩, List.mem_singleton.1 (healthy ▸ h)⟩
    tokens := fun _ _ => ⟨"token", rfl⟩
    drains := ⟨0, by decide, ⟨_, rfl, rfl⟩, trivial⟩ }
  exact ⟨fresh, (run_fresh fresh).1.2 (by decide)⟩

end Pipeline

end Rollout
