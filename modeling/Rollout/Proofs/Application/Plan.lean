import Mathlib.Data.List.Nodup
import Mathlib.Data.List.Perm.Basic
import Rollout.Application.Plan
import Rollout.Proofs.Data.First
import Rollout.Proofs.ModuleId.Names

/-!
# What a plan takes

`IsPlan c ids planned` says which modules are the plan for some listed ids, without saying how they
are found: each name once, just the names that are mentioned and taken, in the order in which they
are first mentioned, and each module settled as the configuration says. There is one such list at
most (`IsPlan.unique`).

The plan is made of the offers, which are the planned modules that the single ids stand for: of
each name the first offer is kept. A malformed id anywhere keeps the plan from being made, and the
first one is reported.
-/

namespace Rollout

open ModuleId (IsName Names Mentions Malformed)

namespace Config

variable (c : Config) (name : String)

def DeploysBackend : Prop :=
  ∃ settings, c.backendModules.get? name = some settings ∧ settings.deploy = true

def DeploysFrontend : Prop :=
  ∃ settings, c.frontendModules.get? name = some settings ∧ settings.deploy = true

/-- The version override in effect for the module with a name: that of its backend entry, wherever
the module goes, and else that of its frontend entry. -/
inductive Overrides (version : String) : Prop
  | backend {settings : BackendSettings} (entry : c.backendModules.get? name = some settings)
      (given : settings.version = some version)
  | frontend {settings : FrontendSettings}
      (silent : ∀ settings, c.backendModules.get? name = some settings → settings.version = none)
      (entry : c.frontendModules.get? name = some settings)
      (given : settings.version = some version)

end Config

namespace Application

variable {c : Config} {name version raw : String} {ids seen : List String} {m : ModuleRef}
  {p q : PlannedModule} {planned planned' : List PlannedModule}

/-- The module with a name is taken if its id is listed: it does not manage the platform, and it is
deployed somewhere. -/
def Taken (c : Config) (name : String) : Prop :=
  ¬ "mgr-".toList <+: name.toList ∧ (c.DeploysBackend name ∨ c.DeploysFrontend name)

/-- A planned module is as the configuration has it, with the id and the version that the listed ids
first mention for its name unless a version override is in effect. -/
structure Settled (c : Config) (ids : List String) (p : PlannedModule) : Prop where
  listed : (∀ version, ¬ c.Overrides p.module.name version) →
    FirstOf (Mentions · p.module.name) ids p.module.id ∧
      Names p.module.id ⟨p.module.name, p.module.version⟩
  overridden : ∀ version, c.Overrides p.module.name version →
    p.module.version = version ∧ p.module.id = p.module.name ++ "-" ++ version
  placement : p.placement = .backend ↔ c.DeploysBackend p.module.name
  backendPort : p.placement = .backend →
    p.module.serverPort = (c.backendModules.get? p.module.name).bind (·.serverPort)
  frontendPort : p.placement = .frontend → p.module.serverPort = none
  sidecar : p.module.sidecarName = p.module.name ++ "-sc"
  deploy : p.module.deploy = true

/-- The plan for some listed ids: each name once, just those that are mentioned and taken, in the
order in which they are first mentioned, and each module settled. -/
structure IsPlan (c : Config) (ids : List String) (planned : List PlannedModule) : Prop where
  distinct : (planned.map (·.module.name)).Nodup
  takes : ∀ name, name ∈ planned.map (·.module.name) ↔
    (∃ id ∈ ids, Mentions id name) ∧ Taken c name
  ordered : planned.Pairwise fun p q =>
    Sooner (Mentions · p.module.name) (Mentions · q.module.name) ids
  settled : ∀ p ∈ planned, Settled c ids p

section Configured

theorem overrides_iff : c.Overrides name version ↔ versionOverride? c name = some version := by
  rw [versionOverride?, Option.orElse_eq_orElse, Option.orElse_eq_or, Option.or_eq_some_iff]
  constructor
  · rintro (⟨entry, given⟩ | ⟨silent, entry, given⟩)
    · exact .inl (by simp [entry, given])
    · refine .inr ⟨?_, by simp [entry, given]⟩
      simpa [Option.bind_eq_none_iff] using silent
  · rintro (h | ⟨hnone, h⟩)
    · obtain ⟨settings, entry, given⟩ := Option.bind_eq_some_iff.1 h
      exact .backend entry given
    · obtain ⟨settings, entry, given⟩ := Option.bind_eq_some_iff.1 h
      exact .frontend (fun settings h => Option.bind_eq_none_iff.1 hnone settings h) entry given

theorem not_overrides_iff :
    (∀ version, ¬ c.Overrides name version) ↔ versionOverride? c name = none := by
  simp only [overrides_iff, Option.eq_none_iff_forall_ne_some, ne_eq]

theorem deploysBackend_iff :
    c.DeploysBackend name ↔ (c.backendModules.get? name).any (·.deploy) = true := by
  simp [Config.DeploysBackend, Option.any_eq_true]

theorem deploysFrontend_iff :
    c.DeploysFrontend name ↔ (c.frontendModules.get? name).any (·.deploy) = true := by
  simp [Config.DeploysFrontend, Option.any_eq_true]

theorem isManagement_iff : isManagement name = true ↔ "mgr-".toList <+: name.toList := by
  rw [isManagement, managementMark, List.isPrefixOf_iff_prefix]

theorem placement?_isSome_iff :
    (placement? c name).isSome = true ↔ c.DeploysBackend name ∨ c.DeploysFrontend name := by
  rw [placement?, deploysBackend_iff, deploysFrontend_iff]
  split <;> rename_i hbackend
  · simp [hbackend]
  · split <;> rename_i hfrontend <;> simp [hbackend, hfrontend]

theorem placement_eq_backend_iff {placement : Placement}
    (h : placement? c name = some placement) :
    placement = .backend ↔ c.DeploysBackend name := by
  rw [placement?] at h
  rw [deploysBackend_iff]
  split at h
  next hbackend =>
    cases h
    simp [hbackend]
  next hbackend =>
    split at h
    · cases h
      simp [hbackend]
    · cases h

end Configured

section Offers

theorem isSome_planModule?_iff : (planModule? c m).isSome = true ↔ Taken c m.name := by
  rw [planModule?, Taken, ← isManagement_iff, ← placement?_isSome_iff]
  split <;> rename_i h <;> simp [h]

theorem name_of_planModule? (h : planModule? c m = some p) : p.module.name = m.name := by
  rw [planModule?] at h
  split at h
  · cases h
  · obtain ⟨placement, -, rfl⟩ := Option.map_eq_some_iff.1 h
    dsimp only
    split <;> rfl

/-- The module that a listed id offers to the plan, if it is one that is taken. -/
def offer? (c : Config) (raw : String) : Option PlannedModule :=
  (ModuleId.split? raw.toList).bind fun id => planModule? c (.listed raw id)

theorem offer?_of_names {id : ModuleId} (h : Names raw id) :
    offer? c raw = planModule? c (.listed raw id) := by
  rw [offer?, ModuleId.names_iff.1 h, Option.bind_some]

/-- An id offers a module with a name if it mentions the name and that is taken. -/
theorem offers_iff :
    (∃ p, offer? c raw = some p ∧ p.module.name = name) ↔ Mentions raw name ∧ Taken c name := by
  constructor
  · rintro ⟨p, hp, rfl⟩
    obtain ⟨id, hsplit, hplan⟩ := Option.bind_eq_some_iff.1 hp
    have hname : p.module.name = id.name := name_of_planModule? hplan
    rw [hname]
    exact ⟨⟨id.version, ModuleId.names_iff.2 hsplit⟩,
      isSome_planModule?_iff.1 (Option.isSome_of_eq_some hplan)⟩
  · rintro ⟨⟨version, hnames⟩, taken⟩
    have offered := isSome_planModule?_iff (m := .listed raw ⟨name, version⟩).2 taken
    obtain ⟨p, hp⟩ := Option.isSome_iff_exists.1 offered
    exact ⟨p, (offer?_of_names hnames).trans hp, name_of_planModule? hp⟩

/-- Of a name that is taken, an id offers a module if it mentions the name. -/
theorem offers_eq_mentions (taken : Taken c name) :
    (fun raw => ∃ p, offer? c raw = some p ∧ p.module.name = name) = (Mentions · name) :=
  funext fun _ => propext (offers_iff.trans (and_iff_left taken))

/-- What an id offers is settled if it is the first that mentions the name. -/
theorem settled_of_offer? (h : offer? c raw = some p)
    (first : FirstOf (Mentions · p.module.name) ids raw) : Settled c ids p := by
  obtain ⟨id, hsplit, hplan⟩ := Option.bind_eq_some_iff.1 h
  have hname : p.module.name = id.name := name_of_planModule? hplan
  have hid := ModuleId.names_iff.2 hsplit
  rw [hname] at first
  rw [planModule?] at hplan
  split at hplan
  · cases hplan
  · obtain ⟨placement, hplacement, rfl⟩ := Option.map_eq_some_iff.1 hplan
    have backend := placement_eq_backend_iff hplacement
    cases hoverride : versionOverride? c id.name with
    | none =>
        have silent := not_overrides_iff.2 hoverride
        simp only [ModuleRef.listed, hoverride] at hname ⊢
        exact ⟨fun _ => ⟨first, hid⟩, fun version h => absurd h (silent version), backend,
          fun h => by subst h; rfl, fun h => by subst h; rfl, rfl, rfl⟩
    | some override =>
        simp only [ModuleRef.listed, ModuleRef.withVersion, hoverride] at hname ⊢
        refine ⟨fun silent => ?_, fun version h => ?_, backend,
          fun h => by subst h; rfl, fun h => by subst h; rfl, rfl, rfl⟩
        · exact absurd (overrides_iff.2 hoverride) (silent override)
        · obtain rfl : override = version :=
            Option.some.inj (hoverride.symm.trans (overrides_iff.1 h))
          exact ⟨rfl, rfl⟩

end Offers

section Planned

/-- Where no id is malformed, the plan is made of the first offer of each name. -/
theorem planFrom_of_wellFormed (h : ∀ id ∈ ids, ¬ Malformed id) :
    planFrom c seen ids =
      .ok (Roles.firstByKey (·.module.name) seen (ids.filterMap (offer? c))) := by
  induction ids generalizing seen with
  | nil => rfl
  | cons raw rest ih =>
      have others (seen : List String) : planFrom c seen rest =
          .ok (Roles.firstByKey (·.module.name) seen (rest.filterMap (offer? c))) :=
        ih fun id hid => h id (List.mem_cons_of_mem _ hid)
      rcases ModuleRef.resolve_cases raw with ⟨rfl, hresolve⟩ | ⟨id, hid, hresolve⟩ | ⟨hbad, -⟩
      · have reserved : offer? c reservedId = none := by
          rw [offer?, show ModuleId.split? reservedId.toList = none from by decide]
          rfl
        simp only [planFrom, hresolve, bind, Except.bind, Option.bind_none]
        rw [others, List.filterMap_cons_none reserved]
      · simp only [planFrom, hresolve, bind, Except.bind, Option.bind_some]
        rw [← offer?_of_names hid]
        cases hoffer : offer? c raw with
        | none => rw [List.filterMap_cons_none hoffer, others]
        | some p =>
            rw [List.filterMap_cons_some hoffer, Roles.firstByKey]
            dsimp only
            rw [others, others]
            split <;> rfl
      · exact absurd hbad (h raw List.mem_cons_self)

/-- The first malformed id is reported. -/
theorem planFrom_of_malformed (h : FirstOf Malformed ids raw) :
    planFrom c seen ids = .error (.malformedIdentifier raw) := by
  induction ids generalizing seen with
  | nil => exact absurd h not_firstOf_nil
  | cons id rest ih =>
      rcases firstOf_cons.1 h with ⟨hbad, rfl⟩ | ⟨hgood, hrest⟩
      · rcases ModuleRef.resolve_cases raw with ⟨rfl, -⟩ | ⟨id, hid, -⟩ | ⟨-, hresolve⟩
        · exact absurd hbad ModuleId.not_malformed_reserved
        · exact absurd hbad hid.not_malformed
        · simp only [planFrom, hresolve, bind, Except.bind]
      · have others (seen : List String) :
            planFrom c seen rest = .error (.malformedIdentifier raw) := ih hrest
        obtain ⟨m, hm⟩ := ModuleRef.exists_resolve_iff.2 hgood
        simp only [planFrom, hm, bind, Except.bind]
        cases m.bind (planModule? c) with
        | none => exact others seen
        | some p =>
            dsimp only
            split
            · exact others seen
            · rw [others]

/-- The first offers of each name are the plan. -/
theorem isPlan_firsts (c : Config) (ids : List String) :
    IsPlan c ids (Roles.firstByKey (·.module.name) [] (ids.filterMap (offer? c))) where
  distinct := Roles.nodup_map_firstByKey
  takes name := by
    rw [Roles.mem_map_firstByKey, ← exists_and_right]
    simp only [List.not_mem_nil, not_false_eq_true, and_true, List.mem_map, List.mem_filterMap]
    constructor
    · rintro ⟨p, ⟨raw, hraw, hp⟩, hname⟩
      obtain ⟨hmentions, taken⟩ := offers_iff.1 ⟨p, hp, hname⟩
      exact ⟨raw, ⟨hraw, hmentions⟩, taken⟩
    · rintro ⟨raw, ⟨hraw, hmentions⟩, taken⟩
      obtain ⟨p, hp, hname⟩ := offers_iff.2 ⟨hmentions, taken⟩
      exact ⟨p, ⟨raw, hraw, hp⟩, hname⟩
  ordered := by
    have taken {p : PlannedModule}
        (hp : p ∈ Roles.firstByKey (·.module.name) [] (ids.filterMap (offer? c))) :
        Taken c p.module.name := by
      obtain ⟨raw, hoffer, -⟩ := firstOf_filterMap.1 (Roles.mem_firstByKey.1 hp).2
      exact (offers_iff.1 ⟨p, hoffer, rfl⟩).2
    refine Roles.pairwise_firstByKey.imp_of_mem fun {p q} hp hq h => ?_
    rw [sooner_filterMap, offers_eq_mentions (taken hp), offers_eq_mentions (taken hq)] at h
    exact h
  settled p hp := by
    obtain ⟨raw, hoffer, first⟩ := firstOf_filterMap.1 (Roles.mem_firstByKey.1 hp).2
    rw [offers_eq_mentions (offers_iff.1 ⟨p, hoffer, rfl⟩).2] at first
    exact settled_of_offer? hoffer first

theorem Settled.unique (hp : Settled c ids p) (hq : Settled c ids q)
    (h : p.module.name = q.module.name) : p = q := by
  obtain ⟨⟨id, name, version, sidecar, deploy, port⟩, placement⟩ := p
  obtain ⟨⟨id', name', version', sidecar', deploy', port'⟩, placement'⟩ := q
  obtain rfl : name = name' := h
  have hplacement : placement = placement' := by
    have same : placement = .backend ↔ placement' = .backend :=
      hp.placement.trans hq.placement.symm
    cases placement <;> cases placement' <;> simp at same <;> rfl
  have hport : port = port' := by
    subst hplacement
    cases placement with
    | backend => exact (hp.backendPort rfl).trans (hq.backendPort rfl).symm
    | frontend => exact (hp.frontendPort rfl).trans (hq.frontendPort rfl).symm
  have hid : id = id' ∧ version = version' := by
    by_cases silent : ∀ version, ¬ c.Overrides name version
    · obtain ⟨first, hnames⟩ := hp.listed silent
      obtain ⟨first', hnames'⟩ := hq.listed silent
      obtain rfl : id = id' := first.unique first'
      exact ⟨rfl, congrArg ModuleId.version (hnames.unique hnames')⟩
    · obtain ⟨override, hoverride⟩ := not_forall_not.1 silent
      obtain ⟨hversion, hid⟩ := hp.overridden override hoverride
      obtain ⟨hversion', hid'⟩ := hq.overridden override hoverride
      exact ⟨hid.trans hid'.symm, hversion.trans hversion'.symm⟩
  obtain ⟨rfl, rfl⟩ := hid
  have hsidecar : sidecar = sidecar' := hp.sidecar.trans hq.sidecar.symm
  have hdeploy : deploy = deploy' := hp.deploy.trans hq.deploy.symm
  rw [hplacement, hport, hsidecar, hdeploy]

theorem IsPlan.isName (h : IsPlan c ids planned) (hp : p ∈ planned) :
    IsName p.module.name.toList := by
  obtain ⟨⟨id, -, version, names⟩, -⟩ := (h.takes _).1 (List.mem_map_of_mem hp)
  exact names.isName

/-- Nothing but one list is the plan. -/
theorem IsPlan.unique (h : IsPlan c ids planned) (h' : IsPlan c ids planned') :
    planned = planned' := by
  have sub {planned planned' : List PlannedModule} (h : IsPlan c ids planned)
      (h' : IsPlan c ids planned') : planned ⊆ planned' := by
    intro p hp
    have hname := (h'.takes _).2 ((h.takes _).1 (List.mem_map_of_mem hp))
    obtain ⟨q, hq, hname⟩ := List.mem_map.1 hname
    rwa [(h'.settled q hq).unique (h.settled p hp) hname] at hq
  have perm : planned.Perm planned' :=
    (List.perm_ext_iff_of_nodup h.distinct.of_map h'.distinct.of_map).2 fun _ =>
      ⟨fun hp => sub h h' hp, fun hp => sub h' h hp⟩
  exact perm.eq_of_pairwise (fun _ _ _ _ hpq hqp => (hpq.asymm hqp).elim) h.ordered h'.ordered

theorem plan_eq_error_iff {listings : List (List RegistryModule)} {e : Error} :
    plan c listings = .error e ↔
      ∃ id, FirstOf Malformed (listings.flatten.map (·.id)) id ∧ e = .malformedIdentifier id := by
  constructor
  · intro he
    by_cases h : ∃ id ∈ listings.flatten.map (·.id), Malformed id
    · obtain ⟨id, first⟩ := exists_firstOf h
      exact ⟨id, first, Except.error.inj (he.symm.trans (planFrom_of_malformed first))⟩
    · rw [plan, planFrom_of_wellFormed fun id hid hbad => h ⟨id, hid, hbad⟩] at he
      cases he
  · rintro ⟨id, first, rfl⟩
    exact planFrom_of_malformed first

theorem plan_eq_ok_iff {listings : List (List RegistryModule)} :
    plan c listings = .ok planned ↔
      (∀ id ∈ listings.flatten.map (·.id), ¬ Malformed id) ∧
        IsPlan c (listings.flatten.map (·.id)) planned := by
  constructor
  · intro h
    have hgood : ∀ id ∈ listings.flatten.map (·.id), ¬ Malformed id := by
      intro id hid hbad
      obtain ⟨id, first⟩ := exists_firstOf ⟨id, hid, hbad⟩
      cases h.symm.trans (planFrom_of_malformed first)
    have hplan := (planFrom_of_wellFormed hgood).symm.trans h
    exact ⟨hgood, Except.ok.inj hplan ▸ isPlan_firsts c _⟩
  · rintro ⟨hgood, isPlan⟩
    rw [plan, planFrom_of_wellFormed hgood, (isPlan_firsts c _).unique isPlan]

theorem isPlan_of_plan {listings : List (List RegistryModule)}
    (h : plan c listings = .ok planned) : IsPlan c (listings.flatten.map (·.id)) planned :=
  (plan_eq_ok_iff.1 h).2

end Planned

/-- Planning fails if and only if an id is malformed, and reports the first one that is. Otherwise
its result is the plan for the listed ids. -/
theorem plan_exact (c : Config) (listings : List (List RegistryModule)) :
    let ids := listings.flatten.map (·.id)
    ((∃ e, plan c listings = .error e) ↔ ∃ id ∈ ids, Malformed id) ∧
      (∀ e, plan c listings = .error e ↔
        ∃ id, FirstOf Malformed ids id ∧ e = .malformedIdentifier id) ∧
      ∀ planned, plan c listings = .ok planned ↔
        (∀ id ∈ ids, ¬ Malformed id) ∧ IsPlan c ids planned := by
  refine ⟨⟨?_, fun hbad => ?_⟩, fun _ => plan_eq_error_iff, fun _ => plan_eq_ok_iff⟩
  · rintro ⟨e, he⟩
    obtain ⟨id, first, -⟩ := plan_eq_error_iff.1 he
    exact ⟨id, first.mem, first.holds⟩
  · obtain ⟨id, first⟩ := exists_firstOf hbad
    exact ⟨_, plan_eq_error_iff.2 ⟨id, first, rfl⟩⟩

end Application

end Rollout
