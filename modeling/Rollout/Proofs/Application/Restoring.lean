import Rollout.Discovery
import Rollout.Proofs.Application.Assembly

/-!
# Restoring discovery entries

A discovery entry that was replaced is restored from the id of its module alone, which is taken
apart anew. What comes back is the entry as it was if and only if its id names the module at the
version that the entry has, and the entry leads to the sidecar.

Of a descriptor that is assembled, every discovery entry leads to a sidecar, so it depends on the
version override in effect for the module whether it can be restored: without one the id is one that
a registry lists, and with one the id names the module if and only if the override is a version.
-/

namespace Rollout

open ModuleId (IsName Names IsVersion)

namespace Application

variable {c : Config} {ids : List String} {p : PlannedModule}

/-- The id of a planned module names it unless the version override in effect is no version. -/
theorem Settled.names_iff (h : Settled c ids p) (named : IsName p.module.name.toList) :
    Names p.module.id ⟨p.module.name, p.module.version⟩ ↔
      (∀ version, ¬ c.Overrides p.module.name version) ∨
        ∃ version, c.Overrides p.module.name version ∧ IsVersion version.toList := by
  by_cases silent : ∀ version, ¬ c.Overrides p.module.name version
  · exact iff_of_true (h.listed silent).2 (.inl silent)
  · obtain ⟨override, overridden⟩ := not_forall_not.1 silent
    obtain ⟨hversion, hid⟩ := h.overridden override overridden
    rw [hversion, hid, ModuleId.names_hyphen_iff named, or_iff_right silent]
    refine ⟨fun version => ⟨override, overridden, version⟩, ?_⟩
    rintro ⟨version, overridden', version'⟩
    exact (h.overridden version overridden').1.symm.trans hversion ▸ version'

end Application

namespace Discovery

open Application

variable {id network : String} {location : Option String} {port : Port} {e : DiscoveryEntry}

theorem hyphenated_of_names {m : ModuleId} (h : Names id m) : hyphenated id = id := by
  have kept : ∀ c ∈ id.toList, (if c = ':' then '-' else c) = c := by
    intro c hc
    refine if_neg fun colon => ?_
    exact absurd (h.chars c hc) (by rw [colon]; decide)
  rw [← String.toList_inj, hyphenated, String.toList_map]
  exact (List.map_congr_left kept).trans (List.map_id' _)

theorem entry_restored : entry id location true port network =
    (ModuleId.readModule (hyphenated id)).map fun m =>
      ⟨hyphenated id, m.name, m.version, sidecarUrl m.name network port.toNat⟩ := by
  rw [entry]
  cases ModuleId.readModule (hyphenated id) with
  | error err => rfl
  | ok m => cases location <;> simp [bind, Except.bind, pure, Except.pure, Except.map]

/-- An entry is restored as it is if and only if its id names the module, at its version, and the
entry leads to the sidecar. -/
theorem entry_restored_iff : entry e.id location true port network = .ok e ↔
    Names e.id ⟨e.name, e.version⟩ ∧ e.location = sidecarUrl e.name network port.toNat := by
  obtain ⟨id, name, version, place⟩ := e
  rw [entry_restored]
  constructor
  · intro h
    cases hread : ModuleId.readModule (hyphenated id) with
    | error err =>
        rw [hread] at h
        cases h
    | ok m =>
        rw [hread] at h
        obtain ⟨hid, rfl, rfl, rfl⟩ := DiscoveryEntry.mk.inj (Except.ok.inj h)
        rw [hid] at hread
        exact ⟨ModuleId.readModule_eq_ok_iff.1 hread, rfl⟩
  · rintro ⟨names, hlocation⟩
    dsimp only at names hlocation
    rw [hyphenated_of_names names, ModuleId.readModule_eq_ok_iff.2 names, hlocation]
    rfl

variable {σ : Type} {surroundings : Surroundings σ} {state : σ} {clock : Nat} {c : Config}
  {d : ApplicationDescriptor}

/-- Whatever the platform answers, a discovery entry of a descriptor that is assembled is restored
as it is if and only if there is no version override in effect for its module or the one in effect
is a version. -/
theorem entry_restores (h : ((assemble c).run.run surroundings state clock).value = .ok d)
    (he : e ∈ d.discovery) :
    ∃ port, (c.backendModules.get? e.name).bind (·.serverPort) = some port ∧
      ∀ location, entry e.id location true port c.network = .ok e ↔
        (∀ version, ¬ c.Overrides e.name version) ∨
          ∃ version, c.Overrides e.name version ∧ IsVersion version.toList := by
  obtain ⟨registry, listed, planned, -, -, hplan, reflects⟩ := assemble_reflects h
  have isPlan := isPlan_of_plan hplan
  obtain ⟨p, hp, announced⟩ := exists_paired reflects.discovery he
  obtain ⟨hp, -⟩ := List.mem_filter.1 hp
  obtain ⟨hp, hbackend⟩ := List.mem_filter.1 hp
  have settled := isPlan.settled p hp
  obtain ⟨port, hport, hlocation⟩ := announced.location
  rw [← sidecarUrl_eq] at hlocation
  rw [announced.name]
  refine ⟨port, (settled.backendPort (of_decide_eq_true hbackend)).symm.trans hport, fun url => ?_⟩
  rw [← settled.names_iff (isPlan.isName hp), entry_restored_iff, announced.id, announced.name,
    announced.version]
  exact and_iff_left hlocation

/-- Of two neighbours, the one without an override is restored, and the one with an override that is
no version is not. -/
theorem entry_restores_neighbours : ∃ d, ((assemble (neighbours "latest")).run.run
      (Scripted.surroundings ⟨[], [], .missing⟩) neighbourhood 0).value = .ok d ∧
    (∃ e ∈ d.discovery, e.name = "mod-users" ∧
      entry e.id (some "http://host") true 8081 "net" = .ok e) ∧
    ∃ e ∈ d.discovery, e.name = "mod" ∧
      entry e.id (some "http://host") true 8082 "net" ≠ .ok e := by
  have assembled : ((assemble (neighbours "latest")).run.run
      (Scripted.surroundings ⟨[], [], .missing⟩) neighbourhood 0).value = .ok _ := rfl
  refine ⟨_, assembled, ⟨_, List.mem_cons_self, rfl, ?_⟩,
    ⟨_, List.mem_cons_of_mem _ List.mem_cons_self, rfl, fun restored => ?_⟩⟩
  · obtain ⟨port, hport, restores⟩ := entry_restores assembled List.mem_cons_self
    obtain rfl : port = 8081 := Option.some.inj (hport.symm.trans (by decide))
    refine (restores _).2 (.inl (not_overrides_iff.2 ?_))
    decide
  · obtain ⟨port, hport, restores⟩ :=
      entry_restores assembled (List.mem_cons_of_mem _ List.mem_cons_self)
    obtain rfl : port = 8082 := Option.some.inj (hport.symm.trans (by decide))
    rcases (restores _).1 restored with silent | ⟨version, overridden, isVersion⟩
    · exact silent "latest" (overrides_iff.2 (by decide))
    · obtain rfl : version = "latest" :=
        Option.some.inj ((overrides_iff.1 overridden).symm.trans (by decide))
      exact absurd (ModuleId.isVersion_iff.2 isVersion) (by decide)

end Discovery

end Rollout
