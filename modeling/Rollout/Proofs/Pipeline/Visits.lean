import Rollout.Proofs.Pipeline.Footprint

/-!
# Visits of tenants

After its tenants are entitled a rollout visits them one after the other: it polls until the backlog
of the tenant is consumed, and then makes its calls for the tenant. A visit whose polls never show
an empty backlog is the last one and makes no calls, and the rollout ends at an error.
-/

namespace Rollout

open Rollout.Action (Abides Makes Orderly)

variable {c : Config}

/-- What is seen of a visit: the polls for a tenant, and the calls for it. -/
structure Visit where
  tenant : String
  polls : List Event
  calls : List Event

namespace Visit

def events (v : Visit) : List Event := v.polls ++ v.calls

/-- The polls are polls, and the calls are for the tenant. -/
def Proper (c : Config) (v : Visit) : Prop :=
  (∀ e ∈ v.polls, e.call = .describeGroup c.capabilityGroup) ∧ ∀ e ∈ v.calls, e.call.For v.tenant

def Drained (c : Config) (v : Visit) : Prop :=
  ∃ time output,
    (⟨time, .describeGroup c.capabilityGroup, .ok output⟩ : Event) ∈ v.polls ∧
      Lag.readLag output c.capabilityGroup v.tenant = .ok (.lag 0)

end Visit

def Call.NoPoll (call : Call) : Prop := ∀ group, call ≠ .describeGroup group

theorem Call.General.noPoll {call : Call} (h : call.General) : call.NoPoll := by
  obtain ⟨op, rfl, -⟩ := h
  exact nofun

/-- What is seen are visits; the visit of a tenant whose backlog was not seen to be consumed has no
calls and is the last, and the result is an error. -/
def Visited {ε α : Type} (c : Config) (events : List Event) (result : Except ε α) : Prop :=
  ∃ visits, events = visits.flatMap Visit.events ∧ (∀ v ∈ visits, v.Proper c) ∧
    ∀ before v after, visits = before ++ v :: after → ¬ v.Drained c →
      v.calls = [] ∧ after = [] ∧ ∃ failure, result = .error failure

namespace Visited

variable {ε α β : Type}

theorem nil (result : Except ε α) : Visited c [] result :=
  ⟨[], rfl, by simp, by simp⟩

/-- A visit in which the backlog was consumed may come before. -/
theorem cons {v : Visit} {events : List Event} {result : Except ε α} (proper : v.Proper c)
    (drained : v.Drained c) (h : Visited c events result) :
    Visited c (v.events ++ events) result := by
  obtain ⟨visits, rfl, hproper, hlast⟩ := h
  refine ⟨v :: visits, by simp, fun v' hv' => ?_, fun before v' after hv' hdrained => ?_⟩
  · rcases List.mem_cons.1 hv' with rfl | hv'
    · exact proper
    · exact hproper v' hv'
  · cases before with
    | nil =>
        cases hv'
        exact absurd drained hdrained
    | cons v'' before =>
        cases hv'
        exact hlast before v' after rfl hdrained

/-- A visit that stops at an error unless the backlog was consumed may be the last. -/
theorem last {v : Visit} {result : Except ε α} (proper : v.Proper c)
    (h : ¬ v.Drained c → v.calls = [] ∧ ∃ failure, result = .error failure) :
    Visited c v.events result := by
  refine ⟨[v], by simp, by simpa using proper, fun before v' after hv' hdrained => ?_⟩
  obtain ⟨rfl, rfl, rfl⟩ : before = [] ∧ v' = v ∧ after = [] := by
    cases before <;> simp_all
  exact ⟨(h hdrained).1, rfl, (h hdrained).2⟩

/-- What is made of a result does not matter. -/
theorem map {events : List Event} {result : Except ε α} (h : Visited c events result)
    (f : α → β) : Visited c events (result.map f) := by
  obtain ⟨visits, rfl, hproper, hlast⟩ := h
  refine ⟨visits, rfl, hproper, fun before v after hv hdrained => ?_⟩
  obtain ⟨hcalls, hafter, failure, rfl⟩ := hlast before v after hv hdrained
  exact ⟨hcalls, hafter, failure, rfl⟩

end Visited

/-- An action makes calls that are no polls, and then visits. -/
def Visiting {ε α : Type} (c : Config) (a : ExceptT ε Procedure α) : Prop :=
  ∀ ⦃events result⦄, a.run.Yields events result →
    ∃ prelude rest, events = prelude ++ rest ∧ (∀ e ∈ prelude, e.call.NoPoll) ∧
      Visited c rest result

theorem Visiting.after {ε α β : Type} {a : ExceptT ε Procedure α} {f : α → ExceptT ε Procedure β}
    (quiet : Makes Call.NoPoll a) (rest : ∀ x, Visiting c (f x)) : Visiting c (a >>= f) := by
  have noPoll {events result} (ha : a.run.Yields events result) : ∀ e ∈ events, e.call.NoPoll :=
    Procedure.makes_iff.1 quiet.run events result ha
  have further {first second x result} (ha : a.run.Yields first (.ok x))
      (hf : (f x).run.Yields second result) : ∃ prelude rest, first ++ second = prelude ++ rest ∧
        (∀ e ∈ prelude, e.call.NoPoll) ∧ Visited c rest result := by
    obtain ⟨prelude, visits, rfl, hprelude, hvisits⟩ := rest x hf
    refine ⟨first ++ prelude, visits, by simp, fun e he => ?_, hvisits⟩
    rcases List.mem_append.1 he with he | he
    · exact noPoll ha e he
    · exact hprelude e he
  intro events result hy
  cases result with
  | ok y =>
      obtain ⟨x, first, second, rfl, ha, hf⟩ := Action.yields_bind_ok_iff.1 hy
      exact further ha hf
  | error e =>
      rcases Action.yields_bind_error_iff.1 hy with ha | ⟨x, first, second, rfl, ha, hf⟩
      · exact ⟨events, [], by simp, noPoll ha, .nil _⟩
      · exact further ha hf

namespace Pipeline

variable {p : Pipeline} {tenant : String}

/-- What is yielded for a tenant is one visit. -/
theorem provisionTenant_yields {events : List Event} {result : Except StageFailure TenantReport}
    (hy : (p.provisionTenant tenant).run.Yields events result) :
    ∃ v : Visit, v.tenant = tenant ∧ v.events = events ∧ v.Proper p.config ∧
      (¬ v.Drained p.config → v.calls = [] ∧ ∃ failure, result = .error failure) := by
  have polls {events result} (hy : (p.awaitCapabilitySets tenant).run.Yields events result) :
      ∀ e ∈ events, e.call = .describeGroup p.config.capabilityGroup :=
    Procedure.makes_iff.1 awaitCapabilitySets_orderly.makes.run events result hy
  have drained {events n} (hy : (p.awaitCapabilitySets tenant).run.Yields events (.ok n))
      (calls : List Event) : Visit.Drained p.config ⟨tenant, events, calls⟩ := by
    have spec : Abides (fun _ _ => True) (fun _ => True) (p.awaitCapabilitySets tenant)
        fun _ past => Lag.DrainedSince (fun _ => True) p.config.capabilityGroup tenant past :=
      .inStage ((Lag.waitForDrain_abides (fun _ _ _ _ => trivial) fun _ _ _ _ => trivial).weaken
        (fun _ => id) fun _ _ h => h.2)
    obtain ⟨before, time, output, after, hevents, -, hread, -⟩ := (@spec [] _ _ trivial hy).2
    exact ⟨time, output, by simp_all, hread⟩
  have rest : ∀ n, Makes (Call.For tenant) (do
      let roles ← p.createRoles tenant
      let bindings ← p.bindCapabilitySets tenant
      let users ← p.createUsers tenant
      return { tenant, lagPolls := n, roles, bindings, users : TenantReport }) := fun n =>
    Orderly.makes (.bind createRoles_orderly fun _ => .bind bindCapabilitySets_orderly fun _ =>
      .bind createUsers_orderly fun _ => .pure)
  have calls {n events result} := Procedure.makes_iff.1 (rest n).run events result
  cases result with
  | ok y =>
      obtain ⟨n, first, second, rfl, hbarrier, hrest⟩ := Action.yields_bind_ok_iff.1 hy
      exact ⟨⟨tenant, first, second⟩, rfl, rfl, ⟨polls hbarrier, calls hrest⟩,
        fun h => absurd (drained hbarrier second) h⟩
  | error e =>
      rcases Action.yields_bind_error_iff.1 hy with
        hbarrier | ⟨n, first, second, rfl, hbarrier, hrest⟩
      · exact ⟨⟨tenant, events, []⟩, rfl, by simp [Visit.events], ⟨polls hbarrier, by simp⟩,
          fun _ => ⟨rfl, e, rfl⟩⟩
      · exact ⟨⟨tenant, first, second⟩, rfl, rfl, ⟨polls hbarrier, calls hrest⟩,
          fun h => absurd (drained hbarrier second) h⟩

/-- The tenants are visited one after the other. -/
theorem provisionAll_visited {tenants : List String} {events : List Event}
    {result : Except StageFailure (List TenantReport)}
    (hy : (each p.provisionTenant tenants).run.Yields events result) :
    Visited p.config events result := by
  induction tenants generalizing events result with
  | nil =>
      obtain ⟨rfl, rfl⟩ := Action.yields_pure_iff.1 hy
      exact .nil _
  | cons tenant rest ih =>
      have others {first second x} (ha : (p.provisionTenant tenant).run.Yields first (.ok x))
          (hf : (each p.provisionTenant rest >>= fun ys => pure (x :: ys)).run.Yields second
            result) : Visited p.config (first ++ second) result := by
        obtain ⟨v, -, rfl, proper, hlast⟩ := provisionTenant_yields ha
        obtain ⟨result, hrest, rfl⟩ := Action.yields_bind_pure_iff.1 hf
        refine .cons proper (Classical.not_not.1 fun h => ?_) ((ih hrest).map _)
        obtain ⟨-, failure, herror⟩ := hlast h
        cases herror
      cases result with
      | ok ys =>
          obtain ⟨x, first, second, rfl, ha, hf⟩ := Action.yields_bind_ok_iff.1 hy
          exact others ha hf
      | error e =>
          rcases Action.yields_bind_error_iff.1 hy with ha | ⟨x, first, second, rfl, ha, hf⟩
          · obtain ⟨v, -, rfl, proper, hlast⟩ := provisionTenant_yields ha
            exact .last proper fun h => ⟨(hlast h).1, e, rfl⟩
          · exact others ha hf

theorem awaitHealth_noPoll : Makes Call.NoPoll p.awaitHealth := by
  refine (awaitHealth_orderly.mono ?_).makes
  rintro call ⟨target, -, rfl⟩ group hcall
  cases hcall

/-- A rollout makes calls that are no polls, and then visits the tenants. -/
theorem run_visiting : Visiting p.config p.run := by
  have noPoll {α : Type} {a : Staged α} (h : Orderly Call.General a) : Makes Call.NoPoll a :=
    (h.mono fun _ => Call.General.noPoll).makes
  refine .after awaitHealth_noPoll fun _ => .after (noPoll deployApplication_orderly) fun _ =>
    .after (noPoll createTenants_orderly) fun _ =>
      .after (noPoll createEntitlements_orderly) fun entitled => ?_
  intro events result hy
  obtain ⟨first, hall, rfl⟩ := Action.yields_bind_pure_iff.1 hy
  exact ⟨[], events, rfl, by simp, (provisionAll_visited hall).map _⟩

end Pipeline

end Rollout
