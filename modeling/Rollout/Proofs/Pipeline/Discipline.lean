import Rollout.Proofs.Pipeline.Order
import Rollout.Proofs.Pipeline.Visits
import Rollout.Proofs.Procedure.Runs

/-!
# How a rollout proceeds and where it stops

Whatever the surroundings answer, a rollout has its milestones in the planned order, makes no call
but probes before every module with a health port was found healthy, and makes no call after the
first that failed fatally, after a health gate that did not open, or after a barrier that did not.
In each of these cases it ends at an error.
-/

namespace Rollout.Pipeline

open Rollout.Action (Abides Makes Orderly)
open Health (FoundHealthy)
open History (Lasting Sound)

variable {p : Pipeline}

/-- Every backend module that is deployed and publishes a health port was found healthy. -/
def AllHealthy (p : Pipeline) (past : History) : Prop :=
  ∀ entry ∈ p.config.backendModules.entries, entry.2.deploy = true →
    ∀ port, entry.2.healthPort = some port → FoundHealthy port past

theorem allHealthy_of_targets {past : History}
    (h : ∀ target ∈ p.healthTargets, FoundHealthy target.port past) : p.AllHealthy past := by
  intro entry he deployed port published
  exact h ⟨entry.1, port⟩ (List.mem_filterMap.2 ⟨entry, he, by simp [deployed, published]⟩)

theorem lasting_allHealthy (p : Pipeline) : Lasting p.AllHealthy :=
  fun _ _ h entry he deployed port published =>
    (h entry he deployed port published).mono (List.subset_append_left _ _)

/-- The rule that only probes are made before every module was found healthy. -/
def HealthyFirst (p : Pipeline) (past : History) (e : Event) : Prop :=
  (∀ port, e.call ≠ .probe port) → p.AllHealthy past

theorem awaitHealth_abides :
    Abides p.HealthyFirst (fun _ => True) p.awaitHealth fun _ => p.AllHealthy := by
  refine .inStage ?_
  split
  next h =>
    refine .pure fun past _ => allHealthy_of_targets fun target ht => ?_
    rw [List.isEmpty_iff.1 h] at ht
    cases ht
  next h =>
    refine Abides.weaken (Health.awaitAllHealthy_abides _ (P := fun _ => True) ?_) (fun _ => id)
      fun _ _ h => allHealthy_of_targets h.2
    rintro past e - ⟨target, -, hcall⟩
    exact ⟨fun h => absurd hcall (h _), trivial⟩

theorem run_healthyFirst :
    Abides p.HealthyFirst (fun _ => True) p.run fun _ => p.AllHealthy :=
  awaitHealth_abides.bind fun _ =>
    Makes.any.abides fun past e h _ => ⟨fun _ => h, lasting_allHealthy p past e h⟩

theorem run_orderly : Orderly (fun _ => True) p.run := by
  have any {α : Type} {kind : Call → Prop} {a : Staged α} (h : Orderly kind a) :
      Orderly (fun _ => True) a := h.mono fun _ _ => trivial
  refine .bind (any awaitHealth_orderly) fun _ => .bind (any deployApplication_orderly) fun _ =>
    .bind (any createTenants_orderly) fun _ => .bind (any createEntitlements_orderly) fun _ =>
      .bind (.each fun t _ => ?_) fun _ => .pure
  exact .bind (any awaitCapabilitySets_orderly) fun _ => .bind (any createRoles_orderly) fun _ =>
    .bind (any bindCapabilitySets_orderly) fun _ => .bind (any createUsers_orderly) fun _ => .pure

/-- What is seen of an orderly action ends with the first fatal failure, and so does the action. -/
theorem fatal_last {ε α : Type} {a : ExceptT ε Procedure α} (h : Orderly (fun _ => True) a)
    {before after : List Event} {e : Event} {result : Except ε α}
    (hy : a.run.Yields (before ++ e :: after) result) (hfatal : e.Fatal) :
    after = [] ∧ ∃ failure, result = .error failure := by
  obtain ⟨hthrough, hsound⟩ := @h [] _ _ History.sound_nil hy
  constructor
  · cases after with
    | nil => rfl
    | cons next after =>
        have hnext := History.throughout_iff.1 hthrough (before ++ [e]) next after (by simp)
        exact absurd hfatal (hnext.1 e (by simp))
  · cases result with
    | ok x => exact absurd hfatal (hsound e (by simp))
    | error failure => exact ⟨failure, rfl⟩

/-- How a rollout proceeds, of which the wait at the health gate is the beginning. -/
structure Disciplined {σ : Type} (p : Pipeline)
    (gate : Run σ (Except StageFailure (List Health.Healthy)))
    (rollout : Run σ (Except StageFailure RunReport)) : Prop where
  /-- The milestones are those of a plan if there is a report, and otherwise a beginning of them. -/
  planned : ∃ steps, RolloutSteps p.config steps ∧ milestones rollout.events <+: steps ∧
    ∀ report, rollout.value = .ok report → milestones rollout.events = steps
  /-- Before every module was found healthy there are only probes. -/
  healthy_first : ∀ before e after, rollout.events = before ++ e :: after →
    (∀ port, e.call ≠ .probe port) → p.AllHealthy before
  /-- A call that fails fatally is the last, and there is no report. -/
  fatal_last : ∀ before e after, rollout.events = before ++ e :: after → e.Fatal →
    after = [] ∧ ∃ failure, rollout.value = .error failure
  /-- If the gate does not open, nothing follows it and there is no report. -/
  gate_last : ∀ failure, gate.value = .error failure →
    rollout.value = .error failure ∧ rollout.events = gate.events
  /-- A tenant whose barrier does not open is the last that is visited, nothing is done for it, and
  there is no report. -/
  barrier_last : ∃ prelude visits, rollout.events = prelude ++ visits.flatMap Visit.events ∧
    (∀ e ∈ prelude, e.call.NoPoll) ∧ (∀ v ∈ visits, v.Proper p.config) ∧
      ∀ before v after, visits = before ++ v :: after → ¬ v.Drained p.config →
        v.calls = [] ∧ after = [] ∧ ∃ failure, rollout.value = .error failure

end Rollout.Pipeline
