import Mathlib.Data.List.Perm.Basic
import Rollout.Proofs.Health.Alone
import Rollout.Proofs.Procedure.Stops

/-!
# What the gate hears of each target

Whatever the probes answer and however the waits overlap, the gate hears once of each of its
targets: that it became healthy, or that it ran out of attempts. So the modules that a gate answers
are its targets in the order of their names, and what it fails with names a target.
-/

namespace Rollout.Health

open List (Forall₂)
open Rollout.Action (StopsAt)

variable {σ : Type} (surroundings : Surroundings σ) (policy : ProbePolicy)

def OutcomeFor (o : Outcome) (t : Target) : Prop :=
  (∃ attempts, o = .ok ⟨t.name, attempts⟩) ∨ o = exhausted t.name policy

theorem afterProbe_outcomeFor {w : Waiter} {time : Nat} {healthy : Bool} {ended : Ended}
    (h : w.afterProbe policy time healthy = .inl ended) :
    OutcomeFor policy ended.outcome w.target := by
  rw [Waiter.afterProbe] at h
  split at h
  · cases h
    exact .inl ⟨_, rfl⟩
  · split at h
    · cases h
      exact .inr rfl
    · cases h

/-- With probes enough for all waits to end, each of them does so once. -/
theorem play_outcomes (probes : Nat) (waiters : List Waiter) (state : σ)
    (sufficient : Sufficient policy probes waiters) :
    ∃ order, Forall₂ (fun ended t => OutcomeFor policy ended.outcome t)
      (play surroundings policy probes waiters state).2.1 order ∧
        order.Perm (waiters.map (·.target)) := by
  induction probes generalizing waiters state with
  | zero =>
      obtain rfl : waiters = [] := List.eq_nil_iff_forall_not_mem.2 fun w => sufficient.not_zero
      exact ⟨[], .nil, .refl _⟩
  | succ probes ih =>
      cases htake : takeFirst waiters with
      | none =>
          obtain rfl := takeFirst_eq_none_iff.1 htake
          exact ⟨[], .nil, .refl _⟩
      | some taken =>
          obtain ⟨w, others⟩ := taken
          have perm := (takeFirst_perm htake).map (·.target)
          cases hs : surroundings.answer (.probe w.target.port) state with
          | mk response state' =>
              simp only [play, htake, hs]
              -- either way the waits that are left have probes enough to end
              rcases afterProbe_cases policy w (w.due + response.elapsed)
                (foundHealthy response.reply) with
                  ⟨ended, hafter, -⟩ | ⟨w', hafter, htarget, hattempts, hlt⟩
              · obtain ⟨order, paired, horder⟩ := ih others state' (sufficient.ended htake)
                rw [hafter]
                exact ⟨w.target :: order, .cons (afterProbe_outcomeFor policy hafter) paired,
                  (horder.cons w.target).trans perm⟩
              · obtain ⟨order, paired, horder⟩ :=
                  ih _ state' (sufficient.goesOn htake hattempts hlt)
                rw [hafter]
                have back := (putBack_perm w' others).map (·.target)
                rw [List.map_cons, htarget] at back
                exact ⟨order, paired, (horder.trans back).trans perm⟩

/-- The gate hears once of each target. -/
theorem playGate_outcomes (targets : List Target) (start : Nat) (state : σ) :
    ∃ order, Forall₂ (OutcomeFor policy)
      (playGate surroundings targets policy start state).value order ∧ order.Perm targets := by
  rw [playGate]
  split
  next h =>
    refine ⟨targets, ?_, .refl _⟩
    exact List.forall₂_map_left_iff.2 (List.forall₂_same.2 fun t _ => .inr rfl)
  next h =>
    obtain ⟨order, paired, horder⟩ :=
      play_outcomes surroundings policy _ _ state (.start targets start h)
    obtain ⟨order', paired', horder'⟩ :=
      List.perm_comp_forall₂ (List.mergeSort_perm _ endedLe) paired
    refine ⟨order', List.forall₂_map_left_iff.2 paired', horder'.trans (horder.trans (.of_eq ?_))⟩
    simp [waitersAt, List.map_map, Function.comp_def]

variable {policy}

/-- A gate that passes answers its targets in the order of their names. -/
theorem awaitAllHealthy_names {targets : List Target}
    (ascending : (targets.map (·.name)).Pairwise (· < ·)) {events : List Event}
    {healthy : List Healthy}
    (hy : (awaitAllHealthy targets policy).run.Yields events (.ok healthy)) :
    healthy.map (·.name) = targets.map (·.name) := by
  rcases hy with _ | _ | _ | ⟨surroundings, state, start, rest⟩
  obtain ⟨-, hverdict⟩ := Procedure.yields_done_iff.1 rest
  obtain ⟨found, hfound, rfl⟩ := verdict_eq_ok_iff.1 hverdict.symm
  obtain ⟨order, paired, horder⟩ := playGate_outcomes surroundings policy targets start state
  rw [hfound, List.forall₂_map_left_iff] at paired
  have names : found.map (·.name) = order.map (·.name) := by
    rw [← List.forall₂_eq_eq_eq, List.forall₂_map_left_iff, List.forall₂_map_right_iff]
    refine paired.imp ?_
    rintro h t (⟨attempts, hok⟩ | hexhausted)
    · cases hok
      rfl
    · cases hexhausted
  have perm : ((found.mergeSort nameLe).map (·.name)).Perm (targets.map (·.name)) := by
    refine ((List.mergeSort_perm found nameLe).map _).trans ?_
    rw [names]
    exact horder.map _
  refine perm.eq_of_pairwise (fun _ _ _ _ => String.le_antisymm) (List.pairwise_map.2 ?_)
    (ascending.imp Std.le_of_lt)
  exact (List.pairwise_mergeSort nameLe_trans nameLe_total found).imp of_decide_eq_true

/-- A gate that fails does so because a target ran out of attempts. -/
theorem awaitAllHealthy_stops (targets : List Target) :
    StopsAt (fun e => ∃ t ∈ targets, e = .healthExhausted t.name policy.maxAttempts)
      (awaitAllHealthy targets policy) := by
  rintro events e (_ | _ | _ | ⟨surroundings, state, start, rest⟩)
  obtain ⟨-, hverdict⟩ := Procedure.yields_done_iff.1 rest
  obtain ⟨found, after, houtcomes⟩ := verdict_eq_error hverdict.symm
  obtain ⟨order, paired, horder⟩ := playGate_outcomes surroundings policy targets start state
  obtain ⟨t, ht, ⟨attempts, hok⟩ | hexhausted⟩ := exists_paired (paired.flip) (houtcomes ▸
    List.mem_append_right _ List.mem_cons_self : (Except.error e : Outcome) ∈ _)
  · cases hok
  · cases hexhausted
    exact ⟨t, horder.mem_iff.1 ht, rfl⟩

end Rollout.Health
