import Rollout.Procedure.Action
import Rollout.Procedure.Run

/-!
# Runs of actions

Running actions in sequence is running the first and, unless it stops at an error, the second from
where the first ended. What is made of a result or an error afterwards changes nothing else.
-/

namespace Rollout

variable {σ α β ε : Type} {surroundings : Surroundings σ} {state : σ} {clock : Nat}

theorem Procedure.run_sleep (duration : Nat) (next : Procedure α) :
    (sleep duration next).run surroundings state clock =
      next.run surroundings state (clock + duration) := rfl

theorem Procedure.run_map (p : Procedure α) (f : α → β) :
    (f <$> p).run surroundings state clock =
      { p.run surroundings state clock with
        value := f (p.run surroundings state clock).value } := by
  rw [← bind_pure_comp, run_bind]
  simp [run]

namespace Action

variable {a : ExceptT ε Procedure α}

theorem run_bind_ok {x : α} (h : (a.run.run surroundings state clock).value = .ok x)
    (f : α → ExceptT ε Procedure β) :
    let first := a.run.run surroundings state clock
    let rest := (f x).run.run surroundings first.state first.clock
    (a >>= f).run.run surroundings state clock =
      { rest with events := first.events ++ rest.events } := by
  rw [ExceptT.run_bind, Procedure.run_bind]
  simp only [h]

theorem run_bind_error {e : ε} (h : (a.run.run surroundings state clock).value = .error e)
    (f : α → ExceptT ε Procedure β) :
    ((a >>= f).run.run surroundings state clock).value = .error e ∧
      ((a >>= f).run.run surroundings state clock).events =
        (a.run.run surroundings state clock).events := by
  rw [ExceptT.run_bind, Procedure.run_bind]
  simp only [h]
  exact ⟨rfl, List.append_nil _⟩

theorem run_forEntity (a : Action α) (tenant : Option String) (entity : String) :
    (a.forEntity tenant entity).run.run surroundings state clock =
      { a.run.run surroundings state clock with
        value := (a.run.run surroundings state clock).value.mapError
          (Error.forEntity tenant entity) } :=
  Procedure.run_map a.run _

theorem run_inStage (a : Action α) (stage : Stage) (tenant entity : Option String) :
    (inStage stage tenant entity a).run.run surroundings state clock =
      { a.run.run surroundings state clock with
        value := (a.run.run surroundings state clock).value.mapError
          (Error.inStage stage tenant entity) } :=
  Procedure.run_map a.run _

end Action

theorem each_append (f : α → ExceptT ε Procedure β) (first second : List α) :
    each f (first ++ second) =
      each f first >>= fun xs => each f second >>= fun ys => pure (xs ++ ys) := by
  induction first with
  | nil => simp [each]
  | cons x first ih => simp [each, ih]

end Rollout
