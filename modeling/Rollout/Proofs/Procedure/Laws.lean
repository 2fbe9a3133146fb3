import Rollout.Procedure.Action

/-!
# Laws of actions

Whatever is said of where an action has its place may be said of its parts instead: a stage passes
to the steps of a sequence and to the items of a list, and takes up the entity and the tenant that
an action within it names.
-/

namespace Rollout.Action

variable {α β : Type} {stage : Stage} {tenant entity : Option String}

theorem ofExcept_ok_bind (x : α) (f : α → Action β) : (ofExcept (.ok x) >>= f) = f x := rfl

theorem request_bind (c : Call) (f : c.Answer → Action β) :
    (request c >>= f).run = .call c fun reply =>
      match reply with
      | .ok x => (f x).run
      | .error e => .done (.error (.other e)) := by
  refine congrArg (Procedure.call c) (funext fun reply => ?_)
  cases reply with
  | ok x => rfl
  | error e => rfl

theorem inStage_pure (x : α) : inStage stage tenant entity (pure x) = pure x := rfl

theorem inStage_bind (a : Action α) (f : α → Action β) :
    inStage stage tenant entity (a >>= f) =
      inStage stage tenant entity a >>= fun x => inStage stage tenant entity (f x) := by
  apply ExceptT.ext
  simp only [inStage, ExceptT.run_bind, ExceptT.run_mk, map_bind, bind_map_left]
  congr 1
  funext result
  cases result with
  | ok x => rfl
  | error e => rfl

theorem inStage_each (f : α → Action β) (items : List α) :
    inStage stage tenant entity (each f items) =
      each (fun x => inStage stage tenant entity (f x)) items := by
  induction items with
  | nil => rfl
  | cons x rest ih => simp only [each, inStage_bind, inStage_pure, ih]

/-- What is named inside stands; the tenant of the stage stands in where none is named. -/
theorem inStage_forEntity (a : Action α) (inner : Option String) (name : String) :
    inStage stage tenant entity (a.forEntity inner name) =
      inStage stage (inner <|> tenant) (some name) a := by
  apply ExceptT.ext
  simp only [inStage, forEntity, ExceptT.run_mk, Functor.map_map]
  congr 1
  funext result
  cases result with
  | ok x => rfl
  | error e => rfl

/-- A sweep whose result does not matter attempts each item in turn. -/
theorem sweep_bind_const (operation : α → Operation) (items : List α) (a : Action β) :
    (sweep operation items >>= fun _ => a) =
      each (fun item => attempt (operation item)) items >>= fun _ => a := by
  induction items with
  | nil => rfl
  | cons item rest ih => simp [sweep, each, ih]

end Rollout.Action
