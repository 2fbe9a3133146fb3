import Rollout.Procedure.Basic

/-!
# Actions

An action is a procedure that may stop at an error. What a collaborator reports becomes an error
once it is said what was being done; an error may then be attributed to an entity, and to a stage of
the rollout, which makes it a `StageFailure`.

Two patterns recur. `each` works through a list and stops at the first error. `sweep` makes a call
for every item of a list, tolerates those that fail and answers the items whose call succeeded.
-/

namespace Rollout

/-- A procedure that may stop at an error. -/
abbrev Action := ExceptT Error Procedure

abbrev Staged := ExceptT StageFailure Procedure

namespace Action

variable {α β : Type}

def ofExcept (result : Except Error α) : Action α := ExceptT.mk (.done result)

def request (c : Call) : Action c.Answer :=
  ExceptT.mk (.call c fun reply => .done (reply.mapError .other))

/-- A call made while doing something, which its failure tells. -/
def requestFor (doing : String) (c : Call) : Action c.Answer :=
  ExceptT.mk (.call c fun reply => .done (reply.mapError fun f => .other (f.context doing)))

def operate (doing : String) (operation : Operation) : Action operation.Answer :=
  requestFor doing (.platform operation)

def forEntity (tenant : Option String) (entity : String) (a : Action α) : Action α :=
  ExceptT.mk ((Except.mapError (Error.forEntity tenant entity)) <$> a.run)

def inStage (stage : Stage) (tenant entity : Option String) (a : Action α) : Staged α :=
  ExceptT.mk ((Except.mapError (Error.inStage stage tenant entity)) <$> a.run)

/-- An operation that may fail: whether it succeeded. -/
def attempt (operation : Operation) : Action Bool :=
  ExceptT.mk (.call (.platform operation) fun reply => .done (.ok reply.isOk))

/-- Makes a call for every item, tolerates failures, and answers the items that succeeded. -/
def sweep (operation : α → Operation) : List α → Action (List α)
  | [] => pure []
  | item :: rest => do
      let succeeded ← attempt (operation item)
      let others ← sweep operation rest
      return if succeeded then item :: others else others

end Action

/-- Works through a list and stops at the first error. -/
def each {ε α β : Type} (f : α → ExceptT ε Procedure β) : List α → ExceptT ε Procedure (List β)
  | [] => pure []
  | item :: rest => do
      let first ← f item
      let others ← each f rest
      return first :: others

end Rollout
