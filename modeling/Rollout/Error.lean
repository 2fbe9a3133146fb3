import Rollout.Stage
import Rollout.Text.Quoted

/-!
# What goes wrong

`Error` names the fatal conditions of a rollout. Conditions that are tolerated, such as a consumer
group that is rebalancing or a role name that resolves to nothing, never become errors. `Failure` is
what a collaborator reports: a message and the messages of the causes below it, outermost first.

An error may be attributed to the entity that was being worked on, several times over from the
inside out. `Error.inStage` turns an error into the failure of a stage: the wrappers are taken off,
the innermost entity stands, and so does the tenant of the innermost wrapper that names one.
-/

namespace Rollout

/-- A message and the messages of its causes, outermost first. -/
structure Failure where
  message : String
  causes : List String
  deriving DecidableEq, Repr, Inhabited

def Failure.of (message : String) : Failure := ⟨message, []⟩

/-- The failure with a message that says what was being done. -/
def Failure.context (doing : String) (f : Failure) : Failure := ⟨doing, f.message :: f.causes⟩

inductive Error where
  | malformedIdentifier (id : String)
  | ambiguousRole (name : String) (count : Nat)
  | healthExhausted (name : String) (attempts : Nat)
  | lagExhausted (group tenant : String) (attempts : Nat)
  | queueAdmin (group stderr : String)
  | lagNotNumeric (tenant raw : String)
  | config (text : String)
  | attributed (tenant : Option String) (entity : String) (source : Error)
  | other (failure : Failure)
  deriving DecidableEq, Repr, Inhabited

namespace Error

def message : Error → String
  | .malformedIdentifier id => "malformed module identifier: " ++ Text.quoted id
  | .ambiguousRole name count =>
      "role name " ++ Text.quoted name ++ " matched " ++ toString count ++
        " roles, expected at most one"
  | .healthExhausted name attempts =>
      "module " ++ name ++ " did not become healthy after " ++ toString attempts ++ " attempts"
  | .lagExhausted group tenant attempts =>
      "consumer group " ++ group ++ " still lagging for tenant " ++ tenant ++ " after " ++
        toString attempts ++ " polls"
  | .queueAdmin group stderr =>
      "queue admin failed for consumer group " ++ group ++ ": " ++ stderr
  | .lagNotNumeric tenant raw =>
      "consumer group lag for tenant " ++ tenant ++ " is not a number: " ++ Text.quoted raw
  | .config text => "config: " ++ text
  | .attributed _ entity source => entity ++ ": " ++ source.message
  | .other failure => failure.message

/-- The texts of the causes below an error, outermost first. -/
def causes : Error → List String
  | .attributed _ _ source => source.message :: source.causes
  | .other failure => failure.causes
  | _ => []

/-- The error as a report of a collaborator: what it was is then told by its messages alone. -/
def toFailure (e : Error) : Failure := ⟨e.message, e.causes⟩

def forEntity (tenant : Option String) (entity : String) (e : Error) : Error :=
  .attributed tenant entity e

/-- The tenant, the entity and the condition under all wrappers, for an error met while working on
the given tenant and entity. -/
def unwrap (tenant entity : Option String) : Error → Option String × Option String × Error
  | .attributed inner name source => source.unwrap (inner <|> tenant) (some name)
  | e => (tenant, entity, e)

end Error

structure StageFailure where
  stage : Stage
  tenant : Option String
  entity : Option String
  source : Error
  deriving DecidableEq, Repr

def StageFailure.message (f : StageFailure) : String :=
  "stage " ++ f.stage.name ++ " failed" ++
    (match f.tenant with | some t => " for tenant " ++ t | none => "") ++
    (match f.entity with | some e => " at " ++ e | none => "") ++
    ": " ++ f.source.message

def Error.inStage (stage : Stage) (tenant entity : Option String) (e : Error) : StageFailure :=
  let unwrapped := e.unwrap tenant entity
  ⟨stage, unwrapped.1, unwrapped.2.1, unwrapped.2.2⟩

end Rollout
