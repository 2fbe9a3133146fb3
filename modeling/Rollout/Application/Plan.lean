import Rollout.Config.Basic
import Rollout.ModuleRef

/-!
# Planning an application

The plan of an application says which of the modules that the registries list it takes, and where
each of them goes. A module is taken from the first registry that lists it. The modules that manage
the platform itself are deployed by other means and never taken.
-/

namespace Rollout.Application

inductive Placement where
  | backend
  | frontend
  deriving DecidableEq, Repr

def Placement.name : Placement → String
  | .backend => "backend"
  | .frontend => "frontend"

/-- Where the module with a name goes, if it is deployed at all; the backend comes first. -/
def placement? (c : Config) (name : String) : Option Placement :=
  if (c.backendModules.get? name).any (·.deploy) then some .backend
  else if (c.frontendModules.get? name).any (·.deploy) then some .frontend
  else none

structure PlannedModule where
  module : ModuleRef
  placement : Placement
  deriving DecidableEq, Repr

/-- What the names of the modules that manage the platform begin with. -/
def managementMark : String := "mgr-"

def isManagement (name : String) : Bool := managementMark.toList.isPrefixOf name.toList

/-- The version to take of the module with a name, if the configuration gives one. That of the
backend comes first, wherever the module goes. -/
def versionOverride? (c : Config) (name : String) : Option String :=
  ((c.backendModules.get? name).bind (·.version)) <|>
    (c.frontendModules.get? name).bind (·.version)

/-- The port that a module serves at its placement; a frontend module serves none. -/
def serverPort? (c : Config) (name : String) : Placement → Option Port
  | .backend => (c.backendModules.get? name).bind (·.serverPort)
  | .frontend => none

def planModule? (c : Config) (m : ModuleRef) : Option PlannedModule :=
  if isManagement m.name then none
  else (placement? c m.name).map fun placement =>
    let versioned := match versionOverride? c m.name with
      | some version => m.withVersion version
      | none => m
    ⟨{ versioned with deploy := true, serverPort := serverPort? c m.name placement }, placement⟩

/-- The plan for the ids that are still to come, when modules with the names in `seen` are planned
already. Every id has to be well formed, also one that is not taken. -/
def planFrom (c : Config) (seen : List String) : List String → Except Error (List PlannedModule)
  | [] => .ok []
  | id :: rest => do
      match (← ModuleRef.resolve id).bind (planModule? c) with
      | none => planFrom c seen rest
      | some planned =>
          if planned.module.name ∈ seen then planFrom c seen rest
          else return planned :: (← planFrom c (planned.module.name :: seen) rest)

def plan (c : Config) (listings : List (List RegistryModule)) : Except Error (List PlannedModule) :=
  planFrom c [] (listings.flatten.map (·.id))

end Rollout.Application
