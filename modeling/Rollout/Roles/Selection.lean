import Rollout.Procedure.Action

/-!
# Selecting capability sets

A role is given the capability sets that it names, or, when one of the names is `all`, every
capability set of every registered application. Names and sets count once, where they first occur.
-/

namespace Rollout.Roles

inductive Selection where
  | all
  | named (names : List String)
  deriving DecidableEq, Repr

/-- The word that selects every capability set. -/
def allSets : String := "all"

/-- The items of a list whose keys are new, counting those in `seen` as known. -/
def firstByKey {α : Type} (key : α → String) (seen : List String) : List α → List α
  | [] => []
  | item :: rest =>
      if key item ∈ seen then firstByKey key seen rest
      else item :: firstByKey key (key item :: seen) rest

def Selection.ofNames (names : List String) : Selection :=
  if allSets ∈ names then .all else .named (firstByKey id [] names)

def select (session : Session) (selection : Selection) : Action (List CapabilitySet) := do
  let sets ← match selection with
    | .all => do
        let applications ← Action.operate "listing applications" .listApplications
        each (fun (a : ApplicationSummary) =>
          Action.operate ("listing capability sets of " ++ a.id)
            (.applicationCapabilitySets session a.id)) applications
    | .named names =>
        each (fun name =>
          Action.operate ("looking up capability set " ++ name)
            (.findCapabilitySets session name)) names
  return firstByKey CapabilitySet.id [] sets.flatten

end Rollout.Roles
