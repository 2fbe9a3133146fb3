import Rollout.ModuleId
import Rollout.Platform.Record

/-!
# Modules of a registry

A registry lists modules by id. `ModuleRef.resolve` takes the id apart, and a version override puts
the id together again from the name and the overriding version.
-/

namespace Rollout

structure ModuleRef where
  id : String
  name : String
  version : String
  sidecarName : String
  deploy : Bool
  serverPort : Option Port
  deriving DecidableEq, Repr

namespace ModuleRef

/-- The module that an id names, not deployed yet; none for the reserved id. -/
def resolve (raw : String) : Except Error (Option ModuleRef) := do
  match ← ModuleId.read raw with
  | .reserved => return none
  | .resolved m => return some ⟨raw, m.name, m.version, m.sidecarName, false, none⟩

def withVersion (m : ModuleRef) (version : String) : ModuleRef :=
  { m with version := version, id := m.name ++ "-" ++ version }

end ModuleRef

end Rollout
