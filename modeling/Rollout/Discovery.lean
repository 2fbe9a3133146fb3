import Rollout.ModuleId
import Rollout.Procedure.Action

/-!
# Discovery of a module

The platform routes the traffic for a module to its sidecar, unless its discovery entry is replaced
by one with a location of its own. An id may be given with colons for hyphens.
-/

namespace Rollout.Discovery

/-- An id with hyphens for colons. -/
def hyphenated (id : String) : String := id.map fun c => if c = ':' then '-' else c

/-- The discovery entry of the module with an id: at the given location, or at its sidecar if none
is given, if it is empty, or if the sidecar is to be restored. -/
def entry (id : String) (location : Option String) (restore : Bool) (port : Port)
    (network : String) : Except Error DiscoveryEntry := do
  let id := hyphenated id
  let m ← ModuleId.readModule id
  let sidecar := sidecarUrl m.name network port.toNat
  let location := match location with
    | some url => if url ≠ "" ∧ restore = false then url else sidecar
    | none => sidecar
  return ⟨id, m.name, m.version, location⟩

def update (network id : String) (location : Option String) (restore : Bool) (port : Port) :
    Action DiscoveryEntry := do
  let replaced ← Action.ofExcept (entry id location restore port network)
  Action.operate ("updating discovery of " ++ replaced.id) (.replaceDiscovery replaced)
  return replaced

end Rollout.Discovery
