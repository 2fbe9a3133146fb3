import Rollout.Lag.Reading

/-!
# The lag barrier

The barrier of a tenant is polling until its backlog is consumed and drained from then on. While it
is polling it keeps the last lag that was read; a reading that carries no news, or fails, leaves it
as it is.
-/

namespace Rollout.Lag

structure Backlog where
  group : String
  tenant : String
  lag : Nat
  deriving DecidableEq, Repr

/-- Where a barrier stands: the last lag known, if any, or drained. -/
inductive BarrierState where
  | polling (lag : Option Nat)
  | drained
  deriving DecidableEq, Repr

structure Barrier where
  group : String
  tenant : String
  state : BarrierState
  last : Option Backlog
  deriving DecidableEq, Repr

namespace Barrier

def start (group tenant : String) : Barrier := ⟨group, tenant, .polling none, none⟩

def note (b : Barrier) : Reading → Barrier
  | .transient _ => b
  | .lag count =>
      { b with
        state := if count = 0 then .drained else .polling (some count)
        last := some ⟨b.group, b.tenant, count⟩ }

/-- The barrier after a description of the group. A drained barrier does not read it. -/
def observe (b : Barrier) (output : CommandOutput) : Except Error Barrier :=
  match b.state with
  | .drained => .ok b
  | .polling _ => (readLag output b.group b.tenant).map b.note

end Barrier

end Rollout.Lag
