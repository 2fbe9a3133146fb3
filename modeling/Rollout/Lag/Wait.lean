import Rollout.Lag.Barrier
import Rollout.Procedure.Action

/-!
# Waiting for a backlog to be consumed

After an initial delay the consumer group is described again and again, with a pause after each
description that leaves the barrier polling, except the last. The wait ends when the barrier is
drained, at the first error, or when the polls are used up.
-/

namespace Rollout.Lag

/-- How long to wait before the first poll and between polls, in milliseconds, and how many polls to
make. -/
structure LagPolicy where
  initialDelay : Nat
  interval : Nat
  maxAttempts : Nat
  deriving DecidableEq, Repr

/-- Polls with `left` polls still to make, after those that were made; answers how many it took. -/
def pollOn (policy : LagPolicy) (barrier : Barrier) (made : Nat) : (left : Nat) → Action Nat
  | 0 => throw (.lagExhausted barrier.group barrier.tenant policy.maxAttempts)
  | left + 1 => do
      let output ← Action.request (.describeGroup barrier.group)
      let barrier ← Action.ofExcept (barrier.observe output)
      match barrier.state with
      | .drained => return made + 1
      | .polling _ =>
          if left ≠ 0 then ExceptT.lift (Procedure.pause policy.interval)
          pollOn policy barrier (made + 1) left

def waitForDrain (group tenant : String) (policy : LagPolicy) : Action Nat := do
  ExceptT.lift (Procedure.pause policy.initialDelay)
  pollOn policy (.start group tenant) 0 policy.maxAttempts

end Rollout.Lag
