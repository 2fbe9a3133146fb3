import Rollout.Health.Body
import Rollout.Procedure.Action

/-!
# Waiting for modules to become healthy

`awaitHealthy` waits for one module: it lets the interval pass and probes, until a probe finds the
module healthy or the attempts are used up.
`awaitAllHealthy` waits for several modules side by side.
-/

namespace Rollout.Health

/-- Probes a module with `left` attempts still to make, after those that were made. -/
def probeOn (target : Target) (policy : ProbePolicy) (made : Nat) :
    (left : Nat) → Procedure Outcome
  | 0 => .done (exhausted target.name policy)
  | left + 1 =>
      .sleep policy.interval <| .call (.probe target.port) fun reply =>
        if foundHealthy reply then .done (.ok ⟨target.name, made + 1⟩)
        else probeOn target policy (made + 1) left

def awaitHealthy (target : Target) (policy : ProbePolicy) : Action Healthy :=
  ExceptT.mk (probeOn target policy 0 policy.maxAttempts)

def awaitAllHealthy (targets : List Target) (policy : ProbePolicy) : Action (List Healthy) :=
  ExceptT.mk (.gate targets policy fun outcomes => .done (verdict outcomes))

end Rollout.Health
