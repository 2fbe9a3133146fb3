import Rollout.Error
import Rollout.Platform.Record

/-!
# The verdict of the health gate

The gate waits for several modules at once and hears of them in the order in which they are done.
If one of them ran out of attempts, the first of those that the gate heard of is its failure;
otherwise it answers all of them in the order of their names, and two of one name in the order in
which they were done.
-/

namespace Rollout.Health

structure Target where
  name : String
  port : Port
  deriving DecidableEq, Repr

/-- How long to wait before each probe, in milliseconds, and how many probes to make. -/
structure ProbePolicy where
  interval : Nat
  maxAttempts : Nat
  deriving DecidableEq, Repr

/-- A module that became healthy, and the number of probes that took. -/
structure Healthy where
  name : String
  attempts : Nat
  deriving DecidableEq, Repr

abbrev Outcome := Except Error Healthy

def exhausted (name : String) (policy : ProbePolicy) : Outcome :=
  .error (.healthExhausted name policy.maxAttempts)

/-- Those that became healthy, or the first failure. -/
def firstFailure : List Outcome → Except Error (List Healthy)
  | [] => .ok []
  | .error e :: _ => .error e
  | .ok h :: rest => (firstFailure rest).map (h :: ·)

def nameLe (a b : Healthy) : Bool := a.name ≤ b.name

def verdict (outcomes : List Outcome) : Except Error (List Healthy) :=
  (firstFailure outcomes).map (·.mergeSort nameLe)

end Rollout.Health
