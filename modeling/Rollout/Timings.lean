import Rollout.Health.Verdict
import Rollout.Lag.Wait
import Rollout.Text.Decimal

/-!
# Timings

How long a rollout waits at its barriers, in milliseconds, and how often it looks. The environment
may give each duration in whole seconds and each number of attempts, of which at least one is made;
a setting that is no such number counts as not given.
-/

namespace Rollout

/-- The waits and the numbers of attempts of the two barriers, and how long a request may take. -/
structure Timings where
  healthInterval : Nat
  healthMaxAttempts : Nat
  lagInterval : Nat
  lagMaxAttempts : Nat
  lagInitialDelay : Nat
  httpTimeout : Nat
  deriving DecidableEq, Repr

namespace Timings

def seconds (n : Nat) : Nat := 1000 * n

def standard : Timings where
  healthInterval := seconds 30
  healthMaxAttempts := 50
  lagInterval := seconds 30
  lagMaxAttempts := 120
  lagInitialDelay := seconds 3
  httpTimeout := seconds 60

def variableName (name : String) : String := "ROLLOUT_" ++ name

def duration (env : String → Option String) (name : String) (unset : Nat) : Nat :=
  match (env (variableName name)).bind fun s => Text.decimal? UInt64.size s.toList with
  | some n => seconds n
  | none => unset

def attempts (env : String → Option String) (name : String) (unset : Nat) : Nat :=
  max 1 (((env (variableName name)).bind fun s => Text.decimal? UInt32.size s.toList).getD unset)

def variableNames : List String :=
  ["HEALTH_INTERVAL_SECS", "HEALTH_MAX_ATTEMPTS", "LAG_INTERVAL_SECS", "LAG_MAX_ATTEMPTS",
    "LAG_INITIAL_DELAY_SECS", "HTTP_TIMEOUT_SECS"].map variableName

def ofEnvironment (env : String → Option String) : Timings where
  healthInterval := duration env "HEALTH_INTERVAL_SECS" standard.healthInterval
  healthMaxAttempts := attempts env "HEALTH_MAX_ATTEMPTS" standard.healthMaxAttempts
  lagInterval := duration env "LAG_INTERVAL_SECS" standard.lagInterval
  lagMaxAttempts := attempts env "LAG_MAX_ATTEMPTS" standard.lagMaxAttempts
  lagInitialDelay := duration env "LAG_INITIAL_DELAY_SECS" standard.lagInitialDelay
  httpTimeout := duration env "HTTP_TIMEOUT_SECS" standard.httpTimeout

def probePolicy (t : Timings) : Health.ProbePolicy := ⟨t.healthInterval, t.healthMaxAttempts⟩

def lagPolicy (t : Timings) : Lag.LagPolicy := ⟨t.lagInitialDelay, t.lagInterval, t.lagMaxAttempts⟩

end Timings

end Rollout
