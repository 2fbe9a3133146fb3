import Rollout.Health.Body
import Rollout.Procedure.Surroundings

/-!
# Waiting side by side

At the health gate every module is waited for on its own: a probe follows the end of the one before
it after the interval of the policy, until one finds the module healthy or the attempts are used up.
The waits share nothing but the time, so the gate is played out by always making the probe that is
due first, and of several due at once the one of the module listed first.

Each probe uses up an attempt, which bounds the play.
-/

namespace Rollout.Health

/-- A module that is still waited for: its place in the list of targets, when its next probe is due,
and how many probes were made. -/
structure Waiter where
  place : Nat
  target : Target
  due : Nat
  attempts : Nat

structure Ended where
  place : Nat
  time : Nat
  outcome : Outcome

/-- Takes out the waiter that is due first. -/
def takeFirst : List Waiter → Option (Waiter × List Waiter)
  | [] => none
  | w :: rest =>
      match takeFirst rest with
      | none => some (w, [])
      | some (v, others) => if v.due < w.due then some (v, w :: others) else some (w, rest)

/-- Puts a waiter back among the others, in the order of their places. -/
def putBack (w : Waiter) : List Waiter → List Waiter
  | [] => [w]
  | v :: rest => if w.place < v.place then w :: v :: rest else v :: putBack w rest

/-- A waiter after a probe that ended at a time: its wait has ended, or goes on. -/
def Waiter.afterProbe (w : Waiter) (policy : ProbePolicy) (time : Nat) (healthy : Bool) :
    Sum Ended Waiter :=
  let attempts := w.attempts + 1
  if healthy then .inl ⟨w.place, time, .ok ⟨w.target.name, attempts⟩⟩
  else if policy.maxAttempts ≤ attempts then .inl ⟨w.place, time, exhausted w.target.name policy⟩
  else .inr { w with due := time + policy.interval, attempts := attempts }

/-- Plays out at most `probes` probes. -/
def play {σ : Type} (surroundings : Surroundings σ) (policy : ProbePolicy) :
    (probes : Nat) → List Waiter → σ → List Event × List Ended × σ
  | 0, _, state => ([], [], state)
  | probes + 1, waiters, state =>
      match takeFirst waiters with
      | none => ([], [], state)
      | some (w, others) =>
          let (response, state) := surroundings.answer (.probe w.target.port) state
          let event : Event := ⟨w.due, .probe w.target.port, response.reply⟩
          match w.afterProbe policy (w.due + response.elapsed) (foundHealthy response.reply) with
          | .inl ended =>
              let (events, ends, state) := play surroundings policy probes others state
              (event :: events, ended :: ends, state)
          | .inr waiter =>
              let (events, ends, state) :=
                play surroundings policy probes (putBack waiter others) state
              (event :: events, ends, state)

/-- Whether a wait ended before another; of two that ended at once the one listed first. -/
def endedLe (a b : Ended) : Bool := a.time < b.time || (a.time == b.time && a.place ≤ b.place)

/-- The waiters at the start of the gate. -/
def waitersAt (start : Nat) (policy : ProbePolicy) (targets : List Target) : List Waiter :=
  targets.zipIdx.map fun t => ⟨t.2, t.1, start + policy.interval, 0⟩

/-- The gate from a start: the outcomes in the order in which the waits end, and the time at which
the last of them does. -/
def playGate {σ : Type} (surroundings : Surroundings σ) (targets : List Target)
    (policy : ProbePolicy) (start : Nat) (state : σ) : Run σ (List Outcome) :=
  if policy.maxAttempts = 0 then
    ⟨targets.map fun t => exhausted t.name policy, state, start, []⟩
  else
    let (events, ends, state) :=
      play surroundings policy (targets.length * policy.maxAttempts)
        (waitersAt start policy targets) state
    ⟨(ends.mergeSort endedLe).map (·.outcome), state,
      (ends.map (·.time)).foldl max start, events⟩

end Rollout.Health
