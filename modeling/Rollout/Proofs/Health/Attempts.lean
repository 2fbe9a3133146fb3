import Rollout.Proofs.Health.Alone
import Rollout.Proofs.Procedure.Retry
import Rollout.Proofs.Procedure.Stops

/-!
# How long a module is waited for

The wait for a module probes it until a probe finds it healthy, each time an interval after the end
of the probe before it. Whatever the probes answer, and however long they take, it makes no more of
them than it needs and no more than the policy allows, and ends when the last of them has.
-/

namespace Rollout.Health

variable {σ : Type} {surroundings : Surroundings σ} {policy : ProbePolicy} {target : Target}

/-- What came back from a probe is a body that says that the module is healthy. -/
def Accepted (reply : Except Failure String) : Prop :=
  ∃ body, reply = .ok body ∧ isHealthy body = true

theorem foundHealthy_iff {reply : Except Failure String} :
    foundHealthy reply = true ↔ Accepted reply := by
  cases reply with
  | ok body => simp [foundHealthy, Accepted]
  | error f => simp [foundHealthy, Accepted]

instance (reply : Except Failure String) : Decidable (Accepted reply) :=
  decidable_of_iff _ foundHealthy_iff

/-- The outcome of a wait that a reply settles, after some probes were made. -/
def settled? (name : String) (made : Nat) (reply : Except Failure String) : Option Outcome :=
  if foundHealthy reply then some (.ok ⟨name, made + 1⟩) else none

theorem settled?_of_accepted {reply : Except Failure String} (h : Accepted reply) (made : Nat) :
    settled? target.name made reply = some (.ok ⟨target.name, made + 1⟩) :=
  if_pos (foundHealthy_iff.2 h)

theorem settled?_of_not_accepted {reply : Except Failure String} (h : ¬ Accepted reply)
    (made : Nat) : settled? target.name made reply = none :=
  if_neg fun found => h (foundHealthy_iff.1 found)

/-- The wait for a module with attempts left lets the interval pass and goes on as a retry. -/
theorem probeOn_eq_retry (made left : Nat) :
    probeOn target policy made (left + 1) = .sleep policy.interval
      (retry (.probe target.port) policy.interval (settled? target.name)
        (exhausted target.name policy) made (left + 1)) := by
  induction left generalizing made with
  | zero =>
      rw [probeOn, retry]
      congr 2
      funext reply
      by_cases found : foundHealthy reply = true
      · simp [settled?, found]
      · simp [settled?, found, probeOn]
  | succ left ih =>
      rw [probeOn, retry]
      congr 2
      funext reply
      by_cases found : foundHealthy reply = true
      · simp [settled?, found]
      · simp [settled?, found, ih]

/-- A wait with an attempt to make is a retry that starts an interval later. -/
theorem run_awaitHealthy (some : policy.maxAttempts ≠ 0) (state : σ) (start : Nat) :
    (awaitHealthy target policy).run.run surroundings state start =
      (retry (.probe target.port) policy.interval (settled? target.name)
        (exhausted target.name policy) 0 policy.maxAttempts).run surroundings state
          (start + policy.interval) := by
  obtain ⟨left, hleft⟩ := Nat.exists_eq_succ_of_ne_zero some
  show (probeOn target policy 0 policy.maxAttempts).run surroundings state start = _
  rw [hleft, probeOn_eq_retry, Procedure.run_sleep]

/-- Whatever the probes meet, the wait for a module fails only for want of attempts. -/
theorem awaitHealthy_stops (target : Target) (policy : ProbePolicy) :
    Action.StopsAt (· = .healthExhausted target.name policy.maxAttempts)
      (awaitHealthy target policy) := by
  intro events e hy
  have probed : ∀ left made events, (probeOn target policy made left).Yields events (.error e) →
      e = .healthExhausted target.name policy.maxAttempts := by
    intro left
    induction left with
    | zero =>
        intro made events h
        exact Except.error.inj (Procedure.yields_done_iff.1 h).2
    | succ left ih =>
        intro made events h
        obtain ⟨time, reply, rest, -, hrest⟩ :=
          Procedure.yields_call_iff.1 (Procedure.yields_sleep_iff.1 h)
        by_cases found : foundHealthy reply = true
        · rw [if_pos found] at hrest
          cases (Procedure.yields_done_iff.1 hrest).2
        · rw [if_neg found] at hrest
          exact ih (made + 1) rest hrest
  exact probed policy.maxAttempts 0 events hy

/-- The wait for a module ends with the first probe, among as many as the policy allows, that
answers a body which says that it is healthy: it has made that probe and those before it, the first
an interval after the start and each further one an interval after the end of the one before, and
tells how many they were when the last has ended. A probe that fails is one that was made. If no
probe answers such a body, the wait has made all that the policy allows and fails for want of
attempts, at the end of the last one; when none are allowed, at once. Nothing else makes it fail. -/
theorem awaitHealthy_bounded (surroundings : Surroundings σ) (policy : ProbePolicy)
    (target : Target) (state : σ) (start : Nat) :
    let call := Call.probe target.port
    let reply (i : Nat) := (surroundings.response call state i).reply
    let time := surroundings.callTime call policy.interval state (start + policy.interval)
    let elapsed (i : Nat) := (surroundings.response call state i).elapsed
    let probes (n : Nat) : List Event := (List.range n).map fun i => ⟨time i, call, reply i⟩
    let wait := (awaitHealthy target policy).run.run surroundings state start
    (∀ k < policy.maxAttempts, Accepted (reply k) → (∀ i < k, ¬ Accepted (reply i)) →
      wait.value = .ok ⟨target.name, k + 1⟩ ∧ wait.events = probes (k + 1) ∧
        wait.clock = time k + elapsed k) ∧
    ((∀ i < policy.maxAttempts, ¬ Accepted (reply i)) →
      wait.value = .error (.healthExhausted target.name policy.maxAttempts) ∧
        wait.events = probes policy.maxAttempts ∧
        wait.clock = if policy.maxAttempts = 0 then start
          else time (policy.maxAttempts - 1) + elapsed (policy.maxAttempts - 1)) ∧
    (∀ e, wait.value = .error e → e = .healthExhausted target.name policy.maxAttempts) ∧
    time 0 = start + policy.interval ∧
    ∀ i, time (i + 1) = time i + elapsed i + policy.interval := by
  intro call reply time elapsed probes wait
  have stops (e : Error) (failed : wait.value = .error e) :=
    (awaitHealthy_stops target policy).of_run failed
  refine ⟨?_, ?_, stops, rfl, fun _ => rfl⟩
  · intro k within accepted first
    have ended : wait = _ := (run_awaitHealthy (Nat.ne_zero_of_lt within) state start).trans
      (run_retry_settled within (settled?_of_accepted accepted _)
        fun i hi => settled?_of_not_accepted (first i hi) _)
    rw [ended, Nat.zero_add]
    exact ⟨rfl, rfl, rfl⟩
  · intro none
    by_cases unlimited : policy.maxAttempts = 0
    · have ended : wait = _ := awaitHealthy_none unlimited target start
      rw [ended, if_pos unlimited]
      exact ⟨rfl, by simp [probes, unlimited], rfl⟩
    · have ended : wait = _ := (run_awaitHealthy unlimited state start).trans
        (run_retry_spent fun i hi => settled?_of_not_accepted (none i hi) _)
      rw [ended, if_neg unlimited]
      exact ⟨rfl, rfl, surroundings.callEnd_of_some call policy.interval state _ unlimited⟩

/-- The second probe is the first that finds the module healthy: with two attempts allowed the wait
ends well, and with one it fails. -/
theorem awaitHealthy_bounded_last :
    let reply (i : Nat) := ((Scripted.surroundings flaky).response (.probe 8081) unprobed i).reply
    let wait (attempts : Nat) := (awaitHealthy ⟨"mod-b", 8081⟩ ⟨100, attempts⟩).run.run
      (Scripted.surroundings flaky) unprobed 0
    (¬ Accepted (reply 0) ∧ Accepted (reply 1)) ∧
      ((wait 2).value = .ok ⟨"mod-b", 2⟩ ∧ (wait 2).events.map (·.time) = [100, 205] ∧
        (wait 2).clock = 210) ∧
      (wait 1).value = .error (.healthExhausted "mod-b" 1) ∧
        (wait 1).events.map (·.time) = [100] ∧ (wait 1).clock = 105 := by
  intro reply wait
  have down : ∀ i < 1, ¬ Accepted (reply i) := by decide +kernel
  have up : Accepted (reply 1) := by decide +kernel
  obtain ⟨ends, -⟩ := awaitHealthy_bounded (Scripted.surroundings flaky) ⟨100, 2⟩
    ⟨"mod-b", 8081⟩ unprobed 0
  obtain ⟨-, fails, -⟩ := awaitHealthy_bounded (Scripted.surroundings flaky) ⟨100, 1⟩
    ⟨"mod-b", 8081⟩ unprobed 0
  obtain ⟨value, events, clock⟩ := ends 1 (by decide) up down
  obtain ⟨value', events', clock'⟩ := fails down
  refine ⟨⟨down 0 Nat.zero_lt_one, up⟩, ⟨value, ?_, clock⟩, value', ?_, clock'⟩
  · rw [events]
    rfl
  · rw [events']
    rfl

end Rollout.Health
