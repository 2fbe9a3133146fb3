import Rollout.Procedure.Scripted
import Rollout.Proofs.Lag.Feed
import Rollout.Proofs.Procedure.Laws
import Rollout.Proofs.Procedure.Retry

/-!
# How long a backlog is waited for

The wait for a tenant polls after an initial delay, and then an interval after each poll that leaves
it undecided. A poll decides when it reads as nothing left to consume, when it cannot be read and
when it fails; one that reads as something left, or carries no news, counts and decides nothing. So
the wait ends with the first poll that decides, or with the last one that the policy allows.
-/

namespace Rollout.Lag

variable {group tenant : String} {policy : LagPolicy}

/-- What comes back from a poll, read for a tenant. A poll that fails reads as its failure. -/
def readReply (group tenant : String) : Except Failure CommandOutput → Except Error Reading
  | .ok output => readLag output group tenant
  | .error f => .error (.other f)

theorem readReply_ok (output : CommandOutput) :
    readReply group tenant (.ok output) = readLag output group tenant := by
  rw [readReply]

/-- A reading ends the wait, well or badly. -/
def Decisive (reading : Except Error Reading) : Prop :=
  reading = .ok (.lag 0) ∨ ∃ e, reading = .error e

/-- A reading decides nothing when something is left or when it carries no news. -/
theorem not_decisive_iff {reading : Except Error Reading} :
    ¬ Decisive reading ↔ ∃ r, reading = .ok r ∧ r ≠ .lag 0 := by
  cases reading with
  | ok r => simp [Decisive]
  | error e => simp [Decisive]

instance (reading : Except Error Reading) : Decidable (Decisive reading) :=
  match reading with
  | .ok r => decidable_of_iff (r = .lag 0) (by simp [Decisive])
  | .error e => isTrue (.inr ⟨e, rfl⟩)

/-- One poll of a polling barrier: the wait ends if its reading decides, and otherwise goes on with
the barrier that has noted it, after a pause unless that was the last poll. -/
theorem pollOn_succ {b : Barrier} {last : Option Nat} (polling : b.state = .polling last)
    (made left : Nat) :
    (pollOn policy b made (left + 1)).run = .call (.describeGroup b.group) fun reply =>
      match readReply b.group b.tenant reply with
      | .error e => .done (.error e)
      | .ok r =>
          if r = .lag 0 then .done (.ok (made + 1))
          else if left = 0 then (pollOn policy (b.note r) (made + 1) left).run
          else .sleep policy.interval (pollOn policy (b.note r) (made + 1) left).run := by
  rw [pollOn, Action.request_bind]
  refine congrArg (Procedure.call _) (funext fun reply => ?_)
  cases reply with
  | error f => rfl
  | ok output =>
      simp only [readReply_ok]
      cases hread : readLag output b.group b.tenant with
      | error e =>
          have unread : b.observe output = .error e := by
            rw [Barrier.observe, polling]
            simp only [hread]
            rfl
          rw [unread]
          rfl
      | ok r =>
          simp only [Barrier.observe_eq polling hread, Action.ofExcept_ok_bind]
          by_cases empty : r = .lag 0
          · subst empty
            rfl
          · obtain ⟨last', polling'⟩ := Barrier.note_polling polling empty
            simp only [polling', if_neg empty]
            by_cases spent : left = 0
            · rw [if_pos spent, if_neg (not_not_intro spent)]
            · rw [if_neg spent, if_pos spent]
              rfl

/-- How the wait ends with a poll that decides, after some polls were made. -/
def settled? (group tenant : String) (made : Nat) (reply : Except Failure CommandOutput) :
    Option (Except Error Nat) :=
  let reading := readReply group tenant reply
  if Decisive reading then some (reading.map fun _ => made + 1) else none

/-- A polling barrier is polled like a call that is made until it settles something. -/
theorem pollOn_eq_retry {b : Barrier} {last : Option Nat} (polling : b.state = .polling last)
    (made left : Nat) :
    (pollOn policy b made left).run =
      retry (.describeGroup b.group) policy.interval (settled? b.group b.tenant)
        (.error (.lagExhausted b.group b.tenant policy.maxAttempts)) made left := by
  induction left generalizing b last made with
  | zero => rfl
  | succ left ih =>
      rw [pollOn_succ polling, retry]
      refine congrArg (Procedure.call _) (funext fun reply => ?_)
      cases hread : readReply b.group b.tenant reply with
      | error e =>
          have decisive : Decisive (Except.error e) := .inr ⟨e, rfl⟩
          simp only [settled?, hread, if_pos decisive]
          rfl
      | ok r =>
          by_cases empty : r = .lag 0
          · have decisive : Decisive (.ok r) := .inl (congrArg _ empty)
            simp only [settled?, hread, if_pos decisive, if_pos empty]
            rfl
          · obtain ⟨last', polling'⟩ := Barrier.note_polling polling empty
            have undecided : ¬ Decisive (.ok r) := not_decisive_iff.2 ⟨r, rfl, empty⟩
            have rest := ih polling' (made + 1)
            rw [Barrier.note_group, Barrier.note_tenant] at rest
            simp only [settled?, hread, if_neg undecided, if_neg empty, rest]
            by_cases spent : left = 0
            · subst spent
              rfl
            · rw [if_neg spent, if_neg spent]

/-- The wait for a tenant is a retry that starts after the initial delay. -/
theorem run_waitForDrain {σ : Type} (surroundings : Surroundings σ) (policy : LagPolicy)
    (group tenant : String) (state : σ) (start : Nat) :
    (waitForDrain group tenant policy).run.run surroundings state start =
      (retry (.describeGroup group) policy.interval (settled? group tenant)
        (.error (.lagExhausted group tenant policy.maxAttempts)) 0 policy.maxAttempts).run
          surroundings state (start + policy.initialDelay) := by
  have polled : (pollOn policy (.start group tenant) 0 policy.maxAttempts).run =
      retry (.describeGroup group) policy.interval (settled? group tenant)
        (.error (.lagExhausted group tenant policy.maxAttempts)) 0 policy.maxAttempts :=
    pollOn_eq_retry rfl 0 policy.maxAttempts
  exact congrArg (Procedure.run surroundings · state (start + policy.initialDelay)) polled

/-- The wait for a tenant ends with the first poll that decides, among as many as the policy allows:
it has made that poll and those before it, the first after the initial delay and each further one an
interval after the end of the one before. It answers how many they were if nothing is left to
consume, and else fails with what that poll met. If no poll decides, it has made all that the policy
allows and fails for want of polls. It lasts for the delay, the intervals between its polls and what
these take themselves, and no longer. -/
theorem waitForDrain_bounded {σ : Type} (surroundings : Surroundings σ) (policy : LagPolicy)
    (group tenant : String) (state : σ) (start : Nat) :
    let call := Call.describeGroup group
    let reply (i : Nat) := (surroundings.response call state i).reply
    let reading (i : Nat) := readReply group tenant (reply i)
    let time := surroundings.callTime call policy.interval state (start + policy.initialDelay)
    let elapsed (n : Nat) := ∑ i ∈ Finset.range n, (surroundings.response call state i).elapsed
    let polls (n : Nat) : List Event := (List.range n).map fun i => ⟨time i, call, reply i⟩
    let wait := (waitForDrain group tenant policy).run.run surroundings state start
    (∀ k < policy.maxAttempts, Decisive (reading k) → (∀ i < k, ¬ Decisive (reading i)) →
      wait.value = (reading k).map (fun _ => k + 1) ∧ wait.events = polls (k + 1) ∧
        wait.clock = start + policy.initialDelay + k * policy.interval + elapsed (k + 1)) ∧
    ((∀ i < policy.maxAttempts, ¬ Decisive (reading i)) →
      wait.value = .error (.lagExhausted group tenant policy.maxAttempts) ∧
        wait.events = polls policy.maxAttempts ∧
        wait.clock = start + policy.initialDelay + (policy.maxAttempts - 1) * policy.interval +
          elapsed policy.maxAttempts) := by
  intro call reply reading time elapsed polls wait
  constructor
  · intro k within decisive first
    have ended : wait = _ := (run_waitForDrain surroundings policy group tenant state start).trans
      (run_retry_settled within (if_pos decisive) fun i hi => if_neg (first i hi))
    rw [ended]
    refine ⟨?_, rfl, surroundings.callEnd_eq_sum call policy.interval state _ (k + 1)⟩
    rw [Nat.zero_add]
  · intro none
    have ended : wait = _ := (run_waitForDrain surroundings policy group tenant state start).trans
      (run_retry_spent fun i hi => if_neg (none i hi))
    rw [ended]
    exact ⟨rfl, rfl, surroundings.callEnd_eq_sum call policy.interval state _ policy.maxAttempts⟩

/-- A script in which something is left, then the group is rebalancing, and then nothing is left. -/
def draining : Scripted.Script where
  probes := []
  polls := [.ok (Barrier.lagging "5"), .ok ⟨"", rebalancing "group"⟩, .ok (Barrier.lagging "0")]
  tokens := .missing

def unpolled : Scripted.State := ⟨⟨∅, ∅, [], [], ∅, ∅, ∅, [], []⟩, [], 0⟩

/-- With three polls allowed the wait ends well with the last one; with two it fails, and no
interval follows the second. -/
theorem waitForDrain_bounded_draining :
    let reading (i : Nat) := readReply "group" "north"
      ((Scripted.surroundings draining).response (.describeGroup "group") unpolled i).reply
    let wait (polls : Nat) := (waitForDrain "group" "north" ⟨1000, 100, polls⟩).run.run
      (Scripted.surroundings draining) unpolled 0
    (Decisive (reading 2) ∧ ∀ i < 2, ¬ Decisive (reading i)) ∧
      ((wait 3).value = .ok 3 ∧ (wait 3).events.map (·.time) = [1000, 1100, 1200] ∧
        (wait 3).clock = 1200) ∧
      (wait 2).value = .error (.lagExhausted "group" "north" 2) ∧
        (wait 2).events.map (·.time) = [1000, 1100] ∧ (wait 2).clock = 1100 := by
  intro reading wait
  have decisive : Decisive (reading 2) := by decide +kernel
  have undecided : ∀ i < 2, ¬ Decisive (reading i) := by decide +kernel
  have empty : reading 2 = .ok (.lag 0) := by decide +kernel
  obtain ⟨ends, -⟩ := waitForDrain_bounded (Scripted.surroundings draining) ⟨1000, 100, 3⟩ "group"
    "north" unpolled 0
  obtain ⟨-, fails⟩ := waitForDrain_bounded (Scripted.surroundings draining) ⟨1000, 100, 2⟩ "group"
    "north" unpolled 0
  obtain ⟨value, events, clock⟩ := ends 2 (by decide) decisive undecided
  obtain ⟨value', events', clock'⟩ := fails undecided
  refine ⟨⟨decisive, undecided⟩, ⟨value.trans (congrArg _ empty), ?_, ?_⟩, value', ?_, ?_⟩
  · rw [events]
    rfl
  · exact clock.trans (by decide +kernel)
  · rw [events']
    rfl
  · exact clock'.trans (by decide +kernel)

end Rollout.Lag
