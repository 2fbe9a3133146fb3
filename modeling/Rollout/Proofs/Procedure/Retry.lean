import Mathlib.Algebra.BigOperators.Group.Finset.Basic
import Rollout.Proofs.Procedure.Runs

/-!
# Making a call until it settles something

`retry` makes one call again and again, with a pause between the end of one and the start of the
next, until a reply settles how to end or no calls are left. What it meets in some surroundings is
a sequence that is fixed beforehand: the state after `n` calls is the `n`-th iterate of the
surroundings, so `response`, `callTime` and `callEnd` tell of each call what comes back, when it is
made and when it is over, whether or not it is ever reached.

A retry is then known from the first reply that settles something (`run_retry_settled`), or from
none of them doing so (`run_retry_spent`).
-/

namespace Rollout

variable {σ α : Type}

namespace Surroundings

variable (surroundings : Surroundings σ) (c : Call)

def stateAfter (state : σ) (n : Nat) : σ := (fun s => (surroundings.answer c s).2)^[n] state

def response (state : σ) (n : Nat) : Response c :=
  (surroundings.answer c (surroundings.stateAfter c state n)).1

/-- When the call is made that comes after `n` others, if the first one is made at a start and each
of them a pause after the end of the one before it. -/
def callTime (pause : Nat) (state : σ) (start : Nat) : Nat → Nat
  | 0 => start
  | n + 1 => callTime pause state start n + (surroundings.response c state n).elapsed + pause

def callEnd (pause : Nat) (state : σ) (start : Nat) : Nat → Nat
  | 0 => start
  | n + 1 => surroundings.callTime c pause state start n + (surroundings.response c state n).elapsed

def callEvents (pause : Nat) (state : σ) (start n : Nat) : List Event :=
  (List.range n).map fun i =>
    ⟨surroundings.callTime c pause state start i, c, (surroundings.response c state i).reply⟩

variable (pause : Nat) (state : σ) (start n : Nat)

/-- The calls that come after the first one are made from the state that it leaves, the next one a
pause after its end. -/
theorem callTime_cons : surroundings.callTime c pause state start (n + 1) =
    surroundings.callTime c pause (surroundings.answer c state).2
      (start + (surroundings.answer c state).1.elapsed + pause) n := by
  induction n with
  | zero => rfl
  | succ n ih =>
      rw [callTime, ih]
      rfl

theorem callEnd_cons : surroundings.callEnd c pause state start (n + 2) =
    surroundings.callEnd c pause (surroundings.answer c state).2
      (start + (surroundings.answer c state).1.elapsed + pause) (n + 1) := by
  rw [callEnd, callTime_cons]
  rfl

/-- Some calls are over when the last of them is. -/
theorem callEnd_of_some {n : Nat} (some : n ≠ 0) : surroundings.callEnd c pause state start n =
    surroundings.callTime c pause state start (n - 1) +
      (surroundings.response c state (n - 1)).elapsed := by
  obtain ⟨last, rfl⟩ := Nat.exists_eq_succ_of_ne_zero some
  rfl

theorem callEvents_cons : surroundings.callEvents c pause state start (n + 1) =
    ⟨start, c, (surroundings.answer c state).1.reply⟩ ::
      surroundings.callEvents c pause (surroundings.answer c state).2
        (start + (surroundings.answer c state).1.elapsed + pause) n := by
  have later : ∀ i, (⟨surroundings.callTime c pause state start (i + 1), c,
      (surroundings.response c state (i + 1)).reply⟩ : Event) =
      ⟨surroundings.callTime c pause (surroundings.answer c state).2
        (start + (surroundings.answer c state).1.elapsed + pause) i, c,
        (surroundings.response c (surroundings.answer c state).2 i).reply⟩ := by
    intro i
    rw [callTime_cons]
    rfl
  rw [callEvents, List.range_succ_eq_map, List.map_cons, List.map_map]
  exact congrArg (_ :: ·) (List.map_congr_left fun i _ => later i)

/-- The time at which `n` calls are over is made up of the pauses between them and of the time that
they take themselves. -/
theorem callEnd_eq_sum : surroundings.callEnd c pause state start n =
    start + (n - 1) * pause + ∑ i ∈ Finset.range n, (surroundings.response c state i).elapsed := by
  cases n with
  | zero => simp [callEnd]
  | succ n =>
      have time : surroundings.callTime c pause state start n =
          start + n * pause +
            ∑ i ∈ Finset.range n, (surroundings.response c state i).elapsed := by
        induction n with
        | zero => simp [callTime]
        | succ n ih =>
            rw [callTime, ih, Finset.sum_range_succ, Nat.add_mul]
            omega
      rw [callEnd, time, Finset.sum_range_succ, Nat.add_sub_cancel, Nat.add_assoc]

end Surroundings

/-- Makes a call with `left` calls still to make, after those that were made, until a reply settles
how to end; when none are left, it ends with `spent`. -/
def retry (c : Call) (pause : Nat) (settles : Nat → c.Reply → Option α) (spent : α) (made : Nat) :
    (left : Nat) → Procedure α
  | 0 => .done spent
  | left + 1 => .call c fun reply =>
      match settles made reply with
      | some value => .done value
      | none =>
          if left = 0 then .done spent
          else .sleep pause (retry c pause settles spent (made + 1) left)

section

variable {surroundings : Surroundings σ} {c : Call} {pause made left : Nat}
  {settles : Nat → c.Reply → Option α} {spent : α} {state : σ} {clock : Nat}

/-- After a reply that settles nothing a retry goes on, if calls are left, a pause later. -/
theorem run_retry_unsettled (unsettled : settles made (surroundings.answer c state).1.reply = none)
    (goesOn : left ≠ 0) :
    (retry c pause settles spent made (left + 1)).run surroundings state clock =
      let rest := (retry c pause settles spent (made + 1) left).run surroundings
        (surroundings.answer c state).2 (clock + (surroundings.answer c state).1.elapsed + pause)
      { rest with
        events := ⟨clock, c, (surroundings.answer c state).1.reply⟩ :: rest.events } := by
  rw [retry, Procedure.run]
  simp only [unsettled, if_neg goesOn, Procedure.run_sleep]

/-- A retry ends with the first reply that settles something, when it has come back. -/
theorem run_retry_settled {k : Nat} (within : k < left) {value : α}
    (settled : settles (made + k) (surroundings.response c state k).reply = some value)
    (first : ∀ i < k, settles (made + i) (surroundings.response c state i).reply = none) :
    (retry c pause settles spent made left).run surroundings state clock =
      ⟨value, surroundings.stateAfter c state (k + 1),
        surroundings.callEnd c pause state clock (k + 1),
        surroundings.callEvents c pause state clock (k + 1)⟩ := by
  obtain ⟨left, rfl⟩ := Nat.exists_eq_succ_of_ne_zero (Nat.ne_zero_of_lt within)
  induction k generalizing made left state clock with
  | zero =>
      have now : settles made (surroundings.answer c state).1.reply = some value := settled
      rw [retry, Procedure.run]
      simp only [now]
      rfl
  | succ k ih =>
      have now : settles made (surroundings.answer c state).1.reply = none :=
        first 0 (Nat.succ_pos k)
      have goesOn : left ≠ 0 := by omega
      obtain ⟨left, rfl⟩ := Nat.exists_eq_succ_of_ne_zero goesOn
      rw [run_retry_unsettled now goesOn,
        ih (by rw [Nat.add_right_comm]; exact settled)
          (fun i hi => by rw [Nat.add_right_comm]; exact first (i + 1) (Nat.succ_lt_succ hi))
          left (Nat.lt_of_succ_lt_succ within),
        surroundings.callEnd_cons, surroundings.callEvents_cons c pause state clock]
      rfl

/-- A retry in which no reply settles anything makes all of its calls. -/
theorem run_retry_spent
    (unsettled : ∀ i < left, settles (made + i) (surroundings.response c state i).reply = none) :
    (retry c pause settles spent made left).run surroundings state clock =
      ⟨spent, surroundings.stateAfter c state left,
        surroundings.callEnd c pause state clock left,
        surroundings.callEvents c pause state clock left⟩ := by
  induction left generalizing made state clock with
  | zero => rfl
  | succ left ih =>
      have now : settles made (surroundings.answer c state).1.reply = none :=
        unsettled 0 (Nat.succ_pos left)
      by_cases last : left = 0
      · subst last
        rw [retry, Procedure.run]
        simp only [now]
        rfl
      · obtain ⟨left, rfl⟩ := Nat.exists_eq_succ_of_ne_zero last
        rw [run_retry_unsettled now last,
          ih fun i hi => by rw [Nat.add_right_comm]; exact unsettled (i + 1) (Nat.succ_lt_succ hi),
          surroundings.callEnd_cons, surroundings.callEvents_cons c pause state clock]
        rfl

end

end Rollout
