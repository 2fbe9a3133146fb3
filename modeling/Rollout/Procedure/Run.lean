import Rollout.Procedure.Gate

/-!
# Running a procedure

`run` lets a procedure meet its surroundings from a state and a time. Running one procedure after
another is running the first and then the second from where the first ended (`run_bind`), and what
is seen of it is what is seen of both.
-/

namespace Rollout.Procedure

variable {σ α β : Type}

def run (surroundings : Surroundings σ) : Procedure α → σ → Nat → Run σ α
  | done value, state, clock => ⟨value, state, clock, []⟩
  | call c next, state, clock =>
      let (response, after) := surroundings.answer c state
      let rest := (next response.reply).run surroundings after (clock + response.elapsed)
      { rest with events := ⟨clock, c, response.reply⟩ :: rest.events }
  | sleep duration next, state, clock => next.run surroundings state (clock + duration)
  | gate targets policy next, state, clock =>
      let waited := Health.playGate surroundings targets policy clock state
      let rest := (next waited.value).run surroundings waited.state waited.clock
      { rest with events := waited.events ++ rest.events }

theorem run_bind (surroundings : Surroundings σ) (p : Procedure α) (f : α → Procedure β)
    (state : σ) (clock : Nat) :
    (p >>= f).run surroundings state clock =
      let first := p.run surroundings state clock
      let rest := (f first.value).run surroundings first.state first.clock
      { rest with events := first.events ++ rest.events } := by
  induction p generalizing state clock with
  | done value => simp [run]
  | call c next ih => simp [run, ih]
  | sleep duration next ih => simp [run, ih]
  | gate targets policy next ih => simp [run, ih, List.append_assoc]

end Rollout.Procedure
