import Rollout.Procedure.Action
import Rollout.Procedure.Run

/-!
# What a procedure can show

`p.Yields events value` says that `p` may show `events` and end with `value`, whatever the
collaborators answer: every call takes any reply at any time, and the gate goes on as it does in any
surroundings. Running a procedure is one way of yielding something (`yields_run`), so what holds of
all that a procedure yields holds in all surroundings, and the state of the surroundings need not be
mentioned.

A procedure in sequence with another yields what the first yields and then what the second does
(`yields_bind_iff`). For actions, which may stop at an error, there is one such lemma for a result
and one for an error.
-/

namespace Rollout

namespace Procedure

variable {α β ε ε' : Type}

/-- A procedure may show some events and end with a value. -/
inductive Yields : Procedure α → List Event → α → Prop
  | done (value : α) : Yields (.done value) [] value
  | call {c : Call} {next : c.Reply → Procedure α} {events : List Event} {value : α}
      (time : Nat) (reply : c.Reply) (rest : Yields (next reply) events value) :
      Yields (.call c next) (⟨time, c, reply⟩ :: events) value
  | sleep {duration : Nat} {next : Procedure α} {events : List Event} {value : α}
      (rest : Yields next events value) : Yields (.sleep duration next) events value
  | gate {targets : List Health.Target} {policy : Health.ProbePolicy}
      {next : List Health.Outcome → Procedure α} {events : List Event} {value : α} {σ : Type}
      (surroundings : Surroundings σ) (state : σ) (start : Nat)
      (rest : Yields (next (Health.playGate surroundings targets policy start state).value)
        events value) :
      Yields (.gate targets policy next)
        ((Health.playGate surroundings targets policy start state).events ++ events) value

theorem yields_run {σ : Type} (surroundings : Surroundings σ) (p : Procedure α) (state : σ)
    (clock : Nat) :
    p.Yields (p.run surroundings state clock).events (p.run surroundings state clock).value := by
  induction p generalizing state clock with
  | done value => exact .done value
  | call c next ih => exact .call _ _ (ih _ _ _)
  | sleep duration next ih => exact .sleep (ih _ _)
  | gate targets policy next ih => exact .gate surroundings state clock (ih _ _ _)

@[simp] theorem yields_done_iff {value result : α} {events : List Event} :
    (done value).Yields events result ↔ events = [] ∧ result = value := by
  constructor
  · intro h
    cases h
    exact ⟨rfl, rfl⟩
  · rintro ⟨rfl, rfl⟩
    exact .done _

theorem yields_call_iff {c : Call} {next : c.Reply → Procedure α} {events : List Event}
    {value : α} :
    (call c next).Yields events value ↔
      ∃ time reply rest, events = ⟨time, c, reply⟩ :: rest ∧ (next reply).Yields rest value := by
  constructor
  · intro h
    cases h with
    | call time reply rest => exact ⟨time, reply, _, rfl, rest⟩
  · rintro ⟨time, reply, rest, rfl, h⟩
    exact .call time reply h

@[simp] theorem yields_sleep_iff {duration : Nat} {next : Procedure α} {events : List Event}
    {value : α} : (sleep duration next).Yields events value ↔ next.Yields events value := by
  constructor
  · intro h
    cases h with
    | sleep rest => exact rest
  · exact .sleep

theorem Yields.bind {p : Procedure α} {f : α → Procedure β} {first second : List Event} {x : α}
    {y : β} (hp : p.Yields first x) (hf : (f x).Yields second y) :
    (p >>= f).Yields (first ++ second) y := by
  induction hp with
  | done value => exact hf
  | call time reply _ ih => exact .call time reply (ih hf)
  | sleep _ ih => exact .sleep (ih hf)
  | gate surroundings state start _ ih =>
      rw [List.append_assoc]
      exact .gate surroundings state start (ih hf)

theorem yields_bind_iff {p : Procedure α} {f : α → Procedure β} {events : List Event} {y : β} :
    (p >>= f).Yields events y ↔
      ∃ x first second, events = first ++ second ∧ p.Yields first x ∧ (f x).Yields second y := by
  constructor
  · intro h
    induction p generalizing events with
    | done value => exact ⟨value, [], events, rfl, .done value, h⟩
    | call c next ih =>
        obtain ⟨time, reply, rest, rfl, hrest⟩ := yields_call_iff.1 h
        obtain ⟨x, first, second, rfl, hp, hf⟩ := ih reply hrest
        exact ⟨x, _, second, rfl, .call time reply hp, hf⟩
    | sleep duration next ih =>
        obtain ⟨x, first, second, rfl, hp, hf⟩ := ih (yields_sleep_iff.1 h)
        exact ⟨x, first, second, rfl, .sleep hp, hf⟩
    | gate targets policy next ih =>
        cases h with
        | gate surroundings state start hrest =>
            obtain ⟨x, first, second, rfl, hp, hf⟩ := ih _ hrest
            exact ⟨x, _, second, (List.append_assoc ..).symm,
              .gate surroundings state start hp, hf⟩
  · rintro ⟨x, first, second, rfl, hp, hf⟩
    exact hp.bind hf

theorem yields_map_iff {p : Procedure α} {f : α → β} {events : List Event} {y : β} :
    (f <$> p).Yields events y ↔ ∃ x, p.Yields events x ∧ f x = y := by
  rw [← bind_pure_comp, yields_bind_iff]
  constructor
  · rintro ⟨x, first, second, rfl, hp, hf⟩
    obtain ⟨rfl, rfl⟩ := yields_done_iff.1 hf
    exact ⟨x, by simpa using hp, rfl⟩
  · rintro ⟨x, hp, rfl⟩
    exact ⟨x, events, [], by simp, hp, .done _⟩

end Procedure

namespace Action

open Procedure (Yields)

variable {α β ε : Type} {a : ExceptT ε Procedure α} {f : α → ExceptT ε Procedure β}
  {events : List Event}

theorem yields_bind_ok_iff {y : β} :
    (a >>= f).run.Yields events (.ok y) ↔
      ∃ x first second, events = first ++ second ∧ a.run.Yields first (.ok x) ∧
        (f x).run.Yields second (.ok y) := by
  rw [ExceptT.run_bind, Procedure.yields_bind_iff]
  constructor
  · rintro ⟨result, first, second, rfl, ha, hf⟩
    cases result with
    | ok x => exact ⟨x, first, second, rfl, ha, hf⟩
    | error e => simp at hf
  · rintro ⟨x, first, second, rfl, ha, hf⟩
    exact ⟨.ok x, first, second, rfl, ha, hf⟩

theorem yields_bind_error_iff {e : ε} :
    (a >>= f).run.Yields events (.error e) ↔
      a.run.Yields events (.error e) ∨
        ∃ x first second, events = first ++ second ∧ a.run.Yields first (.ok x) ∧
          (f x).run.Yields second (.error e) := by
  rw [ExceptT.run_bind, Procedure.yields_bind_iff]
  constructor
  · rintro ⟨result, first, second, rfl, ha, hf⟩
    cases result with
    | ok x => exact .inr ⟨x, first, second, rfl, ha, hf⟩
    | error e' =>
        obtain ⟨rfl, he⟩ := Procedure.yields_done_iff.1 hf
        cases he
        exact .inl (by simpa using ha)
  · rintro (ha | ⟨x, first, second, rfl, ha, hf⟩)
    · exact ⟨.error e, events, [], by simp, ha, .done _⟩
    · exact ⟨.ok x, first, second, rfl, ha, hf⟩

theorem yields_pure_iff {x : α} {result : Except ε α} :
    (pure x : ExceptT ε Procedure α).run.Yields events result ↔ events = [] ∧ result = .ok x :=
  Procedure.yields_done_iff

theorem yields_bind_pure_iff {g : α → β} {result : Except ε β} :
    (a >>= fun x => pure (g x)).run.Yields events result ↔
      ∃ first, a.run.Yields events first ∧ first.map g = result := by
  rw [bind_pure_comp, ExceptT.run_map, Procedure.yields_map_iff]

end Action

end Rollout
