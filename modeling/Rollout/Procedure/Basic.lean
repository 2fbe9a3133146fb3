import Rollout.Health.Verdict
import Rollout.Lag.Reading
import Rollout.Platform.Operation

/-!
# Procedures

A procedure is what a rollout does, before anything is known of what it meets: a tree whose nodes
call a collaborator, let time pass or wait at the health gate, and whose branches are all the
answers that may come back. `Procedure` is a lawful monad, so a statement about every behaviour of
the collaborators is one about the tree.

The gate is a node of its own because its waits go on side by side. It hands on how they ended, in
the order in which they did.
-/

namespace Rollout

inductive Call where
  | platform (operation : Operation)
  | accessToken (tenant : String)
  | describeGroup (group : String)
  | probe (port : Port)

abbrev Call.Answer : Call → Type
  | platform operation => operation.Answer
  | accessToken _ => String
  | describeGroup _ => Lag.CommandOutput
  | probe _ => String

abbrev Call.Reply (c : Call) : Type := Except Failure c.Answer

/-- A way of proceeding that ends with a value. Durations are in milliseconds. -/
inductive Procedure (α : Type) : Type where
  | done (value : α)
  | call (c : Call) (next : c.Reply → Procedure α)
  | sleep (duration : Nat) (next : Procedure α)
  | gate (targets : List Health.Target) (policy : Health.ProbePolicy)
      (next : List Health.Outcome → Procedure α)

namespace Procedure

variable {α β γ : Type}

def bind : Procedure α → (α → Procedure β) → Procedure β
  | done value, f => f value
  | call c next, f => call c fun reply => (next reply).bind f
  | sleep duration next, f => sleep duration (next.bind f)
  | gate targets policy next, f => gate targets policy fun outcomes => (next outcomes).bind f

instance : Monad Procedure where
  pure := done
  bind := bind

@[simp] theorem pure_eq (value : α) : (pure value : Procedure α) = done value := rfl

@[simp] theorem done_bind (value : α) (f : α → Procedure β) : (done value >>= f) = f value := rfl

@[simp] theorem call_bind (c : Call) (next : c.Reply → Procedure α) (f : α → Procedure β) :
    (call c next >>= f) = call c fun reply => next reply >>= f := rfl

@[simp] theorem sleep_bind (duration : Nat) (next : Procedure α) (f : α → Procedure β) :
    (sleep duration next >>= f) = sleep duration (next >>= f) := rfl

@[simp] theorem gate_bind (targets : List Health.Target) (policy : Health.ProbePolicy)
    (next : List Health.Outcome → Procedure α) (f : α → Procedure β) :
    (gate targets policy next >>= f) = gate targets policy fun outcomes => next outcomes >>= f :=
  rfl

theorem bind_done (p : Procedure α) : p >>= done = p := by
  induction p with
  | done value => rfl
  | call c next ih => exact congrArg (call c) (funext ih)
  | sleep duration next ih => exact congrArg (sleep duration) ih
  | gate targets policy next ih => exact congrArg (gate targets policy) (funext ih)

theorem bind_assoc (p : Procedure α) (f : α → Procedure β) (g : β → Procedure γ) :
    p >>= f >>= g = p >>= fun value => f value >>= g := by
  induction p with
  | done value => rfl
  | call c next ih => exact congrArg (call c) (funext ih)
  | sleep duration next ih => exact congrArg (sleep duration) ih
  | gate targets policy next ih => exact congrArg (gate targets policy) (funext ih)

instance : LawfulMonad Procedure :=
  LawfulMonad.mk' Procedure bind_done (fun _ _ => rfl) bind_assoc

def ask (c : Call) : Procedure c.Reply := call c done

def pause (duration : Nat) : Procedure Unit := sleep duration (done ())

end Procedure

end Rollout
