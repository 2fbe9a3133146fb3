import Rollout.Procedure.Basic

/-!
# Surroundings

A procedure meets surroundings: whatever answers its calls, with a state of its own and time of its
own to take. `Event` is what an onlooker sees of a call: when it was made, what it was, and what
came back.
-/

namespace Rollout

/-- What comes back from a call, and after how many milliseconds. -/
structure Response (c : Call) where
  reply : c.Reply
  elapsed : Nat

/-- Whatever answers the calls of a procedure. -/
structure Surroundings (σ : Type) where
  answer : (c : Call) → σ → Response c × σ

structure Event where
  time : Nat
  call : Call
  reply : call.Reply

namespace Event

def probed? (e : Event) : Option (Nat × Port) :=
  match e.call with
  | .probe port => some (e.time, port)
  | _ => none

def polled? (e : Event) : Option String :=
  match e.call with
  | .describeGroup group => some group
  | _ => none

end Event

/-- The value that a procedure ends with, the state and the time at its end, and what was seen of it
in the order in which the calls were made. -/
structure Run (σ α : Type) where
  value : α
  state : σ
  clock : Nat
  events : List Event

end Rollout
