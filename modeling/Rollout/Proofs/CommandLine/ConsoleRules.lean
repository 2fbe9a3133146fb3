import Rollout.CommandLine.Outcome
import Rollout.Proofs.Procedure.ActionRules

/-!
# Rules for commands

A command prints while it proceeds. What it prints plays no part in what it asks the collaborators
for, so a command abides by a rule as its stages do.
-/

namespace Rollout.CommandLine.Console

variable {α β : Type} {ok : History → Event → Prop} {P : History → Prop}
  {Q : α → History → Prop} {R : β → History → Prop}

/-- From a past in which `P` holds, and whatever is printed already, `a` shows what is allowed, and
`Q` holds of its result. -/
def Abides (ok : History → Event → Prop) (P : History → Prop) (a : Console α)
    (Q : α → History → Prop) : Prop :=
  ∀ printed, Procedure.Abides ok P (a.run.run printed) fun result => Action.onSuccess Q result.1

namespace Abides

theorem weaken {P' : History → Prop} {Q' : α → History → Prop} {a : Console α}
    (h : Abides ok P a Q) (pre : ∀ past, P' past → P past)
    (post : ∀ x past, Q x past → Q' x past) : Abides ok P' a Q' := by
  intro printed
  refine (h printed).weaken pre fun result past hQ => ?_
  cases hresult : result.1 with
  | ok x =>
      rw [hresult] at hQ
      exact post x past hQ
  | error fault => trivial

theorem pure {x : α} (h : ∀ past, P past → Q x past) : Abides ok P (pure x : Console α) Q :=
  fun _ => .done h

theorem throw {fault : Fault} : Abides ok P (throw fault : Console α) Q :=
  fun _ => .done fun _ _ => trivial

theorem bind {a : Console α} {f : α → Console β} (first : Abides ok P a Q)
    (rest : ∀ x, Abides ok (Q x) (f x) R) : Abides ok P (a >>= f) R := by
  intro printed
  refine (first printed).bind fun result => ?_
  obtain ⟨result, printed⟩ := result
  cases result with
  | ok x => exact rest x printed
  | error fault => exact .done fun _ _ => trivial

theorem stage {s : Staged α} (h : Action.Abides ok P s Q) : Abides ok P (stage s) Q := by
  intro printed
  refine Procedure.Abides.bind h fun result => .done fun past hQ => ?_
  cases result with
  | ok x => exact hQ
  | error failure => trivial

theorem print {format : Format} {o : Output} : Abides ok P (print format o) fun _ => P :=
  fun _ => .done fun _ => id

theorem report {format : Format} {s : Staged α} {output : α → Output}
    (h : Action.Abides ok P s fun _ => P) : Abides ok P (report format s output) fun _ => P :=
  (stage h).bind fun _ => print

/-- An assertion that every item keeps is kept. -/
theorem forEach {f : α → Console Unit} {items : List α}
    (item : ∀ x ∈ items, Abides ok P (f x) fun _ => P) :
    Abides ok P (forEach f items) fun _ => P := by
  induction items with
  | nil => exact .pure fun _ => id
  | cons x rest ih =>
      refine (item x List.mem_cons_self).bind fun _ => ?_
      exact ih fun x' h => item x' (List.mem_cons_of_mem _ h)

end Abides

end Rollout.CommandLine.Console
