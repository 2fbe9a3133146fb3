import Rollout.Proofs.Procedure.Yields

/-!
# Where actions stop

`StopsAt E a` says that `E` holds of every error at which `a` may stop, whatever the collaborators
answer. A composition stops where one of its parts does.
-/

namespace Rollout

/-- An error that is attributed to no entity yet. -/
def Error.Bare (e : Error) : Prop := ∀ tenant entity source, e ≠ .attributed tenant entity source

theorem Error.Bare.inStage {e : Error} (h : e.Bare) (stage : Stage)
    (tenant entity : Option String) :
    e.inStage stage tenant entity = ⟨stage, tenant, entity, e⟩ := by
  cases e with
  | attributed inner name source => exact absurd rfl (h inner name source)
  | _ => rfl

namespace Action

variable {α β ε : Type} {E : ε → Prop}

/-- Something holds of every error at which an action may stop. -/
def StopsAt (E : ε → Prop) (a : ExceptT ε Procedure α) : Prop :=
  ∀ ⦃events e⦄, a.run.Yields events (.error e) → E e

namespace StopsAt

theorem mono {E' : ε → Prop} {a : ExceptT ε Procedure α} (h : StopsAt E a)
    (sub : ∀ e, E e → E' e) : StopsAt E' a :=
  fun _ _ hy => sub _ (h hy)

theorem pure {x : α} : StopsAt E (pure x : ExceptT ε Procedure α) := by
  intro events e hy
  obtain ⟨-, h⟩ := yields_pure_iff.1 hy
  cases h

theorem bind {a : ExceptT ε Procedure α} {f : α → ExceptT ε Procedure β} (first : StopsAt E a)
    (rest : ∀ x, StopsAt E (f x)) : StopsAt E (a >>= f) := by
  intro events e hy
  rcases yields_bind_error_iff.1 hy with ha | ⟨x, before, after, -, -, hf⟩
  · exact first ha
  · exact rest x hf

theorem ofExcept {E : Error → Prop} {result : Except Error α}
    (h : ∀ e, result = .error e → E e) : StopsAt E (ofExcept result) := by
  intro events e hy
  exact h e (Procedure.yields_done_iff.1 hy).2.symm

theorem throw {e : ε} (h : E e) : StopsAt E (throw e : ExceptT ε Procedure α) := by
  intro events e' hy
  cases (Procedure.yields_done_iff.1 hy).2
  exact h

theorem pause {duration : Nat} :
    StopsAt E (ExceptT.lift (Procedure.pause duration) : ExceptT ε Procedure Unit) := by
  intro events e hy
  obtain ⟨x, -, h⟩ := Procedure.yields_map_iff.1 hy
  cases h

/-- A call that fails is reported with what its failure tells. -/
theorem reply {E : Error → Prop} {c : Call} {report : Failure → Error} (h : ∀ f, E (report f)) :
    StopsAt E (ExceptT.mk (.call c fun reply => .done (reply.mapError report))) := by
  intro events e hy
  obtain ⟨time, reply, rest, -, hrest⟩ := Procedure.yields_call_iff.1 hy
  obtain ⟨-, hreply⟩ := Procedure.yields_done_iff.1 hrest
  cases reply with
  | ok x => cases hreply
  | error f =>
      cases hreply
      exact h _

theorem operate {E : Error → Prop} {doing : String} {op : Operation} (h : ∀ f, E (.other f)) :
    StopsAt E (operate doing op) :=
  reply fun _ => h _

theorem attempt {E : Error → Prop} {op : Operation} : StopsAt E (attempt op) := by
  intro events e hy
  obtain ⟨time, reply, rest, -, hrest⟩ := Procedure.yields_call_iff.1 hy
  cases (Procedure.yields_done_iff.1 hrest).2

theorem forEntity {E E' : Error → Prop} {a : Action α} {tenant : Option String} {entity : String}
    (h : StopsAt E a) (sub : ∀ e, E e → E' (e.forEntity tenant entity)) :
    StopsAt E' (a.forEntity tenant entity) := by
  intro events e hy
  obtain ⟨result, ha, hresult⟩ := Procedure.yields_map_iff.1 hy
  cases result with
  | ok x => cases hresult
  | error e' =>
      cases hresult
      exact sub e' (h ha)

theorem each {f : α → ExceptT ε Procedure β} {items : List α}
    (item : ∀ x ∈ items, StopsAt E (f x)) : StopsAt E (each f items) := by
  induction items with
  | nil => exact pure
  | cons x rest ih =>
      refine (item x List.mem_cons_self).bind fun y => ?_
      exact (ih fun x' h => item x' (List.mem_cons_of_mem _ h)).bind fun ys => pure

theorem sweep {operation : α → Operation} {items : List α} {E : Error → Prop} :
    StopsAt E (sweep operation items) := by
  induction items with
  | nil => exact pure
  | cons item rest ih => exact attempt.bind fun _ => ih.bind fun _ => pure

/-- The error at which a run has stopped. -/
theorem of_run {a : ExceptT ε Procedure α} (h : StopsAt E a) {σ : Type}
    {surroundings : Surroundings σ} {state : σ} {clock : Nat} {e : ε}
    (stopped : (a.run.run surroundings state clock).value = .error e) : E e :=
  h (stopped ▸ Procedure.yields_run surroundings a.run state clock)

end StopsAt

end Action

end Rollout
