import Rollout.Proofs.Procedure.Alike
import Rollout.Proofs.Procedure.Shows

/-!
# Actions that stop at critical calls

Of an action that tolerates some failures and not others, `Conforms critical a S` says that what is
seen of it and its result are as `S` says; and if it stops at an error, then the last call was a
critical one that failed, and what was seen could have become what `S` asks for, had that call been
answered.
-/

namespace Rollout.Action

variable {α β ε : Type} {critical : Call → Prop} {S S' : List Event → α → Prop}
  {U : List Event → β → Prop}

/-- What was seen is a beginning of what `S` asks for, up to a critical call that failed. -/
def BrokenOff (critical : Call → Prop) (S : List Event → α → Prop) (events : List Event) : Prop :=
  ∃ before time c f, events = before ++ [(⟨time, c, .error f⟩ : Event)] ∧ critical c ∧
    ∃ answer after x, S (before ++ ⟨time, c, .ok answer⟩ :: after) x

/-- An action shows what `S` says, or stops at a critical call that failed. -/
structure Conforms (critical : Call → Prop) (a : ExceptT ε Procedure α)
    (S : List Event → α → Prop) : Prop where
  shows : Shows a S
  breaks : ∀ ⦃events e⦄, a.run.Yields events (.error e) → BrokenOff critical S events

namespace Conforms

/-- What an action conforms to is possible. -/
theorem satisfiable {a : ExceptT ε Procedure α} (h : Conforms critical a S) :
    ∃ events x, S events x := by
  obtain ⟨events, result, hy⟩ := Procedure.exists_yields a.run
  cases result with
  | ok x => exact ⟨events, x, h.shows hy⟩
  | error e =>
      obtain ⟨_, _, _, _, -, -, answer, after, x, hS⟩ := h.breaks hy
      exact ⟨_, x, hS⟩

theorem mono {a : ExceptT ε Procedure α} (h : Conforms critical a S)
    (sub : ∀ events x, S events x → S' events x) : Conforms critical a S' where
  shows := h.shows.mono sub
  breaks events e hy := by
    obtain ⟨before, time, c, f, hevents, hcritical, answer, after, x, hS⟩ := h.breaks hy
    exact ⟨before, time, c, f, hevents, hcritical, answer, after, x, sub _ _ hS⟩

theorem pure {x : α} (h : S [] x) : Conforms critical (pure x : ExceptT ε Procedure α) S where
  shows := .pure h
  breaks events e hy := by
    obtain ⟨-, hy⟩ := yields_pure_iff.1 hy
    cases hy

theorem bind {a : ExceptT ε Procedure α} {f : α → ExceptT ε Procedure β}
    (first : Conforms critical a S)
    (rest : ∀ x, Conforms critical (f x) fun events y =>
      ∀ before, S before x → U (before ++ events) y) : Conforms critical (a >>= f) U where
  shows := first.shows.bind fun x => (rest x).shows
  breaks events e hy := by
    rcases yields_bind_error_iff.1 hy with ha | ⟨x, start, events, rfl, ha, hf⟩
    -- the rest was not reached, but there is some way in which it could have gone
    · obtain ⟨before, time, c, f, rfl, hcritical, answer, after, x, hS⟩ := first.breaks ha
      obtain ⟨further, y, hU⟩ := (rest x).satisfiable
      exact ⟨before, time, c, f, rfl, hcritical, answer, after ++ further, y,
        by simpa using hU _ hS⟩
    · obtain ⟨before, time, c, f, rfl, hcritical, answer, after, y, hU⟩ := (rest x).breaks hf
      exact ⟨start ++ before, time, c, f, by simp, hcritical, answer, after, y,
        by simpa using hU _ (first.shows ha)⟩

theorem bind_pure {a : ExceptT ε Procedure α} {f : α → β}
    (h : Conforms critical a fun events x => U events (f x)) :
    Conforms critical (a >>= fun x => Pure.pure (f x)) U :=
  h.bind fun x => pure fun before hU => by rwa [List.append_nil]

theorem reply {c : Call} {report : Failure → Error} {S : List Event → c.Answer → Prop}
    [Nonempty c.Answer] (hcritical : critical c) (h : ∀ time x, S [⟨time, c, .ok x⟩] x) :
    Conforms critical (ExceptT.mk (.call c fun reply => .done (reply.mapError report))) S where
  shows := .reply h
  breaks events e hy := by
    obtain ⟨time, reply, rest, rfl, hrest⟩ := Procedure.yields_call_iff.1 hy
    obtain ⟨rfl, hreply⟩ := Procedure.yields_done_iff.1 hrest
    cases reply with
    | ok y => cases hreply
    | error f =>
        have answer : c.Answer := Classical.arbitrary _
        exact ⟨[], time, c, f, rfl, hcritical, answer, [], answer, h time answer⟩

theorem operate {doing : String} {op : Operation} {S : List Event → op.Answer → Prop}
    [Nonempty op.Answer] (hcritical : critical (.platform op))
    (h : ∀ time x, S [⟨time, .platform op, .ok x⟩] x) :
    Conforms critical (operate doing op) S :=
  reply hcritical h

theorem forEntity {a : Action α} {tenant : Option String} {entity : String}
    (h : Conforms critical a S) : Conforms critical (a.forEntity tenant entity) S where
  shows := h.shows.forEntity
  breaks events e hy := by
    obtain ⟨result, ha, hresult⟩ := Procedure.yields_map_iff.1 hy
    cases result with
    | ok x => cases hresult
    | error e' => exact h.breaks ha

theorem inStage {a : Action α} {stage : Stage} {tenant entity : Option String}
    (h : Conforms critical a S) : Conforms critical (inStage stage tenant entity a) S where
  shows := h.shows.inStage
  breaks events e hy := by
    obtain ⟨result, ha, hresult⟩ := Procedure.yields_map_iff.1 hy
    cases result with
    | ok x => cases hresult
    | error e' => exact h.breaks ha

theorem each {f : α → ExceptT ε Procedure β} {items : List α} {S : α → List Event → β → Prop}
    (item : ∀ x ∈ items, Conforms critical (f x) (S x)) :
    Conforms critical (each f items) (InTurn S items) := by
  induction items with
  | nil => exact pure .nil
  | cons x rest ih =>
      have others := ih fun x' h => item x' (List.mem_cons_of_mem _ h)
      refine (item x List.mem_cons_self).bind fun y => bind_pure (others.mono ?_)
      exact fun events ys hrest before hfirst => .cons hfirst hrest

theorem sweep {operation : α → Operation} {items : List α} :
    Conforms critical (sweep operation items) (Swept operation items) where
  shows := .sweep
  breaks _ _ hy := (StopsAt.sweep (E := fun _ => False) hy).elim

end Conforms

end Rollout.Action
