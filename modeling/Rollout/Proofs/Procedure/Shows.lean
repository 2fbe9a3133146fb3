import Rollout.Proofs.Procedure.ActionRules
import Rollout.Proofs.Procedure.Stops

/-!
# What an action has shown when it succeeds

`Shows a S` says that what is seen of `a` and its result are related by `S` whenever `a` succeeds.
A list that is worked through shows one stretch of events for each item (`InTurn`), and a sweep
shows one attempt for each (`Swept`).
-/

namespace Rollout

/-- Items that are worked through one after the other, each with a result and with what is seen of
it. -/
inductive InTurn {α β : Type} (S : α → List Event → β → Prop) :
    List α → List Event → List β → Prop
  | nil : InTurn S [] [] []
  | cons {x : α} {xs : List α} {y : β} {ys : List β} {first rest : List Event}
      (head : S x first y) (tail : InTurn S xs rest ys) :
      InTurn S (x :: xs) (first ++ rest) (y :: ys)

/-- Items that are swept: each is attempted once, and those that succeed are kept. -/
inductive Swept {α : Type} (operation : α → Operation) : List α → List Event → List α → Prop
  | nil : Swept operation [] [] []
  | cons {item : α} {items kept : List α} {events : List Event} (time : Nat)
      (reply : Call.Reply (.platform (operation item))) (rest : Swept operation items events kept) :
      Swept operation (item :: items) (⟨time, .platform (operation item), reply⟩ :: events)
        (if reply.isOk then item :: kept else kept)

/-- A token is acquired for a tenant, and then work is done in the session that it opens. -/
def Admitted {α : Type} (tenant : String) (work : Session → List Event → α → Prop)
    (events : List Event) (x : α) : Prop :=
  ∃ time token rest, events = ⟨time, .accessToken tenant, .ok token⟩ :: rest ∧
    work ⟨tenant, token⟩ rest x

section

variable {α β : Type} {S S' : α → List Event → β → Prop} {items kept : List α} {ys : List β}
  {events : List Event} {operation : α → Operation}

theorem InTurn.mono (h : InTurn S items events ys)
    (sub : ∀ x events y, S x events y → S' x events y) : InTurn S' items events ys := by
  induction h with
  | nil => exact .nil
  | cons head _ ih => exact .cons (sub _ _ _ head) ih

/-- What holds of all that is seen of an item holds of all that is seen. -/
theorem InTurn.forall_mem {P : Event → Prop} (h : InTurn S items events ys)
    (item : ∀ x events y, S x events y → ∀ e ∈ events, P e) : ∀ e ∈ events, P e := by
  induction h with
  | nil => exact nofun
  | cons head _ ih => exact List.forall_mem_append.2 ⟨item _ _ _ head, ih⟩

/-- What is seen of the items is what is seen of each of them, put together. -/
theorem InTurn.map_eq_flatMap {γ : Type} {view : Event → γ} {shown : α → List γ}
    (h : InTurn S items events ys)
    (item : ∀ x events y, S x events y → events.map view = shown x) :
    events.map view = items.flatMap shown := by
  induction h with
  | nil => rfl
  | cons head _ ih => rw [List.map_append, List.flatMap_cons, item _ _ _ head, ih]

theorem Swept.forall_mem {P : Event → Prop} (h : Swept operation items events kept)
    (attempt : ∀ item ∈ items, ∀ time reply, P ⟨time, .platform (operation item), reply⟩) :
    ∀ e ∈ events, P e := by
  induction h with
  | nil => exact nofun
  | cons time reply _ ih =>
      have others := ih fun item' h => attempt item' (List.mem_cons_of_mem _ h)
      exact List.forall_mem_cons.2 ⟨attempt _ List.mem_cons_self time reply, others⟩

theorem Swept.calls (h : Swept operation items events kept) :
    events.map (·.call) = items.map fun item => .platform (operation item) := by
  induction h with
  | nil => rfl
  | cons time reply _ ih => rw [List.map_cons, List.map_cons, ih]

/-- What is kept in a sweep can be read off from what is seen of it. -/
theorem Swept.kept_eq (h : Swept operation items events kept) :
    kept = ((items.zip events).filter (·.2.reply.isOk)).map (·.1) := by
  induction h with
  | nil => rfl
  | cons time reply _ ih =>
      rw [List.zip_cons_cons, List.filter_cons]
      by_cases succeeded : reply.isOk = true
      · rw [if_pos succeeded, if_pos succeeded, List.map_cons, ← ih]
      · rw [if_neg succeeded, if_neg succeeded, ih]

end

namespace Action

open Procedure (Yields)

variable {α β ε : Type} {S S' : List Event → α → Prop} {U : List Event → β → Prop}

/-- What is seen of an action that succeeds, and its result, are as `S` says. -/
def Shows (a : ExceptT ε Procedure α) (S : List Event → α → Prop) : Prop :=
  ∀ ⦃events x⦄, a.run.Yields events (.ok x) → S events x

namespace Shows

theorem mono {a : ExceptT ε Procedure α} (h : Shows a S)
    (sub : ∀ events x, S events x → S' events x) : Shows a S' :=
  fun _ _ hy => sub _ _ (h hy)

theorem and {a : ExceptT ε Procedure α} (h : Shows a S) (h' : Shows a S') :
    Shows a fun events x => S events x ∧ S' events x :=
  fun _ _ hy => ⟨h hy, h' hy⟩

theorem pure {x : α} (h : S [] x) : Shows (pure x : ExceptT ε Procedure α) S := by
  intro events y hy
  obtain ⟨rfl, hy⟩ := yields_pure_iff.1 hy
  cases hy
  exact h

theorem bind {a : ExceptT ε Procedure α} {f : α → ExceptT ε Procedure β} (first : Shows a S)
    (rest : ∀ x, Shows (f x) fun events y => ∀ before, S before x → U (before ++ events) y) :
    Shows (a >>= f) U := by
  intro events y hy
  obtain ⟨x, before, after, rfl, ha, hf⟩ := yields_bind_ok_iff.1 hy
  exact rest x hf before (first ha)

theorem bind_pure {a : ExceptT ε Procedure α} {f : α → β}
    (h : Shows a fun events x => U events (f x)) : Shows (a >>= fun x => Pure.pure (f x)) U :=
  h.bind fun x => pure fun before hU => by rwa [List.append_nil]

/-- The calls that an action makes are of the kinds that it makes. -/
theorem of_makes {a : ExceptT ε Procedure α} {kind : Call → Prop} (h : Makes kind a) :
    Shows a fun events _ => ∀ e ∈ events, kind e.call :=
  fun _ _ hy => Procedure.makes_iff.1 h.run _ _ hy

theorem ofExcept {result : Except Error α} {S : List Event → α → Prop}
    (h : ∀ x, result = .ok x → S [] x) : Shows (ofExcept result) S := by
  intro events x hy
  obtain ⟨rfl, hresult⟩ := Procedure.yields_done_iff.1 hy
  exact h x hresult.symm

theorem throw {e : ε} : Shows (throw e : ExceptT ε Procedure α) S := by
  intro events x hy
  cases (Procedure.yields_done_iff.1 hy).2

theorem pause {duration : Nat} {S : List Event → Unit → Prop} (h : S [] ()) :
    Shows (ExceptT.lift (Procedure.pause duration) : ExceptT ε Procedure Unit) S := by
  intro events x hy
  obtain ⟨_, hsleep, -⟩ := Procedure.yields_map_iff.1 hy
  obtain ⟨rfl, -⟩ := Procedure.yields_done_iff.1 (Procedure.yields_sleep_iff.1 hsleep)
  exact h

theorem reply {c : Call} {report : Failure → Error} {S : List Event → c.Answer → Prop}
    (h : ∀ time x, S [⟨time, c, .ok x⟩] x) :
    Shows (ExceptT.mk (.call c fun reply => .done (reply.mapError report))) S := by
  intro events x hy
  obtain ⟨time, reply, rest, rfl, hrest⟩ := Procedure.yields_call_iff.1 hy
  obtain ⟨rfl, hreply⟩ := Procedure.yields_done_iff.1 hrest
  cases reply with
  | ok y =>
      cases hreply
      exact h time x
  | error f => cases hreply

theorem operate {doing : String} {op : Operation} {S : List Event → op.Answer → Prop}
    (h : ∀ time x, S [⟨time, .platform op, .ok x⟩] x) : Shows (operate doing op) S :=
  reply h

theorem forEntity {a : Action α} {tenant : Option String} {entity : String} (h : Shows a S) :
    Shows (a.forEntity tenant entity) S := by
  intro events x hy
  obtain ⟨result, ha, hresult⟩ := Procedure.yields_map_iff.1 hy
  cases result with
  | ok y =>
      cases hresult
      exact h ha
  | error e => cases hresult

theorem inStage {a : Action α} {stage : Stage} {tenant entity : Option String} (h : Shows a S) :
    Shows (inStage stage tenant entity a) S := by
  intro events x hy
  obtain ⟨result, ha, hresult⟩ := Procedure.yields_map_iff.1 hy
  cases result with
  | ok y =>
      cases hresult
      exact h ha
  | error e => cases hresult

theorem each {f : α → ExceptT ε Procedure β} {items : List α} {S : α → List Event → β → Prop}
    (item : ∀ x ∈ items, Shows (f x) (S x)) : Shows (each f items) (InTurn S items) := by
  induction items with
  | nil => exact pure .nil
  | cons x rest ih =>
      have others := ih fun x' h => item x' (List.mem_cons_of_mem _ h)
      refine (item x List.mem_cons_self).bind fun y => bind_pure (others.mono ?_)
      exact fun events ys hrest before hfirst => .cons hfirst hrest

theorem sweep {operation : α → Operation} {items : List α} :
    Shows (sweep operation items) (Swept operation items) := by
  induction items with
  | nil => exact pure .nil
  | cons item rest ih =>
      intro events kept hy
      obtain ⟨succeeded, first, second, rfl, hattempt, hothers⟩ := yields_bind_ok_iff.1 hy
      obtain ⟨time, reply, _, rfl, hreply⟩ := Procedure.yields_call_iff.1 hattempt
      obtain ⟨rfl, hsucceeded⟩ := Procedure.yields_done_iff.1 hreply
      obtain ⟨result, hrest, hkept⟩ := yields_bind_pure_iff.1 hothers
      cases hsucceeded
      cases result with
      | ok others =>
          cases hkept
          exact .cons time reply (ih hrest)
      | error e => cases hkept

end Shows

/-! ### Listings and sweeps, however they end -/

theorem operate_yields {doing : String} {op : Operation} {events : List Event}
    {value : Except Error op.Answer} (hy : (operate doing op).run.Yields events value) :
    ∃ time reply, events = [⟨time, .platform op, reply⟩] ∧
      value = reply.mapError fun f => .other (f.context doing) := by
  obtain ⟨time, reply, rest, rfl, hrest⟩ := Procedure.yields_call_iff.1 hy
  obtain ⟨rfl, hvalue⟩ := Procedure.yields_done_iff.1 hrest
  exact ⟨time, reply, rfl, hvalue⟩

theorem sweep_yields {operation : α → Operation} {items : List α} {events : List Event}
    {value : Except Error (List α)} (hy : (sweep operation items).run.Yields events value) :
    ∃ kept, value = .ok kept ∧ Swept operation items events kept := by
  cases value with
  | ok kept => exact ⟨kept, rfl, Shows.sweep hy⟩
  | error e =>
      have never : StopsAt (fun _ => False) (sweep operation items) := StopsAt.sweep
      exact (never hy).elim

end Action

end Rollout
