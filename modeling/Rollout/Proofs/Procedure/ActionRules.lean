import Mathlib.Data.List.Forall2
import Rollout.Proofs.Procedure.Abides

/-!
# Rules for actions

An action that abides by a rule may stop at an error at any point, so an assertion is made of its
results only. There is a rule for each way in which actions are put together: in sequence, one for
each item of a list, as a sweep that tolerates failures, and under the name of an entity or a stage,
which changes nothing but the error.
-/

namespace Rollout

/-- What stands at the right of a pairing is paired with something at the left. -/
theorem exists_paired {α β : Type} {R : α → β → Prop} {xs : List α} {ys : List β} {y : β}
    (h : List.Forall₂ R xs ys) (hy : y ∈ ys) : ∃ x ∈ xs, R x y := by
  induction h with
  | nil => cases hy
  | cons hxy _ ih =>
      rcases List.mem_cons.1 hy with rfl | hy
      · exact ⟨_, List.mem_cons_self, hxy⟩
      · obtain ⟨x, hx, hR⟩ := ih hy
        exact ⟨x, List.mem_cons_of_mem _ hx, hR⟩

namespace Action

open History (Lasting)

variable {α β ε : Type} {ok : History → Event → Prop} {P P' : History → Prop}
  {Q Q' : α → History → Prop} {R : β → History → Prop}

/-- An assertion about results, as one about how an action ended. -/
def onSuccess (Q : α → History → Prop) : Except ε α → History → Prop
  | .ok x, past => Q x past
  | .error _, _ => True

theorem onSuccess.imp {result : Except ε α} {past : History} (h : onSuccess Q result past)
    (sub : ∀ x, Q x past → Q' x past) : onSuccess Q' result past := by
  cases result with
  | ok x => exact sub x h
  | error e => trivial

theorem onSuccess_of {result : Except ε α} {past : History} (h : P past) :
    onSuccess (fun _ => P) result past := by
  cases result with
  | ok x => exact h
  | error e => trivial

/-- What is made of an error does not matter. -/
theorem onSuccess_mapError {δ : Type} {f : ε → δ} {result : Except ε α} {past : History} :
    onSuccess Q (result.mapError f) past ↔ onSuccess Q result past := by
  cases result with
  | ok x => exact Iff.rfl
  | error e => exact Iff.rfl

/-- From a past in which `P` holds, `a` shows what is allowed, and `Q` holds of its result. -/
def Abides (ok : History → Event → Prop) (P : History → Prop) (a : ExceptT ε Procedure α)
    (Q : α → History → Prop) : Prop :=
  Procedure.Abides ok P a.run (onSuccess Q)

namespace Abides

theorem weaken {a : ExceptT ε Procedure α} (h : Abides ok P a Q) (pre : ∀ past, P' past → P past)
    (post : ∀ x past, Q x past → Q' x past) : Abides ok P' a Q' := by
  refine Procedure.Abides.weaken h pre fun result past hQ => ?_
  exact hQ.imp fun x => post x past

theorem allow {ok' : History → Event → Prop} {a : ExceptT ε Procedure α} (h : Abides ok P a Q)
    (sub : ∀ past e, ok past e → ok' past e) : Abides ok' P a Q :=
  Procedure.Abides.allow h sub

theorem lasting {a : ExceptT ε Procedure α} (h : Abides ok P a Q) (hP' : Lasting P') :
    Abides ok (fun past => P past ∧ P' past) a (fun x past => Q x past ∧ P' past) := by
  refine (Procedure.Abides.lasting h hP').weaken (fun _ => id) fun result past hQ => ?_
  exact hQ.1.imp fun x hx => ⟨hx, hQ.2⟩

/-- A fact that the assertion implies may be used about the action itself. -/
theorem given {a : ExceptT ε Procedure α} {R : Prop} (implied : ∀ past, P past → R)
    (h : R → Abides ok P a Q) : Abides ok P a Q :=
  fun past _ _ hP => h (implied past hP) hP

theorem pure {x : α} (h : ∀ past, P past → Q x past) :
    Abides ok P (pure x : ExceptT ε Procedure α) Q :=
  .done h

theorem throw {e : ε} : Abides ok P (throw e : ExceptT ε Procedure α) Q :=
  .done fun _ _ => trivial

theorem bind {a : ExceptT ε Procedure α} {f : α → ExceptT ε Procedure β} (first : Abides ok P a Q)
    (rest : ∀ x, Abides ok (Q x) (f x) R) : Abides ok P (a >>= f) R := by
  refine Procedure.Abides.bind first fun result => ?_
  cases result with
  | ok x => exact rest x
  | error e => exact .done fun _ _ => trivial

theorem map {a : ExceptT ε Procedure α} {f : α → β} (h : Abides ok P a fun x => R (f x)) :
    Abides ok P (f <$> a) R := by
  rw [map_eq_pure_bind]
  exact h.bind fun x => .pure fun _ => id

theorem pause {duration : Nat} :
    Abides ok P (ExceptT.lift (Procedure.pause duration) : ExceptT ε Procedure Unit)
      fun _ => P :=
  Procedure.Abides.map (.sleep (.done fun _ => id))

theorem ofExcept {result : Except Error α} (h : ∀ x past, result = .ok x → P past → Q x past) :
    Abides ok P (ofExcept result) Q := by
  refine .done fun past hP => ?_
  cases result with
  | ok x => exact h x past rfl hP
  | error e => trivial

/-- A call is made, and the action ends with what is answered. -/
theorem reply {c : Call} {report : Failure → Error} {S : c.Answer → History → Prop}
    (made : ∀ past time reply, P past → ok past ⟨time, c, reply⟩)
    (answered : ∀ past time x, P past → S x (past ++ [⟨time, c, .ok x⟩])) :
    Abides ok P (ExceptT.mk (.call c fun reply => .done (reply.mapError report))) S := by
  refine Procedure.Abides.call (S := fun reply => onSuccess S (reply.mapError report))
    (fun past time reply hP => ⟨made past time reply hP, ?_⟩) fun reply => .done fun _ => id
  cases reply with
  | ok x => exact answered past time x hP
  | error f => trivial

theorem operate {doing : String} {op : Operation} {S : op.Answer → History → Prop}
    (made : ∀ past time reply, P past → ok past ⟨time, .platform op, reply⟩)
    (answered : ∀ past time x, P past → S x (past ++ [⟨time, .platform op, .ok x⟩])) :
    Abides ok P (operate doing op) S :=
  reply made answered

theorem forEntity {a : Action α} {tenant : Option String} {entity : String}
    (h : Abides ok P a Q) : Abides ok P (a.forEntity tenant entity) Q := by
  refine Procedure.Abides.map (Procedure.Abides.weaken h (fun _ => id) fun result past hQ => ?_)
  exact onSuccess_mapError.2 hQ

theorem inStage {a : Action α} {stage : Stage} {tenant entity : Option String}
    (h : Abides ok P a Q) : Abides ok P (inStage stage tenant entity a) Q := by
  refine Procedure.Abides.map (Procedure.Abides.weaken h (fun _ => id) fun result past hQ => ?_)
  exact onSuccess_mapError.2 hQ

/-- Whatever a call of a sweep answers, the sweep goes on. -/
theorem sweep {operation : α → Operation} {items : List α}
    (each : ∀ item ∈ items, ∀ past time reply, P past →
      ok past ⟨time, .platform (operation item), reply⟩ ∧
        P (past ++ [⟨time, .platform (operation item), reply⟩])) :
    Abides ok P (sweep operation items) fun kept past => P past ∧ kept ⊆ items := by
  induction items with
  | nil => exact .pure fun past hP => ⟨hP, List.Subset.refl _⟩
  | cons item rest ih =>
      have first : Abides ok P (attempt (operation item)) fun _ => P :=
        .call (S := fun _ => P) (each item List.mem_cons_self) fun _ => .done fun _ => id
      have others := ih fun item' h => each item' (List.mem_cons_of_mem _ h)
      refine first.bind fun succeeded => others.bind fun kept => .pure fun past hP => ?_
      refine ⟨hP.1, ?_⟩
      cases succeeded with
      | true => exact List.cons_subset_cons item hP.2
      | false => exact List.subset_cons_of_subset item hP.2

/-- An assertion that every item keeps is kept; what is known of an item and its result is known of
each item and its result in the end, if it outlasts all events. -/
theorem each_paired {f : α → ExceptT ε Procedure β} {items : List α} {T : α → β → History → Prop}
    (stable : ∀ x y, Lasting (T x y))
    (item : ∀ x ∈ items, Abides ok P (f x) fun y past => P past ∧ T x y past) :
    Abides ok P (Rollout.each f items) fun ys past =>
      P past ∧ List.Forall₂ (fun x y => T x y past) items ys := by
  induction items with
  | nil => exact .pure fun past hP => ⟨hP, .nil⟩
  | cons x rest ih =>
      refine (item x List.mem_cons_self).bind fun y => ?_
      refine ((ih fun x' h => item x' (List.mem_cons_of_mem _ h)).lasting (stable x y)).bind
        fun ys => .pure fun past h => ?_
      exact ⟨h.1.1, .cons h.2 h.1.2⟩

/-- What is known of the result of an item is known of each result in the end. -/
theorem each {f : α → ExceptT ε Procedure β} {items : List α} {T : β → History → Prop}
    (stable : ∀ y, Lasting (T y))
    (item : ∀ x ∈ items, Abides ok P (f x) fun y past => P past ∧ T y past) :
    Abides ok P (Rollout.each f items) fun ys past => P past ∧ ∀ y ∈ ys, T y past := by
  refine (each_paired (T := fun _ => T) (fun _ => stable) item).weaken (fun _ => id) ?_
  rintro ys past ⟨hP, paired⟩
  refine ⟨hP, fun y hy => ?_⟩
  obtain ⟨x, -, known⟩ := exists_paired paired hy
  exact known

/-- An assertion that every item keeps is kept. -/
theorem each_keeps {f : α → ExceptT ε Procedure β} {items : List α}
    (item : ∀ x ∈ items, Abides ok P (f x) fun _ => P) :
    Abides ok P (Rollout.each f items) fun _ => P :=
  (each (T := fun _ _ => True) (fun _ _ _ _ => trivial) fun x hx =>
    (item x hx).weaken (fun _ => id) fun _ _ hP => ⟨hP, trivial⟩).weaken (fun _ => id)
    fun _ _ hP => hP.1

end Abides

def Makes (kind : Call → Prop) (a : ExceptT ε Procedure α) : Prop :=
  Abides (fun _ e => kind e.call) (fun _ => True) a fun _ _ => True

namespace Makes

variable {kind : Call → Prop}

theorem run {a : ExceptT ε Procedure α} (h : Makes kind a) : Procedure.Makes kind a.run :=
  Procedure.Abides.weaken h (fun _ => id) fun _ _ _ => trivial

/-- Every action makes calls of some kind. -/
theorem any {a : ExceptT ε Procedure α} : Makes (fun _ => True) a :=
  fun _ _ _ _ _ => ⟨History.throughout_iff.2 fun _ _ _ _ => trivial, onSuccess_of trivial⟩

theorem of_run {a : ExceptT ε Procedure α} (h : Procedure.Makes kind a.run) : Makes kind a :=
  Procedure.Abides.weaken h (fun _ => id) fun _ _ _ => onSuccess_of trivial

theorem mono {kind' : Call → Prop} {a : ExceptT ε Procedure α} (h : Makes kind a)
    (sub : ∀ c, kind c → kind' c) : Makes kind' a :=
  h.allow fun _ e => sub e.call

theorem pure {x : α} : Makes kind (Pure.pure x : ExceptT ε Procedure α) :=
  Abides.pure fun _ => id

theorem bind {a : ExceptT ε Procedure α} {f : α → ExceptT ε Procedure β} (first : Makes kind a)
    (rest : ∀ x, Makes kind (f x)) : Makes kind (a >>= f) :=
  Abides.bind first rest

theorem operate {doing : String} {op : Operation} (h : kind (.platform op)) :
    Makes kind (operate doing op) :=
  Abides.operate (fun _ _ _ _ => h) fun _ _ _ => id

theorem sweep {operation : α → Operation} {items : List α}
    (h : ∀ item, kind (.platform (operation item))) : Makes kind (sweep operation items) :=
  (Abides.sweep fun item _ _ _ _ _ => ⟨h item, trivial⟩).weaken (fun _ => id) fun _ _ h => h.1

theorem inStage {a : Action α} {stage : Stage} {tenant entity : Option String}
    (h : Makes kind a) : Makes kind (inStage stage tenant entity a) :=
  Abides.inStage h

/-- What the calls of an action leave alone, the action keeps. -/
theorem abides {a : ExceptT ε Procedure α} (h : Makes kind a)
    (step : ∀ past e, P past → kind e.call → ok past e ∧ P (past ++ [e])) :
    Abides ok P a fun _ => P :=
  (Procedure.Makes.abides h.run step).weaken (fun _ => id) fun _ _ => onSuccess_of

end Makes

end Action

end Rollout
