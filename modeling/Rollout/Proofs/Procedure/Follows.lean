import Mathlib.Data.List.Forall2
import Rollout.Proofs.Procedure.FailStop

/-!
# Actions that follow a plan

The milestones of what was seen are the mutations that succeeded and the tenants that were listed.
`Follows a S` says that the milestones of `a` and its result are related by `S`, and that they can
still become so when `a` stops at an error: then they are a beginning of what `S` asks for.

A plan for a composition is put together from the plans of its parts. The beginning of a part is a
beginning of the whole because whatever is still to come has some way to end well; that every
procedure yields something shows it.
-/

namespace Rollout

/-- A mutation that succeeded, or the listing of the tenants. -/
inductive Milestone where
  | changed (op : Operation)
  | listed (tenants : List Tenant)

def Event.milestone? : Event → Option Milestone
  | ⟨_, .platform .listTenants, .ok tenants⟩ => some (.listed tenants)
  | ⟨_, .platform op, .ok _⟩ => if op.isMutation then some (.changed op) else none
  | _ => none

def milestones (events : List Event) : List Milestone := events.filterMap Event.milestone?

theorem milestones_append (first second : List Event) :
    milestones (first ++ second) = milestones first ++ milestones second :=
  List.filterMap_append

namespace Event

theorem milestone?_error (time : Nat) (c : Call) (f : Failure) :
    milestone? ⟨time, c, .error f⟩ = none := by
  cases c with
  | platform op => cases op <;> rfl
  | accessToken tenant => rfl
  | describeGroup group => rfl
  | probe port => rfl

theorem milestone?_changed {op : Operation} (h : op.isMutation = true) (time : Nat)
    (x : op.Answer) : milestone? ⟨time, .platform op, .ok x⟩ = some (.changed op) := by
  cases op <;> first | rfl | cases h

theorem milestone?_read {op : Operation} (h : op.isMutation = false) (other : op ≠ .listTenants)
    (time : Nat) (reply : Call.Reply (.platform op)) :
    milestone? ⟨time, .platform op, reply⟩ = none := by
  cases reply with
  | error f => exact milestone?_error time _ f
  | ok x =>
      cases op <;> first | rfl | exact absurd rfl other | cases h

end Event

theorem milestones_failed (time : Nat) (c : Call) (f : Failure) :
    milestones [⟨time, c, .error f⟩] = [] := by
  simp [milestones, Event.milestone?_error]

theorem milestones_changed {op : Operation} (h : op.isMutation = true) (time : Nat)
    (x : op.Answer) : milestones [⟨time, .platform op, .ok x⟩] = [.changed op] := by
  simp [milestones, Event.milestone?_changed h]

namespace Action

open Procedure (Yields)

variable {α β ε : Type} {S : List Milestone → α → Prop} {T : List Milestone → β → Prop}

/-- The milestones of an action and its result are as `S` says, or a beginning of that. -/
def Follows (a : ExceptT ε Procedure α) (S : List Milestone → α → Prop) : Prop :=
  ∀ ⦃events result⦄, a.run.Yields events result →
    match result with
    | .ok x => S (milestones events) x
    | .error _ => ∃ rest x, S (milestones events ++ rest) x

namespace Follows

/-- What an action follows can be fulfilled. -/
theorem satisfiable {a : ExceptT ε Procedure α} (h : Follows a S) : ∃ steps x, S steps x := by
  have failing : Surroundings Unit := ⟨fun _ s => (⟨.error (.of ""), 0⟩, s)⟩
  have hy := h (Procedure.yields_run failing a.run () 0)
  revert hy
  cases (a.run.run failing () 0).value with
  | ok x => exact fun hS => ⟨_, x, hS⟩
  | error e => exact fun ⟨rest, x, hS⟩ => ⟨_, x, hS⟩

theorem weaken {a : ExceptT ε Procedure α} {S' : List Milestone → α → Prop} (h : Follows a S)
    (sub : ∀ steps x, S steps x → S' steps x) : Follows a S' := by
  intro events result hy
  have hS := h hy
  cases result with
  | ok x => exact sub _ _ hS
  | error e =>
      obtain ⟨rest, x, hS⟩ := hS
      exact ⟨rest, x, sub _ _ hS⟩

theorem pure {x : α} (h : S [] x) : Follows (pure x : ExceptT ε Procedure α) S := by
  intro events result hy
  obtain ⟨rfl, rfl⟩ := yields_pure_iff.1 hy
  exact h

theorem bind {a : ExceptT ε Procedure α} {f : α → ExceptT ε Procedure β}
    {U : List Milestone → β → Prop} (first : Follows a S)
    (rest : ∀ x, Follows (f x) fun steps y => ∀ before, S before x → U (before ++ steps) y) :
    Follows (a >>= f) U := by
  intro events result hy
  cases result with
  | ok y =>
      obtain ⟨x, before, after, rfl, ha, hf⟩ := yields_bind_ok_iff.1 hy
      rw [milestones_append]
      exact rest x hf _ (first ha)
  | error e =>
      rcases yields_bind_error_iff.1 hy with ha | ⟨x, before, after, rfl, ha, hf⟩
      · obtain ⟨others, x, hS⟩ := first ha
        obtain ⟨steps, y, hU⟩ := (rest x).satisfiable
        exact ⟨others ++ steps, y, by simpa using hU _ hS⟩
      · obtain ⟨others, y, hU⟩ := rest x hf
        exact ⟨others, y, by simpa [milestones_append] using hU _ (first ha)⟩

/-- What reads only, and no tenants, has no milestones. -/
theorem quiet [Nonempty α] {a : ExceptT ε Procedure α} {kind : Call → Prop} (h : Makes kind a)
    (reads : ∀ e : Event, kind e.call → e.milestone? = none) :
    Follows a fun steps _ => steps = [] := by
  intro events result hy
  have none : milestones events = [] :=
    List.filterMap_eq_nil_iff.2 fun e he =>
      reads e (Procedure.makes_iff.1 h.run events result hy e he)
  cases result with
  | ok x => exact none
  | error e => exact ⟨[], Classical.arbitrary α, by simpa using none⟩

theorem reply {c : Call} {report : Failure → Error} {S : List Milestone → c.Answer → Prop}
    (succeeds : ∀ time x, S (milestones [⟨time, c, .ok x⟩]) x) (possible : ∃ steps x, S steps x) :
    Follows (ExceptT.mk (.call c fun reply => .done (reply.mapError report)) : Action c.Answer)
      S := by
  intro events result hy
  obtain ⟨time, reply, rest, rfl, hrest⟩ := Procedure.yields_call_iff.1 hy
  obtain ⟨rfl, rfl⟩ := Procedure.yields_done_iff.1 hrest
  cases reply with
  | ok x => exact succeeds time x
  | error f =>
      obtain ⟨steps, x, hS⟩ := possible
      exact ⟨steps, x, by simpa [milestones_failed] using hS⟩

/-- A mutation is a milestone if it succeeds. -/
theorem operate {doing : String} {op : Operation} [Nonempty op.Answer]
    (h : op.isMutation = true) : Follows (operate doing op) fun steps _ => steps = [.changed op] :=
  reply (fun time x => milestones_changed h time x)
    ⟨_, Classical.arbitrary _, rfl⟩

theorem forEntity {a : Action α} {tenant : Option String} {entity : String} (h : Follows a S) :
    Follows (a.forEntity tenant entity) S := by
  intro events result hy
  obtain ⟨result, ha, rfl⟩ := Procedure.yields_map_iff.1 hy
  have hS := h ha
  cases result with
  | ok x => exact hS
  | error e => exact hS

theorem inStage {a : Action α} {stage : Stage} {tenant entity : Option String}
    (h : Follows a S) : Follows (Action.inStage stage tenant entity a) S := by
  intro events result hy
  obtain ⟨result, ha, rfl⟩ := Procedure.yields_map_iff.1 hy
  have hS := h ha
  cases result with
  | ok x => exact hS
  | error e => exact hS

/-- A sweep makes a mutation for each item, and those of them that succeed are its milestones. -/
theorem sweep {operation : α → Operation} {items : List α}
    (h : ∀ item ∈ items, (operation item).isMutation = true) :
    Follows (sweep operation items) fun steps kept =>
      steps = kept.map fun item => .changed (operation item) := by
  induction items with
  | nil => exact pure rfl
  | cons item rest ih =>
      have first : Follows (attempt (operation item)) fun steps succeeded =>
          steps = if succeeded then [.changed (operation item)] else [] := by
        intro events result hy
        obtain ⟨time, reply, rest, rfl, hrest⟩ := Procedure.yields_call_iff.1 hy
        obtain ⟨rfl, rfl⟩ := Procedure.yields_done_iff.1 hrest
        cases reply with
        | ok x => exact milestones_changed (h item List.mem_cons_self) time x
        | error f => exact milestones_failed time _ f
      have others := ih fun item' h' => h item' (List.mem_cons_of_mem _ h')
      refine first.bind fun succeeded => others.bind fun kept => pure ?_
      rintro steps rfl before rfl
      cases succeeded <;> simp

/-- A list is worked through in one stretch of milestones for each item. -/
theorem each {f : α → ExceptT ε Procedure β} {items : List α} {S : α → List Milestone → Prop}
    (item : ∀ x ∈ items, Follows (f x) fun steps _ => S x steps) :
    Follows (each f items) fun steps _ => ∃ stretches : List (List Milestone),
      steps = stretches.flatten ∧ List.Forall₂ S items stretches := by
  induction items with
  | nil => exact pure ⟨[], rfl, .nil⟩
  | cons x rest ih =>
      have others := ih fun x' h => item x' (List.mem_cons_of_mem _ h)
      refine (item x List.mem_cons_self).bind fun y => others.bind fun ys => pure ?_
      rintro steps ⟨stretches, rfl, hrest⟩ before hS
      exact ⟨before :: stretches, by simp, .cons hS hrest⟩

/-- A list is worked through with one milestone and a known result for each item. -/
theorem each_single {f : α → ExceptT ε Procedure β} {items : List α} {g : α → Milestone}
    {r : α → β} (item : ∀ x ∈ items, Follows (f x) fun steps y => steps = [g x] ∧ y = r x) :
    Follows (Rollout.each f items) fun steps ys => steps = items.map g ∧ ys = items.map r := by
  induction items with
  | nil => exact pure ⟨rfl, rfl⟩
  | cons x rest ih =>
      have others := ih fun x' h => item x' (List.mem_cons_of_mem _ h)
      refine (item x List.mem_cons_self).bind fun y => others.bind fun ys => pure ?_
      rintro steps ⟨rfl, rfl⟩ before ⟨rfl, rfl⟩
      exact ⟨by simp, by simp⟩

end Follows

end Action

end Rollout
