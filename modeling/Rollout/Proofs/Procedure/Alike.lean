import Mathlib.Data.List.Forall2
import Rollout.Proofs.Health.Gate
import Rollout.Proofs.Procedure.ActionRules
import Rollout.Proofs.Procedure.Runs

/-!
# Two runs side by side

A statement about two runs compares two procedures, each in surroundings of its own. A pairing of
the surroundings says which of their states go together. `pairing.Alike p p' V` says that `p` and
`p'`, started in states that go together, end in states that do, with values of which `V` holds;
`pairing.Agree` says the same of actions, which end with equal errors or with results of which `V`
holds. There is a rule for each way in which procedures and actions are put together, so that all
depends on how calls are answered in both surroundings.

A procedure that makes only calls which are answered alike goes alike with itself (`alike_self`).
-/

namespace Rollout

variable {σ σ' α α' β β' ε : Type}

/-- Two surroundings, and which of their states go together at which times. -/
structure Pairing (surroundings : Surroundings σ) (surroundings' : Surroundings σ') where
  linked : σ → Nat → σ' → Nat → Prop
  passing : ∀ {state clock state' clock'} (duration : Nat), linked state clock state' clock' →
    linked state (clock + duration) state' (clock' + duration)

/-- Two outcomes are the same error, or results of which `V` holds. -/
def SameOutcome (V : α → β → Prop) : Except ε α → Except ε β → Prop
  | .ok x, .ok y => V x y
  | .error e, .error e' => e = e'
  | _, _ => False

namespace SameOutcome

variable {V : α → β → Prop}

theorem imp {V' : α → β → Prop} {first : Except ε α} {second : Except ε β}
    (h : SameOutcome V first second) (sub : ∀ x y, V x y → V' x y) :
    SameOutcome V' first second := by
  cases first <;> cases second <;> first | exact h | exact sub _ _ h

theorem mapError {δ : Type} {first : Except ε α} {second : Except ε β}
    (h : SameOutcome V first second) (f : ε → δ) :
    SameOutcome V (first.mapError f) (second.mapError f) := by
  cases first <;> cases second <;> first | exact h | exact congrArg f h

theorem eq {first second : Except ε α} (h : SameOutcome Eq first second) : first = second := by
  cases first <;> cases second <;> first | exact h.elim | exact congrArg _ h

theorem of_eq {first second : Except ε α} (h : first = second) : SameOutcome Eq first second := by
  subst h
  cases first <;> rfl

theorem isOk {first : Except ε α} {second : Except ε β} (h : SameOutcome V first second) :
    first.isOk = second.isOk := by
  cases first <;> cases second <;> first | rfl | exact h.elim

end SameOutcome

namespace Pairing

variable {surroundings : Surroundings σ} {surroundings' : Surroundings σ'}
  (pairing : Pairing surroundings surroundings')

/-- Started where states go together, two procedures end where states do, with values of which `V`
holds. -/
def Alike (p : Procedure α) (p' : Procedure β) (V : α → β → Prop) : Prop :=
  ∀ ⦃state clock state' clock'⦄, pairing.linked state clock state' clock' →
    let r := p.run surroundings state clock
    let r' := p'.run surroundings' state' clock'
    V r.value r'.value ∧ pairing.linked r.state r.clock r'.state r'.clock

/-- Two actions end alike, with results of which `V` holds. -/
def Agree (a : ExceptT ε Procedure α) (a' : ExceptT ε Procedure β) (V : α → β → Prop) : Prop :=
  pairing.Alike a.run a'.run (SameOutcome V)

/-- Two operations are answered alike. -/
def Asks (op op' : Operation) : Prop :=
  pairing.Alike (.ask (.platform op)) (.ask (.platform op')) (SameOutcome fun x x' => HEq x x')

variable {pairing}

namespace Alike

theorem done {x : α} {y : β} {V : α → β → Prop} (h : V x y) :
    pairing.Alike (.done x) (.done y) V :=
  fun _ _ _ _ linked => ⟨h, linked⟩

theorem sleep {p : Procedure α} {p' : Procedure β} {V : α → β → Prop} {duration : Nat}
    (h : pairing.Alike p p' V) : pairing.Alike (.sleep duration p) (.sleep duration p') V :=
  fun _ _ _ _ linked => h (pairing.passing duration linked)

theorem bind {p : Procedure α} {p' : Procedure α'} {f : α → Procedure β} {f' : α' → Procedure β'}
    {V : α → α' → Prop} {W : β → β' → Prop} (first : pairing.Alike p p' V)
    (rest : ∀ x x', V x x' → pairing.Alike (f x) (f' x') W) :
    pairing.Alike (p >>= f) (p' >>= f') W := by
  intro state clock state' clock' linked
  obtain ⟨hV, linked⟩ := first linked
  rw [Procedure.run_bind, Procedure.run_bind]
  exact rest _ _ hV linked

theorem map {p : Procedure α} {p' : Procedure α'} {f : α → β} {f' : α' → β'} {W : β → β' → Prop}
    (h : pairing.Alike p p' fun x x' => W (f x) (f' x')) :
    pairing.Alike (f <$> p) (f' <$> p') W := by
  intro state clock state' clock' linked
  rw [Procedure.run_map, Procedure.run_map]
  exact h linked

theorem weaken {p : Procedure α} {p' : Procedure β} {V V' : α → β → Prop}
    (h : pairing.Alike p p' V) (sub : ∀ x y, V x y → V' x y) : pairing.Alike p p' V' := by
  intro state clock state' clock' linked
  obtain ⟨hV, linked⟩ := h linked
  exact ⟨sub _ _ hV, linked⟩

theorem ask {c c' : Call} {S : c.Reply → c'.Reply → Prop}
    (answered : ∀ state clock state' clock', pairing.linked state clock state' clock' →
      let answer := surroundings.answer c state
      let answer' := surroundings'.answer c' state'
      S answer.1.reply answer'.1.reply ∧ pairing.linked answer.2 (clock + answer.1.elapsed)
        answer'.2 (clock' + answer'.1.elapsed)) :
    pairing.Alike (.ask c) (.ask c') S :=
  fun _ _ _ _ linked => answered _ _ _ _ linked

/-- A call that is answered the same, and after the same time. -/
theorem ask_same {c : Call}
    (answered : ∀ state clock state' clock', pairing.linked state clock state' clock' →
      (surroundings.answer c state).1 = (surroundings'.answer c state').1 ∧
        pairing.linked (surroundings.answer c state).2 clock (surroundings'.answer c state').2
          clock') :
    pairing.Alike (.ask c) (.ask c) Eq := by
  refine .ask fun state clock state' clock' linked => ?_
  obtain ⟨same, linked⟩ := answered state clock state' clock' linked
  dsimp only
  rw [← same]
  exact ⟨rfl, pairing.passing _ linked⟩

/-- What follows on calls that are answered alike. -/
theorem call {c c' : Call} {next : c.Reply → Procedure α} {next' : c'.Reply → Procedure β}
    {S : c.Reply → c'.Reply → Prop} {V : α → β → Prop}
    (answered : pairing.Alike (.ask c) (.ask c') S)
    (rest : ∀ reply reply', S reply reply' → pairing.Alike (next reply) (next' reply') V) :
    pairing.Alike (.call c next) (.call c' next') V :=
  answered.bind rest

/-- The gate, where states go together at equal times and answer probes the same. -/
theorem gate {R : σ → σ' → Prop}
    (inTime : ∀ {state clock state' clock'},
      pairing.linked state clock state' clock' ↔ clock = clock' ∧ R state state')
    (probe : ∀ port state state', R state state' →
      (surroundings.answer (.probe port) state).1 = (surroundings'.answer (.probe port) state').1 ∧
        R (surroundings.answer (.probe port) state).2 (surroundings'.answer (.probe port) state').2)
    (targets : List Health.Target) (policy : Health.ProbePolicy) :
    pairing.Alike (.gate targets policy .done) (.gate targets policy .done) Eq := by
  intro state clock state' clock' linked
  obtain ⟨rfl, hR⟩ := inTime.1 linked
  obtain ⟨value, hclock, hR⟩ :=
    Health.playGate_same surroundings policy probe targets clock hR
  exact ⟨value, inTime.2 ⟨hclock, hR⟩⟩

end Alike

namespace Agree

variable {V : α → α' → Prop} {W : β → β' → Prop}

theorem pure {x : α} {x' : α'} (h : V x x') :
    pairing.Agree (Pure.pure x : ExceptT ε Procedure α) (Pure.pure x') V :=
  Alike.done h

theorem bind {a : ExceptT ε Procedure α} {a' : ExceptT ε Procedure α'}
    {f : α → ExceptT ε Procedure β} {f' : α' → ExceptT ε Procedure β'}
    (first : pairing.Agree a a' V) (rest : ∀ x x', V x x' → pairing.Agree (f x) (f' x') W) :
    pairing.Agree (a >>= f) (a' >>= f') W := by
  refine Alike.bind first fun result result' h => ?_
  cases result with
  | ok x =>
      cases result' with
      | ok x' => exact rest x x' h
      | error e => exact h.elim
  | error e =>
      cases result' with
      | ok x => exact h.elim
      | error e' => exact .done h

/-- Two actions that answer the same, if they answer, and what follows on either. -/
theorem bind_same {a a' : ExceptT ε Procedure α} {f f' : α → ExceptT ε Procedure β}
    {W : β → β → Prop} (first : pairing.Agree a a' Eq)
    (rest : ∀ x, pairing.Agree (f x) (f' x) W) : pairing.Agree (a >>= f) (a' >>= f') W :=
  first.bind fun x _ h => h ▸ rest x

theorem weaken {a : ExceptT ε Procedure α} {a' : ExceptT ε Procedure α'} {V' : α → α' → Prop}
    (h : pairing.Agree a a' V) (sub : ∀ x x', V x x' → V' x x') : pairing.Agree a a' V' :=
  Alike.weaken h fun _ _ hV => hV.imp sub

theorem of_heq {a a' : ExceptT ε Procedure α} (h : pairing.Agree a a' fun x x' => HEq x x') :
    pairing.Agree a a' Eq :=
  h.weaken fun _ _ => eq_of_heq

theorem run {a a' : ExceptT ε Procedure α} (h : pairing.Agree a a' Eq) :
    pairing.Alike a.run a'.run Eq :=
  Alike.weaken h fun _ _ => SameOutcome.eq

theorem ofExcept {result : Except Error α} :
    pairing.Agree (Action.ofExcept result) (Action.ofExcept result) Eq :=
  Alike.done (.of_eq rfl)

/-- Calls that are answered alike, with what is made of their failures. -/
theorem reply {c c' : Call} {S : c.Answer → c'.Answer → Prop} {report : Failure → Error}
    (answered : pairing.Alike (.ask c) (.ask c') (SameOutcome S)) :
    pairing.Agree (ExceptT.mk (.call c fun reply => .done (reply.mapError report)))
      (ExceptT.mk (.call c' fun reply => .done (reply.mapError report))) S :=
  answered.call fun _ _ h => .done (h.mapError report)

theorem operate {doing : String} {op op' : Operation} (asked : pairing.Asks op op') :
    pairing.Agree (Action.operate doing op) (Action.operate doing op')
      fun x x' => HEq x x' :=
  reply asked

theorem forEntity {a : Action α} {a' : Action α'} {tenant : Option String} {entity : String}
    (h : pairing.Agree a a' V) :
    pairing.Agree (a.forEntity tenant entity) (a'.forEntity tenant entity) V :=
  Alike.map (Alike.weaken h fun _ _ hV => hV.mapError _)

theorem inStage {a : Action α} {a' : Action α'} {stage : Stage} {tenant entity : Option String}
    (h : pairing.Agree a a' V) :
    pairing.Agree (Action.inStage stage tenant entity a) (Action.inStage stage tenant entity a')
      V :=
  Alike.map (Alike.weaken h fun _ _ hV => hV.mapError _)

/-- Two loops over items that go together. -/
theorem each {R : α → α' → Prop} {f : α → ExceptT ε Procedure β} {f' : α' → ExceptT ε Procedure β}
    {items : List α} {items' : List α'} (together : List.Forall₂ R items items')
    (item : ∀ x x', R x x' → pairing.Agree (f x) (f' x') Eq) :
    pairing.Agree (each f items) (Rollout.each f' items') Eq := by
  induction together with
  | nil => exact .pure rfl
  | cons first _ ih =>
      exact (item _ _ first).bind_same fun y => ih.bind_same fun ys => .pure rfl

theorem each_same {f f' : α → ExceptT ε Procedure β} {items : List α}
    (item : ∀ x ∈ items, pairing.Agree (f x) (f' x) Eq) :
    pairing.Agree (Rollout.each f items) (Rollout.each f' items) Eq := by
  refine each (R := fun x x' => x ∈ items ∧ x = x')
    (List.forall₂_same.2 fun x hx => ⟨hx, rfl⟩) ?_
  rintro x _ ⟨hx, rfl⟩
  exact item x hx

theorem sweep {operation operation' : α → Operation} {items : List α}
    (asked : ∀ x ∈ items, pairing.Asks (operation x) (operation' x)) :
    pairing.Agree (Action.sweep operation items) (Action.sweep operation' items) Eq := by
  induction items with
  | nil => exact .pure rfl
  | cons x rest ih =>
      have attempted : pairing.Agree (Action.attempt (operation x))
          (Action.attempt (operation' x)) Eq :=
        (asked x List.mem_cons_self).call fun _ _ h => .done h.isOk
      exact attempted.bind_same fun succeeded =>
        (ih fun x' h => asked x' (List.mem_cons_of_mem _ h)).bind_same fun others => .pure rfl

end Agree

end Pairing

namespace Procedure

theorem exists_yields (p : Procedure α) : ∃ events value, p.Yields events value :=
  ⟨_, _, yields_run (σ := Unit) ⟨fun _ state => (⟨.error default, 0⟩, state)⟩ p () 0⟩

theorem Makes.of_call {kind : Call → Prop} {c : Call} {next : c.Reply → Procedure α}
    (h : Makes kind (.call c next)) : kind c ∧ ∀ reply, Makes kind (next reply) := by
  rw [makes_iff] at h
  constructor
  · obtain ⟨events, value, hy⟩ := (next (.error default)).exists_yields
    exact h _ _ (.call 0 _ hy) _ List.mem_cons_self
  · intro reply
    exact makes_iff.2 fun events value hy e he =>
      h _ _ (.call 0 reply hy) e (List.mem_cons_of_mem _ he)

/-- Carries out several undertakings in turn, each whatever became of those before it. -/
def inTurn {ι : Type} {R : ι → Type} (work : (i : ι) → Procedure (R i)) :
    List ι → Procedure (List (Σ i, R i))
  | [] => done []
  | i :: rest => do
      let result ← work i
      let others ← inTurn work rest
      return ⟨i, result⟩ :: others

end Procedure

namespace Pairing

variable {surroundings : Surroundings σ} {surroundings' : Surroundings σ'}
  {pairing : Pairing surroundings surroundings'}

/-- A procedure goes alike with itself when all that it can ask is answered alike. -/
theorem alike_self {kind : Call → Prop} {p : Procedure α} (makes : Procedure.Makes kind p)
    (calls : ∀ c, kind c → pairing.Alike (.ask c) (.ask c) Eq)
    (gates : ∀ targets policy,
      pairing.Alike (.gate targets policy .done) (.gate targets policy .done) Eq) :
    pairing.Alike p p Eq := by
  -- The gate is one step of the induction: what it asks is compared as a whole.
  induction p with
  | done value => exact .done rfl
  | call c next ih =>
      obtain ⟨hkind, rest⟩ := makes.of_call
      refine (calls c hkind).call ?_
      rintro reply _ rfl
      exact ih reply (rest reply)
  | sleep duration next ih =>
      exact .sleep (ih (Procedure.makes_iff.2 fun events value hy =>
        Procedure.makes_iff.1 makes events value (.sleep hy)))
  | gate targets policy next ih =>
      intro state clock state' clock' linked
      obtain ⟨same, linked⟩ := gates targets policy linked
      dsimp only [Procedure.run] at same linked
      have rest := ih (Health.playGate surroundings targets policy clock state).value
        (Procedure.makes_iff.2 fun events value hy e he => Procedure.makes_iff.1 makes _ value
          (.gate surroundings state clock hy) e (List.mem_append_right _ he)) linked
      simpa only [Procedure.run, same] using rest

/-- Undertakings that go alike one by one go alike in turn. -/
theorem Alike.inTurn {ι : Type} {R : ι → Type} {work work' : (i : ι) → Procedure (R i)}
    {undertakings : List ι} (h : ∀ i ∈ undertakings, pairing.Alike (work i) (work' i) Eq) :
    pairing.Alike (Procedure.inTurn work undertakings) (Procedure.inTurn work' undertakings)
      Eq := by
  induction undertakings with
  | nil => exact .done rfl
  | cons i rest ih =>
      refine (h i List.mem_cons_self).bind ?_
      rintro result _ rfl
      refine (ih fun i' hi => h i' (List.mem_cons_of_mem _ hi)).bind ?_
      rintro others _ rfl
      exact .done rfl

end Pairing

end Rollout
