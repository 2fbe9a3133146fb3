import Rollout.Procedure.Scripted
import Rollout.Proofs.Health.Gate
import Rollout.Proofs.Platform.Content
import Rollout.Proofs.Procedure.Runs

/-!
# Actions on a hosted platform

Surroundings host a platform when a `Memory` that is part of their state carries out the operations
and nothing else touches it. The probes, the queue and the tokens may then behave in any way at all.

`host.Ends a m mayFail Q` says that `a`, started where the platform is `m`, ends with a result and a
platform of which `Q` holds, or else at an error, where `mayFail` allows that. So `False` in its
place asserts that the action succeeds, and `True` asserts something of the successes alone; the
rules are the same for both. Neither depends on the time or on the rest of the surroundings.

`m.Shows k failing` is what an action can tell of the platform: its content, and the operations that
are set to fail. A mutation that is carried out turns `m` into `m.after op`.
-/

namespace Rollout

/-- Surroundings that host a platform in memory. -/
structure Host {σ : Type} (surroundings : Surroundings σ) where
  memory : σ → Memory
  performs : ∀ (op : Operation) (state : σ),
    ((surroundings.answer (.platform op) state).1.reply,
      memory (surroundings.answer (.platform op) state).2) = (memory state).perform op
  apart : ∀ (c : Call) (state : σ), (∀ op, c ≠ .platform op) →
    memory (surroundings.answer c state).2 = memory state

/-- A tenant is given a token, in some state at least. -/
def Surroundings.Serves {σ : Type} (surroundings : Surroundings σ) (tenant : String) : Prop :=
  ∃ state token, (surroundings.answer (.accessToken tenant) state).1.reply = .ok token

/-- A tenant is given a token in every state. -/
def Surroundings.Admits {σ : Type} (surroundings : Surroundings σ) (tenant : String) : Prop :=
  ∀ state, ∃ token, (surroundings.answer (.accessToken tenant) state).1.reply = .ok token

def Scripted.host (script : Script) : Host (surroundings script) where
  memory := State.memory
  performs _ _ := rfl
  apart c state other := by
    cases c with
    | platform op => exact absurd rfl (other op)
    | accessToken tenant => rfl
    | describeGroup group => rfl
    | probe port => rfl

theorem Content.answer_of_mutation (k : Content) {op : Operation}
    (mutation : op.isMutation = true) : ∃ x, k.answer op = .ok x := by
  cases op <;> first | exact ⟨_, rfl⟩ | cases mutation

namespace Memory

def after (m : Memory) (op : Operation) : Memory := { m.change op with log := op :: m.log }

/-- What can be told of a platform: its content, and which operations fail. -/
structure Shows (m : Memory) (k : Content) (failing : List String) : Prop where
  content : m.content = k
  failing : m.failing = failing

variable {m : Memory} {k : Content} {failing : List String} {op : Operation}

theorem shows_self (m : Memory) : m.Shows m.content m.failing := ⟨rfl, rfl⟩

theorem Shows.after (shows : m.Shows k failing) (op : Operation) :
    (m.after op).Shows (k.change op) failing where
  content := (content_change m op).trans (by rw [shows.content])
  failing := (change_failing m op).trans shows.failing

theorem Shows.perform_failing (shows : m.Shows k failing) (fails : op.name ∈ failing) :
    m.perform op = (.error (injected op), m) := by
  rw [← shows.failing] at fails
  rw [perform, if_pos fails]

theorem Shows.perform_read (shows : m.Shows k failing) (works : op.name ∉ failing)
    (reads : op.isMutation = false) : m.perform op = (k.answer op, m) := by
  rw [← shows.failing] at works
  rw [perform, if_neg works, ← shows.content, content_answer]
  simp [reads]

theorem Shows.perform_mutation (shows : m.Shows k failing) (works : op.name ∉ failing)
    (mutation : op.isMutation = true) : m.perform op = (k.answer op, m.after op) := by
  rw [← shows.failing] at works
  rw [perform, if_neg works, if_pos mutation, ← shows.content, content_answer]
  rfl

/-- Reading leaves a platform as it is. -/
theorem perform_still (reads : op.isMutation = false) : (m.perform op).2 = m := by
  rw [perform]
  split
  · rfl
  · rw [if_neg (by simp [reads])]

/-- What a platform answers is what its content says. -/
theorem answer_of_perform {x : op.Answer} (h : (m.perform op).1 = .ok x) :
    m.content.answer op = .ok x := by
  rw [content_answer]
  rw [perform] at h
  split at h
  · cases h
  · split at h
    · exact h
    · exact h

end Memory

variable {σ α β ε : Type} {surroundings : Surroundings σ}

namespace Host

variable (host : Host surroundings)

/-- Where the platform is `m`, an action ends with a result and a platform of which `Q` holds, or at
an error if it may. -/
def Ends (a : ExceptT ε Procedure α) (m : Memory) (mayFail : Prop) (Q : α → Memory → Prop) : Prop :=
  ∀ ⦃state : σ⦄ (clock : Nat), host.memory state = m →
    (∃ x, (a.run.run surroundings state clock).value = .ok x ∧
      Q x (host.memory (a.run.run surroundings state clock).state)) ∨
    (∃ e, (a.run.run surroundings state clock).value = .error e) ∧ mayFail

/-- What every operation seen of a procedure keeps of the platform, the procedure keeps. -/
theorem run_keeps {I : Memory → Prop} (p : Procedure α) (state : σ) (clock : Nat)
    (start : I (host.memory state))
    (step : ∀ e ∈ (p.run surroundings state clock).events, ∀ op, e.call = .platform op →
      ∀ m, I m → I (m.perform op).2) :
    I (host.memory (p.run surroundings state clock).state) := by
  induction p generalizing state clock with
  | done value => exact start
  | call c next ih =>
      refine ih _ _ _ ?_ fun e he => step e (List.mem_cons_of_mem _ he)
      cases c with
      | platform op =>
          have performs := congrArg Prod.snd (host.performs op state)
          rw [show host.memory _ = _ from performs]
          exact step _ List.mem_cons_self op rfl _ start
      | accessToken tenant =>
          rwa [show host.memory _ = _ from host.apart (.accessToken tenant) state nofun]
      | describeGroup group =>
          rwa [show host.memory _ = _ from host.apart (.describeGroup group) state nofun]
      | probe port => rwa [show host.memory _ = _ from host.apart (.probe port) state nofun]
  | sleep duration next ih => exact ih state _ start step
  | gate targets policy next ih =>
      refine ih _ _ _ ?_ fun e he => step e (List.mem_append_right _ he)
      exact Health.playGate_keeps (I := fun s => I (host.memory s)) surroundings policy
        (fun port s h => by rwa [host.apart (.probe port) s nofun]) targets clock start

/-- A procedure that only reads leaves the platform as it is. -/
theorem run_still (p : Procedure α) (state : σ) (clock : Nat)
    (reads : ∀ e ∈ (p.run surroundings state clock).events, ∀ op, e.call = .platform op →
      op.isMutation = false) :
    host.memory (p.run surroundings state clock).state = host.memory state := by
  refine host.run_keeps (I := (· = host.memory state)) p state clock rfl ?_
  rintro e he op hop _ rfl
  exact Memory.perform_still (reads e he op hop)

/-- What a procedure that only reads was answered is what the content says. -/
theorem content_of_answered (p : Procedure α) {state : σ} {clock : Nat}
    (reads : ∀ e ∈ (p.run surroundings state clock).events, ∀ op, e.call = .platform op →
      op.isMutation = false) {op : Operation} {x : op.Answer}
    (answered : History.Answered (.platform op) x (p.run surroundings state clock).events) :
    (host.memory state).content.answer op = .ok x := by
  obtain ⟨time, hmem⟩ := answered
  induction p generalizing state clock with
  | done value => simp [Procedure.run] at hmem
  | call c next ih =>
      rcases List.mem_cons.1 hmem with hfirst | hrest
      · obtain ⟨-, rfl, hreply⟩ := Event.mk.inj hfirst
        have performs := congrArg Prod.fst (host.performs op state)
        exact Memory.answer_of_perform (performs.symm.trans (eq_of_heq hreply).symm)
      · have first := host.run_still (.call c .done) state clock fun e he =>
          reads e (List.mem_singleton.1 he ▸ List.mem_cons_self)
        rw [← first]
        exact ih _ (fun e he => reads e (List.mem_cons_of_mem _ he)) hrest
  | sleep duration next ih => exact ih reads hmem
  | gate targets policy next ih =>
      rcases List.mem_append.1 hmem with hgate | hrest
      · obtain ⟨target, -, hcall⟩ :=
          Health.playGate_probes surroundings policy targets clock state _ hgate
        cases hcall
      · have first := host.run_still (.gate targets policy .done) state clock fun e he =>
          reads e (List.mem_append_left _ (by simpa [Procedure.run] using he))
        rw [← first]
        exact ih _ (fun e he => reads e (List.mem_append_right _ he)) hrest

namespace Ends

variable {host} {m : Memory} {mayFail : Prop} {Q Q' : α → Memory → Prop} {R : β → Memory → Prop}
  {k : Content} {failing : List String}

/-- The outcome of an action that does not fail. -/
theorem outcome {a : ExceptT ε Procedure α} {state : σ} (h : host.Ends a m False Q) (clock : Nat)
    (start : host.memory state = m) :
    ∃ x, (a.run.run surroundings state clock).value = .ok x ∧
      Q x (host.memory (a.run.run surroundings state clock).state) :=
  (h clock start).resolve_right And.right

/-- What is known of the outcome of an action that has succeeded. -/
theorem of_ok {a : ExceptT ε Procedure α} {state : σ} {clock : Nat} {x : α}
    (h : host.Ends a m True Q) (start : host.memory state = m)
    (succeeded : (a.run.run surroundings state clock).value = .ok x) :
    Q x (host.memory (a.run.run surroundings state clock).state) := by
  rcases h clock start with ⟨y, hvalue, hQ⟩ | ⟨⟨e, hvalue⟩, -⟩
  · cases succeeded.symm.trans hvalue
    exact hQ
  · cases succeeded.symm.trans hvalue

theorem weaken {a : ExceptT ε Procedure α} (h : host.Ends a m mayFail Q)
    (sub : ∀ x m', Q x m' → Q' x m') : host.Ends a m mayFail Q' := by
  intro state clock start
  rcases h clock start with ⟨x, hvalue, hQ⟩ | failed
  · exact .inl ⟨x, hvalue, sub x _ hQ⟩
  · exact .inr failed

theorem and {a : ExceptT ε Procedure α} (h : host.Ends a m mayFail Q)
    (h' : host.Ends a m mayFail Q') : host.Ends a m mayFail fun x m' => Q x m' ∧ Q' x m' := by
  intro state clock start
  rcases h clock start with ⟨x, hvalue, hQ⟩ | failed
  · rcases h' clock start with ⟨y, hvalue', hQ'⟩ | ⟨⟨e, hvalue'⟩, -⟩
    · cases hvalue.symm.trans hvalue'
      exact .inl ⟨x, hvalue, hQ, hQ'⟩
    · cases hvalue.symm.trans hvalue'
  · exact .inr failed

theorem pure {x : α} (h : Q x m) : host.Ends (pure x : ExceptT ε Procedure α) m mayFail Q := by
  rintro state clock rfl
  exact .inl ⟨x, rfl, h⟩

theorem bind {a : ExceptT ε Procedure α} {f : α → ExceptT ε Procedure β}
    (first : host.Ends a m mayFail Q)
    (rest : ∀ x m', Q x m' → host.Ends (f x) m' mayFail R) : host.Ends (a >>= f) m mayFail R := by
  intro state clock start
  rcases first clock start with ⟨x, hvalue, hQ⟩ | ⟨⟨e, hvalue⟩, allowed⟩
  · rw [Action.run_bind_ok hvalue]
    exact rest x _ hQ _ rfl
  · exact .inr ⟨⟨e, (Action.run_bind_error hvalue f).1⟩, allowed⟩

theorem ofExcept {result : Except Error α} (ok : ∀ x, result = .ok x → Q x m)
    (fails : ∀ e, result = .error e → mayFail) :
    host.Ends (Action.ofExcept result) m mayFail Q := by
  rintro state clock rfl
  cases result with
  | ok x => exact .inl ⟨x, rfl, ok x rfl⟩
  | error e => exact .inr ⟨⟨e, rfl⟩, fails e rfl⟩

theorem forEntity {a : Action α} {tenant : Option String} {entity : String}
    (h : host.Ends a m mayFail Q) : host.Ends (a.forEntity tenant entity) m mayFail Q := by
  intro state clock start
  rw [Action.run_forEntity]
  rcases h clock start with ⟨x, hvalue, hQ⟩ | ⟨⟨e, hvalue⟩, allowed⟩
  · exact .inl ⟨x, by rw [hvalue]; rfl, hQ⟩
  · exact .inr ⟨⟨_, by rw [hvalue]; rfl⟩, allowed⟩

theorem inStage {a : Action α} {stage : Stage} {tenant entity : Option String}
    (h : host.Ends a m mayFail Q) :
    host.Ends (Action.inStage stage tenant entity a) m mayFail Q := by
  intro state clock start
  rw [Action.run_inStage]
  rcases h clock start with ⟨x, hvalue, hQ⟩ | ⟨⟨e, hvalue⟩, allowed⟩
  · exact .inl ⟨x, by rw [hvalue]; rfl, hQ⟩
  · exact .inr ⟨⟨_, by rw [hvalue]; rfl⟩, allowed⟩

/-- What the operations of an action keep, the action keeps, if it may fail. -/
theorem keeps {a : ExceptT ε Procedure α} {kind : Call → Prop} {I : Memory → Prop}
    (makes : Action.Makes kind a) (start : I m)
    (step : ∀ op m, kind (.platform op) → I m → I (m.perform op).2) :
    host.Ends a m True fun _ m' => I m' := by
  rintro state clock rfl
  have seen := Procedure.makes_iff.1 makes.run _ _
    (Procedure.yields_run surroundings a.run state clock)
  have kept := host.run_keeps a.run state clock start fun e he op hop m =>
    step op m (hop ▸ seen e he)
  cases hvalue : (a.run.run surroundings state clock).value with
  | ok x => exact .inl ⟨x, rfl, kept⟩
  | error e => exact .inr ⟨⟨e, rfl⟩, trivial⟩

/-- An action that only reads leaves the platform as it is. -/
theorem still {a : ExceptT ε Procedure α} {kind : Call → Prop} (makes : Action.Makes kind a)
    (reads : ∀ op, kind (.platform op) → op.isMutation = false) :
    host.Ends a m True fun _ m' => m' = m := by
  refine keeps makes rfl ?_
  rintro op m' hkind rfl
  exact Memory.perform_still (reads op hkind)

/-- Of an action that may fail nothing need be known. -/
theorem any {a : ExceptT ε Procedure α} : host.Ends a m True fun _ _ => True :=
  keeps .any trivial fun _ _ _ => id

/-- A token is asked of the surroundings, and the platform stays as it is. -/
theorem token {doing tenant : String} (fails : mayFail ∨ surroundings.Admits tenant) :
    host.Ends (Action.requestFor doing (.accessToken tenant)) m mayFail fun _ m' =>
      m' = m ∧ surroundings.Serves tenant := by
  rintro state clock rfl
  have apart := host.apart (.accessToken tenant) state nofun
  cases hreply : (surroundings.answer (.accessToken tenant) state).1.reply with
  | ok token =>
      exact .inl ⟨token, congrArg (Except.mapError _) hreply, apart, state, token, hreply⟩
  | error f =>
      refine .inr ⟨⟨_, congrArg (Except.mapError _) hreply⟩, fails.resolve_right fun always => ?_⟩
      obtain ⟨token, htoken⟩ := always state
      cases hreply.symm.trans htoken

/-- An operation is carried out by the platform. -/
theorem operate {doing : String} {op : Operation} {S : op.Answer → Memory → Prop}
    (answers : ∀ x, (m.perform op).1 = .ok x → S x (m.perform op).2)
    (fails : ∀ f, (m.perform op).1 = .error f → mayFail) :
    host.Ends (Action.operate doing op) m mayFail S := by
  rintro state clock rfl
  obtain ⟨hreply, hmemory⟩ := Prod.ext_iff.1 (host.performs op state)
  rw [← hreply] at answers fails
  rw [← hmemory] at answers
  cases hanswer : (surroundings.answer (.platform op) state).1.reply with
  | ok x => exact .inl ⟨x, congrArg (Except.mapError _) hanswer, answers x hanswer⟩
  | error f => exact .inr ⟨⟨_, congrArg (Except.mapError _) hanswer⟩, fails f hanswer⟩

/-- An operation that reads answers what the content says. -/
theorem read {doing : String} {op : Operation} {x : op.Answer} (shows : m.Shows k failing)
    (reads : op.isMutation = false) (answer : k.answer op = .ok x)
    (fails : op.name ∈ failing → mayFail) :
    host.Ends (Action.operate doing op) m mayFail fun y m' => y = x ∧ m' = m := by
  by_cases hfails : op.name ∈ failing
  · refine operate ?_ fun _ _ => fails hfails
    simp [shows.perform_failing hfails]
  · refine operate ?_ ?_
    · simp [shows.perform_read hfails reads, answer, eq_comm]
    · simp [shows.perform_read hfails reads, answer]

/-- A mutation that does not fail is carried out. -/
theorem mutate {doing : String} {op : Operation} {x : op.Answer} (shows : m.Shows k failing)
    (mutation : op.isMutation = true) (answer : k.answer op = .ok x)
    (fails : op.name ∈ failing → mayFail) :
    host.Ends (Action.operate doing op) m mayFail fun y m' => y = x ∧ m' = m.after op := by
  by_cases hfails : op.name ∈ failing
  · refine operate ?_ fun _ _ => fails hfails
    simp [shows.perform_failing hfails]
  · refine operate ?_ ?_
    · simp [shows.perform_mutation hfails mutation, answer, eq_comm]
    · simp [shows.perform_mutation hfails mutation, answer]

/-- A mutation that is attempted is carried out unless it is set to fail. -/
theorem attempt {op : Operation} (shows : m.Shows k failing) (mutation : op.isMutation = true) :
    host.Ends (Action.attempt op) m mayFail fun succeeded m' =>
      succeeded = decide (op.name ∉ failing) ∧
        m' = if op.name ∈ failing then m else m.after op := by
  rintro state clock rfl
  obtain ⟨x, answer⟩ := k.answer_of_mutation mutation
  obtain ⟨hreply, hmemory⟩ := Prod.ext_iff.1 (host.performs op state)
  refine .inl ⟨(surroundings.answer (.platform op) state).1.reply.isOk, rfl, ?_⟩
  show _ ∧ host.memory (surroundings.answer (.platform op) state).2 = _
  dsimp only at hreply hmemory
  rw [hreply, hmemory]
  by_cases hfails : op.name ∈ failing
  · rw [shows.perform_failing hfails]
    simp [hfails, Except.isOk, Except.toBool]
  · rw [shows.perform_mutation hfails mutation, answer]
    simp [hfails, Except.isOk, Except.toBool]

/-- A loop keeps an invariant that is indexed by the items done and their results. -/
theorem each {f : α → ExceptT ε Procedure β} {items : List α}
    {I : List α → List β → Memory → Prop} (start : I [] [] m)
    (step : ∀ done ys x rest, items = done ++ x :: rest → ∀ m, I done ys m →
      host.Ends (f x) m mayFail fun y m' => I (done ++ [x]) (ys ++ [y]) m') :
    host.Ends (each f items) m mayFail fun ys m' => I items ys m' := by
  suffices h : ∀ (rest done : List α) (ys : List β) (m : Memory), items = done ++ rest →
      I done ys m → host.Ends (Rollout.each f rest) m mayFail
        fun zs m' => I (done ++ rest) (ys ++ zs) m' by
    exact h items [] [] m rfl start
  intro rest
  induction rest with
  | nil =>
      intro done ys m _ hI
      exact pure (by simpa using hI)
  | cons x rest ih =>
      intro done ys m hitems hI
      refine (step done ys x rest hitems m hI).bind fun y m' hI' => ?_
      refine (ih (done ++ [x]) (ys ++ [y]) m' (by simp [hitems]) hI').bind fun zs m'' hI'' => ?_
      exact pure (by simpa using hI'')

/-- A loop that leaves the platform as it is, with what is known of each result. -/
theorem each_still {f : α → ExceptT ε Procedure β} {items : List α} {g : α → β}
    (item : ∀ x ∈ items, host.Ends (f x) m mayFail fun y m' => y = g x ∧ m' = m) :
    host.Ends (Rollout.each f items) m mayFail fun ys m' => ys = items.map g ∧ m' = m := by
  refine each (I := fun done ys m' => ys = done.map g ∧ m' = m) ⟨rfl, rfl⟩ ?_
  rintro done ys x rest rfl m' ⟨rfl, rfl⟩
  exact (item x (by simp)).weaken fun y m' h => ⟨by simp [h.1], h.2⟩

/-- A sweep keeps an invariant that is indexed by the items tried and those that succeeded. -/
theorem sweep {operation : α → Operation} {items : List α} {I : List α → List α → Memory → Prop}
    (start : I [] [] m)
    (step : ∀ done kept x rest, items = done ++ x :: rest → ∀ m, I done kept m →
      host.Ends (Action.attempt (operation x)) m mayFail fun succeeded m' =>
        I (done ++ [x]) (kept ++ if succeeded then [x] else []) m') :
    host.Ends (Action.sweep operation items) m mayFail fun kept m' => I items kept m' := by
  suffices h : ∀ (rest done kept : List α) (m : Memory), items = done ++ rest →
      I done kept m → host.Ends (Action.sweep operation rest) m mayFail
        fun others m' => I (done ++ rest) (kept ++ others) m' by
    exact h items [] [] m rfl start
  intro rest
  induction rest with
  | nil =>
      intro done kept m _ hI
      exact pure (by simpa using hI)
  | cons x rest ih =>
      intro done kept m hitems hI
      refine (step done kept x rest hitems m hI).bind fun succeeded m' hI' => ?_
      refine (ih (done ++ [x]) _ m' (by simp [hitems]) hI').bind fun others m'' hI'' => ?_
      refine pure ?_
      cases succeeded with
      | true => simpa using hI''
      | false => simpa using hI''

end Ends

end Host

end Rollout
