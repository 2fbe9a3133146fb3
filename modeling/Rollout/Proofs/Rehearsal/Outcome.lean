import Rollout.Procedure.Scripted
import Rollout.Proofs.Platform.Content
import Rollout.Proofs.Procedure.Runs

/-!
# The outcome of a rehearsal

In scripted surroundings with a platform none of whose operations fails, all that matters for what
an action does is the content of the platform and the number of polls so far. `Succeeds a s Q` says
that `a`, started where these are as in `s`, ends with a result and a situation of which `Q` holds;
`Fails a s E` that it ends at an error of which `E` holds. Neither depends on the time.

A loop is followed with an invariant that is indexed by the items done so far.
-/

namespace Rollout.Scripted

open Function (update)

variable {α β ε : Type} (script : Script)

structure Situation where
  content : Content
  polled : Nat

/-- A state with a working platform, in a situation. -/
def State.In (state : State) (s : Situation) : Prop :=
  state.memory.failing = [] ∧ state.memory.content = s.content ∧ state.polled = s.polled

def State.situation (state : State) : Situation := ⟨state.memory.content, state.polled⟩

theorem State.in_situation {state : State} (working : state.memory.failing = []) :
    state.In state.situation :=
  ⟨working, rfl, rfl⟩

/-- From a situation, an action ends with a result and a situation of which `Q` holds. -/
def Succeeds (a : ExceptT ε Procedure α) (s : Situation) (Q : α → Situation → Prop) : Prop :=
  ∀ ⦃state : State⦄ (clock : Nat), state.In s →
    ∃ x s', (a.run.run (surroundings script) state clock).value = .ok x ∧
      (a.run.run (surroundings script) state clock).state.In s' ∧ Q x s'

/-- From a situation, an action ends at an error of which `E` holds. -/
def Fails (a : ExceptT ε Procedure α) (s : Situation) (E : ε → Prop) : Prop :=
  ∀ ⦃state : State⦄ (clock : Nat), state.In s →
    ∃ e, (a.run.run (surroundings script) state clock).value = .error e ∧ E e

variable {script} {s : Situation} {Q : α → Situation → Prop} {R : β → Situation → Prop}
  {E : ε → Prop}

namespace State.In

variable {state : State} {op : Operation} {x : op.Answer}

/-- A working platform answers what the content says, and stays as it is when it is read. -/
theorem read (hin : state.In s) (hop : op.isMutation = false) (h : s.content.answer op = .ok x) :
    state.memory.perform op = (.ok x, state.memory) := by
  obtain ⟨hworking, hcontent, -⟩ := hin
  rw [← hcontent, Memory.content_answer] at h
  simp [Memory.perform, hworking, hop, h]

/-- A mutation of a working platform changes the content. -/
theorem mutate (hin : state.In s) (hop : op.isMutation = true) (h : s.content.answer op = .ok x) :
    (state.memory.perform op).1 = .ok x ∧
      State.In { state with memory := (state.memory.perform op).2 }
        { s with content := s.content.change op } := by
  obtain ⟨hworking, hcontent, hpolled⟩ := hin
  rw [← hcontent, Memory.content_answer] at h
  have hperform : state.memory.perform op =
      (.ok x, { state.memory.change op with log := op :: state.memory.log }) := by
    simp [Memory.perform, hworking, hop, h]
  rw [hperform]
  refine ⟨rfl, ?_, ?_, hpolled⟩
  · exact (Memory.change_failing state.memory op).trans hworking
  · exact (Memory.content_change state.memory op).trans (by rw [hcontent])

end State.In

namespace Succeeds

theorem weaken {a : ExceptT ε Procedure α} {Q' : α → Situation → Prop}
    (h : Succeeds script a s Q) (sub : ∀ x s', Q x s' → Q' x s') : Succeeds script a s Q' := by
  intro state clock hin
  obtain ⟨x, s', hvalue, hstate, hQ⟩ := h clock hin
  exact ⟨x, s', hvalue, hstate, sub x s' hQ⟩

theorem pure {x : α} (h : Q x s) : Succeeds script (pure x : ExceptT ε Procedure α) s Q :=
  fun _ _ hin => ⟨x, s, rfl, hin, h⟩

theorem bind {a : ExceptT ε Procedure α} {f : α → ExceptT ε Procedure β}
    (first : Succeeds script a s Q) (rest : ∀ x s', Q x s' → Succeeds script (f x) s' R) :
    Succeeds script (a >>= f) s R := by
  intro state clock hin
  obtain ⟨x, s', hvalue, hstate, hQ⟩ := first clock hin
  rw [Action.run_bind_ok hvalue]
  exact rest x s' hQ _ hstate

theorem ofExcept {result : Except Error α} {x : α} (h : result = .ok x) (hQ : Q x s) :
    Succeeds script (Action.ofExcept result) s Q :=
  fun _ _ hin => ⟨x, s, h, hin, hQ⟩

theorem pause {duration : Nat} {Q : Unit → Situation → Prop} (h : Q () s) :
    Succeeds script (ExceptT.lift (Procedure.pause duration) : ExceptT ε Procedure Unit) s Q :=
  fun _ _ hin => ⟨(), s, rfl, hin, h⟩

theorem forEntity {a : Action α} {tenant : Option String} {entity : String}
    (h : Succeeds script a s Q) : Succeeds script (a.forEntity tenant entity) s Q := by
  intro state clock hin
  obtain ⟨x, s', hvalue, hstate, hQ⟩ := h clock hin
  rw [Action.run_forEntity, hvalue]
  exact ⟨x, s', rfl, hstate, hQ⟩

theorem inStage {a : Action α} {stage : Stage} {tenant entity : Option String}
    (h : Succeeds script a s Q) : Succeeds script (Action.inStage stage tenant entity a) s Q := by
  intro state clock hin
  obtain ⟨x, s', hvalue, hstate, hQ⟩ := h clock hin
  rw [Action.run_inStage, hvalue]
  exact ⟨x, s', rfl, hstate, hQ⟩

theorem token {tenant doing token : String} (h : script.tokens.tokenFor tenant = .ok token) :
    Succeeds script (Action.requestFor doing (.accessToken tenant)) s fun x s' =>
      x = token ∧ s' = s := by
  intro state clock hin
  refine ⟨token, s, ?_, hin, rfl, rfl⟩
  show Except.mapError _ (script.tokens.tokenFor tenant) = _
  rw [h]
  rfl

theorem poll {group : String} {output : Lag.CommandOutput}
    (h : script.poll s.polled = .ok output) :
    Succeeds script (Action.request (.describeGroup group)) s fun x s' =>
      x = output ∧ s' = { s with polled := s.polled + 1 } := by
  rintro state clock ⟨hworking, hcontent, hpolled⟩
  refine ⟨output, { s with polled := s.polled + 1 }, ?_, ⟨hworking, hcontent, ?_⟩, rfl, rfl⟩
  · show Except.mapError _ (script.poll state.polled) = _
    rw [hpolled, h]
    rfl
  · show state.polled + 1 = s.polled + 1
    rw [hpolled]

/-- An operation that reads answers what the content says. -/
theorem read {doing : String} {op : Operation} {x : op.Answer} (hop : op.isMutation = false)
    (h : s.content.answer op = .ok x) :
    Succeeds script (Action.operate doing op) s fun y s' => y = x ∧ s' = s := by
  intro state clock hin
  have hperform := hin.read hop h
  refine ⟨x, s, ?_, ?_, rfl, rfl⟩
  · show Except.mapError _ (state.memory.perform op).1 = _
    rw [hperform]
    rfl
  · show State.In { state with memory := (state.memory.perform op).2 } s
    rw [hperform]
    exact hin

/-- An operation that changes the platform changes its content. -/
theorem mutate {doing : String} {op : Operation} {x : op.Answer} (hop : op.isMutation = true)
    (h : s.content.answer op = .ok x) :
    Succeeds script (Action.operate doing op) s fun y s' =>
      y = x ∧ s' = { s with content := s.content.change op } := by
  intro state clock hin
  obtain ⟨hanswer, hafter⟩ := hin.mutate hop h
  refine ⟨x, { s with content := s.content.change op }, ?_, hafter, rfl, rfl⟩
  show Except.mapError _ (state.memory.perform op).1 = _
  rw [hanswer]
  rfl

/-- A sweep of mutations that leave the content as it is. -/
theorem sweep {operation : α → Operation} {items : List α}
    (h : ∀ item ∈ items, (operation item).isMutation = true ∧
      s.content.change (operation item) = s.content ∧
        ∃ x, s.content.answer (operation item) = .ok x) :
    Succeeds script (Action.sweep operation items) s fun _ s' => s' = s := by
  induction items with
  | nil => exact pure rfl
  | cons item rest ih =>
      have first : Succeeds script (Action.attempt (operation item)) s fun _ s' => s' = s := by
        intro state clock hin
        obtain ⟨hop, hcontent, x, hx⟩ := h item List.mem_cons_self
        have hafter := (hin.mutate hop hx).2
        rw [hcontent] at hafter
        exact ⟨_, s, rfl, hafter, rfl⟩
      refine first.bind fun _ s' hs' => ?_
      subst hs'
      refine (ih fun item' h' => h item' (List.mem_cons_of_mem _ h')).bind fun _ s' hs' => ?_
      exact pure hs'

/-- A loop keeps an invariant that is indexed by the items done and their results. -/
theorem each {f : α → ExceptT ε Procedure β} {items : List α}
    {I : List α → List β → Situation → Prop} (start : I [] [] s)
    (step : ∀ done ys x rest, items = done ++ x :: rest → ∀ s, I done ys s →
      Succeeds script (f x) s fun y s' => I (done ++ [x]) (ys ++ [y]) s') :
    Succeeds script (each f items) s fun ys s' => I items ys s' := by
  suffices h : ∀ (rest done : List α) (ys : List β) (s : Situation), items = done ++ rest →
      I done ys s → Succeeds script (Rollout.each f rest) s
        fun zs s' => I (done ++ rest) (ys ++ zs) s' by
    exact h items [] [] s rfl start
  intro rest
  induction rest with
  | nil =>
      intro done ys s _ hI
      exact pure (by simpa using hI)
  | cons x rest ih =>
      intro done ys s hitems hI
      refine (step done ys x rest hitems s hI).bind fun y s' hI' => ?_
      refine (ih (done ++ [x]) (ys ++ [y]) s' (by simp [hitems]) hI').bind fun zs s'' hI'' => ?_
      exact pure (by simpa using hI'')

/-- A loop that leaves the situation as it is. -/
theorem each_still {f : α → ExceptT ε Procedure β} {items : List α}
    (item : ∀ x ∈ items, Succeeds script (f x) s fun _ s' => s' = s) :
    Succeeds script (Rollout.each f items) s fun _ s' => s' = s := by
  refine each (I := fun _ _ s' => s' = s) rfl ?_
  rintro done ys x rest rfl s' rfl
  exact item x (by simp)

/-- A loop that reads, with a known result for each item. -/
theorem each_reads {f : α → ExceptT ε Procedure β} {items : List α} {g : α → β}
    (item : ∀ x ∈ items, Succeeds script (f x) s fun y s' => y = g x ∧ s' = s) :
    Succeeds script (Rollout.each f items) s fun ys s' => ys = items.map g ∧ s' = s := by
  refine each (I := fun done ys s' => ys = done.map g ∧ s' = s) ⟨rfl, rfl⟩ ?_
  rintro done ys x rest rfl s' ⟨rfl, rfl⟩
  exact (item x (by simp)).weaken fun y s' h => ⟨by simp [h.1], h.2⟩

end Succeeds

namespace Fails

theorem weaken {a : ExceptT ε Procedure α} {E' : ε → Prop} (h : Fails script a s E)
    (sub : ∀ e, E e → E' e) : Fails script a s E' := by
  intro state clock hin
  obtain ⟨e, hvalue, hE⟩ := h clock hin
  exact ⟨e, hvalue, sub e hE⟩

theorem bind_first {a : ExceptT ε Procedure α} {f : α → ExceptT ε Procedure β}
    (h : Fails script a s E) : Fails script (a >>= f) s E := by
  intro state clock hin
  obtain ⟨e, hvalue, hE⟩ := h clock hin
  exact ⟨e, (Action.run_bind_error hvalue f).1, hE⟩

theorem bind {a : ExceptT ε Procedure α} {f : α → ExceptT ε Procedure β}
    (first : Succeeds script a s Q) (rest : ∀ x s', Q x s' → Fails script (f x) s' E) :
    Fails script (a >>= f) s E := by
  intro state clock hin
  obtain ⟨x, s', hvalue, hstate, hQ⟩ := first clock hin
  rw [Action.run_bind_ok hvalue]
  exact rest x s' hQ _ hstate

theorem ofExcept {result : Except Error α} {e : Error} {E : Error → Prop} (h : result = .error e)
    (hE : E e) : Fails script (Action.ofExcept result) s E :=
  fun _ _ _ => ⟨e, h, hE⟩

theorem forEntity {a : Action α} {tenant : Option String} {entity : String} {E : Error → Prop}
    (h : Fails script a s fun e => E (e.forEntity tenant entity)) :
    Fails script (a.forEntity tenant entity) s E := by
  intro state clock hin
  obtain ⟨e, hvalue, hE⟩ := h clock hin
  rw [Action.run_forEntity, hvalue]
  exact ⟨_, rfl, hE⟩

theorem inStage {a : Action α} {stage : Stage} {tenant entity : Option String}
    {E : StageFailure → Prop} (h : Fails script a s fun e => E (e.inStage stage tenant entity)) :
    Fails script (Action.inStage stage tenant entity a) s E := by
  intro state clock hin
  obtain ⟨e, hvalue, hE⟩ := h clock hin
  rw [Action.run_inStage, hvalue]
  exact ⟨_, rfl, hE⟩

/-- A loop fails at an item if those before it succeed. -/
theorem each {f : α → ExceptT ε Procedure β} {before after : List α} {x : α}
    {Q : List β → Situation → Prop} (first : Succeeds script (each f before) s Q)
    (item : ∀ ys s', Q ys s' → Fails script (f x) s' E) :
    Fails script (Rollout.each f (before ++ x :: after)) s E := by
  rw [each_append]
  exact bind first fun ys s' hQ => bind_first (bind_first (item ys s' hQ))

end Fails

end Rollout.Scripted
