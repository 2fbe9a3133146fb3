import Mathlib.Data.List.Induction
import Rollout.Proofs.Lag.Wait

/-!
# A barrier that is fed descriptions

A barrier may be fed one description of its group after another, and go on after those that cannot
be read. Where it stands then is known from what was read: it is drained if nothing was left to
consume at any time, and otherwise polling with the lag that was read last. The last backlog agrees
with that, and neither changes once the barrier is drained.
-/

namespace Rollout.Lag

/-- The lag that a description reads as, if it reads as one. -/
def lagIn? (group tenant : String) (output : CommandOutput) : Option Nat :=
  match readLag output group tenant with
  | .ok (.lag count) => some count
  | _ => none

/-- The lag that was read last in some descriptions, if any was. -/
def latestLag? (group tenant : String) (outputs : List CommandOutput) : Option Nat :=
  (outputs.filterMap (lagIn? group tenant)).getLast?

/-- Some description reads as nothing left to consume. -/
def Emptied (group tenant : String) (outputs : List CommandOutput) : Prop :=
  ∃ output ∈ outputs, readLag output group tenant = .ok (.lag 0)

variable {group tenant : String} {outputs : List CommandOutput} {output : CommandOutput}

theorem latestLag?_concat (outputs : List CommandOutput) (output : CommandOutput) :
    latestLag? group tenant (outputs ++ [output]) =
      (lagIn? group tenant output).or (latestLag? group tenant outputs) := by
  cases h : lagIn? group tenant output with
  | none => simp [latestLag?, h]
  | some count => simp [latestLag?, h]

theorem emptied_concat : Emptied group tenant (outputs ++ [output]) ↔
    Emptied group tenant outputs ∨ readLag output group tenant = .ok (.lag 0) := by
  simp [Emptied, or_and_right, exists_or]

namespace Barrier

/-- What a barrier answers to a description, and the barrier from then on. Where the description
cannot be read, the answer is that failure and the barrier is what it was. -/
def feed (b : Barrier) (output : CommandOutput) : Except Error BarrierState × Barrier :=
  match b.observe output with
  | .ok b' => (.ok b'.state, b')
  | .error e => (.error e, b)

/-- The barrier that descriptions leave, one after another. -/
def after (b : Barrier) (outputs : List CommandOutput) : Barrier :=
  outputs.foldl (fun b output => (b.feed output).2) b

/-- What a barrier answers to descriptions, one after another. -/
def answers (b : Barrier) : List CommandOutput → List (Except Error BarrierState)
  | [] => []
  | output :: rest => (b.feed output).1 :: (b.feed output).2.answers rest

variable {b : Barrier}

theorem after_concat (b : Barrier) (outputs : List CommandOutput) (output : CommandOutput) :
    b.after (outputs ++ [output]) = ((b.after outputs).feed output).2 := by
  simp [after]

/-! ### One description -/

/-- A drained barrier does not read what it is fed. -/
theorem feed_of_drained (drained : b.state = .drained) : b.feed output = (.ok .drained, b) := by
  simp [feed, observe, drained]

theorem feed_of_unread (polling : b.state ≠ .drained) {e : Error}
    (unread : readLag output b.group b.tenant = .error e) : b.feed output = (.error e, b) := by
  cases hstate : b.state with
  | drained => exact absurd hstate polling
  | polling last => simp [feed, observe, hstate, unread, Except.map]

theorem feed_of_transient {complaint : String}
    (transient : readLag output b.group b.tenant = .ok (.transient complaint)) :
    b.feed output = (.ok b.state, b) := by
  cases hstate : b.state with
  | drained => exact feed_of_drained hstate
  | polling last => simp [feed, observe, hstate, transient, Except.map, note]

theorem feed_of_lag (polling : b.state ≠ .drained) {count : Nat}
    (read : readLag output b.group b.tenant = .ok (.lag count)) :
    b.feed output = (.ok (b.note (.lag count)).state, b.note (.lag count)) := by
  cases hstate : b.state with
  | drained => exact absurd hstate polling
  | polling last => simp [feed, observe, hstate, read, Except.map]

/-- The rules by which a barrier takes descriptions: a failure to read is handed on and changes
nothing, neither does a reading without news, a lag is answered by the state that it leads to, and
after nothing was left to consume all further descriptions are answered alike and change nothing. -/
structure Heeds (b : Barrier) : Prop where
  unread : ∀ output e, b.state ≠ .drained → readLag output b.group b.tenant = .error e →
    b.feed output = (.error e, b)
  transient : ∀ output complaint,
    readLag output b.group b.tenant = .ok (.transient complaint) → b.feed output = (.ok b.state, b)
  lag : ∀ output count, readLag output b.group b.tenant = .ok (.lag count) →
    (b.feed output).1 = .ok (b.feed output).2.state
  drained : b.state = .drained → ∀ further,
    b.answers further = further.map (fun _ => .ok .drained) ∧ b.after further = b

theorem drained_forever (drained : b.state = .drained) (further : List CommandOutput) :
    b.answers further = further.map (fun _ => .ok .drained) ∧ b.after further = b := by
  induction further with
  | nil => exact ⟨rfl, rfl⟩
  | cons output rest ih =>
      rw [answers, after, List.foldl_cons, feed_of_drained drained]
      exact ⟨congrArg _ ih.1, ih.2⟩

theorem heeds (b : Barrier) : b.Heeds where
  unread _ _ polling unread := feed_of_unread polling unread
  transient _ _ transient := feed_of_transient transient
  lag output count read := by
    by_cases drained : b.state = .drained
    · rw [feed_of_drained drained, drained]
    · rw [feed_of_lag drained read]
  drained := drained_forever

/-! ### All descriptions -/

/-- Where a barrier of a group and a tenant stands after some descriptions. -/
structure Standing (group tenant : String) (seen : List CommandOutput) (b : Barrier) : Prop where
  group_eq : b.group = group
  tenant_eq : b.tenant = tenant
  drained : b.state = .drained ↔ Emptied group tenant seen
  polling : b.state ≠ .drained → b.state = .polling (latestLag? group tenant seen)
  last : b.last = if b.state = .drained then some ⟨group, tenant, 0⟩
    else (latestLag? group tenant seen).map (⟨group, tenant, ·⟩)

theorem start_standing (group tenant : String) :
    Standing group tenant [] (start group tenant) where
  group_eq := rfl
  tenant_eq := rfl
  drained := by simp [start, Emptied]
  polling _ := rfl
  last := rfl

/-- A description that does not read as a lag leaves everything as it stands. -/
theorem Standing.skip (h : Standing group tenant outputs b)
    (none : lagIn? group tenant output = none) :
    Standing group tenant (outputs ++ [output]) b := by
  have notEmpty : readLag output group tenant ≠ .ok (.lag 0) := by
    intro read
    simp [lagIn?, read] at none
  refine ⟨h.group_eq, h.tenant_eq, ?_, ?_, ?_⟩
  · rw [emptied_concat, or_iff_left notEmpty, h.drained]
  · rw [latestLag?_concat, none, Option.none_or]
    exact h.polling
  · rw [latestLag?_concat, none, Option.none_or]
    exact h.last

/-- A lag is noted while the barrier is polling. -/
theorem Standing.note (h : Standing group tenant outputs b) (polling : b.state ≠ .drained)
    {count : Nat} (read : readLag output group tenant = .ok (.lag count)) :
    Standing group tenant (outputs ++ [output]) (b.note (.lag count)) := by
  have latest : latestLag? group tenant (outputs ++ [output]) = some count := by
    simp [latestLag?_concat, lagIn?, read]
  have before : ¬ Emptied group tenant outputs := fun emptied => polling (h.drained.2 emptied)
  obtain ⟨rfl, rfl⟩ : b.group = group ∧ b.tenant = tenant := ⟨h.group_eq, h.tenant_eq⟩
  rw [Barrier.note]
  by_cases empty : count = 0
  · subst empty
    exact ⟨rfl, rfl, by simp [emptied_concat, read], fun left => absurd rfl left, rfl⟩
  · refine ⟨rfl, rfl, ?_, ?_, ?_⟩
    · simp [emptied_concat, before, read, empty]
    · simp [latest, empty]
    · simp [latest, empty]

/-- One description further. -/
theorem Standing.feed (h : Standing group tenant outputs b) (output : CommandOutput) :
    Standing group tenant (outputs ++ [output]) (b.feed output).2 := by
  by_cases drained : b.state = .drained
  · have emptied := h.drained.1 drained
    rw [feed_of_drained drained]
    refine ⟨h.group_eq, h.tenant_eq, ?_, fun polling => absurd drained polling, ?_⟩
    · exact iff_of_true drained (emptied_concat.2 (.inl emptied))
    · rw [h.last, if_pos drained, if_pos drained]
  · cases hread : readLag output group tenant with
    | error e =>
        have unread := hread
        rw [← h.group_eq, ← h.tenant_eq] at unread
        rw [feed_of_unread drained unread]
        exact h.skip (by simp [lagIn?, hread])
    | ok reading =>
        have read := hread
        rw [← h.group_eq, ← h.tenant_eq] at read
        cases reading with
        | transient complaint =>
            rw [feed_of_transient read]
            exact h.skip (by simp [lagIn?, hread])
        | lag count =>
            rw [feed_of_lag drained read]
            exact h.note drained hread

/-- Whatever descriptions a barrier was fed, and whichever of them could not be read: it is drained
if and only if one of them read as nothing left to consume, and is otherwise polling with the lag
that was read last; the last backlog is of that lag, of none left once it is drained; and it takes
the next descriptions by the rules. -/
theorem standing_after (group tenant : String) (outputs : List CommandOutput) :
    Standing group tenant outputs ((start group tenant).after outputs) ∧
      ((start group tenant).after outputs).Heeds := by
  refine ⟨?_, heeds _⟩
  induction outputs using List.reverseRecOn with
  | nil => exact start_standing group tenant
  | append_singleton outputs output ih =>
      rw [after_concat]
      exact ih.feed output

def lagging (lag : String) : CommandOutput := ⟨"group folio.north.capability 0 10 15 " ++ lag, ""⟩

/-- Something left, no news, a failure, less left, nothing left, and something left again. -/
def course : List CommandOutput :=
  [lagging "5", ⟨"", rebalancing "group"⟩, ⟨"", "garbled"⟩, lagging "2", lagging "0", lagging "7"]

/-- No news and a failure keep the lag that was read last; nothing left drains the barrier for good,
so that a failure is not even read. -/
theorem standing_after_course :
    let begun := (start "group" "north").after (course.take 3)
    let ended := (start "group" "north").after course
    begun.state = .polling (some 5) ∧ begun.last = some ⟨"group", "north", 5⟩ ∧
      ended.state = .drained ∧ ended.last = some ⟨"group", "north", 0⟩ ∧
      ended.answers [⟨"", "garbled"⟩, lagging "7"] = [.ok .drained, .ok .drained] := by
  intro begun ended
  obtain ⟨early, -⟩ := standing_after "group" "north" (course.take 3)
  obtain ⟨late, rules⟩ := standing_after "group" "north" course
  have polling : begun.state ≠ .drained := by decide +kernel
  have drained : ended.state = .drained :=
    late.drained.2 ⟨lagging "0", by decide, by decide +kernel⟩
  have read : latestLag? "group" "north" (course.take 3) = some 5 := by decide +kernel
  refine ⟨(early.polling polling).trans (by rw [read]), ?_, drained, ?_, ?_⟩
  · rw [early.last, if_neg polling, read]
    rfl
  · rw [late.last, if_pos drained]
  · exact (rules.drained drained _).1

end Barrier

end Rollout.Lag
