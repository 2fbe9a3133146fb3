import Mathlib.Data.List.Basic
import Rollout.Procedure.Scripted
import Rollout.Proofs.Health.Gate
import Rollout.Proofs.Procedure.Runs

/-!
# Waiting side by side and waiting alone

When a probe meets what its port has in store for it, no matter how other ports were probed before,
then the waits at the gate do not disturb one another: each goes exactly as it would alone from the
same start. The play takes the probes in the order of their times, so the events of one port are the
events of its wait alone, and the ends are those of all the waits, in some order (`play_asAlone`).
What the gate makes of the ends follows: it ends with the last of them, it passes when each wait
would, and otherwise it fails as one of the waits that fail first.
-/

namespace Rollout

def Event.probes (port : Port) (e : Event) : Bool := e.probed?.any (·.2 = port)

theorem Event.probes_iff {port : Port} {e : Event} :
    e.probes port = true ↔ e.call = .probe port := by
  obtain ⟨time, call, reply⟩ := e
  cases call <;> simp [Event.probes, Event.probed?]

@[simp] theorem Event.probes_probe (time : Nat) (port other : Port)
    (reply : Call.Reply (.probe port)) :
    Event.probes other ⟨time, .probe port, reply⟩ = decide (port = other) := rfl

/-- Each port has its own answers in store: what a probe of it meets, and after how long, depends on
how many probes of that port were made before. -/
structure PortScript {σ : Type} (surroundings : Surroundings σ) where
  made : σ → Port → Nat
  response : (port : Port) → Nat → Response (.probe port)
  answers : ∀ port state,
    (surroundings.answer (.probe port) state).1 = response port (made state port)
  counts : ∀ port other state, made (surroundings.answer (.probe port) state).2 other =
    if other = port then made state port + 1 else made state other

/-- In scripted surroundings each port has answers of its own. -/
def Scripted.portScript (script : Script) : PortScript (surroundings script) where
  made state port := state.probed.count port
  response port place := ⟨(script.probe port place).reply, (script.probe port place).delay⟩
  answers _ _ := rfl
  counts port other state := by
    by_cases h : other = port
    · subst h
      exact (List.count_cons_self ..).trans (if_pos rfl).symm
    · exact (List.count_cons_of_ne (Ne.symm h)).trans (if_neg h).symm

/-- What an onlooker can tell of a run: how it ended, when, and what was seen. -/
def Run.seen {σ α : Type} (r : Run σ α) : α × Nat × List Event := (r.value, r.clock, r.events)

namespace Health

variable {σ : Type} {surroundings : Surroundings σ} {policy : ProbePolicy} {target : Target}
  {state state' : σ}

/-- What follows on a probe is seen alike when what comes after it is. -/
theorem seen_call {port : Port} {next : Call.Reply (.probe port) → Procedure Outcome}
    (ports : PortScript surroundings) (same : ports.made state port = ports.made state' port)
    (rest : ∀ reply clock s s', ports.made s port = ports.made s' port →
      ((next reply).run surroundings s clock).seen = ((next reply).run surroundings s' clock).seen)
    (clock : Nat) :
    ((Procedure.call (.probe port) next).run surroundings state clock).seen =
      ((Procedure.call (.probe port) next).run surroundings state' clock).seen := by
  have answer : (surroundings.answer (.probe port) state).1 =
      (surroundings.answer (.probe port) state').1 := by
    rw [ports.answers, ports.answers, same]
  have counted : ports.made (surroundings.answer (.probe port) state).2 port =
      ports.made (surroundings.answer (.probe port) state').2 port := by
    simp [ports.counts, same]
  have hrest := rest (surroundings.answer (.probe port) state').1.reply
    (clock + (surroundings.answer (.probe port) state').1.elapsed) _ _ counted
  simp only [Run.seen, Prod.mk.injEq] at hrest
  simp [Run.seen, Procedure.run, answer, hrest]

/-- The wait for a module goes by what its port has in store. -/
theorem seen_probeOn (ports : PortScript surroundings)
    (same : ports.made state target.port = ports.made state' target.port) (made left clock : Nat) :
    ((probeOn target policy made left).run surroundings state clock).seen =
      ((probeOn target policy made left).run surroundings state' clock).seen := by
  induction left generalizing state state' made clock with
  | zero => rfl
  | succ left ih =>
      rw [probeOn, Procedure.run_sleep, Procedure.run_sleep]
      refine seen_call ports same (fun reply clock s s' same' => ?_) _
      split
      · rfl
      · exact ih same' _ _

/-- How a waiter goes on by itself when its next probe is due. -/
def Waiter.onward (policy : ProbePolicy) (w : Waiter) : Procedure Outcome :=
  .call (.probe w.target.port) fun reply =>
    if foundHealthy reply then .done (.ok ⟨w.target.name, w.attempts + 1⟩)
    else probeOn w.target policy (w.attempts + 1) (policy.maxAttempts - (w.attempts + 1))

/-- A wait alone sleeps until its next probe is due, and goes on as its waiter does. -/
theorem probeOn_eq (policy : ProbePolicy) (w : Waiter) (left : Nat)
    (h : w.attempts + (left + 1) = policy.maxAttempts) :
    probeOn w.target policy w.attempts (left + 1) = .sleep policy.interval (w.onward policy) := by
  rw [probeOn, Waiter.onward, ← h, Nat.add_comm left 1, ← Nat.add_assoc, Nat.add_sub_cancel_left]

def Waiter.alone (surroundings : Surroundings σ) (policy : ProbePolicy) (w : Waiter) (state : σ) :
    Run σ Outcome :=
  (w.onward policy).run surroundings state w.due

/-- How a waiter will end, were it alone. -/
def Waiter.ending (surroundings : Surroundings σ) (policy : ProbePolicy) (state : σ) (w : Waiter) :
    Ended :=
  ⟨w.place, (w.alone surroundings policy state).clock, (w.alone surroundings policy state).value⟩

variable {w v : Waiter}

theorem alone_congr (ports : PortScript surroundings) (policy : ProbePolicy)
    (same : ports.made state w.target.port = ports.made state' w.target.port) :
    (w.alone surroundings policy state).seen = (w.alone surroundings policy state').seen := by
  refine seen_call ports same (fun reply clock s s' same' => ?_) w.due
  split
  · rfl
  · exact seen_probeOn ports same' _ _ _

/-- A probe that ends a wait alone ends it at the gate in the same way. -/
theorem alone_of_ended {ended : Ended} {after : σ} {response : Response (.probe w.target.port)}
    (answer : surroundings.answer (.probe w.target.port) state = (response, after))
    (h : w.afterProbe policy (w.due + response.elapsed) (foundHealthy response.reply) =
      .inl ended) :
    w.ending surroundings policy state = ended ∧
      (w.alone surroundings policy state).events =
        [⟨w.due, .probe w.target.port, response.reply⟩] := by
  rw [Waiter.afterProbe] at h
  by_cases found : foundHealthy response.reply = true
  · rw [if_pos found] at h
    cases h
    simp [Waiter.ending, Waiter.alone, Waiter.onward, Procedure.run, answer, found]
  · rw [if_neg found] at h
    split at h
    next spent =>
      cases h
      simp [Waiter.ending, Waiter.alone, Waiter.onward, Procedure.run, answer, found, probeOn,
        Nat.sub_eq_zero_of_le spent]
    next => cases h

theorem alone_of_goesOn {w' : Waiter} {after : σ} {response : Response (.probe w.target.port)}
    (answer : surroundings.answer (.probe w.target.port) state = (response, after))
    (h : w.afterProbe policy (w.due + response.elapsed) (foundHealthy response.reply) =
      .inr w') :
    w.ending surroundings policy state = w'.ending surroundings policy after ∧
      (w.alone surroundings policy state).events =
        ⟨w.due, .probe w.target.port, response.reply⟩ ::
          (w'.alone surroundings policy after).events := by
  rw [Waiter.afterProbe] at h
  by_cases found : foundHealthy response.reply = true
  · rw [if_pos found] at h
    cases h
  · rw [if_neg found] at h
    split at h
    next => cases h
    next spare =>
      cases h
      have left : policy.maxAttempts - (w.attempts + 1) =
          policy.maxAttempts - (w.attempts + 1 + 1) + 1 := by omega
      have goesOn := probeOn_eq policy
        { w with due := w.due + response.elapsed + policy.interval, attempts := w.attempts + 1 }
        (policy.maxAttempts - (w.attempts + 1 + 1)) (by dsimp only; omega)
      simp [Waiter.ending, Waiter.alone, Waiter.onward, Procedure.run, answer, found, left, goesOn]

/-- A probe of another port makes no difference to a waiter. -/
theorem alone_of_other (ports : PortScript surroundings) (policy : ProbePolicy) {after : σ}
    {response : Response (.probe w.target.port)}
    (answer : surroundings.answer (.probe w.target.port) state = (response, after))
    (apart : v.target.port ≠ w.target.port) :
    v.ending surroundings policy state = v.ending surroundings policy after ∧
      (v.alone surroundings policy state).events = (v.alone surroundings policy after).events := by
  have counts := ports.counts w.target.port v.target.port state
  rw [answer, if_neg apart] at counts
  have seen := alone_congr ports policy counts.symm
  simp only [Run.seen, Prod.mk.injEq] at seen
  exact ⟨by simp [Waiter.ending, seen], seen.2.2⟩

theorem afterProbe_goesOn {time : Nat} {healthy : Bool} {w' : Waiter}
    (h : w.afterProbe policy time healthy = .inr w') : w'.target = w.target ∧
      w'.attempts = w.attempts + 1 ∧ w'.attempts < policy.maxAttempts := by
  rcases afterProbe_cases policy w time healthy with ⟨ended, hended, -⟩ | ⟨w'', hgoesOn, facts⟩
  · cases h.symm.trans hended
  · cases h.symm.trans hgoesOn
    exact facts

/-- The play shows nothing of a port for which nobody waits. -/
theorem play_probes_none (probes : Nat) {waiters : List Waiter} (state : σ) {port : Port}
    (none : ∀ w ∈ waiters, w.target.port ≠ port) :
    (play surroundings policy probes waiters state).1.filter (·.probes port) = [] := by
  refine List.filter_eq_nil_iff.2 fun e he hport => ?_
  obtain ⟨w, hw, hcall⟩ := play_probes surroundings policy probes waiters state e he
  have ports : Call.probe w.target.port = .probe port := hcall.symm.trans (Event.probes_iff.1 hport)
  cases ports
  exact none w hw rfl

/-- Some ends are those of all waiters, were each alone, and some events show of the port of each
waiter what it would show alone. -/
structure AsAlone (surroundings : Surroundings σ) (policy : ProbePolicy) (waiters : List Waiter)
    (state : σ) (events : List Event) (ends : List Ended) : Prop where
  ends : ends.Perm (waiters.map (Waiter.ending surroundings policy state))
  events : ∀ w ∈ waiters,
    events.filter (·.probes w.target.port) = (w.alone surroundings policy state).events

namespace AsAlone

variable {waiters others : List Waiter} {events : List Event} {ends : List Ended} {after : σ}
  {response : Response (.probe w.target.port)}

theorem perm {waiters' : List Waiter}
    (h : AsAlone surroundings policy waiters state events ends) (hperm : waiters.Perm waiters') :
    AsAlone surroundings policy waiters' state events ends where
  ends := h.ends.trans (hperm.map _)
  events w hw := h.events w (hperm.mem_iff.2 hw)

theorem ended {ended : Ended} (ports : PortScript surroundings)
    (answer : surroundings.answer (.probe w.target.port) state = (response, after))
    (hafter : w.afterProbe policy (w.due + response.elapsed) (foundHealthy response.reply) =
      .inl ended)
    (apart : ∀ v ∈ others, v.target.port ≠ w.target.port)
    (h : AsAlone surroundings policy others after events ends)
    (none : events.filter (·.probes w.target.port) = []) :
    AsAlone surroundings policy (w :: others) state
      (⟨w.due, .probe w.target.port, response.reply⟩ :: events) (ended :: ends) := by
  obtain ⟨hending, hevents⟩ := alone_of_ended answer hafter
  have same := fun v hv => alone_of_other ports policy answer (apart v hv)
  constructor
  · rw [List.map_cons, hending, List.map_congr_left fun v hv => (same v hv).1]
    exact h.ends.cons ended
  · intro v hv
    rcases List.mem_cons.1 hv with rfl | hv
    · rw [hevents, List.filter_cons_of_pos (by simp), none]
    · rw [List.filter_cons_of_neg (by simp [(apart v hv).symm]), h.events v hv, (same v hv).2]

theorem goesOn {w' : Waiter} (ports : PortScript surroundings)
    (answer : surroundings.answer (.probe w.target.port) state = (response, after))
    (hafter : w.afterProbe policy (w.due + response.elapsed) (foundHealthy response.reply) =
      .inr w')
    (apart : ∀ v ∈ others, v.target.port ≠ w.target.port)
    (h : AsAlone surroundings policy (w' :: others) after events ends) :
    AsAlone surroundings policy (w :: others) state
      (⟨w.due, .probe w.target.port, response.reply⟩ :: events) ends := by
  obtain ⟨hending, hevents⟩ := alone_of_goesOn answer hafter
  obtain ⟨htarget, -⟩ := afterProbe_goesOn hafter
  have same := fun v hv => alone_of_other ports policy answer (apart v hv)
  constructor
  · rw [List.map_cons, hending, List.map_congr_left fun v hv => (same v hv).1]
    exact h.ends
  · intro v hv
    rcases List.mem_cons.1 hv with rfl | hv
    · have own := h.events w' List.mem_cons_self
      rw [htarget] at own
      rw [hevents, List.filter_cons_of_pos (by simp), own]
    · rw [List.filter_cons_of_neg (by simp [(apart v hv).symm]),
        h.events v (List.mem_cons_of_mem _ hv), (same v hv).2]

end AsAlone

/-- With probes enough for all waits to end, the play ends as all of them would alone, and shows of
each port what the wait for it would show alone. -/
theorem play_asAlone (ports : PortScript surroundings) (probes : Nat) (waiters : List Waiter)
    (state : σ) (sufficient : Sufficient policy probes waiters)
    (distinct : (waiters.map (·.target.port)).Nodup) :
    AsAlone surroundings policy waiters state (play surroundings policy probes waiters state).1
      (play surroundings policy probes waiters state).2.1 := by
  -- One probe is one step: the wait that makes it moves on, and all others are as they would be
  -- without it, since it was of another port.
  induction probes generalizing waiters state with
  | zero =>
      have none : waiters = [] := List.eq_nil_iff_forall_not_mem.2 fun _ => sufficient.not_zero
      subst none
      exact ⟨.nil, nofun⟩
  | succ probes ih =>
      cases htake : takeFirst waiters with
      | none =>
          obtain rfl := takeFirst_eq_none_iff.1 htake
          simpa [play, htake] using (⟨.nil, nofun⟩ : AsAlone surroundings policy [] state [] [])
      | some taken =>
          obtain ⟨w, others⟩ := taken
          have perm := takeFirst_perm htake
          obtain ⟨hw, hothers⟩ :=
            List.nodup_cons.1 ((perm.map (·.target.port)).nodup_iff.2 distinct)
          have apart : ∀ v ∈ others, v.target.port ≠ w.target.port := fun v hv heq =>
            hw (List.mem_map.2 ⟨v, hv, heq⟩)
          refine AsAlone.perm ?_ perm
          cases hanswer : surroundings.answer (.probe w.target.port) state with
          | mk response after =>
              cases hafter : w.afterProbe policy (w.due + response.elapsed)
                  (foundHealthy response.reply) with
              | inl ended =>
                  simp only [play, htake, hanswer, hafter]
                  exact (ih others after (sufficient.ended htake) hothers).ended ports hanswer
                    hafter apart (play_probes_none probes after apart)
              | inr w' =>
                  obtain ⟨htarget, hattempts, hlt⟩ := afterProbe_goesOn hafter
                  have back := putBack_perm w' others
                  have distinct' : ((putBack w' others).map (·.target.port)).Nodup := by
                    refine (back.map (·.target.port)).nodup_iff.2 ?_
                    simpa [htarget] using ⟨by simpa using hw, hothers⟩
                  simp only [play, htake, hanswer, hafter]
                  exact ((ih (putBack w' others) after (sufficient.goesOn htake hattempts hlt)
                    distinct').perm back).goesOn ports hanswer hafter apart

theorem map_waitersAt {α : Type} (f : Target → α) (policy : ProbePolicy) (start : Nat)
    (targets : List Target) :
    (waitersAt start policy targets).map (fun w => f w.target) = targets.map f := by
  calc (waitersAt start policy targets).map (fun w => f w.target)
      = (targets.zipIdx.map Prod.fst).map f := by
        rw [waitersAt, List.map_map, List.map_map]
        rfl
    _ = targets.map f := by rw [List.zipIdx_map_fst]

theorem awaitHealthy_none (none : policy.maxAttempts = 0) (t : Target) (start : Nat) :
    (awaitHealthy t policy).run.run surroundings state start =
      ⟨exhausted t.name policy, state, start, []⟩ := by
  show (probeOn t policy 0 policy.maxAttempts).run surroundings state start = _
  rw [none]
  rfl

/-- The wait for a target is that of its waiter at the start. -/
theorem awaitHealthy_eq_alone (some : policy.maxAttempts ≠ 0) {start : Nat} {targets : List Target}
    {w : Waiter} (hw : w ∈ waitersAt start policy targets) :
    (awaitHealthy w.target policy).run.run surroundings state start =
      w.alone surroundings policy state := by
  obtain ⟨⟨t, place⟩, -, rfl⟩ := List.mem_map.1 hw
  obtain ⟨left, hleft⟩ := Nat.exists_eq_succ_of_ne_zero some
  show (probeOn t policy 0 policy.maxAttempts).run surroundings state start = _
  rw [hleft]
  exact congrArg (Procedure.run surroundings · state start)
    (probeOn_eq policy ⟨place, t, start + policy.interval, 0⟩ left (by simp [hleft]))

theorem endedLe_iff {a b : Ended} :
    endedLe a b = true ↔ a.time < b.time ∨ a.time = b.time ∧ a.place ≤ b.place := by
  simp [endedLe]

theorem endedLe_trans (a b c : Ended) (hab : endedLe a b = true) (hbc : endedLe b c = true) :
    endedLe a c = true := by
  rw [endedLe_iff] at *
  omega

theorem endedLe_total (a b : Ended) : (endedLe a b || endedLe b a) = true := by
  rw [Bool.or_eq_true, endedLe_iff, endedLe_iff]
  omega

theorem time_le_of_endedLe {a b : Ended} (h : endedLe a b = true) : a.time ≤ b.time := by
  rcases endedLe_iff.1 h with hlt | ⟨heq, -⟩
  · exact Nat.le_of_lt hlt
  · exact Nat.le_of_eq heq

/-- The gate ends as each wait would alone, in the order of their ends, and shows of the port of
each target what its wait would show alone. -/
theorem playGate_asAlone (ports : PortScript surroundings) (policy : ProbePolicy)
    {targets : List Target} (distinct : (targets.map (·.port)).Nodup) (state : σ) (start : Nat) :
    let alone := fun t => (awaitHealthy t policy).run.run surroundings state start
    let gate := playGate surroundings targets policy start state
    (∃ ends : List (Outcome × Nat), ends.Pairwise (·.2 ≤ ·.2) ∧
      ends.Perm (targets.map fun t => ((alone t).value, (alone t).clock)) ∧
      gate.value = ends.map (·.1)) ∧
    gate.clock = (targets.map fun t => (alone t).clock).foldl max start ∧
    ∀ t ∈ targets, gate.events.filter (·.probes t.port) = (alone t).events := by
  intro alone gate
  by_cases none : policy.maxAttempts = 0
  · have halone : alone = fun t => ⟨exhausted t.name policy, state, start, []⟩ :=
      funext fun t => awaitHealthy_none none t start
    have hgate : gate = ⟨targets.map fun t => exhausted t.name policy, state, start, []⟩ :=
      if_pos none
    rw [halone, hgate]
    refine ⟨⟨targets.map fun t => (exhausted t.name policy, start), ?_, .refl _, by simp⟩, ?_,
      fun _ _ => rfl⟩
    · exact List.pairwise_map.2 (List.pairwise_of_forall fun _ _ => Nat.le_refl start)
    · exact ((List.foldl_map ..).trans (List.foldl_fixed' (fun _ => Nat.max_self start) _)).symm
  · have played := play_asAlone ports _ _ state (Sufficient.start targets start none)
      (by rwa [map_waitersAt Target.port])
    -- the ends are those of the waits alone, target by target
    have ofTargets : ∀ {α : Type} (f : Outcome → Nat → α),
        ((waitersAt start policy targets).map (Waiter.ending surroundings policy state)).map
          (fun e => f e.outcome e.time) =
        targets.map fun t => f (alone t).value (alone t).clock := by
      intro α f
      rw [← map_waitersAt _ policy start, List.map_map]
      refine List.map_congr_left fun w hw => ?_
      simp only [alone, awaitHealthy_eq_alone none hw]
      rfl
    have hgate : gate = _ := if_neg none
    rw [hgate]
    generalize play surroundings policy _ _ state = result at played
    obtain ⟨events, ends, after⟩ := result
    refine ⟨⟨(ends.mergeSort endedLe).map fun e => (e.outcome, e.time), ?_, ?_, by simp⟩, ?_, ?_⟩
    · exact List.pairwise_map.2 ((List.pairwise_mergeSort endedLe_trans endedLe_total ends).imp
        time_le_of_endedLe)
    · rw [← ofTargets Prod.mk]
      exact (((List.mergeSort_perm ends endedLe).trans played.ends).map _)
    · rw [← ofTargets fun _ time => time]
      exact (played.ends.map Ended.time).foldl_eq' (fun _ _ _ _ _ => by omega) start
    · intro t ht
      obtain ⟨w, hw, rfl⟩ : ∃ w ∈ waitersAt start policy targets, w.target = t := by
        rw [← List.mem_map]
        exact (map_waitersAt id policy start targets).symm ▸ List.mem_map.2 ⟨t, ht, rfl⟩
      simp only [alone, awaitHealthy_eq_alone none hw]
      exact played.events w hw

theorem probeOn_name (t : Target) (made left : Nat) (state : σ) (clock : Nat) {h : Healthy}
    (ok : ((probeOn t policy made left).run surroundings state clock).value = .ok h) :
    h.name = t.name := by
  induction left generalizing made state clock with
  | zero => cases ok
  | succ left ih =>
      rw [probeOn, Procedure.run_sleep, Procedure.run] at ok
      dsimp only at ok
      split at ok
      · cases ok
        rfl
      · exact ih _ _ _ ok

theorem nameLe_trans (a b c : Healthy) (hab : nameLe a b = true) (hbc : nameLe b c = true) :
    nameLe a c = true :=
  decide_eq_true (String.le_trans (of_decide_eq_true hab) (of_decide_eq_true hbc))

theorem nameLe_total (a b : Healthy) : (nameLe a b || nameLe b a) = true := by
  simpa [nameLe] using String.le_total a.name b.name

/-- Modules of different names come in ascending order of their names. -/
theorem ascending_mergeSort {found : List Healthy} (names : (found.map (·.name)).Nodup) :
    (found.mergeSort nameLe).Pairwise (·.name < ·.name) := by
  have ordered := List.pairwise_mergeSort nameLe_trans nameLe_total found
  have apart : (found.mergeSort nameLe).Pairwise (·.name ≠ ·.name) :=
    List.pairwise_map.1 (((List.mergeSort_perm found nameLe).map _).nodup_iff.2 names)
  exact ordered.imp₂ (fun a b hle hne => Std.lt_of_le_of_ne (of_decide_eq_true hle) hne) apart

/-- Outcomes that are those of some targets are so with the names of the targets, if they bear
them. -/
theorem perm_named {found : List Healthy} {targets : List Target} {value : Target → Outcome}
    (perm : (found.map Except.ok).Perm (targets.map value))
    (named : ∀ t ∈ targets, ∀ h, value t = .ok h → h.name = t.name) :
    (found.map fun h => (h.name, Except.ok h)).Perm (targets.map fun t => (t.name, value t)) := by
  have told : ∀ t ∈ targets, ∃ h, value t = .ok h := fun t ht => by
    obtain ⟨h, -, hh⟩ := List.mem_map.1 (perm.mem_iff.2 (List.mem_map_of_mem ht))
    exact ⟨h, hh.symm⟩
  have labelled := perm.map fun o => ((o.toOption.map (·.name)).getD "", o)
  rw [List.map_map, List.map_map] at labelled
  refine labelled.trans (.of_eq (List.map_congr_left fun t ht => ?_))
  obtain ⟨h, hh⟩ := told t ht
  simp [hh, Except.toOption, named t ht h hh]

/-- The first error among outcomes in the order of their times is no later than any other. -/
theorem error_first {ends : List (Outcome × Nat)} (ordered : ends.Pairwise (·.2 ≤ ·.2)) {e : Error}
    (failed : verdict (ends.map (·.1)) = .error e) :
    ∃ time, (.error e, time) ∈ ends ∧
      ∀ e' time', (.error e', time') ∈ ends → time ≤ time' := by
  obtain ⟨found, after, hends⟩ := verdict_eq_error failed
  obtain ⟨before, tail, rfl, hbefore, htail⟩ := List.map_eq_append_iff.1 hends
  obtain ⟨⟨_, time⟩, rest, rfl, rfl, -⟩ := List.map_eq_cons_iff.1 htail
  refine ⟨time, by simp, fun e' time' hmem => ?_⟩
  rcases List.mem_append.1 hmem with hmem | hmem
  · have hfound := hbefore ▸ List.mem_map_of_mem (f := Prod.fst) hmem
    simp at hfound
  · rcases List.mem_cons.1 hmem with heq | hmem
    · cases heq
      exact Nat.le_refl _
    · exact List.rel_of_pairwise_cons (List.pairwise_append.1 ordered).2.1 hmem

/-- Waiting for several modules side by side is waiting for each of them alone. When no two of them
share a name or a port, each is probed as it would be alone from the same start, and the wait ends
with the last. It passes when each would pass alone, and then tells what each would have told, in
the order of their names. Otherwise it ends with the error of one whose own wait is the first to
fail. -/
theorem awaitAllHealthy_asAlone (ports : PortScript surroundings) (policy : ProbePolicy)
    {targets : List Target} (names : (targets.map (·.name)).Nodup)
    (distinct : (targets.map (·.port)).Nodup) (state : σ) (start : Nat) :
    let alone := fun t => (awaitHealthy t policy).run.run surroundings state start
    let gate := (awaitAllHealthy targets policy).run.run surroundings state start
    (∀ t ∈ targets, gate.events.filter (·.probes t.port) = (alone t).events) ∧
    (∀ e ∈ gate.events, ∃ t ∈ targets, e.call = .probe t.port) ∧
    gate.clock = (targets.map fun t => (alone t).clock).foldl max start ∧
    ((∃ healthy, gate.value = .ok healthy) ↔ ∀ t ∈ targets, ∃ h, (alone t).value = .ok h) ∧
    (∀ healthy, gate.value = .ok healthy →
      (healthy.map fun h => (h.name, Except.ok h)).Perm
        (targets.map fun t => (t.name, (alone t).value)) ∧
      healthy.Pairwise (·.name < ·.name)) ∧
    ∀ e, gate.value = .error e → ∃ t ∈ targets, (alone t).value = .error e ∧
      ∀ other ∈ targets, ∀ e', (alone other).value = .error e' →
        (alone t).clock ≤ (alone other).clock := by
  intro alone gate
  obtain ⟨⟨ends, ordered, perm, value⟩, clock, events⟩ :=
    playGate_asAlone ports policy distinct state start
  have hgate : gate = { playGate surroundings targets policy start state with
      value := verdict (ends.map (·.1)) } := by
    simp [gate, awaitAllHealthy, Procedure.run, value]
  have outcome : ∀ {o time}, (o, time) ∈ ends ↔
      ∃ t ∈ targets, (alone t).value = o ∧ (alone t).clock = time := by
    intro o time
    rw [perm.mem_iff]
    simp [alone]
  rw [hgate]
  refine ⟨events, playGate_probes surroundings policy targets start state, clock, ⟨?_, ?_⟩, ?_, ?_⟩
  · rintro ⟨healthy, passed⟩ t ht
    exact verdict_ok passed (List.mem_map_of_mem (outcome.2 ⟨t, ht, rfl, rfl⟩))
  · intro pass
    refine verdict_of_ok fun o ho => ?_
    obtain ⟨⟨o, time⟩, hmem, rfl⟩ := List.mem_map.1 ho
    obtain ⟨t, ht, rfl, -⟩ := outcome.1 hmem
    exact pass t ht
  · intro healthy passed
    obtain ⟨found, hfound, rfl⟩ := verdict_eq_ok_iff.1 passed
    have same : (found.map Except.ok).Perm (targets.map fun t => (alone t).value) := by
      have hperm := perm.map Prod.fst
      rwa [hfound, List.map_map] at hperm
    have told := perm_named same fun t _ h => probeOn_name t 0 policy.maxAttempts state start
    refine ⟨((List.mergeSort_perm found nameLe).map _).trans told, ascending_mergeSort ?_⟩
    have hnames := (told.map Prod.fst).nodup_iff
    rw [List.map_map, List.map_map] at hnames
    exact hnames.2 names
  · intro e failed
    obtain ⟨time, hmem, first⟩ := error_first ordered failed
    obtain ⟨t, ht, hvalue, rfl⟩ := outcome.1 hmem
    exact ⟨t, ht, hvalue, fun other hother e' herror =>
      first e' _ (outcome.2 ⟨other, hother, herror, rfl⟩)⟩

/-- A script in which one module is healthy at its second probe, and another at its first, which
takes longer than the whole wait for the one. -/
def flaky : Scripted.Script where
  probes := [(8081, [⟨none, 5⟩, ⟨some "OK", 5⟩]), (8082, [⟨some "OK", 500⟩])]
  polls := []
  tokens := .missing

def unprobed : Scripted.State := ⟨⟨∅, ∅, [], [], ∅, ∅, ∅, [], []⟩, [], 0⟩

/-- The wait for both ends with the slower one, and finds both healthy. -/
theorem awaitAllHealthy_flaky :
    let targets : List Target := [⟨"mod-b", 8081⟩, ⟨"mod-a", 8082⟩]
    let gate := (awaitAllHealthy targets ⟨100, 3⟩).run.run (Scripted.surroundings flaky) unprobed 0
    ((targets.map (·.name)).Nodup ∧ (targets.map (·.port)).Nodup) ∧ gate.clock = 600 ∧
      ∃ healthy, gate.value = .ok healthy ∧
        (healthy.map fun h => (h.name, (.ok h : Outcome))).Perm
          [("mod-b", .ok ⟨"mod-b", 2⟩), ("mod-a", .ok ⟨"mod-a", 1⟩)] := by
  intro targets gate
  have names : (targets.map (·.name)).Nodup := by decide
  have ports : (targets.map (·.port)).Nodup := by decide
  obtain ⟨-, -, clock, passes, told, -⟩ :=
    awaitAllHealthy_asAlone (Scripted.portScript flaky) ⟨100, 3⟩ names ports unprobed 0
  obtain ⟨healthy, hvalue⟩ := passes.2 (by simpa [targets] using ⟨⟨_, rfl⟩, ⟨_, rfl⟩⟩)
  exact ⟨⟨names, ports⟩, clock, healthy, hvalue, (told healthy hvalue).1⟩

end Health

end Rollout
