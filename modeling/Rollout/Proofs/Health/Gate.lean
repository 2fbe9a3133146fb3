import Rollout.Health.Wait
import Rollout.Proofs.Procedure.FailStop

/-!
# What is seen at the health gate

All that is seen at the gate are probes of its targets. The probes suffice for every wait to end, so
a gate that lets a rollout pass has found each of its targets healthy by a probe of its port.
-/

namespace Rollout.Health

variable {σ : Type} (surroundings : Surroundings σ) (policy : ProbePolicy)

theorem takeFirst_eq_none_iff {waiters : List Waiter} :
    takeFirst waiters = none ↔ waiters = [] := by
  cases waiters with
  | nil => simp [takeFirst]
  | cons v rest =>
      rw [takeFirst]
      split
      · simp
      · split <;> simp

theorem takeFirst_perm {waiters others : List Waiter} {w : Waiter}
    (h : takeFirst waiters = some (w, others)) : (w :: others).Perm waiters := by
  induction waiters generalizing w others with
  | nil => simp [takeFirst] at h
  | cons v rest ih =>
      rw [takeFirst] at h
      split at h
      next hrest =>
        obtain rfl := takeFirst_eq_none_iff.1 hrest
        cases h
        exact .refl _
      next u others' hrest =>
        split at h
        · cases h
          exact (List.Perm.swap v w others').trans ((ih hrest).cons v)
        · cases h
          exact .refl _

theorem putBack_perm (w : Waiter) (others : List Waiter) :
    (putBack w others).Perm (w :: others) := by
  induction others with
  | nil => exact .refl _
  | cons v rest ih =>
      rw [putBack]
      split
      · exact .refl _
      · exact (ih.cons v).trans (.swap w v rest)

theorem mem_takeFirst_iff {waiters others : List Waiter} {w v : Waiter}
    (h : takeFirst waiters = some (w, others)) : v ∈ waiters ↔ v = w ∨ v ∈ others := by
  rw [← (takeFirst_perm h).mem_iff, List.mem_cons]

theorem mem_putBack_iff {w v : Waiter} {others : List Waiter} :
    v ∈ putBack w others ↔ v = w ∨ v ∈ others := by
  rw [(putBack_perm w others).mem_iff, List.mem_cons]

def FoundHealthy (port : Port) (events : List Event) : Prop :=
  ∃ time reply, (⟨time, .probe port, reply⟩ : Event) ∈ events ∧ foundHealthy reply = true

theorem FoundHealthy.mono {port : Port} {events events' : List Event}
    (h : FoundHealthy port events) (sub : events ⊆ events') : FoundHealthy port events' := by
  obtain ⟨time, reply, hmem, hreply⟩ := h
  exact ⟨time, reply, sub hmem, hreply⟩

/-- The probes that some waiters may still need. -/
def probesLeft : List Waiter → Nat
  | [] => 0
  | w :: rest => policy.maxAttempts - w.attempts + probesLeft rest

theorem probesLeft_perm {waiters waiters' : List Waiter} (h : waiters.Perm waiters') :
    probesLeft policy waiters = probesLeft policy waiters' := by
  induction h with
  | nil => rfl
  | cons w _ ih => rw [probesLeft, probesLeft, ih]
  | swap w w' rest => exact Nat.add_left_comm _ _ _
  | trans _ _ ih ih' => exact ih.trans ih'

theorem le_probesLeft {waiters : List Waiter} {w : Waiter} (hw : w ∈ waiters) :
    policy.maxAttempts - w.attempts ≤ probesLeft policy waiters := by
  induction hw with
  | head => exact Nat.le_add_right _ _
  | tail _ _ ih => exact Nat.le_trans ih (Nat.le_add_left _ _)

theorem probesLeft_of_unused {waiters : List Waiter} (h : ∀ w ∈ waiters, w.attempts = 0) :
    probesLeft policy waiters = waiters.length * policy.maxAttempts := by
  induction waiters with
  | nil => exact (Nat.zero_mul _).symm
  | cons w rest ih =>
      rw [probesLeft, h w List.mem_cons_self, ih fun v hv => h v (List.mem_cons_of_mem _ hv),
        List.length_cons, Nat.succ_mul, Nat.add_comm]
      rfl

theorem probesLeft_waitersAt (targets : List Target) (start : Nat) :
    probesLeft policy (waitersAt start policy targets) = targets.length * policy.maxAttempts := by
  have unused : ∀ w ∈ waitersAt start policy targets, w.attempts = 0 := by
    intro w hw
    obtain ⟨t, -, rfl⟩ := List.mem_map.1 hw
    rfl
  rw [probesLeft_of_unused policy unused]
  simp [waitersAt]

/-- Each waiter has an attempt left, and there are probes for all attempts that are left. -/
structure Sufficient (probes : Nat) (waiters : List Waiter) : Prop where
  unused : ∀ w ∈ waiters, w.attempts < policy.maxAttempts
  enough : probesLeft policy waiters ≤ probes

namespace Sufficient

variable {policy} {probes : Nat} {waiters others : List Waiter} {w : Waiter}

theorem not_zero (h : Sufficient policy 0 waiters) : w ∉ waiters := by
  intro hw
  have hlt := h.unused w hw
  have hle := le_probesLeft policy hw
  have henough := h.enough
  omega

theorem start (targets : List Target) (start : Nat) (h : policy.maxAttempts ≠ 0) :
    Sufficient policy (targets.length * policy.maxAttempts) (waitersAt start policy targets) where
  unused w hw := by
    obtain ⟨t, -, rfl⟩ := List.mem_map.1 hw
    exact Nat.pos_of_ne_zero h
  enough := Nat.le_of_eq (probesLeft_waitersAt policy targets start)

/-- The wait that is due first may end. -/
theorem ended (h : Sufficient policy (probes + 1) waiters)
    (htake : takeFirst waiters = some (w, others)) : Sufficient policy probes others where
  unused v hv := h.unused v ((mem_takeFirst_iff htake).2 (.inr hv))
  enough := by
    have hw := h.unused w ((mem_takeFirst_iff htake).2 (.inl rfl))
    have henough := h.enough
    rw [← probesLeft_perm policy (takeFirst_perm htake), probesLeft] at henough
    omega

/-- The wait that is due first may go on with one attempt less to make. -/
theorem goesOn {w' : Waiter} (h : Sufficient policy (probes + 1) waiters)
    (htake : takeFirst waiters = some (w, others)) (hattempts : w'.attempts = w.attempts + 1)
    (hlt : w'.attempts < policy.maxAttempts) : Sufficient policy probes (putBack w' others) where
  unused v hv := by
    rcases mem_putBack_iff.1 hv with rfl | hv
    · exact hlt
    · exact h.unused v ((mem_takeFirst_iff htake).2 (.inr hv))
  enough := by
    have henough := h.enough
    rw [← probesLeft_perm policy (takeFirst_perm htake), probesLeft] at henough
    rw [probesLeft_perm policy (putBack_perm w' others), probesLeft]
    omega

end Sufficient

/-- What a waiter is after a probe: it has ended, healthy only if it was found so, or it goes on
with one attempt less to make. -/
theorem afterProbe_cases (w : Waiter) (time : Nat) (healthy : Bool) :
    (∃ ended, w.afterProbe policy time healthy = .inl ended ∧
      ∀ h, ended.outcome = .ok h → healthy = true) ∨
    ∃ w' : Waiter, w.afterProbe policy time healthy = .inr w' ∧ w'.target = w.target ∧
      w'.attempts = w.attempts + 1 ∧ w'.attempts < policy.maxAttempts := by
  rw [Waiter.afterProbe]
  by_cases hh : healthy = true
  · exact .inl ⟨_, if_pos hh, fun _ _ => hh⟩
  · by_cases hmax : policy.maxAttempts ≤ w.attempts + 1
    · refine .inl ⟨_, by rw [if_neg hh, if_pos hmax], fun h hok => ?_⟩
      simp [exhausted] at hok
    · exact .inr ⟨{ w with due := time + policy.interval, attempts := w.attempts + 1 },
        by rw [if_neg hh, if_neg hmax], rfl, rfl, by simpa using hmax⟩

/-- The play begins with a probe for the waiter that is due first, and goes on without it or with
what it has become. -/
theorem play_cases {waiters others : List Waiter} {w : Waiter}
    (h : takeFirst waiters = some (w, others)) (probes : Nat) (state : σ) :
    let state' := (surroundings.answer (.probe w.target.port) state).2
    ∃ reply w's ends, play surroundings policy (probes + 1) waiters state =
        (⟨w.due, .probe w.target.port, reply⟩ :: (play surroundings policy probes w's state').1,
          ends ++ (play surroundings policy probes w's state').2.1,
          (play surroundings policy probes w's state').2.2) ∧
      ((w's = others ∧ ∃ ended, ends = [ended] ∧
          ∀ h, ended.outcome = .ok h → foundHealthy reply = true) ∨
        ∃ w', w's = putBack w' others ∧ ends = [] ∧ w'.target = w.target ∧
          w'.attempts = w.attempts + 1 ∧ w'.attempts < policy.maxAttempts) := by
  cases hs : surroundings.answer (.probe w.target.port) state with
  | mk response state' =>
      simp only [play, h, hs]
      rcases afterProbe_cases policy w (w.due + response.elapsed) (foundHealthy response.reply)
        with ⟨ended, hafter, hok⟩ | ⟨w', hafter, hw'⟩
      · rw [hafter]
        exact ⟨_, others, [ended], rfl, .inl ⟨rfl, ended, rfl, hok⟩⟩
      · rw [hafter]
        exact ⟨_, putBack w' others, [], rfl, .inr ⟨w', rfl, rfl, hw'⟩⟩

theorem play_probes (probes : Nat) (waiters : List Waiter) (state : σ) :
    ∀ e ∈ (play surroundings policy probes waiters state).1,
      ∃ w ∈ waiters, e.call = .probe w.target.port := by
  induction probes generalizing waiters state with
  | zero => simp [play]
  | succ probes ih =>
      intro e he
      cases htake : takeFirst waiters with
      | none => simp [play, htake] at he
      | some taken =>
          obtain ⟨w, others⟩ := taken
          have hw : w ∈ waiters := (mem_takeFirst_iff htake).2 (.inl rfl)
          have hothers : ∀ v ∈ others, v ∈ waiters :=
            fun v hv => (mem_takeFirst_iff htake).2 (.inr hv)
          obtain ⟨reply, w's, ends, hplay, hcases⟩ :=
            play_cases surroundings policy htake probes state
          rw [hplay] at he
          rcases List.mem_cons.1 he with rfl | he
          · exact ⟨w, hw, rfl⟩
          · obtain ⟨v, hv, hcall⟩ := ih w's _ e he
            rcases hcases with ⟨rfl, -⟩ | ⟨w', rfl, -, htarget, -⟩
            · exact ⟨v, hothers v hv, hcall⟩
            · rcases mem_putBack_iff.1 hv with rfl | hv
              · exact ⟨w, hw, htarget ▸ hcall⟩
              · exact ⟨v, hothers v hv, hcall⟩

/-- With probes enough for all waits to end, each of them ends, and with a healthy module only if it
was found so. -/
theorem play_ends (probes : Nat) (waiters : List Waiter) (state : σ)
    (sufficient : Sufficient policy probes waiters) :
    ∀ w ∈ waiters, ∃ ended ∈ (play surroundings policy probes waiters state).2.1,
      ∀ h, ended.outcome = .ok h →
        FoundHealthy w.target.port (play surroundings policy probes waiters state).1 := by
  induction probes generalizing waiters state with
  | zero => exact fun w hw => absurd hw sufficient.not_zero
  | succ probes ih =>
      cases htake : takeFirst waiters with
      | none =>
          obtain rfl := takeFirst_eq_none_iff.1 htake
          simp
      | some taken =>
          obtain ⟨w, others⟩ := taken
          obtain ⟨reply, w's, ends, hplay, hcases⟩ :=
            play_cases surroundings policy htake probes state
          rw [hplay]
          generalize (surroundings.answer (.probe w.target.port) state).2 = state'
          intro v hv
          rcases hcases with ⟨rfl, ended, rfl, hok⟩ | ⟨w', rfl, rfl, htarget, hattempts, hlt⟩
          · rcases (mem_takeFirst_iff htake).1 hv with rfl | hv
            · exact ⟨ended, by simp, fun h hh => ⟨_, _, List.mem_cons_self, hok h hh⟩⟩
            · obtain ⟨ended', hmem, hfound⟩ := ih w's state' (sufficient.ended htake) v hv
              exact ⟨ended', List.mem_cons_of_mem _ hmem, fun h hh =>
                (hfound h hh).mono (List.subset_cons_self _ _)⟩
          · have hv' : ∃ v' ∈ putBack w' others, v'.target = v.target := by
              rcases (mem_takeFirst_iff htake).1 hv with rfl | hv
              · exact ⟨w', mem_putBack_iff.2 (.inl rfl), htarget⟩
              · exact ⟨v, mem_putBack_iff.2 (.inr hv), rfl⟩
            obtain ⟨v', hv', heq⟩ := hv'
            obtain ⟨ended, hmem, hfound⟩ :=
              ih _ state' (sufficient.goesOn htake hattempts hlt) v' hv'
            exact ⟨ended, hmem, fun h hh =>
              heq ▸ (hfound h hh).mono (List.subset_cons_self _ _)⟩

/-- What every probe keeps, the play keeps. -/
theorem play_keeps {I : σ → Prop}
    (step : ∀ port state, I state → I (surroundings.answer (.probe port) state).2) (probes : Nat)
    (waiters : List Waiter) {state : σ} (h : I state) :
    I (play surroundings policy probes waiters state).2.2 := by
  induction probes generalizing waiters state with
  | zero => exact h
  | succ probes ih =>
      cases htake : takeFirst waiters with
      | none => simpa [play, htake] using h
      | some taken =>
          obtain ⟨reply, w's, ends, hplay, -⟩ :=
            play_cases surroundings policy htake probes state
          rw [hplay]
          exact ih w's (step taken.1.target.port state h)

/-- The play goes the same in two surroundings while probes are answered the same in both. -/
theorem play_same {σ' : Type} {surroundings' : Surroundings σ'} {R : σ → σ' → Prop}
    (probe : ∀ port state state', R state state' →
      (surroundings.answer (.probe port) state).1 = (surroundings'.answer (.probe port) state').1 ∧
        R (surroundings.answer (.probe port) state).2 (surroundings'.answer (.probe port) state').2)
    (probes : Nat) (waiters : List Waiter) {state : σ} {state' : σ'} (h : R state state') :
    let played := play surroundings policy probes waiters state
    let played' := play surroundings' policy probes waiters state'
    played.2.1 = played'.2.1 ∧ R played.2.2 played'.2.2 := by
  induction probes generalizing waiters state state' with
  | zero => exact ⟨rfl, h⟩
  | succ probes ih =>
      cases htake : takeFirst waiters with
      | none => simpa [play, htake] using h
      | some taken =>
          obtain ⟨w, others⟩ := taken
          obtain ⟨same, hafter⟩ := probe w.target.port state state' h
          simp only [play, htake, ← same]
          generalize (surroundings.answer (.probe w.target.port) state).1 = response
          cases w.afterProbe policy (w.due + response.elapsed) (foundHealthy response.reply) with
          | inl ended =>
              obtain ⟨ends, hend⟩ := ih others hafter
              exact ⟨congrArg (ended :: ·) ends, hend⟩
          | inr waiter => exact ih (putBack waiter others) hafter

theorem firstFailure_eq_ok_iff {outcomes : List Outcome} {found : List Healthy} :
    firstFailure outcomes = .ok found ↔ outcomes = found.map .ok := by
  induction outcomes generalizing found with
  | nil => cases found <;> simp [firstFailure]
  | cons first rest ih =>
      cases first with
      | error e => cases found <;> simp [firstFailure]
      | ok h =>
          cases hrest : firstFailure rest with
          | error e =>
              have none := fun others => mt (@ih others).2 (by simp [hrest])
              cases found <;> simp_all [firstFailure, Except.map]
          | ok others =>
              cases ih.1 hrest
              cases found <;> simp [firstFailure, hrest, Except.map, List.map_inj_right]

theorem firstFailure_eq_error {outcomes : List Outcome} {e : Error}
    (h : firstFailure outcomes = .error e) :
    ∃ found : List Healthy, ∃ after, outcomes = found.map .ok ++ .error e :: after := by
  induction outcomes with
  | nil => simp [firstFailure] at h
  | cons first rest ih =>
      cases first with
      | error e' =>
          cases h
          exact ⟨[], rest, rfl⟩
      | ok healthy =>
          cases hrest : firstFailure rest with
          | error e' =>
              simp only [firstFailure, hrest, Except.map, Except.error.injEq] at h
              obtain ⟨found, after, rfl⟩ := ih (h ▸ hrest)
              exact ⟨healthy :: found, after, rfl⟩
          | ok others => simp [firstFailure, hrest, Except.map] at h

theorem verdict_eq_ok_iff {outcomes : List Outcome} {healthy : List Healthy} :
    verdict outcomes = .ok healthy ↔
      ∃ found : List Healthy, outcomes = found.map .ok ∧ healthy = found.mergeSort nameLe := by
  rw [verdict]
  cases hfirst : firstFailure outcomes with
  | error e =>
      refine ⟨nofun, fun ⟨found, houtcomes, _⟩ => ?_⟩
      cases hfirst.symm.trans (firstFailure_eq_ok_iff.2 houtcomes)
  | ok found =>
      cases firstFailure_eq_ok_iff.1 hfirst
      simp [Except.map, List.map_inj_right, eq_comm]

theorem verdict_eq_error {outcomes : List Outcome} {e : Error}
    (h : verdict outcomes = .error e) :
    ∃ found : List Healthy, ∃ after, outcomes = found.map .ok ++ .error e :: after := by
  rw [verdict] at h
  cases hfirst : firstFailure outcomes with
  | error e' =>
      rw [hfirst] at h
      cases h
      exact firstFailure_eq_error hfirst
  | ok found =>
      rw [hfirst] at h
      cases h

theorem verdict_ok {outcomes : List Outcome} {healthy : List Healthy}
    (h : verdict outcomes = .ok healthy) {o : Outcome} (ho : o ∈ outcomes) : ∃ h, o = .ok h := by
  obtain ⟨found, rfl, -⟩ := verdict_eq_ok_iff.1 h
  obtain ⟨h, -, rfl⟩ := List.mem_map.1 ho
  exact ⟨h, rfl⟩

/-- Waits that all end with a healthy module pass. -/
theorem verdict_of_ok {outcomes : List Outcome} (h : ∀ o ∈ outcomes, ∃ healthy, o = .ok healthy) :
    ∃ healthy, verdict outcomes = .ok healthy := by
  cases hverdict : verdict outcomes with
  | ok healthy => exact ⟨healthy, rfl⟩
  | error e =>
      obtain ⟨found, after, rfl⟩ := verdict_eq_error hverdict
      obtain ⟨healthy, herror⟩ := h (.error e) (by simp)
      cases herror

theorem playGate_keeps {I : σ → Prop}
    (step : ∀ port state, I state → I (surroundings.answer (.probe port) state).2)
    (targets : List Target) (start : Nat) {state : σ} (h : I state) :
    I (playGate surroundings targets policy start state).state := by
  rw [playGate]
  split
  · exact h
  · exact play_keeps surroundings policy step _ _ h

/-- The gate ends the same in two surroundings while probes are answered the same in both. -/
theorem playGate_same {σ' : Type} {surroundings' : Surroundings σ'} {R : σ → σ' → Prop}
    (probe : ∀ port state state', R state state' →
      (surroundings.answer (.probe port) state).1 = (surroundings'.answer (.probe port) state').1 ∧
        R (surroundings.answer (.probe port) state).2 (surroundings'.answer (.probe port) state').2)
    (targets : List Target) (start : Nat) {state : σ} {state' : σ'} (h : R state state') :
    let gate := playGate surroundings targets policy start state
    let gate' := playGate surroundings' targets policy start state'
    gate.value = gate'.value ∧ gate.clock = gate'.clock ∧ R gate.state gate'.state := by
  intro gate gate'
  simp only [gate, gate', playGate]
  split
  · exact ⟨rfl, rfl, h⟩
  · obtain ⟨ends, hend⟩ := play_same surroundings policy probe _ _ h
    exact ⟨by rw [ends], by rw [ends], hend⟩

theorem playGate_probes (targets : List Target) (start : Nat) (state : σ) :
    ∀ e ∈ (playGate surroundings targets policy start state).events,
      ∃ target ∈ targets, e.call = .probe target.port := by
  rw [playGate]
  split
  · simp
  · intro e he
    obtain ⟨w, hw, hcall⟩ := play_probes surroundings policy _ _ state e he
    obtain ⟨t, ht, rfl⟩ := List.mem_map.1 hw
    exact ⟨t.1, (List.mem_zipIdx' ht).2 ▸ List.getElem_mem _, hcall⟩

/-- The gate passes only if each target was found healthy. -/
theorem playGate_healthy (targets : List Target) (start : Nat) (state : σ) {healthy : List Healthy}
    (passed : verdict (playGate surroundings targets policy start state).value = .ok healthy) :
    ∀ target ∈ targets,
      FoundHealthy target.port (playGate surroundings targets policy start state).events := by
  intro target ht
  rw [playGate] at passed ⊢
  split at passed
  · obtain ⟨h, hh⟩ := verdict_ok passed (List.mem_map_of_mem ht)
    simp [exhausted] at hh
  next hmax =>
    rw [if_neg hmax]
    obtain ⟨place, hplace, rfl⟩ := List.mem_iff_getElem.1 ht
    have hw : (⟨place, targets[place], start + policy.interval, 0⟩ : Waiter) ∈
        waitersAt start policy targets :=
      List.mem_map.2 ⟨(targets[place], place), by simp [List.mem_zipIdx_iff_getElem?], rfl⟩
    obtain ⟨ended, hmem, hfound⟩ :=
      play_ends surroundings policy _ _ state (.start targets start hmax) _ hw
    have houtcome : ended.outcome ∈ ((play surroundings policy
        (targets.length * policy.maxAttempts) (waitersAt start policy targets)
          state).2.1.mergeSort endedLe).map (·.outcome) :=
      List.mem_map_of_mem (List.mem_mergeSort.2 hmem)
    obtain ⟨h, hh⟩ := verdict_ok passed houtcome
    exact hfound h hh

/-- Waiting at the gate makes the probes of its targets only. -/
theorem awaitAllHealthy_makes {targets : List Target} :
    Action.Makes (fun c => ∃ target ∈ targets, c = .probe target.port)
      (awaitAllHealthy targets policy) := by
  refine .of_run (Procedure.makes_iff.2 ?_)
  rintro events result (_ | _ | _ | ⟨surroundings, state, start, rest⟩) e he
  obtain ⟨rfl, -⟩ := Procedure.yields_done_iff.1 rest
  exact playGate_probes surroundings policy targets start state e (by simpa using he)

theorem awaitAllHealthy_orderly {targets : List Target} :
    Action.Orderly (fun c => ∃ target ∈ targets, c = .probe target.port)
      (awaitAllHealthy targets policy) :=
  .of_makes (awaitAllHealthy_makes policy) fun _ ⟨_, _, hcall⟩ hfatal => hfatal.2.1 _ hcall

/-- Waiting at the gate ends with each target found healthy or at an error. -/
theorem awaitAllHealthy_abides {ok : History → Event → Prop} {P : History → Prop}
    {targets : List Target}
    (probe : ∀ past e, P past → (∃ target ∈ targets, e.call = .probe target.port) →
      ok past e ∧ P (past ++ [e])) :
    Action.Abides ok P (awaitAllHealthy targets policy) fun _ past =>
      P past ∧ ∀ target ∈ targets, FoundHealthy target.port past := by
  intro past events result hP hy
  obtain ⟨hthrough, hP⟩ := (awaitAllHealthy_makes policy).abides probe hP hy
  refine ⟨hthrough, ?_⟩
  cases result with
  | error e => trivial
  | ok healthy =>
      refine ⟨hP, fun target ht => ?_⟩
      rcases hy with _ | _ | _ | ⟨surroundings, state, start, rest⟩
      obtain ⟨rfl, hverdict⟩ := Procedure.yields_done_iff.1 rest
      exact (playGate_healthy surroundings policy targets start state hverdict.symm target ht).mono
        (by simp)

end Rollout.Health
