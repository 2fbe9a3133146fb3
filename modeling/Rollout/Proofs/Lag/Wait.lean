import Rollout.Lag.Wait
import Rollout.Proofs.Procedure.FailStop
import Rollout.Proofs.Procedure.Shows
import Rollout.Proofs.Procedure.Stops

/-!
# What opens the lag barrier

The wait for a tenant ends with a result only when the last description of the group read as nothing
left to consume for that tenant. A description that carries no news, that reads as something left or
that fails does not end it, and when the polls are used up it ends at an error.
-/

namespace Rollout.Lag

open Rollout.Action (Abides Orderly Shows StopsAt)

variable {ok : History → Event → Prop} {P : History → Prop} {group tenant : String}

namespace Barrier

variable {b b' : Barrier} {output : CommandOutput}

theorem note_group (b : Barrier) (r : Reading) : (b.note r).group = b.group := by
  cases r <;> rfl

theorem note_tenant (b : Barrier) (r : Reading) : (b.note r).tenant = b.tenant := by
  cases r <;> rfl

/-- A barrier that is polling becomes what the reading makes of it. -/
theorem observe_polling {last : Option Nat} (polling : b.state = .polling last)
    (h : b.observe output = .ok b') :
    ∃ r, readLag output b.group b.tenant = .ok r ∧ b' = b.note r := by
  rw [observe, polling] at h
  cases hread : readLag output b.group b.tenant with
  | error e => simp [hread, Except.map] at h
  | ok r =>
      rw [hread] at h
      cases h
      exact ⟨r, rfl, rfl⟩

theorem observe_eq {last : Option Nat} (polling : b.state = .polling last) {r : Reading}
    (hread : readLag output b.group b.tenant = .ok r) : b.observe output = .ok (b.note r) := by
  rw [observe, polling]
  simp only [hread]
  rfl

/-- Only a reading that nothing is left drains a barrier. -/
theorem note_drained_iff {last : Option Nat} (polling : b.state = .polling last) {r : Reading} :
    (b.note r).state = .drained ↔ r = .lag 0 := by
  cases r with
  | transient complaint => simp [note, polling]
  | lag count => by_cases h : count = 0 <;> simp [note, h]

theorem note_polling {last : Option Nat} (polling : b.state = .polling last) {r : Reading}
    (h : r ≠ .lag 0) : ∃ last', (b.note r).state = .polling last' := by
  cases hstate : (b.note r).state with
  | drained => exact absurd ((note_drained_iff polling).1 hstate) h
  | polling last' => exact ⟨last', rfl⟩

end Barrier

/-- When the group was described last, and `P` held before that, nothing was left to consume for the
tenant. -/
def DrainedSince (P : History → Prop) (group tenant : String) (past : History) : Prop :=
  ∃ before time output after,
    past = before ++ (⟨time, .describeGroup group, .ok output⟩ : Event) :: after ∧ P before ∧
      readLag output group tenant = .ok (.lag 0) ∧ ∀ e ∈ after, e.call ≠ .describeGroup group

theorem DrainedSince.append {past : History} (h : DrainedSince P group tenant past) {e : Event}
    (hne : e.call ≠ .describeGroup group) : DrainedSince P group tenant (past ++ [e]) := by
  obtain ⟨before, time, output, after, rfl, hP, hread, hafter⟩ := h
  refine ⟨before, time, output, after ++ [e], by simp, hP, hread, fun e' he' => ?_⟩
  rcases List.mem_append.1 he' with he' | he'
  · exact hafter e' he'
  · rwa [List.mem_singleton.1 he']

section

variable (polled : ∀ past time reply, P past → ok past ⟨time, .describeGroup group, reply⟩)
  (answered : ∀ past time output, P past → P (past ++ [⟨time, .describeGroup group, .ok output⟩]))

include polled answered

/-- Polling ends with a result only at a barrier that the last poll has drained. -/
theorem pollOn_abides {policy : LagPolicy} {b : Barrier} {made left : Nat} {last : Option Nat}
    (hgroup : b.group = group) (htenant : b.tenant = tenant) (polling : b.state = .polling last) :
    Abides ok P (pollOn policy b made left) fun _ past =>
      P past ∧ DrainedSince P group tenant past := by
  induction left generalizing b made last with
  | zero => exact .throw
  | succ left ih =>
      subst hgroup htenant
      refine .bind (Q := fun output past => P past ∧ ∃ before time, P before ∧
        past = before ++ [(⟨time, .describeGroup b.group, .ok output⟩ : Event)])
        (.reply polled fun past time output h => ⟨answered past time output h, past, time, h, rfl⟩)
        fun output => ?_
      refine .bind (.ofExcept (Q := fun b' past => P past ∧ b.observe output = .ok b' ∧
        ∃ before time, P before ∧
          past = before ++ [(⟨time, .describeGroup b.group, .ok output⟩ : Event)])
        fun b' past hobserve h => ⟨h.1, hobserve, h.2⟩) fun b' => ?_
      cases hstate : b'.state with
      | drained =>
          refine .pure fun past h => ?_
          obtain ⟨hpast, hobserve, before, time, hP, rfl⟩ := h
          obtain ⟨r, hread, rfl⟩ := Barrier.observe_polling polling hobserve
          rw [(Barrier.note_drained_iff polling).1 hstate] at hread
          exact ⟨hpast, before, time, output, [], rfl, hP, hread, by simp⟩
      | polling last' =>
          refine .given (R := b'.group = b.group ∧ b'.tenant = b.tenant) (fun past h => ?_)
            fun hb' => ?_
          · obtain ⟨r, -, rfl⟩ := Barrier.observe_polling polling h.2.1
            exact ⟨b.note_group r, b.note_tenant r⟩
          · refine Abides.weaken (P := P) ?_ (fun past h => h.1) fun _ _ => id
            dsimp only
            split
            · exact .bind .pause fun _ => ih hb'.1 hb'.2 hstate
            · exact ih hb'.1 hb'.2 hstate

/-- The wait for a tenant ends with a result only when the last poll found nothing left. -/
theorem waitForDrain_abides {policy : LagPolicy} :
    Abides ok P (waitForDrain group tenant policy) fun _ past =>
      P past ∧ DrainedSince P group tenant past :=
  .bind .pause fun _ => pollOn_abides polled answered rfl rfl rfl

end

/-- The wait for a tenant does nothing but describe the group. -/
theorem waitForDrain_orderly {policy : LagPolicy} :
    Orderly (· = .describeGroup group) (waitForDrain group tenant policy) :=
  (waitForDrain_abides (fun _ _ _ hsound => ⟨hsound, rfl⟩) fun _ time output hsound =>
    hsound.answered time _ output).weaken (fun _ => id) fun _ _ h => h.1

theorem readLag_bare {output : CommandOutput} {e : Error}
    (h : readLag output group tenant = .error e) : e.Bare := by
  rw [readLag] at h
  split at h
  · split at h
    · cases h
    · cases h
      exact nofun
  · rw [tableLag] at h
    split at h
    · cases h
      exact nofun
    · cases hsum : sumColumns (tenantColumns tenant output.stdout) with
      | ok n =>
          rw [hsum] at h
          cases h
      | error raw =>
          rw [hsum] at h
          cases h
          exact nofun

theorem Barrier.observe_bare {output : CommandOutput} {e : Error} (b : Barrier)
    (h : b.observe output = .error e) : e.Bare := by
  rw [observe] at h
  split at h
  · cases h
  · cases hread : readLag output b.group b.tenant with
    | ok r =>
        rw [hread] at h
        cases h
    | error e' =>
        rw [hread] at h
        cases h
        exact readLag_bare hread

theorem pollOn_stops {policy : LagPolicy} (b : Barrier) (made left : Nat) :
    StopsAt Error.Bare (pollOn policy b made left) := by
  induction left generalizing b made with
  | zero => exact .throw nofun
  | succ left ih =>
      refine .bind (.reply fun _ => nofun) fun output => ?_
      refine .bind (.ofExcept fun e he => b.observe_bare he) fun b' => ?_
      split
      · exact .pure
      · dsimp only
        split
        · exact .bind .pause fun _ => ih b' _
        · exact ih b' _

/-- What stops the wait for a tenant is not attributed to anything by the wait itself. -/
theorem waitForDrain_stops {policy : LagPolicy} :
    StopsAt Error.Bare (waitForDrain group tenant policy) :=
  .bind .pause fun _ => pollOn_stops _ _ _

theorem pollOn_counts {policy : LagPolicy} (b : Barrier) (made left : Nat) :
    Shows (pollOn policy b made left) fun events n => n = made + events.length := by
  induction left generalizing b made with
  | zero => exact .throw
  | succ left ih =>
      refine .bind (S := fun events _ => events.length = 1) (.reply fun _ _ => rfl) fun output => ?_
      refine .bind (S := fun events _ => events = []) (.ofExcept fun _ _ => rfl) fun b' => ?_
      split
      · exact .pure fun _ _ first hfirst => by simp_all
      · have further : Shows (pollOn policy b' (made + 1) left) fun events n =>
            ∀ before, before = [] → ∀ first : List Event, first.length = 1 →
              n = made + (first ++ (before ++ events)).length := by
          refine (ih b' (made + 1)).mono fun events n hn before hbefore first hfirst => ?_
          simp [hn, hbefore, hfirst]
          omega
        dsimp only
        split
        · refine .bind (S := fun events _ => events = []) (.pause rfl) fun _ => ?_
          exact further.mono fun events n h before hbefore => by simpa [hbefore] using h
        · exact further

/-- The wait for a tenant answers the number of polls that were made. -/
theorem waitForDrain_counts {policy : LagPolicy} :
    Shows (waitForDrain group tenant policy) fun events n => n = events.length := by
  refine .bind (S := fun events _ => events = []) (.pause rfl) fun _ => ?_
  exact (pollOn_counts _ _ _).mono fun events n hn before hbefore => by simp [hn, hbefore]

end Rollout.Lag
