import Rollout.Procedure.Surroundings

/-!
# Histories

A history is what was seen so far. A rule says of an event whether it is allowed after a history;
`Throughout` carries the history along, so that a rule may speak of all that came before an event.

`Answered` and `Latest` say that a call was answered, at some time or when it was made last. What
was answered once stays so, and what was answered last stays so until the same call is made again.
-/

namespace Rollout

/-- What was seen so far, the earliest first. -/
abbrev History := List Event

namespace History

variable {ok : History → Event → Prop} {P : History → Prop}

/-- Every event is allowed after the past and the events before it. -/
def Throughout (ok : History → Event → Prop) : History → List Event → Prop
  | _, [] => True
  | past, e :: rest => ok past e ∧ Throughout ok (past ++ [e]) rest

@[simp] theorem throughout_nil (ok : History → Event → Prop) (past : History) :
    Throughout ok past [] := trivial

theorem throughout_cons {past : History} {e : Event} {rest : List Event} :
    Throughout ok past (e :: rest) ↔ ok past e ∧ Throughout ok (past ++ [e]) rest :=
  Iff.rfl

theorem throughout_append {past first second : History} :
    Throughout ok past (first ++ second) ↔
      Throughout ok past first ∧ Throughout ok (past ++ first) second := by
  induction first generalizing past with
  | nil => simp
  | cons e first ih =>
      rw [List.cons_append, throughout_cons, throughout_cons, ih, and_assoc]
      simp

theorem Throughout.mono {ok' : History → Event → Prop} {past events : History}
    (h : Throughout ok past events) (sub : ∀ past e, ok past e → ok' past e) :
    Throughout ok' past events := by
  induction events generalizing past with
  | nil => trivial
  | cons e rest ih => exact ⟨sub past e h.1, ih h.2⟩

theorem throughout_iff {past events : History} :
    Throughout ok past events ↔
      ∀ before e after, events = before ++ e :: after → ok (past ++ before) e := by
  constructor
  · rintro h before e after rfl
    exact (throughout_append.1 h).2.1
  · intro h
    induction events generalizing past with
    | nil => trivial
    | cons e rest ih =>
        refine ⟨by simpa using h [] e rest rfl, ih fun before e' after hrest => ?_⟩
        simpa using h (e :: before) e' after (by rw [hrest, List.cons_append])

/-- An assertion that no event can end. -/
def Lasting (P : History → Prop) : Prop := ∀ past e, P past → P (past ++ [e])

theorem Lasting.append {past : History} (h : Lasting P) (hP : P past) (events : List Event) :
    P (past ++ events) := by
  induction events generalizing past with
  | nil => simpa using hP
  | cons e rest ih => simpa using ih (h past e hP)

def Answered (c : Call) (x : c.Answer) (past : History) : Prop :=
  ∃ time, (⟨time, c, .ok x⟩ : Event) ∈ past

theorem lasting_answered (c : Call) (x : c.Answer) : Lasting (Answered c x) := by
  rintro past e ⟨time, h⟩
  exact ⟨time, List.mem_append_left _ h⟩

theorem answered_append_self (c : Call) (x : c.Answer) (past : History) (time : Nat) :
    Answered c x (past ++ [⟨time, c, .ok x⟩]) :=
  ⟨time, by simp⟩

def Latest (c : Call) (x : c.Answer) (past : History) : Prop :=
  ∃ before time after, past = before ++ ⟨time, c, .ok x⟩ :: after ∧ ∀ e ∈ after, e.call ≠ c

theorem latest_append_self (c : Call) (x : c.Answer) (past : History) (time : Nat) :
    Latest c x (past ++ [⟨time, c, .ok x⟩]) :=
  ⟨past, time, [], rfl, by simp⟩

theorem Latest.append {c : Call} {x : c.Answer} {past : History} (h : Latest c x past) {e : Event}
    (hne : e.call ≠ c) : Latest c x (past ++ [e]) := by
  obtain ⟨before, time, after, rfl, hafter⟩ := h
  refine ⟨before, time, after ++ [e], by simp, fun e' he' => ?_⟩
  rcases List.mem_append.1 he' with he' | he'
  · exact hafter e' he'
  · rwa [List.mem_singleton.1 he']

end History

end Rollout
