import Rollout.Proofs.Procedure.History
import Rollout.Proofs.Procedure.Yields

/-!
# Procedures that abide by a rule

A rule says of an event whether it is allowed after what was seen before it. `Abides ok P p Q` says
that `p`, started from a past in which `P` holds, only shows what `ok` allows, and that `Q` holds of
its value and of everything seen at its end. The past is carried along, so a rule may speak of all
that happened before an event, also before `p` was started.

Two special cases are used throughout. A rule that ignores the past bounds the calls that are made
at all (`Makes`), and such a bound gives back every assertion that those calls leave alone
(`Makes.abides`). An assertion that outlasts every event can be carried past any procedure
(`Abides.lasting`).
-/

namespace Rollout

namespace Procedure

open History

variable {α β : Type} {ok : History → Event → Prop} {P P' : History → Prop}
  {Q Q' : α → History → Prop} {R : β → History → Prop}

/-- From a past in which `P` holds, `p` shows what is allowed and ends where `Q` holds. -/
def Abides (ok : History → Event → Prop) (P : History → Prop) (p : Procedure α)
    (Q : α → History → Prop) : Prop :=
  ∀ ⦃past events value⦄, P past → p.Yields events value →
    Throughout ok past events ∧ Q value (past ++ events)

namespace Abides

theorem done {value : α} (h : ∀ past, P past → Q value past) : Abides ok P (.done value) Q := by
  intro past events result hP hy
  obtain ⟨rfl, rfl⟩ := yields_done_iff.1 hy
  exact ⟨trivial, by simpa using h past hP⟩

theorem call {c : Call} {next : c.Reply → Procedure α} {S : c.Reply → History → Prop}
    (made : ∀ past time reply, P past →
      ok past ⟨time, c, reply⟩ ∧ S reply (past ++ [⟨time, c, reply⟩]))
    (rest : ∀ reply, Abides ok (S reply) (next reply) Q) : Abides ok P (.call c next) Q := by
  intro past events value hP hy
  obtain ⟨time, reply, events, rfl, hrest⟩ := yields_call_iff.1 hy
  obtain ⟨hok, hS⟩ := made past time reply hP
  obtain ⟨hthrough, hQ⟩ := rest reply hS hrest
  exact ⟨⟨hok, hthrough⟩, by simpa using hQ⟩

theorem sleep {duration : Nat} {next : Procedure α} (h : Abides ok P next Q) :
    Abides ok P (.sleep duration next) Q := by
  intro past events value hP hy
  exact h hP (yields_sleep_iff.1 hy)

theorem bind {p : Procedure α} {f : α → Procedure β} (first : Abides ok P p Q)
    (rest : ∀ x, Abides ok (Q x) (f x) R) : Abides ok P (p >>= f) R := by
  intro past events value hP hy
  obtain ⟨x, before, after, rfl, hp, hf⟩ := yields_bind_iff.1 hy
  obtain ⟨hbefore, hQ⟩ := first hP hp
  obtain ⟨hafter, hR⟩ := rest x hQ hf
  exact ⟨throughout_append.2 ⟨hbefore, hafter⟩, by simpa using hR⟩

theorem map {p : Procedure α} {f : α → β} (h : Abides ok P p fun x => R (f x)) :
    Abides ok P (f <$> p) R := by
  intro past events value hP hy
  obtain ⟨x, hp, rfl⟩ := yields_map_iff.1 hy
  exact h hP hp

theorem weaken {p : Procedure α} (h : Abides ok P p Q) (pre : ∀ past, P' past → P past)
    (post : ∀ x past, Q x past → Q' x past) : Abides ok P' p Q' := by
  intro past events value hP hy
  obtain ⟨hthrough, hQ⟩ := h (pre past hP) hy
  exact ⟨hthrough, post _ _ hQ⟩

theorem allow {ok' : History → Event → Prop} {p : Procedure α} (h : Abides ok P p Q)
    (sub : ∀ past e, ok past e → ok' past e) : Abides ok' P p Q := by
  intro past events value hP hy
  obtain ⟨hthrough, hQ⟩ := h hP hy
  exact ⟨hthrough.mono sub, hQ⟩

/-- What is seen of a procedure that abides by a rule, started with nothing seen before. -/
theorem of_run {p : Procedure α} (h : Abides ok P p Q) (start : P []) {σ : Type}
    (surroundings : Surroundings σ) (state : σ) (clock : Nat) :
    (∀ before e after, (p.run surroundings state clock).events = before ++ e :: after →
      ok before e) ∧
      Q (p.run surroundings state clock).value (p.run surroundings state clock).events := by
  obtain ⟨hthrough, hQ⟩ := h start (yields_run surroundings p state clock)
  exact ⟨by simpa using throughout_iff.1 hthrough, by simpa using hQ⟩

end Abides

theorem Abides.lasting {p : Procedure α} (h : Abides ok P p Q) (hP' : Lasting P') :
    Abides ok (fun past => P past ∧ P' past) p (fun x past => Q x past ∧ P' past) := by
  intro past events value hP hy
  obtain ⟨hthrough, hQ⟩ := h hP.1 hy
  exact ⟨hthrough, hQ, hP'.append hP.2 events⟩

def Makes (kind : Call → Prop) (p : Procedure α) : Prop :=
  Abides (fun _ e => kind e.call) (fun _ => True) p fun _ _ => True

theorem makes_iff {kind : Call → Prop} {p : Procedure α} :
    Makes kind p ↔ ∀ events value, p.Yields events value → ∀ e ∈ events, kind e.call := by
  constructor
  · intro h events value hy e he
    obtain ⟨before, after, rfl⟩ := List.append_of_mem he
    exact throughout_iff.1 (@h [] _ _ trivial hy).1 before e after rfl
  · intro h past events value _ hy
    refine ⟨throughout_iff.2 ?_, trivial⟩
    rintro before e after rfl
    exact h _ _ hy e (by simp)

theorem Makes.abides {kind : Call → Prop} {p : Procedure α} (h : Makes kind p)
    (step : ∀ past e, P past → kind e.call → ok past e ∧ P (past ++ [e])) :
    Abides ok P p fun _ => P := by
  intro past events value hP hy
  have hkind := makes_iff.1 h events value hy
  clear hy
  induction events generalizing past with
  | nil => exact ⟨trivial, by simpa using hP⟩
  | cons e rest ih =>
      obtain ⟨hok, hP⟩ := step past e hP (hkind e List.mem_cons_self)
      obtain ⟨hthrough, hP⟩ := ih hP fun e' he' => hkind e' (List.mem_cons_of_mem _ he')
      exact ⟨⟨hok, hthrough⟩, by simpa using hP⟩

end Procedure

end Rollout
