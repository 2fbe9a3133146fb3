import Rollout.Proofs.Procedure.ActionRules

/-!
# Actions that stop at a failure

A call that fails ends the action that made it, with two exceptions: a probe that fails finds its
module unhealthy, and capability sets that cannot be detached are tolerated. `Orderly kind a` says
that `a` makes no calls but those of a kind, and no call at all after one that failed fatally.
-/

namespace Rollout

/-- A call failed, and not in a way that is tolerated. -/
def Event.Fatal (e : Event) : Prop :=
  (∃ f, e.reply = .error f) ∧ (∀ port, e.call ≠ .probe port) ∧
    ∀ session id, e.call ≠ .platform (.detachCapabilitySets session id)

namespace History

/-- Nothing has failed fatally so far. -/
def Sound (past : History) : Prop := ∀ e ∈ past, ¬ e.Fatal

theorem sound_nil : Sound [] := by
  simp [Sound]

theorem Sound.append {past : History} (h : Sound past) {e : Event} (he : ¬ e.Fatal) :
    Sound (past ++ [e]) := by
  intro e' he'
  rcases List.mem_append.1 he' with he' | he'
  · exact h e' he'
  · rwa [List.mem_singleton.1 he']

theorem Sound.answered {past : History} (h : Sound past) (time : Nat) (c : Call) (x : c.Answer) :
    Sound (past ++ [⟨time, c, .ok x⟩]) :=
  h.append fun hfatal => by simp [Event.Fatal] at hfatal

end History

namespace Action

open History (Sound)

variable {α β ε : Type} {kind kind' : Call → Prop}

/-- An action makes no calls but those of a kind, and none after a fatal failure. -/
def Orderly (kind : Call → Prop) (a : ExceptT ε Procedure α) : Prop :=
  Abides (fun past e => Sound past ∧ kind e.call) Sound a fun _ => Sound

namespace Orderly

theorem makes {a : ExceptT ε Procedure α} (h : Orderly kind a) : Makes kind a := by
  refine .of_run (Procedure.makes_iff.2 fun events result hy e he => ?_)
  obtain ⟨before, after, rfl⟩ := List.append_of_mem he
  exact (History.throughout_iff.1 (@h [] _ _ History.sound_nil hy).1 before e after rfl).2

theorem of_makes {a : ExceptT ε Procedure α} (h : Makes kind a)
    (tolerated : ∀ e : Event, kind e.call → ¬ e.Fatal) : Orderly kind a :=
  h.abides fun _ e hsound hkind => ⟨⟨hsound, hkind⟩, hsound.append (tolerated e hkind)⟩

theorem mono {a : ExceptT ε Procedure α} (h : Orderly kind a) (sub : ∀ c, kind c → kind' c) :
    Orderly kind' a :=
  h.allow fun _ _ hok => ⟨hok.1, sub _ hok.2⟩

theorem pure {x : α} : Orderly kind (pure x : ExceptT ε Procedure α) :=
  Abides.pure fun _ => id

theorem bind {a : ExceptT ε Procedure α} {f : α → ExceptT ε Procedure β} (first : Orderly kind a)
    (rest : ∀ x, Orderly kind (f x)) : Orderly kind (a >>= f) :=
  Abides.bind first rest

theorem reply {c : Call} {report : Failure → Error} (h : kind c) :
    Orderly kind (ExceptT.mk (.call c fun reply => .done (reply.mapError report))) :=
  Abides.reply (fun _ _ _ hsound => ⟨hsound, h⟩) fun _ time x hsound => hsound.answered time c x

theorem operate {doing : String} {op : Operation} (h : kind (.platform op)) :
    Orderly kind (operate doing op) :=
  reply h

theorem ofExcept {result : Except Error α} : Orderly kind (ofExcept result) :=
  Abides.ofExcept fun _ _ _ => id

theorem forEntity {a : Action α} {tenant : Option String} {entity : String}
    (h : Orderly kind a) : Orderly kind (a.forEntity tenant entity) :=
  Abides.forEntity h

theorem inStage {a : Action α} {stage : Stage} {tenant entity : Option String}
    (h : Orderly kind a) : Orderly kind (inStage stage tenant entity a) :=
  Abides.inStage h

/-- A call whose failures are all tolerated may be attempted. -/
theorem attempt {op : Operation} (h : kind (.platform op))
    (tolerated : ∀ e : Event, e.call = .platform op → ¬ e.Fatal) : Orderly kind (attempt op) :=
  .call (S := fun _ => Sound)
    (fun _ _ _ hsound => ⟨⟨hsound, h⟩, hsound.append (tolerated _ rfl)⟩) fun _ => .done fun _ => id

/-- Detaching goes on whether it fails or not. -/
theorem detachAll {session : Session} {role : α → String} {items : List α}
    (h : ∀ item ∈ items, kind (.platform (.detachCapabilitySets session (role item)))) :
    Orderly kind (sweep (fun item => .detachCapabilitySets session (role item)) items) :=
  (Abides.sweep fun item hi _ _ _ hsound =>
    ⟨⟨hsound, h item hi⟩, hsound.append fun hfatal => hfatal.2.2 _ _ rfl⟩).weaken
      (fun _ => id) fun _ _ h => h.1

theorem each {f : α → ExceptT ε Procedure β} {items : List α}
    (h : ∀ x ∈ items, Orderly kind (f x)) : Orderly kind (each f items) :=
  Abides.each_keeps h

end Orderly

end Action

end Rollout
