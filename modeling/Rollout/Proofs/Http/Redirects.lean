import Mathlib.Data.Option.Basic
import Rollout.Http.Redirect

/-!
# Chains of redirects

What is redirected has no header that the first request of its chain has not
(`Request.headers_subset`). Two chains that start alike and go on alike after every response deliver
alike requests and end with the same response (`follow_related`); they go on after the same
responses (`Request.next?_together`).
-/

namespace Rollout.Http

/-- A request has no headers that the one which it takes the place of has not. -/
theorem Request.headers_subset {first last : Request} {responses : List Response}
    (h : responses.foldlM next? first = some last) : last.headers ⊆ first.headers := by
  induction responses generalizing first with
  | nil => exact Option.some_inj.1 h ▸ List.Subset.refl _
  | cons response rest ih =>
      rw [List.foldlM_cons] at h
      obtain ⟨r, next, h⟩ := Option.bind_eq_some_iff.1 h
      obtain ⟨url, -, rfl⟩ := Option.map_eq_some_iff.1 next
      exact List.Subset.trans (ih h) List.filter_sublist.subset

/-- Two chains that took the same responses so far end together at the next one, or both go on. -/
theorem Request.next?_together {first first' r r' : Request} {responses : List Response}
    {T : Request → Request → Prop} (next : responses.foldlM next? first = some r)
    (next' : responses.foldlM next? first' = some r')
    (goes_on : ∀ responses : List Response, ∀ last last', responses.foldlM next? first = some last →
      responses.foldlM next? first' = some last' → T last last') (response : Option Response) :
    Option.Rel T (response.bind r.next?) (response.bind r'.next?) := by
  cases response with
  | none => exact .none
  | some response =>
      rw [Option.bind_some, Option.bind_some]
      cases target : response.target? with
      | none => simpa only [next?, target] using .none
      | some url =>
          have on {first r : Request} (h : responses.foldlM next? first = some r) :
              (responses ++ [response]).foldlM next? first = r.next? response := by
            simp [List.foldlM_append, h]
          have redirected (r : Request) :
              r.next? response = some (r.sentOn response.repeats url) := by
            rw [next?, target, Option.map_some]
          rw [redirected, redirected]
          exact .some (goes_on _ _ _ ((on next).trans (redirected r))
            ((on next').trans (redirected r')))

section

variable {σ σ' : Type} {deliver : Arrival → Request → σ → Option Response × σ}
  {deliver' : Arrival → Request → σ' → Option Response × σ'} {first first' : Request}
  {S : σ → σ' → Prop} {T : Arrival → Request → Arrival → Request → Prop}

/-- Requests that are related are followed to the same response, if each delivery in related states
gives one response, leads to related states and redirects to related requests. -/
theorem follow_related
    (delivers : ∀ {a r state a' r' state'}, T a r a' r' → S state state' →
      let delivered := deliver a r state
      let delivered' := deliver' a' r' state'
      delivered.1 = delivered'.1 ∧ S delivered.2 delivered'.2 ∧
        Option.Rel
          (fun next next' => T (.redirected first next) next (.redirected first' next') next')
          (delivered.1.bind r.next?) (delivered.1.bind r'.next?))
    (left : Nat) {a a' : Arrival} {r r' : Request} {state : σ} {state' : σ'} (h : T a r a' r')
    (states : S state state') :
    let followed := follow deliver first left a r state
    let followed' := follow deliver' first' left a' r' state'
    followed.1 = followed'.1 ∧ S followed.2 followed'.2 := by
  induction left generalizing a a' r r' state state' with
  | zero => exact ⟨rfl, states⟩
  | succ left ih =>
      obtain ⟨response, states, redirected⟩ := delivers h states
      rw [follow, follow, ← response]
      dsimp only
      generalize (deliver a r state).1.bind r.next? = next at redirected
      generalize (deliver a r state).1.bind r'.next? = next' at redirected
      cases redirected with
      | none => exact ⟨response, states⟩
      | some h => exact ih h states

end

end Rollout.Http
