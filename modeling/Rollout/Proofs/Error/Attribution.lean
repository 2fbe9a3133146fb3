import Rollout.Error

/-!
# What an error is attributed to

An error is a condition under any number of wrappers, each of which names an entity and perhaps a
tenant. `core` is the condition and `attributions` are the wrappers, from the innermost to the
outermost; together they are the error (`wrapped_attributions`). An error that was passed on as the
report of a collaborator is a condition of its own: of its wrappers only the messages are left.
-/

namespace Rollout

/-- An entity that an error is attributed to, and the tenant if one is named. -/
structure Attribution where
  tenant : Option String
  entity : String
  deriving DecidableEq, Repr

namespace Error

/-- The error attributed to one entity after the other, so that the first is the innermost. -/
def wrapped (e : Error) (chain : List Attribution) : Error :=
  chain.foldl (fun inner a => inner.forEntity a.tenant a.entity) e

/-- The condition under all wrappers. -/
def core : Error → Error
  | .attributed _ _ source => source.core
  | e => e

/-- What an error is attributed to, the innermost first. -/
def attributions : Error → List Attribution
  | .attributed tenant entity source => source.attributions ++ [⟨tenant, entity⟩]
  | _ => []

@[simp] theorem wrapped_nil (e : Error) : e.wrapped [] = e := rfl

theorem wrapped_cons (e : Error) (a : Attribution) (chain : List Attribution) :
    e.wrapped (a :: chain) = (e.forEntity a.tenant a.entity).wrapped chain := rfl

theorem wrapped_concat (e : Error) (chain : List Attribution) (a : Attribution) :
    e.wrapped (chain ++ [a]) = (e.wrapped chain).forEntity a.tenant a.entity := by
  rw [wrapped, List.foldl_append]
  rfl

theorem core_wrapped (e : Error) (chain : List Attribution) : (e.wrapped chain).core = e.core := by
  induction chain generalizing e with
  | nil => rfl
  | cons a chain ih =>
      rw [wrapped_cons, ih]
      rfl

theorem attributions_wrapped (e : Error) (chain : List Attribution) :
    (e.wrapped chain).attributions = e.attributions ++ chain := by
  induction chain generalizing e with
  | nil => exact (List.append_nil _).symm
  | cons a chain ih =>
      rw [wrapped_cons, ih, forEntity, attributions, List.append_assoc, List.singleton_append]

/-- The condition in its wrappers is the error. -/
theorem wrapped_attributions (e : Error) : e.core.wrapped e.attributions = e := by
  induction e with
  | attributed tenant entity source ih => rw [core, attributions, wrapped_concat, ih, forEntity]
  | _ => rfl

/-- The condition under all wrappers is in no wrapper. -/
theorem core_ne_attributed (e : Error) (tenant : Option String) (entity : String) (source : Error) :
    e.core ≠ .attributed tenant entity source := by
  induction e with
  | attributed _ _ _ ih => exact ih
  | _ => exact nofun

/-- The wrappers are taken off from the outermost to the innermost. Each puts its entity in place of
the one so far, and its tenant if it names one. -/
theorem unwrap_eq (e : Error) (tenant entity : Option String) :
    e.unwrap tenant entity =
      (e.attributions.findSome? (·.tenant) <|> tenant,
        e.attributions.head?.map (·.entity) <|> entity, e.core) := by
  induction e generalizing tenant entity with
  | attributed inner name source ih =>
      rw [unwrap, ih, attributions, core, List.findSome?_append, List.head?_append]
      cases source.attributions.findSome? (·.tenant) <;> cases source.attributions.head? <;>
        cases inner <;> rfl
  | _ => rfl

/-- The failure of a stage that an error in any number of wrappers amounts to. Its source is the
condition under all of them, its entity that of the innermost wrapper, and its tenant that of the
innermost wrapper that names one; what the stage was given stands in where there is none. An error
that a collaborator reports, whatever it says was being done, is such a condition itself: nothing
that it was attributed to before is lifted out of it. -/
theorem inStage_wrapped (e : Error) (chain : List Attribution) (stage : Stage)
    (tenant entity : Option String) :
    let failure := (e.wrapped chain).inStage stage tenant entity
    let wrappers := e.attributions ++ chain
    e = e.core.wrapped e.attributions ∧
      failure.stage = stage ∧
      failure.source = e.core ∧ (∀ t name source, failure.source ≠ .attributed t name source) ∧
      failure.entity = (wrappers.head?.map (·.entity) <|> entity) ∧
      failure.tenant = (wrappers.findSome? (·.tenant) <|> tenant) ∧
      ∀ doing : List String,
        let reported := doing.foldr Failure.context e.toFailure
        ((other reported).wrapped chain).inStage stage tenant entity =
          ⟨stage, chain.findSome? (·.tenant) <|> tenant, chain.head?.map (·.entity) <|> entity,
            other reported⟩ := by
  intro failure wrappers
  have unwrapped (e : Error) : (e.wrapped chain).unwrap tenant entity =
      ((e.attributions ++ chain).findSome? (·.tenant) <|> tenant,
        (e.attributions ++ chain).head?.map (·.entity) <|> entity, e.core) := by
    rw [unwrap_eq, attributions_wrapped, core_wrapped]
  have flat : failure = ⟨stage, wrappers.findSome? (·.tenant) <|> tenant,
      wrappers.head?.map (·.entity) <|> entity, e.core⟩ := by
    simp only [failure, inStage, unwrapped]
    rfl
  rw [flat]
  refine ⟨e.wrapped_attributions.symm, rfl, rfl, e.core_ne_attributed, rfl, rfl, ?_⟩
  intro doing reported
  simp only [inStage, unwrapped]
  rfl

/-- The tenant and the entity may come from different wrappers: the innermost one names no tenant,
and a gap further out does not bring back the tenant of the stage. -/
example :
    ((config "x").wrapped [⟨none, "role Admin"⟩, ⟨some "north", "user ann"⟩, ⟨none, "app"⟩]).inStage
        .users (some "south") none =
      ⟨.users, some "north", some "role Admin", config "x"⟩ := by decide

end Error

end Rollout
