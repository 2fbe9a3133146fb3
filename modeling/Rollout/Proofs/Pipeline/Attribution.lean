import Rollout.Proofs.Application.Plan
import Rollout.Proofs.Health.Outcomes
import Rollout.Proofs.Hosted.Teardown
import Rollout.Proofs.Pipeline.Discipline
import Rollout.Proofs.Pipeline.Errands

/-!
# Where a rollout failed

A rollout that fails has fulfilled some errands and stops at the next one of its outline. What was
seen is what was seen of these errands; a call that failed fatally, if there is one, is the last
and was made for the errand at which the rollout stopped. The failure names the place of that
errand, and its source is the error at which the work of the errand stopped, free of wrappers.
-/

namespace Rollout

open Rollout.Action (Orderly StopsAt)

/-! ### What stops an errand -/

namespace Roles

theorem lookupOf_bare {name : String} {roles : List Role} {e : Error}
    (h : lookupOf name roles = .error e) : e.Bare := by
  rw [lookupOf.eq_def] at h
  split at h
  · cases h
  · cases h
  · cases h
    exact nofun

theorem find_stops (session : Session) (name : String) :
    StopsAt Error.Bare (find session name) :=
  .bind (.operate fun _ => nofun) fun _ => .ofExcept fun _ => lookupOf_bare

theorem select_stops (session : Session) (selection : Selection) :
    StopsAt Error.Bare (select session selection) := by
  cases selection with
  | all =>
      exact .bind (.operate fun _ => nofun) fun _ =>
        .bind (.each fun _ _ => .operate fun _ => nofun) fun _ => .pure
  | named names => exact .bind (.each fun _ _ => .operate fun _ => nofun) fun _ => .pure

end Roles

namespace Errand

variable {p : Pipeline}

/-- The work of an errand makes the calls of the errand, and none after one that failed fatally. -/
theorem work_orderly (e : Errand) : Orderly (e.Calls p) (e.work p) := by
  cases e with
  | health =>
      dsimp only [work]
      split
      · exact .pure
      · exact Health.awaitAllHealthy_orderly _
  | registry => exact .ofExcept
  | listing name url => exact .operate rfl
  | plan listings => exact .ofExcept
  | descriptor url id => exact .operate rfl
  | application d => exact Application.create_orderly d
  | tenant name => exact .operate rfl
  | existing => exact Tenants.existing_orderly
  | entitlement t => exact .operate rfl
  | barrier name => exact Lag.waitForDrain_orderly
  | token stage name => exact .reply rfl
  | role session name => exact .operate rfl
  | lookup session name => exact .bind (.operate rfl) fun _ => .ofExcept
  | stripping session r =>
      refine .attempt rfl fun e he hfatal => ?_
      exact hfatal.2.2 _ _ he
  | binding session r names => exact Roles.attachTo_orderly r names
  | user session u => exact Users.provision_orderly u

/-- The work of an errand attributes its errors to nothing. -/
theorem work_stops (e : Errand) : StopsAt Error.Bare (e.work p) := by
  cases e with
  | health =>
      dsimp only [work]
      split
      · exact .pure
      · refine (Health.awaitAllHealthy_stops _).mono ?_
        rintro _ ⟨t, -, rfl⟩
        exact nofun
  | registry =>
      refine .ofExcept fun e he => ?_
      unfold Application.descriptorRegistry at he
      split at he
      · cases he
      · cases he
        exact nofun
  | listing name url => exact .operate fun _ => nofun
  | plan listings =>
      refine .ofExcept fun e he => ?_
      obtain ⟨id, -, rfl⟩ := Application.plan_eq_error_iff.1 he
      exact nofun
  | descriptor url id => exact .operate fun _ => nofun
  | application d =>
      refine .bind (.operate fun _ => nofun) fun _ => ?_
      dsimp only
      split
      · exact .bind (.operate fun _ => nofun) fun _ => .pure
      · exact .pure
  | tenant name => exact .operate fun _ => nofun
  | existing => exact .bind (.operate fun _ => nofun) fun _ => .pure
  | entitlement t => exact .operate fun _ => nofun
  | barrier name => exact Lag.waitForDrain_stops
  | token stage name => exact .reply fun _ => nofun
  | role session name => exact .operate fun _ => nofun
  | lookup session name => exact Roles.find_stops session name
  | stripping session r => exact .attempt
  | binding session r names =>
      refine .bind (Roles.select_stops session _) fun sets => ?_
      dsimp only
      split
      · exact .pure
      · exact .bind (.operate fun _ => nofun) fun _ => .pure
  | user session u =>
      refine .bind (.operate fun _ => nofun) fun id => .bind (.operate fun _ => nofun) fun _ => ?_
      refine .bind (.bind (.each fun _ _ => .bind (Roles.find_stops session _) fun _ => .pure)
        fun _ => .pure) fun ids => ?_
      dsimp only
      split
      · exact .bind (.operate fun _ => nofun) fun _ => .pure
      · exact .pure

end Errand

/-! ### Where an outline stops -/

/-- An errand that was fulfilled, with what it brought and what was seen of it. -/
structure Fulfilled where
  errand : Errand
  result : errand.Result
  events : List Event

namespace Outline

variable {α : Type} {p : Pipeline}

/-- An outline comes to an errand after others that brought what they brought. -/
inductive Reaches : Outline α → List Fulfilled → Errand → Prop
  | here {e : Errand} {next : e.Result → Outline α} : Reaches (.errand e next) [] e
  | after {e e' : Errand} {next : e.Result → Outline α} {result : e.Result} {events : List Event}
      {done : List Fulfilled} (rest : Reaches (next result) done e') :
      Reaches (.errand e next) (⟨e, result, events⟩ :: done) e'

/-- An outline that is carried out fails at an errand, in the place of the errand. -/
theorem carryOut_stops {o : Outline α} {events : List Event} {failure : StageFailure}
    (hy : (o.carryOut p).run.Yields events (.error failure)) :
    ∃ done errand last source, o.Reaches done errand ∧
      (∀ d ∈ done, (d.errand.work p).run.Yields d.events (.ok d.result)) ∧
      events = done.flatMap (·.events) ++ last ∧
      (errand.work p).run.Yields last (.error source) ∧
      failure = source.inStage errand.stage errand.tenant? (errand.entity? p.config) := by
  induction o generalizing events with
  | done value =>
      obtain ⟨-, h⟩ := Action.yields_pure_iff.1 hy
      cases h
  | errand e next ih =>
      -- this errand stops, or it brings a result and the outline that goes on from it stops
      rcases Action.yields_bind_error_iff.1 hy with
        hperform | ⟨result, first, second, rfl, hperform, hrest⟩
      · obtain ⟨outcome, hwork, houtcome⟩ := Procedure.yields_map_iff.1 hperform
        cases outcome with
        | ok x => cases houtcome
        | error source =>
            cases houtcome
            exact ⟨[], e, events, source, .here, by simp, by simp, hwork, rfl⟩
      · obtain ⟨outcome, hwork, houtcome⟩ := Procedure.yields_map_iff.1 hperform
        cases outcome with
        | error source => cases houtcome
        | ok x =>
            cases houtcome
            obtain ⟨done, errand, last, source, reached, fulfilled, rfl, stopped, hfailure⟩ :=
              ih _ hrest
            refine ⟨⟨e, _, first⟩ :: done, errand, last, source, .after reached, ?_, by simp,
              stopped, hfailure⟩
            intro d hd
            rcases List.mem_cons.1 hd with rfl | hd
            · exact hwork
            · exact fulfilled d hd

end Outline

/-! ### Where a rollout stops -/

namespace Pipeline

/-- How a rollout came to fail: it fulfilled some errands, and stopped at the next. -/
structure StoppedAt (p : Pipeline) (events : List Event) (failure : StageFailure)
    (done : List Fulfilled) (errand : Errand) (last : List Event) : Prop where
  /-- The errand is the one that the outline comes to next. -/
  reached : (rolloutOutline p.config).Reaches done errand
  fulfilled : ∀ d ∈ done, (d.errand.work p).run.Yields d.events (.ok d.result)
  seen : events = done.flatMap (·.events) ++ last
  /-- The work of the errand stopped, and at the source of the failure. -/
  stopped : (errand.work p).run.Yields last (.error failure.source)
  calls : ∀ e ∈ last, errand.Calls p e.call
  /-- A call that failed fatally is the last that was made for the errand. -/
  culprit : ∀ e ∈ events, e.Fatal → ∃ before, last = before ++ [e]
  stage : failure.stage = errand.stage
  tenant : failure.tenant = errand.tenant?
  entity : failure.entity = errand.entity? p.config
  bare : failure.source.Bare

/-- Whatever the surroundings answer, a failure names the place of the errand at which the rollout
stopped, and that errand is the one for which the call that failed was made. -/
theorem run_attributed {σ : Type} (p : Pipeline) (surroundings : Surroundings σ) (state : σ)
    (clock : Nat) {failure : StageFailure}
    (failed : (p.run.run.run surroundings state clock).value = .error failure) :
    ∃ done errand last,
      StoppedAt p (p.run.run.run surroundings state clock).events failure done errand last := by
  have hy := Procedure.yields_run surroundings p.run.run state clock
  rw [failed] at hy
  generalize (p.run.run.run surroundings state clock).events = events at hy
  rw [← carryOut_rolloutOutline] at hy
  obtain ⟨done, errand, last, source, reached, fulfilled, rfl, stopped, rfl⟩ :=
    Outline.carryOut_stops hy
  have bare : source.Bare := errand.work_stops stopped
  have place := bare.inStage errand.stage errand.tenant? (errand.entity? p.config)
  rw [place]
  refine ⟨done, errand, last, {
    reached, fulfilled, stopped, bare
    seen := rfl
    calls := Procedure.makes_iff.1 errand.work_orderly.makes.run _ _ stopped
    culprit := fun e he hfatal => ?_
    stage := rfl
    tenant := rfl
    entity := rfl }⟩
  -- fulfilled errands made no call that failed fatally, so such a call is one of the last errand's
  rcases List.mem_append.1 he with he | he
  · obtain ⟨d, hd, he⟩ := List.mem_flatMap.1 he
    have sound : History.Sound d.events :=
      (d.errand.work_orderly History.sound_nil (fulfilled d hd)).2
    exact absurd hfatal (sound e he)
  · obtain ⟨before, after, rfl⟩ := List.append_of_mem he
    have orderly := (errand.work_orderly (p := p)).mono fun _ _ => trivial
    obtain ⟨rfl, -⟩ := fatal_last orderly stopped hfatal
    exact ⟨before, rfl⟩

def roleless : Scripted.State :=
  { inhabited with memory := { inhabited.memory with failing := ["find_roles_by_name"] } }

/-- The first look-up is made for the binding of a role, though users need look-ups too. -/
theorem run_attributed_roleless :
    let r := moduleless.run.run.run (Scripted.surroundings calm) roleless 0
    let failure : StageFailure := ⟨.capabilityBinding, some "north", some "role Admin",
      .other ⟨"looking up role Admin in tenant north",
        ["find_roles_by_name failed: injected error"]⟩⟩
    r.value = .error failure ∧
      ∃ done errand last, StoppedAt moduleless r.events failure done errand last := by
  have failed : (moduleless.run.run.run (Scripted.surroundings calm) roleless 0).value =
      .error ⟨.capabilityBinding, some "north", some "role Admin",
        .other ⟨"looking up role Admin in tenant north",
          ["find_roles_by_name failed: injected error"]⟩⟩ := by decide +kernel
  exact ⟨failed, run_attributed moduleless (Scripted.surroundings calm) roleless 0 failed⟩

end Pipeline

end Rollout
