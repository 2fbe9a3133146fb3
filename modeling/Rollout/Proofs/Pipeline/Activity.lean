import Rollout.Procedure.Scripted
import Rollout.Proofs.Health.Gate
import Rollout.Proofs.Lag.Wait
import Rollout.Proofs.Pipeline.Ownership

/-!
# What a pipeline may be asked to do

`Activity` lists the stages of a pipeline and what is composed of them, each for any text as its
tenant, short of replacing a discovery entry. With a configuration that was accepted, none of them
does anything that the configuration does not permit, whatever the platform answers: what they ask
of it is permitted after all that was seen of the same activity before.
-/

namespace Rollout

namespace Pipeline

/-- What a pipeline can be asked to do, short of replacing a discovery entry. -/
inductive Activity where
  | awaitHealth
  | deployApplication
  | removeApplications
  | createTenants
  | removeTenants
  | createEntitlements
  | removeEntitlements
  | existingTenants
  | awaitCapabilitySets (tenant : String)
  | createRoles (tenant : String)
  | removeRoles (tenant : String)
  | detachCapabilitySets (tenant : String)
  | attachCapabilitySets (tenant : String)
  | bindCapabilitySets (tenant : String)
  | createUsers (tenant : String)
  | removeUsers (tenant : String)
  | provisionTenant (tenant : String)
  | run
  | teardown
  deriving DecidableEq, Repr

def Activity.carryOut (p : Pipeline) : Activity → Staged Unit
  | .awaitHealth => discard p.awaitHealth
  | .deployApplication => discard p.deployApplication
  | .removeApplications => discard Pipeline.removeApplications
  | .createTenants => discard p.createTenants
  | .removeTenants => discard p.removeTenants
  | .createEntitlements => discard p.createEntitlements
  | .removeEntitlements => discard p.removeEntitlements
  | .existingTenants => discard p.existingTenants
  | .awaitCapabilitySets tenant => discard (p.awaitCapabilitySets tenant)
  | .createRoles tenant => discard (p.createRoles tenant)
  | .removeRoles tenant => discard (p.removeRoles tenant)
  | .detachCapabilitySets tenant => discard (p.detachCapabilitySets tenant)
  | .attachCapabilitySets tenant => discard (p.attachCapabilitySets tenant)
  | .bindCapabilitySets tenant => discard (p.bindCapabilitySets tenant)
  | .createUsers tenant => discard (p.createUsers tenant)
  | .removeUsers tenant => discard (p.removeUsers tenant)
  | .provisionTenant tenant => discard (p.provisionTenant tenant)
  | .run => discard p.run
  | .teardown => discard p.teardown

end Pipeline

variable {c : Config} {α β : Type}

namespace Restrained

theorem bind {ε : Type} {a : ExceptT ε Procedure α} {f : α → ExceptT ε Procedure β}
    (first : Restrained c a) (rest : ∀ x, Restrained c (f x)) : Restrained c (a >>= f) :=
  Action.Abides.bind first rest

theorem pure {ε : Type} {x : α} : Restrained c (Pure.pure x : ExceptT ε Procedure α) :=
  Action.Abides.pure fun _ _ => trivial

theorem each {ε : Type} {f : α → ExceptT ε Procedure β} {items : List α}
    (item : ∀ x ∈ items, Restrained c (f x)) : Restrained c (each f items) :=
  Action.Abides.each_keeps item

theorem inStage {a : Action α} {stage : Stage} {tenant entity : Option String}
    (h : Restrained c a) : Restrained c (Action.inStage stage tenant entity a) :=
  Action.Abides.inStage h

/-- A stage for a tenant asks for its token besides the work in the session. -/
theorem inSession {stage : Stage} {tenant : String} {work : Session → Action α}
    (h : ∀ session, Restrained c (work session)) :
    Restrained c (Pipeline.inSession stage tenant work) := by
  refine Pipeline.inSession_abides (fun _ _ _ _ op hop => ?_) (fun _ _ _ _ => trivial)
    fun token => h _
  cases hop

/-- An action that makes only calls that are permitted at any time. -/
theorem of_makes {ε : Type} {a : ExceptT ε Procedure α} {K : Call → Prop}
    (h : Action.Makes K a)
    (permitted : ∀ past op, K (.platform op) → Permitted c past op) : Restrained c a :=
  h.abides fun past _ _ hkind => ⟨fun op hop => permitted past op (hop ▸ hkind), trivial⟩

theorem operate {doing : String} {op : Operation} (h : ∀ past, Permitted c past op) :
    Restrained c (Action.operate doing op) :=
  Action.Abides.operate (fun past _ _ _ => onlyPermitted_of_permitted (h past))
    fun _ _ _ _ => trivial

end Restrained

namespace Application

theorem assemble_restrained : Restrained c (assemble c) := by
  refine .of_makes assemble_orderly.makes ?_
  rintro past op ⟨url, h | h⟩
  · cases h
    trivial
  · cases h
    trivial

theorem create_restrained (d : ApplicationDescriptor) : Restrained c (create d) := by
  refine .of_makes (create_orderly d).makes ?_
  rintro past op (h | h)
  · cases h
    trivial
  · cases h
    trivial

theorem removeAll_restrained : Restrained c removeAll := by
  refine .bind (.operate fun _ => trivial) fun applications => ?_
  refine Action.Abides.bind (.sweep fun a _ past time reply _ => ⟨?_, trivial⟩)
    fun _ => .pure fun _ _ => trivial
  exact onlyPermitted_of_permitted trivial

end Application

namespace Pipeline

variable {p : Pipeline}

theorem awaitHealth_restrained : Restrained c p.awaitHealth := by
  refine .of_makes awaitHealth_orderly.makes ?_
  rintro past op ⟨target, -, h⟩
  cases h

theorem awaitCapabilitySets_restrained (tenant : String) :
    Restrained c (p.awaitCapabilitySets tenant) :=
  .of_makes awaitCapabilitySets_orderly.makes fun _ _ h => by cases h

theorem deployApplication_restrained : Restrained p.config p.deployApplication :=
  .bind (.inStage Application.assemble_restrained) fun d =>
    .bind (.inStage (Application.create_restrained d)) fun _ => .pure

theorem existingTenants_restrained : Restrained p.config p.existingTenants :=
  .inStage (Action.Abides.bind Tenants.existing_abides fun _ => .pure fun _ _ => trivial)

section Accepted

variable (accepted : p.config.Accepted) (tenant : String)

include accepted

theorem createRoles_restrained : Restrained p.config (p.createRoles tenant) :=
  .inSession fun _ => Roles.create_restrained accepted

theorem removeRoles_restrained : Restrained p.config (p.removeRoles tenant) :=
  .inSession fun _ => Roles.remove_restrained accepted

theorem bindCapabilitySets_restrained : Restrained p.config (p.bindCapabilitySets tenant) :=
  .inSession fun _ => Roles.bind_restrained accepted

theorem createUsers_restrained : Restrained p.config (p.createUsers tenant) :=
  .inSession fun _ => Users.create_restrained accepted

theorem removeUsers_restrained : Restrained p.config (p.removeUsers tenant) :=
  .inSession fun _ => Users.remove_restrained accepted

theorem provisionTenant_restrained : Restrained p.config (p.provisionTenant tenant) :=
  .bind (awaitCapabilitySets_restrained tenant) fun _ =>
    .bind (createRoles_restrained accepted tenant) fun _ =>
      .bind (bindCapabilitySets_restrained accepted tenant) fun _ =>
        .bind (createUsers_restrained accepted tenant) fun _ => .pure

theorem teardownTenant_restrained : Restrained p.config (p.teardownTenant tenant) :=
  .bind (removeUsers_restrained accepted tenant) fun _ =>
    .bind (removeRoles_restrained accepted tenant) fun _ => .pure

end Accepted

theorem run_restrained (accepted : p.config.Accepted) : Restrained p.config p.run :=
  .bind awaitHealth_restrained fun _ =>
    .bind deployApplication_restrained fun _ =>
      .bind (.inStage Tenants.create_restrained) fun _ =>
        .bind (.inStage Tenants.entitle_restrained) fun _ =>
          .bind (.each fun t _ => provisionTenant_restrained accepted t) fun _ => .pure

theorem teardown_restrained (accepted : p.config.Accepted) : Restrained p.config p.teardown :=
  .bind existingTenants_restrained fun _ =>
    .bind (.each fun t _ => teardownTenant_restrained accepted t) fun _ =>
      .bind (.inStage Tenants.disentitle_restrained) fun _ =>
        .bind (.inStage Tenants.remove_restrained) fun _ =>
          .bind (.inStage Application.removeAll_restrained) fun _ => .pure

theorem Activity.carryOut_restrained (accepted : p.config.Accepted) (activity : Activity) :
    Restrained p.config (activity.carryOut p) := by
  have discarded {α : Type} {a : Staged α} (h : Restrained p.config a) :
      Restrained p.config (discard a) := Action.Abides.map h
  cases activity with
  | awaitHealth => exact discarded awaitHealth_restrained
  | deployApplication => exact discarded deployApplication_restrained
  | removeApplications => exact discarded (.inStage Application.removeAll_restrained)
  | createTenants => exact discarded (.inStage Tenants.create_restrained)
  | removeTenants => exact discarded (.inStage Tenants.remove_restrained)
  | createEntitlements => exact discarded (.inStage Tenants.entitle_restrained)
  | removeEntitlements => exact discarded (.inStage Tenants.disentitle_restrained)
  | existingTenants => exact discarded existingTenants_restrained
  | awaitCapabilitySets tenant => exact discarded (awaitCapabilitySets_restrained tenant)
  | createRoles tenant => exact discarded (createRoles_restrained accepted tenant)
  | removeRoles tenant => exact discarded (removeRoles_restrained accepted tenant)
  | detachCapabilitySets tenant =>
      exact discarded (.inSession fun _ => Roles.detach_restrained accepted)
  | attachCapabilitySets tenant =>
      exact discarded (.inSession fun _ => Roles.attach_restrained accepted)
  | bindCapabilitySets tenant => exact discarded (bindCapabilitySets_restrained accepted tenant)
  | createUsers tenant => exact discarded (createUsers_restrained accepted tenant)
  | removeUsers tenant => exact discarded (removeUsers_restrained accepted tenant)
  | provisionTenant tenant => exact discarded (provisionTenant_restrained accepted tenant)
  | run => exact discarded (run_restrained accepted)
  | teardown => exact discarded (teardown_restrained accepted)

/-- Whatever the surroundings answer, an activity asks the platform only for what the configuration
permits after all that was seen of the activity before. -/
theorem Activity.only_permitted (accepted : p.config.Accepted) (activity : Activity) {σ : Type}
    (surroundings : Surroundings σ) (state : σ) (clock : Nat) :
    ∀ before e after,
      ((activity.carryOut p).run.run surroundings state clock).events = before ++ e :: after →
        ∀ op, e.call = .platform op → Permitted p.config before op :=
  (Procedure.Abides.of_run (carryOut_restrained accepted activity) trivial surroundings state
    clock).1

/-- Of two listed tenants the configured one is removed, which the listing before it permits. -/
theorem removeTenants_sample_permitted :
    Config.sample.Accepted ∧
      Permitted Config.sample
        [⟨0, .platform .listTenants,
          .ok [⟨"1", "south", none⟩, ⟨"2", "north", none⟩]⟩] (.deleteTenant "2") :=
  ⟨Config.sample_accepted,
    Activity.only_permitted (p := ⟨Config.sample, .standard⟩) Config.sample_accepted
      .removeTenants (Scripted.surroundings ⟨[], [], .missing⟩)
      ⟨⟨∅, ∅, [], [⟨"1", "south", none⟩, ⟨"2", "north", none⟩], ∅, ∅, ∅, [], []⟩, [], 0⟩ 0
      _ ⟨0, .platform (.deleteTenant "2"), .ok ()⟩ [] rfl _ rfl⟩

end Pipeline

end Rollout
