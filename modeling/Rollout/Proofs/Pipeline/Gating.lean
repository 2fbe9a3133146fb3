import Rollout.Proofs.CommandLine.ConsoleRules
import Rollout.Proofs.Pipeline.Footprint

/-!
# The barrier is in front of every mutation for a tenant

A rollout changes nothing within a tenant before the tenant was listed and entitled and, after that,
the backlog of the consumer group was read as empty for it. The poll that showed this is the last
one before the change, so no poll of any other kind opens the way. Attaching capability sets from
the command line waits for the same poll, unless it is told not to wait.
-/

namespace Rollout

open Rollout.Action (Abides Orderly)
open History (Answered Lasting)
open Lag (DrainedSince)

/-- A listed tenant with a name was entitled to the configured application. -/
def Entitled (c : Config) (name : String) (past : History) : Prop :=
  ∃ before time parameters after, ∃ record : Tenant, record.name = name ∧
    past = before ++ (⟨time, .platform (.createEntitlement (.to record.id c.applicationId)
      parameters), .ok ()⟩ : Event) :: after ∧
    ∃ listed : List Tenant, Answered (.platform .listTenants) listed before ∧ record ∈ listed

theorem lasting_entitled (c : Config) (name : String) : Lasting (Entitled c name) := by
  rintro past e ⟨before, time, parameters, after, record, hname, rfl, hlisted⟩
  exact ⟨before, time, parameters, after ++ [e], record, hname, by simp, hlisted⟩

/-- The way to changes within a tenant is open: `P` held before the last description of the consumer
group, which showed that nothing was left to consume for the tenant. -/
def GateOpen (c : Config) (P : String → History → Prop) (tenant : String) : History → Prop :=
  DrainedSince (P tenant) c.capabilityGroup tenant

/-- The rule that a mutation in a session is made only when the way to the tenant is open. -/
def Gated (c : Config) (P : String → History → Prop) (past : History) (e : Event) : Prop :=
  ∀ op session, e.call = .platform op → op.session? = some session → op.isMutation = true →
    GateOpen c P session.tenant past

variable {c : Config} {P : String → History → Prop} {tenant : String}

theorem Call.General.gated {past : History} {e : Event} (h : e.call.General) :
    Gated c P past e := by
  obtain ⟨op, hop, hgeneral⟩ := h
  intro op' session hop' hsession
  rw [hop] at hop'
  cases hop'
  simp [hgeneral] at hsession

theorem gated_of_not_platform {past : History} {e : Event} (h : ∀ op, e.call ≠ .platform op) :
    Gated c P past e :=
  fun op _ hop => absurd hop (h op)

/-- The calls for a tenant may be made while the way to it is open, and leave it open. -/
theorem Call.For.gated {past : History} {e : Event} (h : e.call.For tenant)
    (opened : GateOpen c P tenant past) :
    Gated c P past e ∧ GateOpen c P tenant (past ++ [e]) := by
  obtain htoken | ⟨session, rfl, op, hop, hsession⟩ := h
  · exact ⟨gated_of_not_platform (by simp [htoken]), opened.append (by simp [htoken])⟩
  · refine ⟨fun op' session' hop' hsession' hmutation => ?_, opened.append (by simp [hop])⟩
    rw [hop] at hop'
    cases hop'
    rcases hsession with rfl | hsession
    · simp [Operation.session?] at hsession'
    · rw [hsession] at hsession'
      cases hsession'
      exact opened

namespace Tenants

/-- The tenants whose names are answered were listed and then entitled. -/
theorem entitle_abides :
    Abides (Gated c P) (fun _ => True) (entitle c) fun names past =>
      ∀ name ∈ names, Entitled c name past := by
  refine .bind (Q := fun tenants past => ∃ listed : List Tenant,
    Answered (.platform .listTenants) listed past ∧ tenants ⊆ listed) ?_ fun tenants => ?_
  · refine .bind (.operate (S := fun listed past => Answered (.platform .listTenants) listed past)
      (fun _ _ _ _ => Call.General.gated ⟨_, rfl, rfl⟩)
      fun past time listed _ =>
        History.answered_append_self (.platform .listTenants) listed past time)
      fun listed => .pure fun past h => ⟨listed, h, List.filter_sublist.subset⟩
  · refine Abides.weaken (.each (T := Entitled c) (lasting_entitled c) fun t ht => ?_)
      (fun _ => id) fun _ _ h => h.2
    refine .bind (Q := fun _ past => (∃ listed : List Tenant,
      Answered (.platform .listTenants) listed past ∧ tenants ⊆ listed) ∧ Entitled c t.name past)
      (.forEntity (.operate (fun _ _ _ _ => Call.General.gated ⟨_, rfl, rfl⟩) ?_))
      fun _ => .pure fun _ => id
    rintro past time x ⟨listed, hlisted, hsub⟩
    exact ⟨⟨listed, History.lasting_answered _ _ past _ hlisted, hsub⟩,
      past, time, _, [], t, rfl, rfl, listed, hlisted, hsub ht⟩

end Tenants

namespace Pipeline

variable {p : Pipeline}

theorem awaitCapabilitySets_opens (lasting : ∀ t, Lasting (P t)) :
    Abides (Gated p.config P) (P tenant) (p.awaitCapabilitySets tenant) fun _ =>
      GateOpen p.config P tenant :=
  .inStage <| (Lag.waitForDrain_abides (fun _ _ _ _ => gated_of_not_platform (by simp))
    fun past _ _ h => lasting tenant past _ h).weaken (fun _ => id) fun _ _ h => h.2

/-- What is done for a tenant after its barrier is done while the way to it is open. -/
theorem provisionTenant_gated (lasting : ∀ t, Lasting (P t)) :
    Abides (Gated p.config P) (P tenant) (p.provisionTenant tenant) fun _ _ => True := by
  have within {α : Type} {a : Staged α} (h : Orderly (Call.For tenant) a) :
      Abides (Gated p.config P) (GateOpen p.config P tenant) a fun _ =>
        GateOpen p.config P tenant :=
    h.makes.abides fun _ _ opened hcall => hcall.gated opened
  exact .bind (awaitCapabilitySets_opens lasting) fun _ =>
    .bind (within createRoles_orderly) fun _ => .bind (within bindCapabilitySets_orderly) fun _ =>
      .bind (within createUsers_orderly) fun _ => .pure fun _ _ => trivial

theorem run_gated :
    Abides (Gated p.config (Entitled p.config)) (fun _ => True) p.run fun _ _ => True := by
  have before {α : Type} {a : Staged α} (h : Orderly Call.General a) :
      Abides (Gated p.config (Entitled p.config)) (fun _ => True) a fun _ _ => True :=
    h.makes.abides fun _ _ _ hcall => ⟨hcall.gated, trivial⟩
  have healthy : Abides (Gated p.config (Entitled p.config)) (fun _ => True) p.awaitHealth
      fun _ _ => True := by
    refine awaitHealth_orderly.makes.abides ?_
    rintro past e - ⟨target, -, hcall⟩
    exact ⟨gated_of_not_platform (by simp [hcall]), trivial⟩
  refine .bind healthy fun _ => .bind (before deployApplication_orderly) fun _ =>
    .bind (before createTenants_orderly) fun _ =>
      .bind (.inStage Tenants.entitle_abides) fun entitled => ?_
  have every : Lasting fun past => ∀ name ∈ entitled, Entitled p.config name past :=
    fun past e h name hname => lasting_entitled p.config name past e (h name hname)
  refine .bind (.each_keeps fun t ht => ?_) fun _ => .pure fun _ _ => trivial
  exact ((provisionTenant_gated (lasting_entitled p.config)).lasting every).weaken
    (fun past h => ⟨h t ht, h⟩) fun _ _ h => h.2

end Pipeline

open CommandLine (Command Format TenantTask)

theorem targetTenants_gated {p : Pipeline} (only : Option String) :
    CommandLine.Console.Abides (Gated p.config P) (fun _ => True)
      (CommandLine.targetTenants p only) fun _ _ => True := by
  cases only with
  | none =>
      refine .stage (.inStage (.bind (Tenants.existing_orderly.makes.abides ?_)
        fun _ => .pure fun _ => id))
      exact fun _ _ _ hcall => ⟨Call.General.gated ⟨_, hcall, rfl⟩, trivial⟩
  | some tenant =>
      rw [CommandLine.targetTenants]
      split
      · exact .pure fun _ _ => trivial
      · exact .throw

/-- Attaching capability sets tenant by tenant waits at the barrier of each tenant. -/
theorem attachCapabilitySets_gated (p : Pipeline) (format : Format) (only : Option String) :
    CommandLine.Console.Abides (Gated p.config fun _ _ => True) (fun _ => True)
      (Command.execute p format (.forTenants (.attachCapabilitySets true) only))
      fun _ _ => True := by
  refine .bind (targetTenants_gated only) fun tenants => .forEach fun tenant _ => ?_
  refine .bind (.stage (Pipeline.awaitCapabilitySets_opens fun _ _ _ => id)) fun _ => ?_
  refine .weaken (.report (Pipeline.attachCapabilitySets_orderly.makes.abides ?_)) (fun _ => id)
    fun _ _ _ => trivial
  exact fun _ _ opened hcall => hcall.gated opened

/-- Whatever the surroundings answer, each mutation for a tenant in a rollout comes after the tenant
was listed and entitled and, after that, a poll that read its backlog as empty, which is the last
poll before the mutation. A poll of this kind also comes before whatever is attached to a role for
the tenant from the command line, unless it is told not to wait. -/
theorem mutations_after_drained {σ : Type} (p : Pipeline) (surroundings : Surroundings σ)
    (state : σ) (clock : Nat) :
    (∀ before e after,
      (p.run.run.run surroundings state clock).events = before ++ e :: after →
        ∀ op session, e.call = .platform op → op.session? = some session →
          op.isMutation = true →
            DrainedSince (Entitled p.config session.tenant) p.config.capabilityGroup
              session.tenant before) ∧
    ∀ format only before e after,
      ((Command.outcome p format (.forTenants (.attachCapabilitySets true) only)).run surroundings
        state clock).events = before ++ e :: after →
        ∀ session role sets, e.call = .platform (.attachCapabilitySets session role sets) →
          DrainedSince (fun _ => True) p.config.capabilityGroup session.tenant before := by
  constructor
  · exact (Procedure.Abides.of_run Pipeline.run_gated trivial surroundings state clock).1
  · intro format only before e after hevents session role sets hcall
    have outcome := Procedure.Abides.map (f := CommandLine.Outcome.ofResult) (R := fun _ _ => True)
      (Procedure.Abides.weaken (attachCapabilitySets_gated p format only "") (fun _ => id)
        fun _ _ _ => trivial)
    exact (outcome.of_run trivial surroundings state clock).1 before e after hevents _ session
      hcall rfl rfl

end Rollout
