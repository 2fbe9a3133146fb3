import Rollout.Proofs.Health.Gate
import Rollout.Proofs.Lag.Wait
import Rollout.Pipeline.Run

/-!
# Which calls a stage makes

The stages for a tenant work within a session for it: all that they ask of the platform is asked in
that session, but for the listing of the applications, from which a role may select everything. What
a role selects is only read.

The stages before them ask for nothing in any session, and none of them polls.
-/

namespace Rollout

def Call.Within (session : Session) (c : Call) : Prop :=
  ∃ op, c = .platform op ∧ (op = .listApplications ∨ op.session? = some session)

def Call.Reads (session : Session) (c : Call) : Prop :=
  ∃ op, c = .platform op ∧ op.isMutation = false ∧
    (op = .listApplications ∨ op.session? = some session)

def Call.General (c : Call) : Prop :=
  ∃ op, c = .platform op ∧ op.session? = none

/-- A call that reads the listing of a registry, or the descriptor of a module. -/
def Call.Consults (c : Call) : Prop :=
  ∃ url, c = .platform (.registryModules url) ∨ c = .platform (.moduleDescriptor url)

/-- A call for a tenant: a request for its token, or a call within a session for it. -/
def Call.For (tenant : String) (c : Call) : Prop :=
  c = .accessToken tenant ∨ ∃ session : Session, session.tenant = tenant ∧ c.Within session

theorem Call.Consults.general {c : Call} (h : c.Consults) : c.General := by
  obtain ⟨url, rfl | rfl⟩ := h
  · exact ⟨_, rfl, rfl⟩
  · exact ⟨_, rfl, rfl⟩

theorem Call.Reads.within {session : Session} {c : Call} (h : c.Reads session) :
    c.Within session := by
  obtain ⟨op, rfl, -, h⟩ := h
  exact ⟨op, rfl, h⟩

open Rollout.Action (Orderly)

variable {c : Config} {session : Session}

namespace Application

theorem describe_orderly (registry : String) (planned : PlannedModule) :
    Orderly Call.Consults (describe c registry planned) := by
  rw [describe]
  split
  · exact .bind (.forEntity (.operate ⟨_, .inr rfl⟩)) fun _ => .pure
  · exact .pure

theorem assemble_orderly : Orderly Call.Consults (assemble c) :=
  .bind .ofExcept fun registry =>
    .bind (.each fun _ _ => .operate ⟨_, .inl rfl⟩) fun _ =>
      .bind .ofExcept fun _ => .bind (.each fun m _ => describe_orderly registry m) fun _ => .pure

theorem create_orderly (d : ApplicationDescriptor) :
    Orderly (fun call => call = .platform (.createApplication d) ∨
      call = .platform (.createDiscovery d.discovery)) (create d) := by
  refine .bind (.operate (.inl rfl)) fun _ => ?_
  dsimp only
  split
  · exact .bind (.operate (.inr rfl)) fun _ => .pure
  · exact .pure

end Application

theorem Discovery.update_orderly {network id : String} {location : Option String} {restore : Bool}
    {port : Port} : Orderly Call.General (update network id location restore port) :=
  .bind .ofExcept fun _ => .bind (.operate ⟨_, rfl, rfl⟩) fun _ => .pure

namespace Tenants

theorem existing_orderly : Orderly (· = .platform .listTenants) (existing c) :=
  .bind (.operate rfl) fun _ => .pure

theorem create_orderly :
    Orderly (fun call => ∃ name ∈ c.tenants,
      call = .platform (.createTenant name defaultDescription)) (create c) :=
  .each fun name hname => .bind (.forEntity (.operate ⟨name, hname, rfl⟩)) fun _ => .pure

theorem entitlements_orderly {doing : String} {operation : Entitlement → Operation}
    (general : ∀ e, (operation e).session? = none) :
    Orderly Call.General (entitlements c doing operation) :=
  .bind (existing_orderly.mono fun _ h => ⟨_, h, rfl⟩) fun _ =>
    .each fun _ _ => .bind (.forEntity (.operate ⟨_, rfl, general _⟩)) fun _ => .pure

theorem entitle_orderly : Orderly Call.General (entitle c) :=
  entitlements_orderly fun _ => rfl

theorem disentitle_orderly : Orderly Call.General (disentitle c) :=
  entitlements_orderly fun _ => rfl

end Tenants

namespace Roles

theorem find_orderly (name : String) : Orderly (Call.Reads session) (find session name) :=
  .bind (.operate ⟨_, rfl, rfl, .inr rfl⟩) fun _ => .ofExcept

theorem configured_orderly : Orderly (Call.Reads session) (configured c session) :=
  .bind (.each fun _ _ => .bind (.forEntity (find_orderly _)) fun _ => .pure) fun _ => .pure

theorem select_orderly (selection : Selection) :
    Orderly (Call.Reads session) (select session selection) := by
  cases selection with
  | all =>
      exact .bind (.operate ⟨_, rfl, rfl, .inl rfl⟩) fun _ =>
        .bind (.each fun _ _ => .operate ⟨_, rfl, rfl, .inr rfl⟩) fun _ => .pure
  | named names => exact .bind (.each fun _ _ => .operate ⟨_, rfl, rfl, .inr rfl⟩) fun _ => .pure

theorem create_orderly : Orderly (Call.Within session) (create c session) :=
  .each fun _ _ => .bind (.forEntity (.operate ⟨_, rfl, .inr rfl⟩)) fun _ => .pure

theorem detach_orderly : Orderly (Call.Within session) (detach c session) :=
  .bind (configured_orderly.mono fun _ => Call.Reads.within) fun _ =>
    .bind (.detachAll fun _ _ => ⟨_, rfl, .inr rfl⟩) fun _ => .pure

theorem attachTo_orderly (role : Role) (names : List String) :
    Orderly (Call.Within session) (attachTo session role names) := by
  refine .bind ((select_orderly _).mono fun _ => Call.Reads.within) fun sets => ?_
  dsimp only
  split
  · exact .pure
  · exact .bind (.operate ⟨_, rfl, .inr rfl⟩) fun _ => .pure

theorem attach_orderly : Orderly (Call.Within session) (attach c session) :=
  .bind (configured_orderly.mono fun _ => Call.Reads.within) fun _ =>
    .bind (.each fun _ _ => .forEntity (attachTo_orderly _ _)) fun _ => .pure

theorem bind_orderly : Orderly (Call.Within session) (bind c session) :=
  .bind detach_orderly fun _ => attach_orderly

end Roles

namespace Users

theorem roleIds_orderly (user : User) : Orderly (Call.Reads session) (roleIds session user) :=
  .bind (.each fun _ _ => .bind (Roles.find_orderly _) fun _ => .pure) fun _ => .pure

theorem provision_orderly (user : User) :
    Orderly (Call.Within session) (provision session user) := by
  refine .bind (.operate ⟨_, rfl, .inr rfl⟩) fun id =>
    .bind (.operate ⟨_, rfl, .inr rfl⟩) fun _ =>
      .bind ((roleIds_orderly user).mono fun _ => Call.Reads.within) fun ids => ?_
  dsimp only
  split
  · exact .bind (.operate ⟨_, rfl, .inr rfl⟩) fun _ => .pure
  · exact .pure

theorem create_orderly : Orderly (Call.Within session) (create c session) :=
  .each fun user _ => .forEntity (provision_orderly user)

end Users

namespace Pipeline

variable {p : Pipeline} {tenant : String}

theorem awaitHealth_orderly :
    Orderly (fun call => ∃ target ∈ p.healthTargets, call = .probe target.port) p.awaitHealth := by
  refine .inStage ?_
  split
  · exact .pure
  · exact Health.awaitAllHealthy_orderly _

theorem deployApplication_orderly : Orderly Call.General p.deployApplication := by
  refine .bind (.inStage (Application.assemble_orderly.mono fun _ => Call.Consults.general))
    fun d => .bind (.inStage ((Application.create_orderly d).mono ?_)) fun _ => .pure
  rintro call (rfl | rfl)
  · exact ⟨_, rfl, rfl⟩
  · exact ⟨_, rfl, rfl⟩

theorem createTenants_orderly : Orderly Call.General p.createTenants := by
  refine .inStage (Tenants.create_orderly.mono ?_)
  rintro call ⟨name, -, rfl⟩
  exact ⟨_, rfl, rfl⟩

theorem createEntitlements_orderly : Orderly Call.General p.createEntitlements :=
  .inStage Tenants.entitle_orderly

theorem awaitCapabilitySets_orderly :
    Orderly (· = .describeGroup p.config.capabilityGroup) (p.awaitCapabilitySets tenant) :=
  .inStage Lag.waitForDrain_orderly

/-- A stage for a tenant asks for a token, and then works in a session for that tenant. -/
theorem inSession_abides {α : Type} {ok : History → Event → Prop} {P : History → Prop}
    {Q : α → History → Prop} {stage : Stage} {work : Session → Action α}
    (asked : ∀ past time reply, P past → ok past ⟨time, .accessToken tenant, reply⟩)
    (answered : ∀ past time token, P past →
      P (past ++ [⟨time, .accessToken tenant, .ok token⟩]))
    (worked : ∀ token, Action.Abides ok P (work ⟨tenant, token⟩) Q) :
    Action.Abides ok P (inSession stage tenant work) Q := by
  have opened : Action.Abides ok P (session tenant) fun s past => P past ∧ s.tenant = tenant :=
    .bind (.reply asked answered) fun token => .pure fun past h => ⟨h, rfl⟩
  refine .inStage (opened.bind fun s => .given (R := s.tenant = tenant) (fun _ h => h.2) ?_)
  rintro rfl
  exact (worked s.token).weaken (fun _ h => h.1) fun _ _ => id

theorem inSession_orderly {α : Type} {stage : Stage} {work : Session → Action α}
    (h : ∀ session, Orderly (Call.Within session) (work session)) :
    Orderly (Call.For tenant) (inSession stage tenant work) :=
  inSession_abides (fun _ _ _ hsound => ⟨hsound, .inl rfl⟩)
    (fun _ time token hsound => hsound.answered time _ token)
    fun token => (h ⟨tenant, token⟩).mono fun _ hcall => .inr ⟨_, rfl, hcall⟩

theorem createRoles_orderly : Orderly (Call.For tenant) (p.createRoles tenant) :=
  inSession_orderly fun _ => Roles.create_orderly

theorem attachCapabilitySets_orderly : Orderly (Call.For tenant) (p.attachCapabilitySets tenant) :=
  inSession_orderly fun _ => Roles.attach_orderly

theorem bindCapabilitySets_orderly : Orderly (Call.For tenant) (p.bindCapabilitySets tenant) :=
  inSession_orderly fun _ => Roles.bind_orderly

theorem createUsers_orderly : Orderly (Call.For tenant) (p.createUsers tenant) :=
  inSession_orderly fun _ => Users.create_orderly

end Pipeline

end Rollout
