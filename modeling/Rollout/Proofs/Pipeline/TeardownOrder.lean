import Rollout.Pipeline.Run
import Rollout.Proofs.Pipeline.Ownership
import Rollout.Proofs.Procedure.Conforms

/-!
# The order of a teardown

A teardown lists records and deletes those that are configured: the users and then the roles of each
listed tenant, then entitlements, tenants and applications. It cannot do without tokens, listings
and the removal of entitlements, and stops when one of these fails; the other deletions may fail,
and each selected record is attempted whatever became of those before it. The report tells the
records whose deletion succeeded.
-/

namespace Rollout

open Rollout.Action (BrokenOff Conforms)

/-- A call whose failure ends a teardown. -/
inductive Call.Vital : Call → Prop
  | token (tenant : String) : Vital (.accessToken tenant)
  | listUsers (session : Session) : Vital (.platform (.listUsers session))
  | listRoles (session : Session) : Vital (.platform (.listRoles session))
  | listTenants : Vital (.platform .listTenants)
  | listApplications : Vital (.platform .listApplications)
  | deleteEntitlement (e : Entitlement) : Vital (.platform (.deleteEntitlement e))

/-- A deletion whose failure is tolerated. -/
inductive Call.Expendable : Call → Prop
  | deleteUser (session : Session) (id : String) : Expendable (.platform (.deleteUser session id))
  | deleteRole (session : Session) (id : String) : Expendable (.platform (.deleteRole session id))
  | deleteTenant (id : String) : Expendable (.platform (.deleteTenant id))
  | deleteApplication (id : String) : Expendable (.platform (.deleteApplication id))

/-- The place of a deletion in a teardown. -/
def Call.phase? : Call → Option Nat
  | .platform (.deleteUser _ _) | .platform (.deleteRole _ _) => some 0
  | .platform (.deleteEntitlement _) => some 1
  | .platform (.deleteTenant _) => some 2
  | .platform (.deleteApplication _) => some 3
  | _ => none

theorem Call.Vital.not_expendable {call : Call} (h : call.Vital) : ¬ call.Expendable := by
  cases h <;> exact nofun

theorem Call.Vital.phase_of_mutation {call : Call} (h : call.Vital) {op : Operation}
    (hop : call = .platform op) (mutation : op.isMutation = true) :
    ∃ phase, call.phase? = some phase := by
  cases h <;> cases hop <;> first | exact ⟨_, rfl⟩ | cases mutation

theorem Call.Expendable.phase {call : Call} (h : call.Expendable) :
    ∃ phase, call.phase? = some phase := by
  cases h <;> exact ⟨_, rfl⟩

theorem Call.vital_of_phase {call : Call} (h : call.phase? = some 1) : call.Vital := by
  unfold phase? at h
  split at h
  · cases h
  · cases h
  · exact .deleteEntitlement _
  · cases h
  · cases h
  · cases h

/-! ### What a teardown goes through -/

/-- Records are listed, and those that are chosen are swept; they are named in the report if their
deletion succeeded. -/
def Removal {α : Type} (listing : Nat → List α → Event) (chosen : α → Prop) [DecidablePred chosen]
    (deletion : α → Operation) (label : α → String) (events : List Event)
    (names : List String) : Prop :=
  ∃ time listed deletions removed, events = listing time listed :: deletions ∧
    Swept deletion (listed.filter chosen) deletions removed ∧ names = removed.map label

def UsersRemoved (c : Config) (session : Session) : List Event → List String → Prop :=
  Removal (fun time listed => ⟨time, .platform (.listUsers session), .ok listed⟩)
    (fun u => c.UserIn u.username session.tenant) (fun u => .deleteUser session u.id) (·.username)

def RolesRemoved (c : Config) (session : Session) : List Event → List String → Prop :=
  Removal (fun time listed => ⟨time, .platform (.listRoles session), .ok listed⟩)
    (fun r => c.RoleIn (Text.lowered r.name) session.tenant) (fun r => .deleteRole session r.id)
    (·.name)

def TenantsRemoved (c : Config) : List Event → List String → Prop :=
  Removal (fun time listed => ⟨time, .platform .listTenants, .ok listed⟩) (·.name ∈ c.tenants)
    (fun t => .deleteTenant t.id) (·.name)

def ApplicationsRemoved : List Event → List String → Prop :=
  Removal (fun time listed => ⟨time, .platform .listApplications, .ok listed⟩) (fun _ => True)
    (fun a => .deleteApplication a.id) (·.id)

/-- The configured users of a tenant are removed, and then its configured roles. -/
def TenantEmptied (c : Config) (tenant : String) (events : List Event)
    (removed : List String × List String) : Prop :=
  ∃ users roles, events = users ++ roles ∧
    Admitted tenant (UsersRemoved c) users removed.1 ∧
    Admitted tenant (RolesRemoved c) roles removed.2

def EntitlementRemoved (c : Config) (t : Tenant) (events : List Event) : Prop :=
  ∃ time, events = [⟨time, .platform (.deleteEntitlement (.to t.id c.applicationId)), .ok ()⟩]

def Disentitled (c : Config) (events : List Event) (names : List String) : Prop :=
  ∃ time listed removals,
    events = ⟨time, .platform .listTenants, .ok listed⟩ :: removals ∧
      InTurn (fun t events name => name = t.name ∧ EntitlementRemoved c t events)
        (listed.filter (·.name ∈ c.tenants)) removals names

/-- All that is seen of a teardown that succeeds, and its report. -/
def Dismantled (c : Config) (events : List Event) (report : TeardownReport) : Prop :=
  ∃ time listed emptying removed disentitling tenants applications,
    events = ⟨time, .platform .listTenants, .ok listed⟩ ::
      (emptying ++ (disentitling ++ (tenants ++ applications))) ∧
    InTurn (TenantEmptied c) ((listed.filter (·.name ∈ c.tenants)).map (·.name)) emptying removed ∧
    report.users = removed.flatMap (·.1) ∧ report.roles = removed.flatMap (·.2) ∧
    Disentitled c disentitling report.entitlements ∧
    TenantsRemoved c tenants report.tenants ∧ ApplicationsRemoved applications report.applications

/-- A vital call that was answered or a deletion that may fail, with its place in a teardown. -/
structure Event.InPhase (phase : Nat) (e : Event) : Prop where
  proper : e.call.Vital ∧ (∃ x, e.reply = .ok x) ∨ e.call.Expendable
  place : ∀ n, e.call.phase? = some n → n = phase

theorem Removal.inPhase {α : Type} {listing : Nat → List α → Event} {chosen : α → Prop}
    [DecidablePred chosen] {deletion : α → Operation} {label : α → String} {events : List Event}
    {names : List String} {phase : Nat} (h : Removal listing chosen deletion label events names)
    (lists : ∀ time listed, (listing time listed).InPhase phase)
    (deletes : ∀ x time reply, Event.InPhase phase ⟨time, .platform (deletion x), reply⟩) :
    ∀ e ∈ events, e.InPhase phase := by
  obtain ⟨time, listed, deletions, removed, rfl, swept, -⟩ := h
  exact List.forall_mem_cons.2 ⟨lists time listed, swept.forall_mem fun x _ => deletes x⟩

theorem Admitted.inPhase {α : Type} {tenant : String} {work : Session → List Event → α → Prop}
    {events : List Event} {x : α} {phase : Nat} (h : Admitted tenant work events x)
    (works : ∀ session events, work session events x → ∀ e ∈ events, e.InPhase phase) :
    ∀ e ∈ events, e.InPhase phase := by
  obtain ⟨time, token, rest, rfl, hwork⟩ := h
  exact List.forall_mem_cons.2 ⟨⟨.inl ⟨.token tenant, token, rfl⟩, nofun⟩, works _ rest hwork⟩

variable {c : Config}

theorem TenantEmptied.inPhase {tenant : String} {events : List Event}
    {removed : List String × List String} (h : TenantEmptied c tenant events removed) :
    ∀ e ∈ events, e.InPhase 0 := by
  obtain ⟨users, roles, rfl, husers, hroles⟩ := h
  refine List.forall_mem_append.2 ⟨?_, ?_⟩
  · refine husers.inPhase fun session events hwork => Removal.inPhase hwork ?_ ?_
    · exact fun time listed => ⟨.inl ⟨.listUsers session, listed, rfl⟩, nofun⟩
    · exact fun u time reply => ⟨.inr (.deleteUser session u.id), by simp [Call.phase?]⟩
  · refine hroles.inPhase fun session events hwork => Removal.inPhase hwork ?_ ?_
    · exact fun time listed => ⟨.inl ⟨.listRoles session, listed, rfl⟩, nofun⟩
    · exact fun r time reply => ⟨.inr (.deleteRole session r.id), by simp [Call.phase?]⟩

theorem Disentitled.inPhase {events : List Event} {names : List String}
    (h : Disentitled c events names) : ∀ e ∈ events, e.InPhase 1 := by
  obtain ⟨time, listed, removals, rfl, hremovals⟩ := h
  refine List.forall_mem_cons.2 ⟨⟨.inl ⟨.listTenants, listed, rfl⟩, nofun⟩,
    hremovals.forall_mem ?_⟩
  rintro t _ _ ⟨-, time, rfl⟩
  exact List.forall_mem_singleton.2
    ⟨.inl ⟨.deleteEntitlement _, (), rfl⟩, by simp [Call.phase?]⟩

/-- Calls of a teardown from some phase on, the deletions in the order of their phases. -/
structure Phased (low : Nat) (events : List Event) : Prop where
  proper : ∀ e ∈ events, ∃ phase, low ≤ phase ∧ e.InPhase phase
  ordered : (events.filterMap (·.call.phase?)).Pairwise (· ≤ ·)

theorem Phased.nil (low : Nat) : Phased low [] := ⟨nofun, .nil⟩

/-- What is done in a phase may come before what is done in later ones. -/
theorem Phased.after {low high : Nat} {first rest : List Event} (h : Phased high rest)
    (hle : low ≤ high) (inPhase : ∀ e ∈ first, e.InPhase low) : Phased low (first ++ rest) where
  proper e he := by
    rcases List.mem_append.1 he with he | he
    · exact ⟨low, Nat.le_refl _, inPhase e he⟩
    · obtain ⟨phase, hphase, hproper⟩ := h.proper e he
      exact ⟨phase, by omega, hproper⟩
  ordered := by
    have constant : ∀ n ∈ first.filterMap (·.call.phase?), n = low := by
      intro n hn
      obtain ⟨e, he, hphase⟩ := List.mem_filterMap.1 hn
      exact (inPhase e he).place n hphase
    have later : ∀ n ∈ rest.filterMap (·.call.phase?), low ≤ n := by
      intro n hn
      obtain ⟨e, he, hn⟩ := List.mem_filterMap.1 hn
      obtain ⟨phase, hphase, hproper⟩ := h.proper e he
      rw [hproper.place n hn]
      omega
    rw [List.filterMap_append, List.pairwise_append]
    refine ⟨List.pairwise_of_forall_mem_list fun a ha b hb => ?_, h.ordered, fun a ha b hb => ?_⟩
    · exact Nat.le_of_eq ((constant a ha).trans (constant b hb).symm)
    · rw [constant a ha]
      exact later b hb

theorem Dismantled.phased {events : List Event} {report : TeardownReport}
    (h : Dismantled c events report) : Phased 0 events := by
  obtain ⟨time, listed, emptying, removed, disentitling, tenants, applications, rfl, hemptying, -,
    -, hdisentitling, htenants, happlications⟩ := h
  have last : Phased 3 applications := by
    rw [← List.append_nil applications]
    refine (Phased.nil 3).after (Nat.le_refl _) (Removal.inPhase happlications ?_ ?_)
    · exact fun time listed => ⟨.inl ⟨.listApplications, listed, rfl⟩, nofun⟩
    · exact fun a time reply => ⟨.inr (.deleteApplication a.id), by simp [Call.phase?]⟩
  have third : Phased 2 (tenants ++ applications) := by
    refine last.after (by omega) (Removal.inPhase htenants ?_ ?_)
    · exact fun time listed => ⟨.inl ⟨.listTenants, listed, rfl⟩, nofun⟩
    · exact fun t time reply => ⟨.inr (.deleteTenant t.id), by simp [Call.phase?]⟩
  rw [← List.cons_append]
  refine (third.after (by omega) hdisentitling.inPhase).after (by omega) ?_
  exact List.forall_mem_cons.2 ⟨⟨.inl ⟨.listTenants, listed, rfl⟩, nofun⟩,
    hemptying.forall_mem fun _ _ _ h => h.inPhase⟩

/-! ### A teardown goes through it -/

theorem eq_decide_of_iff {α : Type} {selects : α → Bool} {chosen : α → Prop}
    [DecidablePred chosen] (h : ∀ x, selects x = true ↔ chosen x) :
    selects = fun x => decide (chosen x) := by
  funext x
  rw [Bool.eq_iff_iff, h, decide_eq_true_iff]

theorem removal_conforms {α : Type} {a : Action (List α)} {listing : Nat → List α → Event}
    {selects : α → Bool} {chosen : α → Prop} [DecidablePred chosen] {deletion : α → Operation}
    {label : α → String} (selects_iff : ∀ x, selects x = true ↔ chosen x)
    (lists : Conforms Call.Vital a fun events listed => ∃ time, events = [listing time listed]) :
    Conforms Call.Vital (do
      let listed ← a
      let removed ← Action.sweep deletion (listed.filter selects)
      return removed.map label) (Removal listing chosen deletion label) := by
  obtain rfl := eq_decide_of_iff selects_iff
  refine lists.bind fun listed => .bind_pure (Conforms.sweep.mono ?_)
  rintro deletions removed swept _ ⟨time, rfl⟩
  exact ⟨time, listed, deletions, removed, rfl, swept, rfl⟩

variable {session : Session}

theorem Users.remove_conforms : Conforms Call.Vital (remove c session) (UsersRemoved c session) :=
  removal_conforms (fun _ => isConfigured_iff)
    (.operate (.listUsers session) fun time _ => ⟨time, rfl⟩)

theorem Roles.remove_conforms : Conforms Call.Vital (remove c session) (RolesRemoved c session) :=
  removal_conforms (fun _ => isConfigured_iff)
    (.operate (.listRoles session) fun time _ => ⟨time, rfl⟩)

namespace Tenants

theorem remove_eq (c : Config) : remove c = do
    let listed ← Action.operate "listing tenants" .listTenants
    let removed ← Action.sweep (fun (t : Tenant) => .deleteTenant t.id)
      (listed.filter (c.hasTenant ·.name))
    return removed.map (·.name) := by
  simp only [remove, existing, configured, bind_assoc, pure_bind]

theorem remove_conforms : Conforms Call.Vital (remove c) (TenantsRemoved c) := by
  rw [remove_eq]
  exact removal_conforms (fun _ => Config.hasTenant_iff)
    (.operate .listTenants fun time _ => ⟨time, rfl⟩)

theorem existing_conforms : Conforms Call.Vital (existing c) fun events tenants => ∃ time listed,
    events = [⟨time, .platform .listTenants, .ok listed⟩] ∧
      tenants = listed.filter (·.name ∈ c.tenants) :=
  .bind_pure (.operate .listTenants fun time listed => ⟨time, listed, rfl, configured_eq c listed⟩)

theorem disentitle_conforms : Conforms Call.Vital (disentitle c) (Disentitled c) := by
  refine existing_conforms.bind fun tenants => (Conforms.each
    (S := fun t events name => name = t.name ∧ EntitlementRemoved c t events) fun t _ => ?_).mono ?_
  · exact .bind_pure (.forEntity (.operate (.deleteEntitlement _) fun time _ => ⟨rfl, time, rfl⟩))
  · rintro removals names inTurn _ ⟨time, listed, rfl, rfl⟩
    exact ⟨time, listed, removals, rfl, inTurn⟩

end Tenants

namespace Application

theorem removeAll_eq : removeAll = do
    let listed ← Action.operate "listing applications" .listApplications
    let removed ← Action.sweep (fun (a : ApplicationSummary) => .deleteApplication a.id)
      (listed.filter fun _ => true)
    return removed.map (·.id) := by
  simp only [removeAll, List.filter_true]

theorem removeAll_conforms : Conforms Call.Vital removeAll ApplicationsRemoved := by
  rw [removeAll_eq]
  exact removal_conforms (fun _ => iff_of_true rfl trivial)
    (.operate .listApplications fun time _ => ⟨time, rfl⟩)

end Application

namespace Pipeline

variable {p : Pipeline} {tenant : String}

theorem inSession_conforms {α : Type} {stage : Stage} {work : Session → Action α}
    {S : Session → List Event → α → Prop}
    (works : ∀ session, Conforms Call.Vital (work session) (S session)) :
    Conforms Call.Vital (inSession stage tenant work) (Admitted tenant S) := by
  have opens : Conforms Call.Vital (session tenant) fun events session => ∃ time token,
      events = [⟨time, .accessToken tenant, .ok token⟩] ∧ session = ⟨tenant, token⟩ :=
    .bind_pure (.reply (.token tenant) fun time token => ⟨time, token, rfl, rfl⟩)
  refine .inStage (opens.bind fun session => (works session).mono ?_)
  rintro rest x hwork _ ⟨time, token, rfl, rfl⟩
  exact ⟨time, token, rest, rfl, hwork⟩

theorem teardownTenant_conforms :
    Conforms Call.Vital (p.teardownTenant tenant) (TenantEmptied p.config tenant) := by
  refine .bind (inSession_conforms fun _ => Users.remove_conforms) fun users => .bind_pure
    ((inSession_conforms fun _ => Roles.remove_conforms).mono ?_)
  exact fun second roles hroles first husers => ⟨first, second, rfl, husers, hroles⟩

theorem existingTenants_conforms : Conforms Call.Vital p.existingTenants fun events names =>
    ∃ time listed, events = [⟨time, .platform .listTenants, .ok listed⟩] ∧
      names = (listed.filter (·.name ∈ p.config.tenants)).map (·.name) := by
  refine .inStage (.bind_pure (Tenants.existing_conforms.mono ?_))
  rintro _ _ ⟨time, listed, rfl, rfl⟩
  exact ⟨time, listed, rfl, rfl⟩

theorem teardown_conforms : Conforms Call.Vital p.teardown (Dismantled p.config) := by
  refine existingTenants_conforms.bind fun existing =>
    (Conforms.each fun t _ => teardownTenant_conforms).bind fun removed =>
      .bind (.inStage Tenants.disentitle_conforms) fun entitlements =>
        .bind (.inStage Tenants.remove_conforms) fun tenants =>
          .bind (.inStage Application.removeAll_conforms) fun applications => .pure ?_
  rintro fourth happlications third htenants second hentitlements first hremoved _
    ⟨time, listed, rfl, rfl⟩
  exact ⟨time, listed, first, removed, second, third, fourth, by simp, hremoved, rfl, rfl,
    hentitlements, htenants, happlications⟩

/-- What is seen of a teardown is proper and in order, but for a vital call that ends it. -/
structure Proceeding (done last : List Event) (value : Except StageFailure TeardownReport) :
    Prop where
  proper : ∀ e ∈ done, ∃ phase, e.InPhase phase
  ordered : ((done ++ last).filterMap (·.call.phase?)).Pairwise (· ≤ ·)
  ends : last = [] ∨ ∃ e, last = [e] ∧ e.call.Vital ∧ ∃ failure, value = .error failure

theorem teardown_proceeds {events : List Event} {value : Except StageFailure TeardownReport}
    (hy : p.teardown.run.Yields events value) :
    ∃ done last, events = done ++ last ∧ Proceeding done last value := by
  cases value with
  | ok report =>
      have phased := (teardown_conforms.shows hy).phased
      refine ⟨events, [], by simp, fun e he => ?_, by simpa using phased.ordered, .inl rfl⟩
      obtain ⟨phase, -, hphase⟩ := phased.proper e he
      exact ⟨phase, hphase⟩
  | error failure =>
      obtain ⟨before, time, c, f, rfl, hvital, answer, after, report, complete⟩ :=
        teardown_conforms.breaks hy
      have phased := complete.phased
      refine ⟨before, _, rfl, fun e he => ?_, ?_, .inr ⟨_, rfl, hvital, failure, rfl⟩⟩
      · obtain ⟨phase, -, hphase⟩ := phased.proper e (List.mem_append_left _ he)
        exact ⟨phase, hphase⟩
      · refine phased.ordered.sublist ?_
        -- the phase of a call does not depend on what came back
        rw [show (before ++ [(⟨time, c, .error f⟩ : Event)]).filterMap (·.call.phase?) =
            (before ++ [(⟨time, c, .ok answer⟩ : Event)]).filterMap (·.call.phase?) by
          rw [List.filterMap_append, List.filterMap_append]
          rfl]
        exact List.Sublist.filterMap _ (by simp)

namespace Proceeding

variable {done last : List Event} {value : Except StageFailure TeardownReport}

theorem answered (h : Proceeding done last value) {e : Event} (he : e ∈ done)
    (hvital : e.call.Vital) : ∃ x, e.reply = .ok x := by
  obtain ⟨phase, ⟨-, hok⟩ | hexpendable, -⟩ := h.proper e he
  · exact hok
  · exact absurd hexpendable hvital.not_expendable

theorem vital_last (h : Proceeding done last value) {before after : List Event} {e : Event}
    (hsplit : done ++ last = before ++ e :: after) (hvital : e.call.Vital)
    (hfailed : ∃ f, e.reply = .error f) : after = [] ∧ ∃ failure, value = .error failure := by
  have notDone : e ∉ done := by
    intro he
    obtain ⟨x, hok⟩ := h.answered he hvital
    obtain ⟨f, hfailed⟩ := hfailed
    cases hok.symm.trans hfailed
  obtain rfl | ⟨final, rfl, -, hvalue⟩ := h.ends
  · exact absurd (by simp_all) notDone
  · obtain rfl | ⟨others, final', rfl⟩ := after.eq_nil_or_concat
    · exact ⟨rfl, hvalue⟩
    · rw [List.concat_eq_append, ← List.cons_append, ← List.append_assoc] at hsplit
      have hbefore := (List.append_inj' hsplit rfl).1
      exact absurd (by simp [hbefore]) notDone

theorem deletes (h : Proceeding done last value) {e : Event} (he : e ∈ done ++ last)
    {op : Operation} (hop : e.call = .platform op) (mutation : op.isMutation = true) :
    ∃ phase, e.call.phase? = some phase := by
  rcases List.mem_append.1 he with he | he
  · obtain ⟨phase, ⟨hvital, -⟩ | hexpendable, -⟩ := h.proper e he
    · exact hvital.phase_of_mutation hop mutation
    · exact hexpendable.phase
  · obtain rfl | ⟨final, rfl, hvital, -⟩ := h.ends
    · cases he
    · rw [List.mem_singleton.1 he] at hop ⊢
      exact hvital.phase_of_mutation hop mutation

theorem entitlements_first (h : Proceeding done last value) {e e' : Event}
    (he : e ∈ done ++ last) {phase : Nat} (hphase : e.call.phase? = some phase) (hle : 2 ≤ phase)
    (he' : e' ∈ done ++ last) (hfirst : e'.call.phase? = some 1) : ∃ x, e'.reply = .ok x := by
  rcases List.mem_append.1 he' with he' | he'
  · exact h.answered he' (Call.vital_of_phase hfirst)
  -- a removal of an entitlement that is the last call comes after no later phase
  · exfalso
    obtain rfl | ⟨final, rfl, -⟩ := h.ends
    · cases he'
    · obtain rfl := List.mem_singleton.1 he'
      rcases List.mem_append.1 he with he | he
      · have ordered := h.ordered
        rw [List.filterMap_append, List.pairwise_append] at ordered
        have := ordered.2.2 phase (List.mem_filterMap.2 ⟨e, he, hphase⟩) 1 (by simp [hfirst])
        omega
      · rw [List.mem_singleton.1 he, hfirst] at hphase
        cases hphase
        omega

end Proceeding

structure TornDown (c : Config) (events : List Event)
    (value : Except StageFailure TeardownReport) : Prop where
  /-- A teardown that succeeds goes through all that is to be done, as its report tells. -/
  complete : ∀ report, value = .ok report → Dismantled c events report
  /-- A teardown that fails goes through a beginning of that, up to a vital call that failed. -/
  broken_off : ∀ failure, value = .error failure → BrokenOff Call.Vital (Dismantled c) events
  /-- A vital call that failed is the last, and there is no report. -/
  vital_last : ∀ before e after, events = before ++ e :: after → e.call.Vital →
    (∃ f, e.reply = .error f) → after = [] ∧ ∃ failure, value = .error failure
  /-- All mutations are deletions. -/
  deletes : ∀ e ∈ events, ∀ op, e.call = .platform op → op.isMutation = true →
    ∃ phase, e.call.phase? = some phase
  /-- The deletions are in the order of their phases. -/
  ordered : (events.filterMap (·.call.phase?)).Pairwise (· ≤ ·)
  /-- If a tenant or an application is deleted, every removal of an entitlement has succeeded. -/
  entitlements_first : ∀ e ∈ events, (∃ phase, e.call.phase? = some phase ∧ 2 ≤ phase) →
    ∀ e' ∈ events, e'.call.phase? = some 1 → ∃ x, e'.reply = .ok x

/-- Whatever the surroundings answer, a teardown deletes in its order, tolerates the deletions that
may fail, and stops at the first vital call that does. -/
theorem teardown_order {σ : Type} (p : Pipeline) (surroundings : Surroundings σ) (state : σ)
    (clock : Nat) :
    let r := p.teardown.run.run surroundings state clock
    TornDown p.config r.events r.value := by
  intro r
  have hy : p.teardown.run.Yields r.events r.value := Procedure.yields_run ..
  obtain ⟨done, last, hevents, proceeding⟩ := teardown_proceeds hy
  exact {
    complete := fun report h => teardown_conforms.shows (h ▸ hy)
    broken_off := fun failure h => teardown_conforms.breaks (h ▸ hy)
    vital_last := fun before e after hsplit =>
      proceeding.vital_last (hevents.symm.trans hsplit)
    deletes := fun e he op => proceeding.deletes (hevents ▸ he)
    ordered := hevents ▸ proceeding.ordered
    entitlements_first := fun e he ⟨phase, hphase, hle⟩ e' he' =>
      proceeding.entitlements_first (hevents ▸ he) hphase hle (hevents ▸ he') }

end Pipeline

end Rollout
