import Rollout.Proofs.Rehearsal.Stages

/-!
# Provisioning tenants in a rehearsal

For a tenant for which nothing is there yet and whose backlog will be consumed, all stages succeed
if the names of its roles are distinct, and the binding of its roles fails if they are not. The
tenants are provisioned one after the other; what was done for some leaves the others as they were.
-/

namespace Rollout

open Function (update)
open Scripted (Script Situation Succeeds Fails)

def Content.provisioned (c : Config) (tenants : List String) (k : Content) : Content :=
  { k with
    roles := fun t =>
      if t ∈ tenants then Roles.created (c.roles.entries.filter (·.2.tenant = t)) else k.roles t
    users := fun t =>
      if t ∈ tenants then
        (c.users.entries.filter (·.2.tenant = t)).map fun user =>
          ⟨Memory.newUserId user.1, user.1⟩
      else k.users t }

theorem Users.created_usersOf (c : Config) (t : String) :
    Users.created (c.usersOf t) = (c.users.entries.filter (·.2.tenant = t)).map fun user =>
      ⟨Memory.newUserId user.1, user.1⟩ :=
  List.map_map

theorem Content.provisioned_roles (c : Config) (k : Content) {tenants : List String} {t : String}
    (h : t ∈ tenants) : (k.provisioned c tenants).roles t = Roles.created (c.rolesOf t) :=
  if_pos h

theorem Content.provisioned_users (c : Config) (k : Content) {tenants : List String} {t : String}
    (h : t ∈ tenants) : (k.provisioned c tenants).users t = Users.created (c.usersOf t) := by
  rw [Users.created_usersOf]
  exact if_pos h

theorem Content.provisioned_nil (c : Config) (k : Content) : k.provisioned c [] = k := by
  simp [provisioned]

theorem Content.provisioned_concat (c : Config) (k : Content) (tenants : List String) (t : String) :
    k.provisioned c (tenants ++ [t]) =
      { k.provisioned c tenants with
        roles := update (k.provisioned c tenants).roles t (Roles.created (c.rolesOf t))
        users := update (k.provisioned c tenants).users t (Users.created (c.usersOf t)) } := by
  simp only [provisioned, Content.mk.injEq, true_and, Users.created_usersOf, Config.rolesOf]
  constructor
  · funext t'
    by_cases h : t' = t <;> simp [h]
  · funext t'
    by_cases h : t' = t <;> simp [h]

namespace Pipeline

variable {p : Pipeline} {script : Script} {s : Situation} {tenant token : String}

section Session

variable {α : Type} {stage : Stage} {work : Session → Action α}
  (hasToken : script.tokens.tokenFor tenant = .ok token)

include hasToken

theorem session_succeeds :
    Succeeds script (session tenant) s fun session s' => session = ⟨tenant, token⟩ ∧ s' = s := by
  refine .bind (.token hasToken) fun _ s' hs' => .pure ?_
  exact ⟨by rw [hs'.1], hs'.2⟩

theorem inSession_succeeds {Q : α → Situation → Prop}
    (h : Succeeds script (work ⟨tenant, token⟩) s Q) :
    Succeeds script (inSession stage tenant work) s Q := by
  refine .inStage (.bind (session_succeeds hasToken) fun _ s' hs' => ?_)
  obtain ⟨rfl, rfl⟩ := hs'
  exact h

theorem inSession_fails {E : StageFailure → Prop}
    (h : Fails script (work ⟨tenant, token⟩) s fun e => E (e.inStage stage (some tenant) none)) :
    Fails script (inSession stage tenant work) s E := by
  refine .inStage (.bind (session_succeeds hasToken) fun _ s' hs' => ?_)
  obtain ⟨rfl, rfl⟩ := hs'
  exact h

end Session

/-- Nothing is there yet for a tenant, and all that its stages wait for will be. -/
structure Awaited (p : Pipeline) (script : Script) (s : Situation) (tenant : String)
    (others : Nat) : Prop where
  roles : s.content.roles tenant = []
  users : s.content.users tenant = []
  token : ∃ token, script.tokens.tokenFor tenant = .ok token
  attempts : others < p.timings.lagMaxAttempts
  drains : Lag.Drains script p.config.capabilityGroup tenant s.polled others

theorem awaitCapabilitySets_succeeds {others : Nat} (h : Awaited p script s tenant others) :
    Succeeds script (p.awaitCapabilitySets tenant) s fun _ s' =>
      s' = { s with polled := s.polled + others + 1 } :=
  .inStage (Lag.waitForDrain_succeeds h.attempts h.drains)

/-- If the names of its roles are distinct, all stages for a tenant succeed. -/
theorem provisionTenant_succeeds {others : Nat} (h : Awaited p script s tenant others)
    (distinct : (Roles.namesOf p.config tenant).Nodup) :
    Succeeds script (p.provisionTenant tenant) s fun _ s' => s' = {
      content := { s.content with
        roles := update s.content.roles tenant (Roles.created (p.config.rolesOf tenant))
        users := update s.content.users tenant (Users.created (p.config.usersOf tenant)) }
      polled := s.polled + others + 1 } := by
  obtain ⟨token, htoken⟩ := h.token
  refine .bind (awaitCapabilitySets_succeeds h) fun _ s₁ hs₁ => ?_
  subst hs₁
  refine .bind (inSession_succeeds htoken (Roles.create_succeeds h.roles)) fun _ s₂ hs₂ => ?_
  have unambiguous : Roles.Unambiguous s₂ tenant :=
    Roles.unambiguous_of_nodup (by simp [hs₂]) distinct
  refine .bind (inSession_succeeds htoken (Roles.bind_succeeds unambiguous)) fun _ s₃ hs₃ => ?_
  subst hs₃
  have fresh : s₃.content.users tenant = [] := by
    rw [hs₂]
    exact h.users
  refine .bind (inSession_succeeds htoken (Users.create_succeeds fresh unambiguous))
    fun _ s₄ hs₄ => .pure ?_
  rw [hs₄, hs₂]

/-- The failure that tells of a name that several configured roles of a tenant bear. -/
def Collision (c : Config) (tenant : String) (failure : StageFailure) : Prop :=
  ∃ name, 1 < (Roles.namesOf c tenant).count name ∧
    failure = ⟨.capabilityBinding, some tenant, some (Roles.entity name),
      .ambiguousRole name ((Roles.namesOf c tenant).count name)⟩

/-- If two of its roles bear one name, the binding of the roles of a tenant fails. -/
theorem provisionTenant_fails {others : Nat} (h : Awaited p script s tenant others)
    (collision : ¬ (Roles.namesOf p.config tenant).Nodup) :
    Fails script (p.provisionTenant tenant) s (Collision p.config tenant) := by
  obtain ⟨token, htoken⟩ := h.token
  refine .bind (awaitCapabilitySets_succeeds h) fun _ s₁ hs₁ => ?_
  subst hs₁
  refine .bind (inSession_succeeds htoken (Roles.create_succeeds h.roles)) fun _ s₂ hs₂ => ?_
  refine .bind_first (inSession_fails htoken (.weaken
    (Roles.bind_fails (by simp [hs₂]) collision) ?_))
  rintro e ⟨name, hmany, rfl⟩
  exact ⟨name, hmany, rfl⟩

/-- What the tenants still to come find: nothing is there yet for them, there are tokens for them,
and their backlogs are consumed in turn. -/
structure Pending (p : Pipeline) (script : Script) (s : Situation) (tenants : List String) :
    Prop where
  roles : ∀ t ∈ tenants, s.content.roles t = []
  users : ∀ t ∈ tenants, s.content.users t = []
  tokens : ∀ t ∈ tenants, ∃ token, script.tokens.tokenFor t = .ok token
  drains : Lag.DrainsInTurn script p.config.capabilityGroup p.timings.lagMaxAttempts s.polled
    tenants

theorem Pending.head {rest : List String} (h : Pending p script s (tenant :: rest)) :
    ∃ others, Awaited p script s tenant others ∧
      Lag.DrainsInTurn script p.config.capabilityGroup p.timings.lagMaxAttempts
        (s.polled + others + 1) rest := by
  obtain ⟨others, hattempts, hdrains, hrest⟩ := h.drains
  exact ⟨others, ⟨h.roles tenant List.mem_cons_self, h.users tenant List.mem_cons_self,
    h.tokens tenant List.mem_cons_self, hattempts, hdrains⟩, hrest⟩

/-- Provisioning a tenant leaves the others pending. -/
theorem Pending.tail {rest : List String} {others : Nat} {roles : List Role}
    {users : List UserRecord} (h : Pending p script s (tenant :: rest)) (hnew : tenant ∉ rest)
    (drains : Lag.DrainsInTurn script p.config.capabilityGroup p.timings.lagMaxAttempts
      (s.polled + others + 1) rest) :
    Pending p script {
      content := { s.content with
        roles := update s.content.roles tenant roles
        users := update s.content.users tenant users }
      polled := s.polled + others + 1 } rest where
  roles t ht := by
    show update s.content.roles tenant roles t = []
    rw [Function.update_of_ne (ne_of_mem_of_not_mem ht hnew)]
    exact h.roles t (List.mem_cons_of_mem _ ht)
  users t ht := by
    show update s.content.users tenant users t = []
    rw [Function.update_of_ne (ne_of_mem_of_not_mem ht hnew)]
    exact h.users t (List.mem_cons_of_mem _ ht)
  tokens t ht := h.tokens t (List.mem_cons_of_mem _ ht)
  drains := drains

/-- Tenants with distinct names of roles are provisioned one after the other, and those after them
are still pending. -/
theorem provisionAll_succeeds {tenants after : List String} (nodup : (tenants ++ after).Nodup)
    (pending : Pending p script s (tenants ++ after))
    (distinct : ∀ t ∈ tenants, (Roles.namesOf p.config t).Nodup) :
    Succeeds script (each p.provisionTenant tenants) s fun _ s' =>
      s'.content = s.content.provisioned p.config tenants ∧ Pending p script s' after := by
  refine .weaken (.each (I := fun done (_ : List TenantReport) s' =>
    s'.content = s.content.provisioned p.config done ∧
      ∀ rest, tenants = done ++ rest → Pending p script s' (rest ++ after)) ?_ ?_)
    fun _ s' h => ⟨h.1, h.2 [] (by simp)⟩
  · exact ⟨(Content.provisioned_nil _ _).symm, fun rest hrest => by simpa [hrest] using pending⟩
  · rintro done reports t rest hsplit s' ⟨hcontent, hpending⟩
    have pending := hpending (t :: rest) hsplit
    obtain ⟨others, hawaited, hdrains⟩ := pending.head
    refine (provisionTenant_succeeds hawaited (distinct t (by simp [hsplit]))).weaken ?_
    rintro report s'' rfl
    refine ⟨?_, fun rest' hrest' => ?_⟩
    · rw [Content.provisioned_concat, ← hcontent]
    · obtain rfl : rest' = rest := by simpa [hsplit] using hrest'.symm
      have hnew : t ∉ rest' ++ after := by
        rw [hsplit, List.append_assoc, List.cons_append] at nodup
        exact (List.nodup_cons.1 (List.nodup_append.1 nodup).2.1).1
      exact pending.tail hnew hdrains

end Pipeline

end Rollout
