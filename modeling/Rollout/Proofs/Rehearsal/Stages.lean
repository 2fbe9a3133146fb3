import Rollout.Proofs.Application.Plan
import Rollout.Proofs.Health.Gate
import Rollout.Proofs.Lag.Wait
import Rollout.Proofs.Rehearsal.Roles

/-!
# The stages in a rehearsal

What the other stages need of the platform and of the script, and what they leave: the application
is assembled from what the registries list, the tenants are created and entitled in the order of
their names, and each barrier opens at the poll that shows nothing left to consume.
-/

namespace Rollout

open Function (update)
open Scripted (Script Situation Succeeds Fails)

variable {c : Config} {script : Script} {s : Situation}

namespace Lag

variable {group tenant : String}

/-- The backlog of a tenant is seen to be consumed at a poll, after a number of others that show
something left or carry no news. -/
def Drains (script : Script) (group tenant : String) (start : Nat) : (others : Nat) → Prop
  | 0 => ∃ output, script.poll start = .ok output ∧ readLag output group tenant = .ok (.lag 0)
  | others + 1 =>
      (∃ output r, script.poll start = .ok output ∧ readLag output group tenant = .ok r ∧
        r ≠ .lag 0) ∧ Drains script group tenant (start + 1) others

/-- The backlog of one tenant after the other is consumed, each within a number of polls. -/
def DrainsInTurn (script : Script) (group : String) (attempts start : Nat) : List String → Prop
  | [] => True
  | tenant :: rest => ∃ others < attempts, Drains script group tenant start others ∧
      DrainsInTurn script group attempts (start + others + 1) rest

theorem pollOn_succeeds {policy : LagPolicy} {b : Barrier} {made left others : Nat}
    {last : Option Nat} (polling : b.state = .polling last) (enough : others < left)
    (drains : Drains script b.group b.tenant s.polled others) :
    Succeeds script (pollOn policy b made left) s fun _ s' =>
      s' = { s with polled := s.polled + others + 1 } := by
  induction others generalizing b made left last s with
  | zero =>
      obtain ⟨left, rfl⟩ := Nat.exists_eq_succ_of_ne_zero (Nat.ne_of_gt enough)
      obtain ⟨output, hpoll, hread⟩ := drains
      refine .bind (.poll hpoll) fun _ s₁ hs₁ => ?_
      obtain ⟨rfl, rfl⟩ := hs₁
      refine .bind (Q := fun b' s' => b' = b.note (.lag 0) ∧
        s' = { s with polled := s.polled + 1 })
        (.ofExcept (Barrier.observe_eq polling hread) ⟨rfl, rfl⟩) fun _ s₂ hs₂ => ?_
      obtain ⟨rfl, rfl⟩ := hs₂
      exact .pure rfl
  | succ others ih =>
      obtain ⟨left, rfl⟩ := Nat.exists_eq_succ_of_ne_zero (Nat.ne_of_gt (Nat.zero_lt_of_lt enough))
      obtain ⟨⟨output, r, hpoll, hread, hr⟩, hrest⟩ := drains
      obtain ⟨last', hlast'⟩ := Barrier.note_polling polling hr
      refine .bind (.poll hpoll) fun _ s₁ hs₁ => ?_
      obtain ⟨rfl, rfl⟩ := hs₁
      refine .bind (Q := fun b' s' => b' = b.note r ∧ s' = { s with polled := s.polled + 1 })
        (.ofExcept (Barrier.observe_eq polling hread) ⟨rfl, rfl⟩) fun _ s₂ hs₂ => ?_
      obtain ⟨rfl, rfl⟩ := hs₂
      have rest : Succeeds script (pollOn policy (b.note r) (made + 1) left)
          { s with polled := s.polled + 1 }
          fun _ s' => s' = { s with polled := s.polled + (others + 1) + 1 } := by
        refine .weaken (ih hlast' (Nat.lt_of_succ_lt_succ enough) ?_) fun _ s' hs' => ?_
        · rw [Barrier.note_group, Barrier.note_tenant]
          exact hrest
        · rw [hs', Nat.add_right_comm s.polled 1 others, Nat.add_assoc s.polled others 1]
      simp only [hlast']
      split
      · refine .bind (.pause (Q := fun _ s' => s' = { s with polled := s.polled + 1 }) rfl)
          fun _ s₃ hs₃ => ?_
        subst hs₃
        exact rest
      · exact rest

theorem waitForDrain_succeeds {policy : LagPolicy} {others : Nat}
    (enough : others < policy.maxAttempts) (drains : Drains script group tenant s.polled others) :
    Succeeds script (waitForDrain group tenant policy) s fun _ s' =>
      s' = { s with polled := s.polled + others + 1 } := by
  refine .bind (.pause (Q := fun _ s' => s' = s) rfl) fun _ s' hs' => ?_
  subst hs'
  exact pollOn_succeeds rfl enough drains

end Lag

namespace Application

def listings (c : Config) (k : Content) : List (List RegistryModule) :=
  c.registries.entries.map fun entry => k.registries entry.2

theorem describe_succeeds {registry : String} {planned : PlannedModule}
    (h : c.application.fetchDescriptors = true →
      (s.content.descriptors (descriptorUrl registry planned.module.id)).isSome = true) :
    Succeeds script (describe c registry planned) s fun _ s' => s' = s := by
  rw [describe]
  split
  next hfetch =>
    obtain ⟨descriptor, hdescriptor⟩ := Option.isSome_iff_exists.1 (h hfetch)
    have hanswer : s.content.answer (.moduleDescriptor (descriptorUrl registry planned.module.id)) =
        .ok descriptor := by simp [Content.answer, hdescriptor]
    exact .bind (.forEntity (.read rfl hanswer)) fun _ _ hs' => .pure hs'.2
  next => exact .pure rfl

/-- All that is needed to assemble an application is there: the registry of the descriptors, ids
that can be read, and the descriptors of the planned modules if they are to be fetched. -/
structure Assemblable (c : Config) (k : Content) (registry : String) : Prop where
  served : c.descriptorRegistryUrl? = some registry
  readable : ∀ listing ∈ listings c k, ∀ m ∈ listing, ∃ r, ModuleRef.resolve m.id = .ok r
  described : c.application.fetchDescriptors = true →
    ∀ planned, plan c (listings c k) = .ok planned →
      ∀ m ∈ planned, (k.descriptors (descriptorUrl registry m.module.id)).isSome = true

theorem assemble_succeeds {registry : String} (h : Assemblable c s.content registry) :
    Succeeds script (assemble c) s fun d s' =>
      (d.id = c.applicationId ∧ d.name = c.application.name ∧
        d.version = c.application.version) ∧ s' = s := by
  obtain ⟨planned, hplanned⟩ : ∃ planned, plan c (listings c s.content) = .ok planned := by
    refine ⟨_, planFrom_of_wellFormed fun id hid => ?_⟩
    obtain ⟨m, hm, rfl⟩ := List.mem_map.1 hid
    obtain ⟨listing, hlisting, hm⟩ := List.mem_flatten.1 hm
    exact ModuleRef.exists_resolve_iff.1 (h.readable listing hlisting m hm)
  have hregistry : descriptorRegistry c = .ok registry := by
    rw [descriptorRegistry, h.served]
  refine .bind (Q := fun x s' => x = registry ∧ s' = s) (.ofExcept hregistry ⟨rfl, rfl⟩)
    fun _ s₁ hs₁ => ?_
  obtain ⟨rfl, rfl⟩ := hs₁
  refine .bind (.each_reads fun entry _ => .read rfl rfl) fun _ s₂ hs₂ => ?_
  obtain ⟨rfl, rfl⟩ := hs₂
  refine .bind (Q := fun x s' => x = planned ∧ s' = s₂) (.ofExcept hplanned ⟨rfl, rfl⟩)
    fun _ s₃ hs₃ => ?_
  obtain ⟨rfl, rfl⟩ := hs₃
  refine .bind (.each_still fun m hm => describe_succeeds fun hfetch =>
    h.described hfetch _ hplanned m hm) fun modules s₄ hs₄ => .pure ?_
  exact ⟨⟨rfl, rfl, rfl⟩, hs₄⟩

theorem create_succeeds (d : ApplicationDescriptor) :
    Succeeds script (create d) s fun _ s' => s' = { s with
      content.applications := s.content.applications ++ [⟨d.id, d.name, d.version⟩] } := by
  refine .bind (.mutate rfl rfl) fun _ s₁ hs₁ => ?_
  obtain ⟨-, rfl⟩ := hs₁
  dsimp only
  split
  · refine .bind (.mutate rfl rfl) fun _ s₂ hs₂ => .pure ?_
    rw [hs₂.2]
    rfl
  · exact .pure rfl

end Application

namespace Tenants

def created (names : List String) : List Tenant :=
  names.map fun name => ⟨Memory.newTenantId name, name, some defaultDescription⟩

theorem create_succeeds :
    Succeeds script (create c) s fun _ s' => s' = { s with
      content.tenants := s.content.tenants ++ created c.tenants.toList } := by
  refine .weaken (.each (I := fun done (_ : List String) s' => s' = { s with
    content.tenants := s.content.tenants ++ created done }) ?_ ?_) fun _ _ h => h
  · simp [created]
  · rintro done names name rest - s' rfl
    refine .bind (.forEntity (.mutate rfl rfl)) fun _ s' hs' => .pure ?_
    rw [hs'.2]
    simp [Content.change, created]

theorem entitle_succeeds :
    Succeeds script (entitle c) s fun names s' =>
      names = (configured c s.content.tenants).map (·.name) ∧ s' = s := by
  have existing : Succeeds script (existing c) s fun tenants s' =>
      tenants = configured c s.content.tenants ∧ s' = s := by
    refine .bind (.read rfl rfl) fun _ _ hs' => .pure ?_
    exact ⟨by rw [hs'.1], hs'.2⟩
  refine existing.bind fun _ s₁ hs₁ => ?_
  obtain ⟨rfl, rfl⟩ := hs₁
  refine .each_reads fun t _ => .bind (.forEntity (.mutate rfl rfl)) fun _ s₂ hs₂ => .pure ?_
  exact ⟨rfl, hs₂.2⟩

/-- If no tenant that was there bears a configured name, those that are configured are the created
ones. -/
theorem configured_append {tenants : List Tenant} (h : ∀ t ∈ tenants, t.name ∉ c.tenants) :
    configured c (tenants ++ created c.tenants.toList) = created c.tenants.toList := by
  have others : configured c tenants = [] := by
    refine List.filter_eq_nil_iff.2 fun t ht => ?_
    simpa [Config.hasTenant, SortedSet.contains] using h t ht
  have own : configured c (created c.tenants.toList) = created c.tenants.toList := by
    refine List.filter_eq_self.2 fun t ht => ?_
    obtain ⟨name, hname, rfl⟩ := List.mem_map.1 ht
    exact decide_eq_true (p := name ∈ c.tenants) hname
  rw [configured, List.filter_append]
  rw [configured] at others own
  rw [others, own, List.nil_append]

theorem configured_append_created {tenants : List Tenant}
    (h : ∀ t ∈ tenants, t.name ∉ c.tenants) :
    (configured c (tenants ++ created c.tenants.toList)).map (·.name) = c.tenants.toList := by
  rw [configured_append h]
  simp [created, Function.comp_def]

end Tenants

end Rollout
