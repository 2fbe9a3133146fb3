import Mathlib.Data.List.Nodup
import Rollout.Proofs.Config.Belonging
import Rollout.Proofs.Hosted.Deletion
import Rollout.Proofs.Rehearsal.Fresh

/-!
# Creating roles and removing them again

Roles are created under names made from their keys, and removed by their names: a name is
lower-cased and looked up among the keys. So a role is removed exactly if its name leads back to a
key that is configured for its tenant, be it its own or another. For a key in small letters that is
usually so; it is not for `Admin`, which is no small form of a name, nor for `ß`, whose capital is
`SS`.
-/

namespace Rollout

open Function (update)

namespace Roles

variable {σ : Type} {surroundings : Surroundings σ} {host : Host surroundings} {m : Memory}
  {mayFail : Prop} {k : Content} {c : Config} {session : Session}

theorem create_ends (shows : m.Shows k []) (fresh : k.roles session.tenant = []) :
    host.Ends (create c session) m mayFail fun names m' => names = namesOf c session.tenant ∧
      m'.Shows ((Collection.roles session).put k (created (c.rolesOf session.tenant))) [] := by
  refine .each (I := fun (done : List (String × RoleSettings)) (names : List String) m' =>
    names = (done.map fun entry => platformName entry.1) ∧
      m'.Shows ((Collection.roles session).put k (created done)) []) ?_ ?_
  · rw [show created [] = (Collection.roles session).get k from fresh.symm, Collection.put_get]
    exact ⟨rfl, shows⟩
  · rintro done names entry rest - m' ⟨rfl, shows'⟩
    refine .bind (.forEntity (.mutate shows' rfl rfl (by simp))) fun _ m'' hm'' => .pure ?_
    obtain ⟨-, rfl⟩ := hm''
    refine ⟨by simp, ?_⟩
    have after := shows'.after (.createRole session (platformName entry.1) defaultDescription)
    simpa [Content.change, Collection.roles, created_concat, length_created] using after

theorem remove_ends (shows : m.Shows k []) :
    host.Ends (remove c session) m mayFail fun names m' =>
      let configured := (k.roles session.tenant).filter (isConfigured c session.tenant)
      names = configured.map (·.name) ∧
        m'.Shows ((Collection.roles session).without k (configured.map (·.id))) [] := by
  refine .bind (.read shows rfl rfl (by simp)) fun roles m' hm' => ?_
  obtain ⟨rfl, rfl⟩ := hm'
  refine .bind ((Collection.roles session).sweep_ends shows (by simp) _) fun removed m' hm' => ?_
  obtain ⟨rfl, shows'⟩ := hm'
  exact .pure ⟨rfl, shows'⟩

/-- The ids of roles that are created tell how many roles there were. -/
theorem newRoleId_injective : Function.Injective Memory.newRoleId := by
  intro count count' h
  rw [Memory.newRoleId, Memory.newRoleId, String.append_right_inj, Nat.toString_eq_ofList_toDigits,
    Nat.toString_eq_ofList_toDigits, String.ofList_inj] at h
  have numbers := congrArg (Nat.ofDigitChars 10 · 0) h
  simpa [Nat.ofDigitChars_ten_toDigits] using numbers

/-- The roles that are created bear different ids. -/
theorem nodup_ids_created (entries : List (String × RoleSettings)) :
    ((created entries).map (·.id)).Nodup := by
  have ids : (created entries).map (·.id) = (List.range entries.length).map Memory.newRoleId := by
    apply List.ext_getElem
    · simp [created]
    · simp [created]
  rw [ids]
  exact (List.nodup_range ..).map newRoleId_injective

/-- Of roles with different ids, those without the id of a role that passes a test are those that do
not pass it. -/
theorem filter_notMem_ids {roles : List Role} (nodup : (roles.map (·.id)).Nodup)
    (test : Role → Bool) :
    roles.filter (·.id ∉ (roles.filter test).map (·.id)) = roles.filter (! test ·) := by
  refine List.filter_congr fun role hrole => ?_
  have own : role.id ∈ (roles.filter test).map (·.id) ↔ test role = true := by
    constructor
    · intro h
      obtain ⟨other, hother, hid⟩ := List.mem_map.1 h
      obtain ⟨hmem, htest⟩ := List.mem_filter.1 hother
      rwa [← List.inj_on_of_nodup_map nodup hmem hrole hid]
    · intro h
      exact List.mem_map_of_mem (List.mem_filter.2 ⟨hrole, h⟩)
  simp [own]

/-- Whether a name leads back to a key that is configured for a tenant. -/
def leadsBack (c : Config) (tenant name : String) : Bool :=
  match c.roles.get? (Text.lowered name) with
  | some settings => settings.tenant = tenant
  | none => false

theorem leadsBack_iff {tenant name : String} :
    leadsBack c tenant name = true ↔ c.RoleIn (Text.lowered name) tenant := by
  cases h : c.roles.get? (Text.lowered name) <;> simp [leadsBack, Config.RoleIn, h]

theorem isConfigured_eq (tenant : String) :
    isConfigured c tenant = fun role => leadsBack c tenant role.name := by
  funext role
  cases h : c.roles.get? (Text.lowered role.name) <;>
    simp [isConfigured, Config.roleFor?, leadsBack, h]

theorem map_name_filter_created (entries : List (String × RoleSettings)) (test : String → Bool) :
    ((created entries).filter (test ·.name)).map (·.name) =
      (entries.map fun entry => platformName entry.1).filter test := by
  rw [← map_name_created, List.filter_map]
  rfl

/-- Of the roles that were created, those whose names lead back are removed. -/
theorem remove_created_ends {entries : List (String × RoleSettings)} (shows : m.Shows k [])
    (had : k.roles session.tenant = created entries) :
    host.Ends (remove c session) m mayFail fun names m' =>
      names = (entries.map fun entry => platformName entry.1).filter
        (leadsBack c session.tenant) ∧
      m'.Shows ((Collection.roles session).put k
        ((created entries).filter (! leadsBack c session.tenant ·.name))) [] := by
  refine (remove_ends shows).weaken ?_
  rw [had, isConfigured_eq]
  rintro names m' ⟨rfl, shows'⟩
  refine ⟨map_name_filter_created entries _, ?_⟩
  rw [← filter_notMem_ids (nodup_ids_created entries)]
  rwa [Collection.without, show (Collection.roles session).get k = _ from had] at shows'

/-- Where nothing fails and a tenant has no roles, its configured roles are created, and of these
exactly the ones whose names lead back to a key of the tenant are removed again, in the same order.
The others stay. So all that were created are gone if and only if every name leads back. -/
theorem remove_create (host : Host surroundings) (state : σ) (clock : Nat) (tenant : String)
    (token token' : String) (working : (host.memory state).failing = [])
    (fresh : (host.memory state).content.roles tenant = []) :
    let made := (create c ⟨tenant, token⟩).run.run surroundings state clock
    let gone := (remove c ⟨tenant, token'⟩).run.run surroundings made.state made.clock
    let left := (host.memory gone.state).content.roles tenant
    let names := namesOf c tenant
    made.value = .ok names ∧
      gone.value = .ok (names.filter (leadsBack c tenant)) ∧
      left.map (·.name) = names.filter (! leadsBack c tenant ·) ∧
      ((gone.value = made.value ∧ left = []) ↔
        ∀ entry ∈ c.rolesOf tenant, c.RoleIn (Text.lowered (platformName entry.1)) tenant) := by
  intro made gone left names
  have creating : host.Ends (create c ⟨tenant, token⟩) (host.memory state) False _ :=
    create_ends ⟨rfl, working⟩ fresh
  obtain ⟨_, hmade, rfl, shows⟩ := creating.outcome clock rfl
  have removing : host.Ends (remove c ⟨tenant, token'⟩) (host.memory made.state) False _ :=
    remove_created_ends shows ((Collection.roles ⟨tenant, token⟩).get_put _ _)
  obtain ⟨_, hgone, rfl, shows'⟩ := removing.outcome made.clock rfl
  have left_eq : left.map (·.name) = names.filter (! leadsBack c tenant ·) := by
    have hleft := congrArg (Collection.roles ⟨tenant, token'⟩).get shows'.content
    rw [Collection.get_put] at hleft
    exact (congrArg _ hleft).trans (map_name_filter_created _ (! leadsBack c tenant ·))
  refine ⟨hmade, hgone, left_eq, ?_⟩
  have all : (∀ entry ∈ c.rolesOf tenant, c.RoleIn (Text.lowered (platformName entry.1)) tenant) ↔
      ∀ name ∈ names, leadsBack c tenant name = true := by
    simp only [names, namesOf, Config.rolesOf, List.forall_mem_map, leadsBack_iff]
  rw [all, hgone, hmade]
  constructor
  · rintro ⟨h, -⟩
    exact List.filter_eq_self.1 (Except.ok.inj h)
  · intro h
    have unnamed : left.map (·.name) = [] := by
      rw [left_eq]
      exact List.filter_eq_nil_iff.2 fun name hname => by simp [h name hname]
    exact ⟨congrArg Except.ok (List.filter_eq_self.2 h), List.map_eq_nil_iff.1 unnamed⟩

/-- The role of the sample is gone after its removal. -/
theorem remove_create_sample :
    let surroundings := Scripted.surroundings Pipeline.calm
    let made := (create Config.sample ⟨"north", "t"⟩).run.run surroundings Pipeline.bare 0
    let gone := (remove Config.sample ⟨"north", "t"⟩).run.run surroundings made.state made.clock
    Pipeline.bare.memory.failing = [] ∧ Pipeline.bare.memory.content.roles "north" = [] ∧
      gone.value = made.value ∧ gone.state.memory.content.roles "north" = [] := by
  have back : ∀ entry ∈ Config.sample.rolesOf "north",
      leadsBack Config.sample "north" (platformName entry.1) = true := by decide +kernel
  have removed := remove_create (c := Config.sample) (Scripted.host Pipeline.calm) Pipeline.bare 0
    "north" "t" "t" rfl rfl
  exact ⟨rfl, rfl, removed.2.2.2.2 fun entry h => leadsBack_iff.1 (back entry h)⟩

/-- A tenant with three roles: one key has a capital, one has a letter whose capital is two. -/
def threeKeys : Config where
  __ := Config.sample
  roles := .ofList [("Admin", ⟨"north", []⟩), ("reader", ⟨"north", []⟩), ("ß", ⟨"north", []⟩)]

/-- Two of the three roles stay. -/
theorem remove_create_threeKeys : threeKeys.Accepted ∧ "north" ∈ threeKeys.tenants ∧
    let surroundings := Scripted.surroundings Pipeline.calm
    let made := (create threeKeys ⟨"north", "t"⟩).run.run surroundings Pipeline.bare 0
    let gone := (remove threeKeys ⟨"north", "t"⟩).run.run surroundings made.state made.clock
    made.value = .ok ["Admin", "Reader", "SS"] ∧ gone.value = .ok ["Reader"] ∧
      (gone.state.memory.content.roles "north").map (·.name) = ["Admin", "SS"] := by
  refine ⟨Config.fault?_eq_none_iff.1 ?_, by decide, ?_⟩
  · decide
  · decide +kernel

end Roles

end Rollout
