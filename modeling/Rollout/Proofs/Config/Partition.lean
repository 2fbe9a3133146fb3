import Mathlib.Data.List.Perm.Basic
import Rollout.Config.Decode
import Rollout.Proofs.Config.Belonging
import Rollout.Proofs.Hosted.Ends
import Rollout.Proofs.Procedure.Shows
import Rollout.Proofs.Rehearsal.Fresh

/-!
# Roles and users by tenant

An accepted configuration has no role and no user outside its tenants. So what belongs to the
tenants one after the other is all that there is, each once: nothing is dropped and nothing is
counted for two tenants. Where nothing fails, creating the roles of each tenant is therefore one
call for each role, whatever the order of the tenants.
-/

namespace Rollout

/-- Items grouped by keys that are all different, where each item has one of the keys, are the items
in some order. -/
theorem flatMap_filter_perm {α κ : Type} [DecidableEq κ] (key : α → κ) {keys : List κ}
    {items : List α} (different : keys.Nodup) (covered : ∀ x ∈ items, key x ∈ keys) :
    (keys.flatMap fun k => items.filter (key · = k)).Perm items := by
  induction keys generalizing items with
  | nil => simp [List.eq_nil_iff_forall_not_mem.2 fun x hx => List.not_mem_nil (covered x hx)]
  | cons k rest ih =>
      obtain ⟨fresh, different⟩ := List.nodup_cons.1 different
      -- the items of the other keys are still there once those of `k` are taken out
      have others : (rest.flatMap fun k' => items.filter (key · = k')) =
          rest.flatMap fun k' => (items.filter (! key · = k)).filter (key · = k') := by
        refine List.flatMap_congr fun k' hk' => ?_
        have apart : k' ≠ k := fun same => fresh (same ▸ hk')
        rw [List.filter_filter]
        refine List.filter_congr fun x _ => ?_
        by_cases hx : key x = k'
        · simp [hx, apart]
        · simp [hx]
      have remaining : ∀ x ∈ items.filter (! key · = k), key x ∈ rest := by
        intro x hx
        obtain ⟨hmem, other⟩ := List.mem_filter.1 hx
        exact (List.mem_cons.1 (covered x hmem)).resolve_left (by simpa using other)
      rw [List.flatMap_cons, others]
      exact ((ih different remaining).append_left _).trans (List.filter_append_perm _ items)

namespace Config

variable {c : Config}

theorem Accepted.rolesOf_perm (h : c.Accepted) :
    (c.tenants.toList.flatMap c.rolesOf).Perm c.roles.entries :=
  flatMap_filter_perm (fun entry : String × RoleSettings => entry.2.tenant)
    c.tenants.nodup_toList h.2.2.1

theorem Accepted.usersOf_perm (h : c.Accepted) :
    ∃ entries : List (String × UserSettings), entries.Perm c.users.entries ∧
      List.Forall₂ Describes entries (c.tenants.toList.flatMap c.usersOf) := by
  have grouped := flatMap_filter_perm (fun entry : String × UserSettings => entry.2.tenant)
    c.tenants.nodup_toList h.2.2.2
  refine ⟨_, grouped, ?_⟩
  rw [show c.tenants.toList.flatMap c.usersOf = _ from List.map_flatMap.symm,
    List.forall₂_map_right_iff]
  exact List.forall₂_same.2 fun entry _ => describes_userOf entry

theorem Accepted.none_of_unknown (h : c.Accepted) {name : String} (unknown : name ∉ c.tenants) :
    c.rolesOf name = [] ∧ c.usersOf name = [] := by
  constructor
  · exact List.eq_nil_iff_forall_not_mem.2 fun _ he => unknown (h.tenant_of_role he)
  · exact List.eq_nil_iff_forall_not_mem.2 fun _ hu => unknown (h.tenant_of_user hu)

end Config

namespace Roles

variable {σ : Type} {surroundings : Surroundings σ} {host : Host surroundings} {m : Memory}
  {c : Config}

def creation (session : Session) (entry : String × RoleSettings) : Call :=
  .platform (.createRole session (platformName entry.1) defaultDescription)

/-- Of the creation of roles that succeeds, one call is seen for each role. -/
theorem create_calls (session : Session) : Action.Shows (create c session) fun events _ =>
    events.map (·.call) = (c.rolesOf session.tenant).map (creation session) := by
  refine (Action.Shows.each (S := fun entry events _ =>
    events.map (·.call) = [creation session entry]) fun entry _ => ?_).mono ?_
  · exact .bind_pure (.forEntity (.operate fun _ _ => rfl))
  · intro events names h
    rw [h.map_eq_flatMap fun _ _ _ => id, List.map_eq_flatMap]

/-- Where nothing fails, the roles are created. -/
theorem create_works (session : Session) (working : m.failing = []) :
    host.Ends (create c session) m False fun names m' =>
      names = namesOf c session.tenant ∧ m'.failing = [] := by
  refine .each (I := fun (done : List (String × RoleSettings)) (names : List String) m' =>
    names = (done.map fun entry => platformName entry.1) ∧ m'.failing = []) ⟨rfl, working⟩ ?_
  rintro done names entry rest - m' ⟨rfl, working'⟩
  have shows : m'.Shows m'.content [] := ⟨rfl, working'⟩
  refine .bind (.forEntity (.mutate shows rfl rfl (by simp))) fun _ m'' hm'' => .pure ?_
  obtain ⟨-, rfl⟩ := hm''
  exact ⟨by simp, (shows.after _).failing⟩

/-- The calls that create the roles of the tenants are those for all the roles, each in the tenant
of its role. -/
theorem creations_perm (h : c.Accepted) (token : String → String) {order : List String}
    (tenants : order.Perm c.tenants.toList) :
    (order.flatMap fun t => (c.rolesOf t).map (creation ⟨t, token t⟩)).Perm
      (c.roles.entries.map fun entry =>
        creation ⟨entry.2.tenant, token entry.2.tenant⟩ entry) := by
  have own (t : String) : (c.rolesOf t).map (creation ⟨t, token t⟩) =
      (c.rolesOf t).map fun entry => creation ⟨entry.2.tenant, token entry.2.tenant⟩ entry := by
    refine List.map_congr_left fun entry he => ?_
    rw [c.tenant_of_mem_rolesOf he]
  simp only [own]
  refine (tenants.flatMap fun t _ => .refl _).trans ?_
  rw [← List.map_flatMap]
  exact h.rolesOf_perm.map _

end Roles

/-- The roles and the users of an accepted configuration are divided among its tenants: each role
and each user is found under its own, as it is configured, and none under any other name. Where
nothing fails, creating the roles of the tenants, in any order, is one call for each role, in the
tenant of that role. -/
theorem Config.divided_among_tenants {text : String} {c : Config}
    (read : Config.read text = .ok c) :
    (c.tenants.toList.flatMap c.rolesOf).Perm c.roles.entries ∧ c.roles.keys.Nodup ∧
    (∃ entries : List (String × UserSettings), entries.Perm c.users.entries ∧
      List.Forall₂ Describes entries (c.tenants.toList.flatMap c.usersOf)) ∧ c.users.keys.Nodup ∧
    (∀ name ∉ c.tenants, c.rolesOf name = [] ∧ c.usersOf name = []) ∧
    (∀ name, (∀ role ∈ c.rolesOf name, role.2.tenant = name) ∧
      ∀ user ∈ c.usersOf name, user.tenant = name) ∧
    ∀ {σ : Type} {surroundings : Surroundings σ} (host : Host surroundings) (state : σ)
      (clock : Nat) (token : String → String) (order : List String),
      (host.memory state).failing = [] → order.Perm c.tenants.toList →
        let run := (each (fun t => Roles.create c ⟨t, token t⟩) order).run.run
          surroundings state clock
        run.value = .ok (order.map (Roles.namesOf c)) ∧
          (run.events.map (·.call)).Perm (c.roles.entries.map fun entry =>
            .platform (.createRole ⟨entry.2.tenant, token entry.2.tenant⟩
              (Roles.platformName entry.1) defaultDescription)) := by
  have accepted := Config.accepted_of_read read
  refine ⟨accepted.rolesOf_perm, c.roles.nodup_keys, accepted.usersOf_perm, c.users.nodup_keys,
    fun _ => accepted.none_of_unknown, fun _ => ⟨fun _ => c.tenant_of_mem_rolesOf,
      fun _ => c.tenant_of_mem_usersOf⟩, ?_⟩
  intro σ surroundings host state clock token order working tenants run
  have works : host.Ends (each (fun t => Roles.create c ⟨t, token t⟩) order) (host.memory state)
      False fun names m' => names = order.map (Roles.namesOf c) ∧ m'.failing = [] := by
    refine .each (I := fun (done : List String) (names : List (List String)) m' =>
      names = done.map (Roles.namesOf c) ∧ m'.failing = []) ⟨rfl, working⟩ ?_
    rintro done names t rest - m' ⟨rfl, working'⟩
    refine (Roles.create_works _ working').weaken fun names m'' h => ?_
    exact ⟨by simp [h.1], h.2⟩
  obtain ⟨_, hvalue, rfl, -⟩ := works.outcome clock rfl
  have seen : InTurn (fun t events (_ : List String) => events.map (·.call) =
      (c.rolesOf t).map (Roles.creation ⟨t, token t⟩)) order run.events _ :=
    Action.Shows.each (fun t _ => Roles.create_calls ⟨t, token t⟩)
      (hvalue ▸ Procedure.yields_run surroundings _ state clock)
  refine ⟨hvalue, ?_⟩
  rw [seen.map_eq_flatMap fun _ _ _ => id]
  exact Roles.creations_perm accepted token tenants

/-- A configuration in which a tenant, a role and a role of a user are given twice, and most of the
rest is left out, all the settings of a backend module among it. -/
def Config.repeatedText : String :=
  "application:\n name: a\n version: b\ntenants: [s, n, s]\nroles:\n r:\n  tenant: s\n" ++
    " q:\n  tenant: s\n r:\n  tenant: n\nusers:\n u:\n  tenant: s\n  password: p\n" ++
    "  roles: [r, q, r]\nbackend-modules:\n m:\n"

def Config.repeated : Config where
  environment := "folio"
  network := "eureka"
  registries := ∅
  descriptorRegistry := "folio"
  application := ⟨"a", "b", "base", ∅, false, "loadReference=true,loadSample=true"⟩
  tenants := .ofList ["n", "s"]
  roles := .ofList [("q", ⟨"s", []⟩), ("r", ⟨"n", []⟩)]
  users := .ofList [("u", ⟨"s", "p", "", "", ["r", "q", "r"]⟩)]
  backendModules := .ofList [("m", ⟨true, none, none, none⟩)]
  frontendModules := ∅
  queue := ⟨"kafka", "kafka.eureka:9092"⟩

theorem Config.read_repeatedText : Config.read repeatedText = .ok repeated := by decide +kernel

/-- The last role of a key counts, so one role is created in each of the two tenants. -/
theorem Config.divided_among_tenants_repeated :
    let run := (each (fun t => Roles.create repeated ⟨t, "t"⟩) ["s", "n"]).run.run
      (Scripted.surroundings Pipeline.calm) Pipeline.bare 0
    Config.read repeatedText = .ok repeated ∧
      repeated.tenants.toList.flatMap repeated.usersOf =
        [⟨"u", "s", "p", "", "", .ofList ["q", "r"]⟩] ∧
      Pipeline.bare.memory.failing = [] ∧ ["s", "n"].Perm repeated.tenants.toList ∧
      run.value = .ok [["Q"], ["R"]] ∧
      (run.events.map (·.call)).Perm [.platform (.createRole ⟨"s", "t"⟩ "Q" defaultDescription),
        .platform (.createRole ⟨"n", "t"⟩ "R" defaultDescription)] := by
  have order : ["s", "n"].Perm repeated.tenants.toList := by decide +kernel
  obtain ⟨-, -, -, -, -, -, created⟩ := divided_among_tenants read_repeatedText
  obtain ⟨hvalue, hcalls⟩ := created (Scripted.host Pipeline.calm) Pipeline.bare 0 (fun _ => "t")
    ["s", "n"] rfl order
  have names : ["s", "n"].map (Roles.namesOf repeated) = [["Q"], ["R"]] := by decide +kernel
  have listed : repeated.roles.entries = [("q", ⟨"s", []⟩), ("r", ⟨"n", []⟩)] := by decide +kernel
  have title : Roles.platformName "q" = "Q" ∧ Roles.platformName "r" = "R" := by decide +kernel
  rw [names] at hvalue
  rw [listed] at hcalls
  simp only [List.map_cons, List.map_nil, title.1, title.2] at hcalls
  exact ⟨read_repeatedText, by decide +kernel, rfl, order, hvalue, hcalls⟩

end Rollout
