import Mathlib.Data.List.Nodup
import Rollout.Proofs.Hosted.Selection
import Rollout.Proofs.Rehearsal.Fresh

/-!
# What roles are bound to

Bindings are no record of a platform; only its log tells of them. `Memory.bindings` reads them off
the log, from whatever they were before it: a detachment that was carried out empties the set of a
role, and an attachment adds to it.

Binding the roles of a tenant detaches and then attaches, and resolves the names of the roles anew
for each. A detachment that fails is tolerated. So at the end each role is bound to what it selects,
and to what it was bound to before if detachments fail.
-/

namespace Rollout

open Function (update)

/-- What each role of a tenant is bound to: for the id of a role, the ids of capability sets. -/
abbrev Bindings := String → Set String

def Bindings.after (tenant : String) (op : Operation) (b : Bindings) : Bindings :=
  match op with
  | .detachCapabilitySets session id =>
      if session.tenant = tenant then update b id ∅ else b
  | .attachCapabilitySets session id ids =>
      if session.tenant = tenant then update b id (b id ∪ {x | x ∈ ids}) else b
  | _ => b

/-- The bindings of the roles of a tenant, from what they were before all that the log tells. -/
def Memory.bindings (m : Memory) (tenant : String) (start : Bindings) : Bindings :=
  m.log.foldr (Bindings.after tenant) start

namespace Bindings

def stripped (ids : List String) (b : Bindings) : Bindings := fun id => if id ∈ ids then ∅ else b id

def granted (roles : List (Role × Set String)) (b : Bindings) : Bindings := fun id =>
  b id ∪ {x | ∃ r ∈ roles, r.1.id = id ∧ x ∈ r.2}

theorem stripped_nil (b : Bindings) : stripped [] b = b := by
  funext id
  simp [stripped]

theorem stripped_concat (ids : List String) (id : String) (b : Bindings) :
    stripped (ids ++ [id]) b = update (stripped ids b) id ∅ := by
  funext other
  by_cases h : other = id <;> simp [stripped, h]

theorem granted_nil (b : Bindings) : granted [] b = b := by
  funext id
  simp [granted]

theorem granted_concat (roles : List (Role × Set String)) (role : Role) (more : Set String)
    (b : Bindings) : granted (roles ++ [(role, more)]) b =
      update (granted roles b) role.id (granted roles b role.id ∪ more) := by
  funext id
  ext x
  by_cases h : id = role.id
  · subst h
    simp [granted, or_and_right, exists_or, or_assoc]
  · simp [granted, h, Ne.symm h]

end Bindings

namespace Roles

variable {σ : Type} {surroundings : Surroundings σ} {host : Host surroundings} {m : Memory}
  {k : Content} {failing : List String} {c : Config} {session : Session}

theorem found_of_lookupOf {α : Type} {name : String} {roles : List Role} {lookup : Lookup}
    (h : lookupOf name roles = .ok lookup) (x : α) : found [(lookup, x)] = roles.map (·, x) := by
  cases roles with
  | nil =>
      cases h
      rfl
  | cons role rest =>
      cases rest with
      | nil =>
          cases h
          rfl
      | cons other rest => cases h

theorem found_append {α : Type} (first second : List (Lookup × α)) :
    found (first ++ second) = found first ++ found second :=
  List.filterMap_append

/-- The roles that bear the names of some configured ones, each with the names of its capability
sets. -/
def resolved (roles : List Role) (entries : List (String × RoleSettings)) :
    List (Role × List String) :=
  entries.flatMap fun entry =>
    (roles.filter (·.name = platformName entry.1)).map (·, entry.2.capabilitySets)

theorem find_ends (shows : m.Shows k failing) (name : String) :
    host.Ends (find session name) m True fun lookup m' =>
      lookupOf name ((k.roles session.tenant).filter (·.name = name)) = .ok lookup ∧ m' = m := by
  refine .bind (.read shows rfl rfl fun _ => trivial) fun roles m' hm' => ?_
  obtain ⟨rfl, rfl⟩ := hm'
  exact .ofExcept (fun lookup h => ⟨h, rfl⟩) fun _ _ => trivial

theorem configured_ends (shows : m.Shows k failing) :
    host.Ends (configured c session) m True fun roles m' =>
      roles = resolved (k.roles session.tenant) (c.rolesOf session.tenant) ∧ m' = m := by
  refine .bind (.each (I := fun (done : List (String × RoleSettings))
    (lookups : List (Lookup × List String)) m' =>
      found lookups = resolved (k.roles session.tenant) done ∧ m' = m) ⟨rfl, rfl⟩ ?_)
    fun _ _ hlookups => .pure hlookups
  rintro done lookups entry rest - m' ⟨hfound, rfl⟩
  refine .bind (.forEntity (find_ends shows _)) fun lookup m'' hm'' => .pure ⟨?_, hm''.2⟩
  rw [found_append, hfound, found_of_lookupOf hm''.1, resolved, resolved, List.flatMap_append]
  simp

def detaching : String := "detach_role_capability_sets"

theorem name_detachCapabilitySets (session : Session) (id : String) :
    (Operation.detachCapabilitySets session id).name = detaching := rfl

theorem detach_ends (shows : m.Shows k failing) (b : Bindings) :
    host.Ends (detach c session) m True fun _ m' => m'.Shows k failing ∧
      m'.bindings session.tenant b = if detaching ∈ failing then m.bindings session.tenant b
        else (m.bindings session.tenant b).stripped
          ((resolved (k.roles session.tenant) (c.rolesOf session.tenant)).map (·.1.id)) := by
  refine .bind (configured_ends shows) fun roles m' hm' => ?_
  obtain ⟨rfl, rfl⟩ := hm'
  refine .bind (.sweep (I := fun (done _ : List (Role × List String)) m'' =>
    m''.Shows k failing ∧ m''.bindings session.tenant b = if detaching ∈ failing
      then m'.bindings session.tenant b
      else (m'.bindings session.tenant b).stripped (done.map (·.1.id))) ?_ ?_)
    fun _ _ h => .pure h
  · exact ⟨shows, by simp [Bindings.stripped_nil]⟩
  · rintro done kept role rest - m'' ⟨shows', hbindings⟩
    refine (Host.Ends.attempt shows' rfl).weaken ?_
    rw [name_detachCapabilitySets]
    rintro _ m₃ ⟨-, hm₃⟩
    by_cases fails : detaching ∈ failing
    · rw [if_pos fails] at hm₃ hbindings ⊢
      subst hm₃
      exact ⟨shows', hbindings⟩
    · rw [if_neg fails] at hm₃ hbindings ⊢
      subst hm₃
      refine ⟨shows'.after _, ?_⟩
      rw [List.map_append, List.map_singleton, Bindings.stripped_concat, ← hbindings]
      exact if_pos rfl

theorem attachTo_ends (shows : m.Shows k failing) (b : Bindings) (role : Role)
    (names : List String) :
    host.Ends (attachTo session role names) m True fun _ m' => m'.Shows k failing ∧
      m'.bindings session.tenant b = update (m.bindings session.tenant b) role.id
        (m.bindings session.tenant b role.id ∪ selectedIds k session.tenant names) := by
  refine .bind (select_ends shows names) fun sets m' hm' => ?_
  obtain ⟨rfl, rfl⟩ := hm'
  have hids := (selects_selectedSets k session.tenant names).exact
  dsimp only
  split
  next hempty =>
    refine .pure ⟨shows, ?_⟩
    have nothing : selectedIds k session.tenant names = ∅ := by
      rw [← hids, List.isEmpty_iff.1 hempty]
      simp
    rw [nothing, Set.union_empty, Function.update_eq_self]
  next hsome =>
    refine .bind (.mutate shows rfl rfl fun _ => trivial) fun _ m'' hm'' => .pure ?_
    obtain ⟨-, rfl⟩ := hm''
    refine ⟨shows.after _, ?_⟩
    rw [← hids]
    exact if_pos rfl

theorem attach_ends (shows : m.Shows k failing) (b : Bindings) :
    host.Ends (attach c session) m True fun _ m' => m'.Shows k failing ∧
      m'.bindings session.tenant b = (m.bindings session.tenant b).granted
        ((resolved (k.roles session.tenant) (c.rolesOf session.tenant)).map fun r =>
          (r.1, selectedIds k session.tenant r.2)) := by
  refine .bind (configured_ends shows) fun roles m' hm' => ?_
  obtain ⟨rfl, rfl⟩ := hm'
  refine .bind (.each (I := fun (done : List (Role × List String))
    (_ : List (Option Binding)) m'' => m''.Shows k failing ∧ m''.bindings session.tenant b =
      (m'.bindings session.tenant b).granted
        (done.map fun r => (r.1, selectedIds k session.tenant r.2))) ?_ ?_) fun _ _ h => .pure h
  · exact ⟨shows, by simp [Bindings.granted_nil]⟩
  · rintro done results role rest - m'' ⟨shows', hbindings⟩
    refine .weaken (.forEntity (attachTo_ends shows' b role.1 role.2)) ?_
    rintro _ m₃ ⟨shows₃, hbindings₃⟩
    refine ⟨shows₃, ?_⟩
    rw [hbindings₃, hbindings, List.map_append, List.map_singleton, Bindings.granted_concat]

/-- Binding changes nothing that can be read of the platform, and it is all of the log that is made
of the bindings. -/
theorem bind_ends (shows : m.Shows k failing) (b : Bindings) :
    host.Ends (bind c session) m True fun _ m' =>
      let roles := resolved (k.roles session.tenant) (c.rolesOf session.tenant)
      let earlier := m.bindings session.tenant b
      m'.Shows k failing ∧ m'.bindings session.tenant b =
        Bindings.granted (roles.map fun r => (r.1, selectedIds k session.tenant r.2))
          (if detaching ∈ failing then earlier else earlier.stripped (roles.map (·.1.id))) := by
  refine .bind (detach_ends shows b) fun _ m' hm' => ?_
  refine (attach_ends hm'.1 b).weaken fun _ m'' hm'' => ⟨hm''.1, ?_⟩
  rw [hm''.2, hm'.2]

section

variable {roles : List Role} {entries : List (String × RoleSettings)}
  {entry : String × RoleSettings} {role : Role}

theorem mem_resolved (he : entry ∈ entries) (hrole : role ∈ roles)
    (hname : role.name = platformName entry.1) :
    (role, entry.2.capabilitySets) ∈ resolved roles entries :=
  List.mem_flatMap.2 ⟨entry, he,
    List.mem_map_of_mem (List.mem_filter.2 ⟨hrole, decide_eq_true hname⟩)⟩

/-- Where names and ids are distinct, a role is resolved for one configured role alone. -/
theorem eq_of_mem_resolved (names : (entries.map fun entry => platformName entry.1).Nodup)
    (ids : (roles.map (·.id)).Nodup) (he : entry ∈ entries) (hrole : role ∈ roles)
    (hname : role.name = platformName entry.1) {r : Role × List String}
    (hr : r ∈ resolved roles entries) (hid : r.1.id = role.id) :
    r.2 = entry.2.capabilitySets := by
  obtain ⟨entry', he', hr⟩ := List.mem_flatMap.1 hr
  obtain ⟨role', hrole', rfl⟩ := List.mem_map.1 hr
  obtain ⟨hmem, hname'⟩ := List.mem_filter.1 hrole'
  obtain rfl : role' = role := List.inj_on_of_nodup_map ids hmem hrole hid
  have same : platformName entry'.1 = platformName entry.1 :=
    (of_decide_eq_true hname').symm.trans hname
  rw [List.inj_on_of_nodup_map names he' he same]

end

/-- Where the names of the configured roles are distinct, and so are the ids of the roles that a
tenant has, a binding that succeeds leaves each of these roles bound to what it selects and, if
detachments fail, to what it was bound to before. So the role is bound to exactly what it selects if
and only if detachments work or it was bound to no more than that. -/
theorem bindings_bind (host : Host surroundings) (state : σ) (clock : Nat) (session : Session)
    (start : Bindings) (names : (namesOf c session.tenant).Nodup)
    (ids : (((host.memory state).content.roles session.tenant).map (·.id)).Nodup)
    {report : List Binding}
    (succeeded : ((bind c session).run.run surroundings state clock).value = .ok report)
    {entry : String × RoleSettings} (configured : entry ∈ c.rolesOf session.tenant)
    {role : Role} (present : role ∈ (host.memory state).content.roles session.tenant)
    (named : role.name = platformName entry.1) :
    let m := host.memory state
    let m' := host.memory ((bind c session).run.run surroundings state clock).state
    let earlier := m.bindings session.tenant start role.id
    let final := m'.bindings session.tenant start role.id
    let selected := selectedIds m.content session.tenant entry.2.capabilitySets
    final = (if detaching ∈ m.failing then earlier else ∅) ∪ selected ∧
      (final = selected ↔ detaching ∉ m.failing ∨ earlier ⊆ selected) := by
  intro m m' earlier final selected
  have resolution := mem_resolved configured present named
  have hfinal : final = (if detaching ∈ m.failing then earlier else ∅) ∪ selected := by
    have binding : host.Ends (bind c session) m True _ := bind_ends m.shows_self start
    obtain ⟨-, hbindings⟩ := binding.of_ok rfl succeeded
    have hrole := congrFun hbindings role.id
    rw [show final = _ from hrole, Bindings.granted]
    congr 1
    · split
      · rfl
      · exact if_pos (List.mem_map_of_mem resolution)
    · ext x
      constructor
      · rintro ⟨_, hr, hid, hx⟩
        obtain ⟨r, hmem, rfl⟩ := List.mem_map.1 hr
        rwa [eq_of_mem_resolved names ids configured present named hmem hid] at hx
      · intro hx
        exact ⟨_, List.mem_map_of_mem resolution, rfl, hx⟩
  refine ⟨hfinal, ?_⟩
  rw [hfinal, Set.union_eq_right]
  by_cases fails : detaching ∈ m.failing
  · simp [fails]
  · simp [fails]

def oneSet : Config where
  __ := Config.sample
  roles := .ofList [("admin", ⟨"north", ["Users"]⟩)]

/-- A platform with that role, bound to another capability set, and with operations that fail. -/
def otherwiseBound (failing : List String) : Scripted.State where
  memory := {
    registries := ∅, descriptors := ∅, applications := [], tenants := []
    roles := .ofList [("north", [⟨"r1", "Admin", none⟩])]
    capabilitySets := .ofList [("north", [⟨"s1", "Users", "app-1.0"⟩, ⟨"s2", "Notes", "app-1.0"⟩])]
    users := ∅
    failing
    log := [.attachCapabilitySets ⟨"north", "t"⟩ "r1" ["s2"]] }
  probed := []
  polled := 0

/-- If nothing fails, the role is then bound to the capability set that it selects. -/
theorem bindings_bind_working :
    let before := otherwiseBound []
    let r := (bind oneSet ⟨"north", "t"⟩).run.run (Scripted.surroundings Pipeline.calm) before 0
    (namesOf oneSet "north").Nodup ∧
      ((before.memory.content.roles "north").map (·.id)).Nodup ∧ r.value = .ok [⟨"Admin", 1⟩] ∧
      r.state.memory.bindings "north" (fun _ => ∅) "r1" =
        selectedIds before.memory.content "north" ["Users"] := by
  have names : (namesOf oneSet "north").Nodup := by decide +kernel
  have ids : (((otherwiseBound []).memory.content.roles "north").map (·.id)).Nodup := by
    decide +kernel
  have succeeded : ((bind oneSet ⟨"north", "t"⟩).run.run (Scripted.surroundings Pipeline.calm)
      (otherwiseBound []) 0).value = .ok [⟨"Admin", 1⟩] := by decide +kernel
  have configured : ("admin", (⟨"north", ["Users"]⟩ : RoleSettings)) ∈ oneSet.rolesOf "north" := by
    decide +kernel
  have present : (⟨"r1", "Admin", none⟩ : Role) ∈
      (otherwiseBound []).memory.content.roles "north" := by decide +kernel
  have bound := bindings_bind (Scripted.host Pipeline.calm) (otherwiseBound []) 0 ⟨"north", "t"⟩
    (fun _ => ∅) names ids succeeded configured present (by decide +kernel)
  exact ⟨names, ids, succeeded, bound.2.2 (.inl (by decide))⟩

/-- If detachments fail, it stays bound to the other one besides, and the binding still succeeds. -/
theorem bindings_bind_failing :
    let before := otherwiseBound [detaching]
    let r := (bind oneSet ⟨"north", "t"⟩).run.run (Scripted.surroundings Pipeline.calm) before 0
    oneSet.Accepted ∧ (namesOf oneSet "north").Nodup ∧
      ((before.memory.content.roles "north").map (·.id)).Nodup ∧ r.value = .ok [⟨"Admin", 1⟩] ∧
      "s2" ∈ r.state.memory.bindings "north" (fun _ => ∅) "r1" ∧
      "s2" ∉ selectedIds before.memory.content "north" ["Users"] := by
  have log : ((bind oneSet ⟨"north", "t"⟩).run.run (Scripted.surroundings Pipeline.calm)
      (otherwiseBound [detaching]) 0).state.memory.log =
      [.attachCapabilitySets ⟨"north", "t"⟩ "r1" ["s1"],
        .attachCapabilitySets ⟨"north", "t"⟩ "r1" ["s2"]] := by rfl
  have sets : (otherwiseBound [detaching]).memory.content.capabilitySets "north" =
      [⟨"s1", "Users", "app-1.0"⟩, ⟨"s2", "Notes", "app-1.0"⟩] := by rfl
  refine ⟨Config.fault?_eq_none_iff.1 (by decide), by decide +kernel, by decide +kernel,
    by decide +kernel, ?_, ?_⟩
  · rw [Memory.bindings, log]
    simp [Bindings.after]
  · rw [selectedIds, sets]
    simp [allSets]

end Roles

end Rollout
