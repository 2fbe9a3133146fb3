import Rollout.Proofs.Hosted.Bindings
import Rollout.Proofs.Hosted.Log

/-!
# The calls that attach capability sets

Attaching selects anew for each configured role that the platform has. It makes one call for each of
them that is given anything, with the ids of what its names select, and reports just these roles.
-/

namespace Rollout

namespace Roles

variable {σ : Type} {surroundings : Surroundings σ} {host : Host surroundings} {m : Memory}
  {k : Content} {failing : List String} {c : Config} {session : Session}

/-- The ids that some names give a role, in the order in which they are attached. -/
def givenIds (k : Content) (tenant : String) (names : List String) : List String :=
  (selectedSets k tenant names).map (·.id)

/-- Those of some roles with names that are given anything, each with the ids. -/
def given (k : Content) (tenant : String) (roles : List (Role × List String)) :
    List (Role × List String) :=
  (roles.map fun r => (r.1, givenIds k tenant r.2)).filter (·.2 ≠ [])

def attachment (tenant : String) (r : Role × List String) : LogEntry :=
  .attachCapabilitySets tenant r.1.id r.2

def bindingOf (r : Role × List String) : Binding := ⟨r.1.name, r.2.length⟩

theorem given_append (tenant : String) (first second : List (Role × List String)) :
    given k tenant (first ++ second) = given k tenant first ++ given k tenant second := by
  rw [given, List.map_append, List.filter_append]
  rfl

theorem length_le_of_lookupOf {name : String} {roles : List Role} {lookup : Lookup}
    (h : lookupOf name roles = .ok lookup) : roles.length ≤ 1 := by
  match roles with
  | [] => exact Nat.zero_le 1
  | [_] => exact Nat.le_refl 1
  | _ :: _ :: _ => cases h

/-- Resolving the configured roles succeeds only where no two roles bear one of their names. -/
theorem configured_unambiguous (shows : m.Shows k failing) :
    host.Ends (configured c session) m True fun _ _ => ∀ entry ∈ c.rolesOf session.tenant,
      ((k.roles session.tenant).filter (·.name = platformName entry.1)).length ≤ 1 := by
  refine .bind (.each (I := fun (done : List (String × RoleSettings))
    (_ : List (Lookup × List String)) m' => (∀ entry ∈ done,
      ((k.roles session.tenant).filter (·.name = platformName entry.1)).length ≤ 1) ∧ m' = m)
      ⟨nofun, rfl⟩ ?_) fun _ _ h => .pure h.1
  rintro done - entry rest - m' ⟨earlier, rfl⟩
  refine .bind (.forEntity (find_ends shows _)) fun lookup m'' hm'' => .pure ⟨?_, hm''.2⟩
  intro other hother
  rcases List.mem_append.1 hother with hother | hother
  · exact earlier other hother
  · obtain rfl := List.mem_singleton.1 hother
    exact length_le_of_lookupOf hm''.1

theorem attachTo_logs (shows : m.Shows k failing) (role : Role) (names : List String) :
    host.Ends (attachTo session role names) m True fun binding m' => m'.Shows k failing ∧
      m'.entries = m.entries ++
        (given k session.tenant [(role, names)]).map (attachment session.tenant) ∧
      binding.toList = (given k session.tenant [(role, names)]).map bindingOf := by
  refine .bind (select_ends shows names) fun sets m' hm' => ?_
  obtain ⟨rfl, rfl⟩ := hm'
  dsimp only
  rw [← givenIds]
  split
  next hempty =>
    have nothing : given k session.tenant [(role, names)] = [] := by
      simp [given, List.isEmpty_iff.1 hempty]
    rw [nothing]
    exact .pure ⟨shows, (List.append_nil _).symm, rfl⟩
  next hsome =>
    have one : given k session.tenant [(role, names)] =
        [(role, givenIds k session.tenant names)] := by
      simpa [given] using hsome
    rw [one]
    refine .bind (.mutate shows rfl rfl fun _ => trivial) fun _ m'' hm'' => .pure ?_
    obtain ⟨-, rfl⟩ := hm''
    exact ⟨shows.after _, Memory.entries_after m' _, rfl⟩

theorem attach_logs (shows : m.Shows k failing) :
    host.Ends (attach c session) m True fun report m' =>
      let roles := given k session.tenant
        (resolved (k.roles session.tenant) (c.rolesOf session.tenant))
      m'.entries = m.entries ++ roles.map (attachment session.tenant) ∧
        report = roles.map bindingOf := by
  refine .bind (configured_ends shows) fun roles m' hm' => ?_
  obtain ⟨rfl, rfl⟩ := hm'
  refine .bind (.each (I := fun (done : List (Role × List String))
    (results : List (Option Binding)) m'' => m''.Shows k failing ∧
      m''.entries = m'.entries ++ (given k session.tenant done).map (attachment session.tenant) ∧
      results.filterMap id = (given k session.tenant done).map bindingOf) ?_ ?_)
    fun _ _ h => .pure h.2
  · exact ⟨shows, (List.append_nil _).symm, rfl⟩
  · rintro done results role rest - m'' ⟨shows', hentries, hresults⟩
    refine .weaken (.forEntity (attachTo_logs shows' role.1 role.2)) ?_
    rintro binding m₃ ⟨shows₃, hattached, hbinding⟩
    have last : [binding].filterMap id = binding.toList := by cases binding <;> rfl
    rw [given_append, List.map_append, List.map_append, List.filterMap_append, hattached, hentries,
      hresults, last, hbinding, List.append_assoc]
    exact ⟨shows₃, rfl, rfl⟩

/-- Capability selection is an exact union, each capability set once and in the order in which they
are first offered; and its ids are the same wherever the names, the registered applications and the
capability sets of the tenant are the same, in whatever order and however often they occur.

Attaching that succeeds finds no two roles with the name of a configured one. In the order of the
configured keys it makes one call for each role found that is given anything, with the ids of what
its names select, and no other call; and it reports just these roles, each with the number of its
ids. -/
theorem select_attach_exact (host : Host surroundings) (session : Session) :
    (∀ state clock names sets,
      ((select session (.ofNames names)).run.run surroundings state clock).value = .ok sets →
      let k := (host.memory state).content
      sets = selectedSets k session.tenant names ∧ Selects k session.tenant names sets) ∧
    (∀ state state' clock clock' names names' sets sets',
      ((select session (.ofNames names)).run.run surroundings state clock).value = .ok sets →
      ((select session (.ofNames names')).run.run surroundings state' clock').value = .ok sets' →
      let k := (host.memory state).content
      let k' := (host.memory state').content
      (∀ name, name ∈ names ↔ name ∈ names') →
      (∀ a, a ∈ k.applications ↔ a ∈ k'.applications) →
      (∀ set, set ∈ k.capabilitySets session.tenant ↔ set ∈ k'.capabilitySets session.tenant) →
      ∀ id, id ∈ sets.map (·.id) ↔ id ∈ sets'.map (·.id)) ∧
    ∀ c state clock report,
      ((attach c session).run.run surroundings state clock).value = .ok report →
      let m := host.memory state
      let m' := host.memory ((attach c session).run.run surroundings state clock).state
      let entries := c.rolesOf session.tenant
      let roles := given m.content session.tenant
        (resolved (m.content.roles session.tenant) entries)
      entries.Pairwise (fun entry later => entry.1 < later.1) ∧
        (∀ entry ∈ entries, ((m.content.roles session.tenant).filter
          (·.name = platformName entry.1)).length ≤ 1) ∧
        m'.entries = m.entries ++ roles.map (attachment session.tenant) ∧
        report = roles.map bindingOf := by
  have selected (state : σ) (clock : Nat) (names : List String) (sets : List CapabilitySet)
      (h : ((select session (.ofNames names)).run.run surroundings state clock).value = .ok sets) :
      sets = selectedSets (host.memory state).content session.tenant names := by
    have ends : host.Ends (select session (.ofNames names)) (host.memory state) True _ :=
      select_ends (Memory.shows_self _) names
    exact (ends.of_ok rfl h).1
  refine ⟨?_, ?_, ?_⟩
  · intro state clock names sets h
    refine ⟨selected state clock names sets h, ?_⟩
    rw [selected state clock names sets h]
    exact selects_selectedSets _ _ _
  · intro state state' clock clock' names names' sets sets' h h' k k' sameNames sameApplications
      sameSets id
    rw [selected state clock names sets h, selected state' clock' names' sets' h']
    have ids : id ∈ _ ↔ id ∈ _ := Set.ext_iff.1
      (selectedIds_congr sameNames sameApplications sameSets) id
    rw [← (selects_selectedSets k session.tenant names).exact,
      ← (selects_selectedSets k' session.tenant names').exact] at ids
    exact ids
  · intro c state clock report h m m' entries roles
    have ends : host.Ends (attach c session) m True _ := attach_logs m.shows_self
    have unambiguous : host.Ends (attach c session) m True fun _ _ => ∀ entry ∈ entries,
        ((m.content.roles session.tenant).filter (·.name = platformName entry.1)).length ≤ 1 :=
      .bind (configured_unambiguous m.shows_self) fun _ _ known => Host.Ends.any.weaken
        fun _ _ _ => known
    exact ⟨c.roles.sorted.filter _, unambiguous.of_ok rfl h, ends.of_ok rfl h⟩

def registeredTwice : Scripted.State where
  __ := otherwiseBound []
  memory := { (otherwiseBound []).memory with
    applications := [⟨"app-1.0", "app", "1.0"⟩, ⟨"app-1.0", "app", "1.0"⟩] }

/-- There everything is selected once, names may come in any order, and the one configured role is
given what its one name selects. -/
theorem select_attach_exact_twice :
    let k := registeredTwice.memory.content
    let run (names : List String) := (select ⟨"north", "t"⟩ (.ofNames names)).run.run
      (Scripted.surroundings Pipeline.calm) registeredTwice 0
    let attached := (attach oneSet ⟨"north", "t"⟩).run.run (Scripted.surroundings Pipeline.calm)
      registeredTwice 0
    let users : CapabilitySet := ⟨"s1", "Users", "app-1.0"⟩
    let notes : CapabilitySet := ⟨"s2", "Notes", "app-1.0"⟩
    (run ["Users", "all"]).value = .ok [users, notes] ∧
      Selects k "north" ["Users", "all"] [users, notes] ∧
      (run ["Users", "Notes"]).value = .ok [users, notes] ∧
      (run ["Notes", "Users", "Notes"]).value = .ok [notes, users] ∧
      (∀ id, id ∈ [users, notes].map (·.id) ↔ id ∈ [notes, users].map (·.id)) ∧
      attached.value = .ok [⟨"Admin", 1⟩] ∧
      attached.state.memory.entries = registeredTwice.memory.entries ++
        [.attachCapabilitySets "north" "r1" ["s1"]] := by
  intro k run attached users notes
  obtain ⟨selecting, reordering, attaching⟩ :=
    select_attach_exact (Scripted.host Pipeline.calm) ⟨"north", "t"⟩
  have all : (run ["Users", "all"]).value = .ok [users, notes] := by decide +kernel
  have forth : (run ["Users", "Notes"]).value = .ok [users, notes] := by decide +kernel
  have back : (run ["Notes", "Users", "Notes"]).value = .ok [notes, users] := by decide +kernel
  have succeeded : attached.value = .ok [⟨"Admin", 1⟩] := by decide +kernel
  have roles : given k "north" (resolved (k.roles "north") (oneSet.rolesOf "north")) =
      [(⟨"r1", "Admin", none⟩, ["s1"])] := by decide +kernel
  obtain ⟨-, -, entries, -⟩ := attaching oneSet registeredTwice 0 _ succeeded
  refine ⟨all, (selecting _ 0 _ _ all).2, forth, back, ?_, succeeded, ?_⟩
  · exact reordering _ _ 0 0 _ _ _ _ forth back (by simp [or_comm]) (fun _ => Iff.rfl)
      fun _ => Iff.rfl
  · exact entries.trans (congrArg (fun roles => _ ++ roles.map (attachment "north")) roles)

end Roles

end Rollout
