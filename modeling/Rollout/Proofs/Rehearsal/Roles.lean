import Rollout.Pipeline.Run
import Rollout.Proofs.Rehearsal.Outcome

/-!
# Roles and users in a rehearsal

On a working platform without roles of a tenant, exactly the configured roles of the tenant are
created, in the order of their keys. Looking a role up by its name then succeeds if no other
configured role bears the name, and fails otherwise. So everything that follows succeeds if the
names are distinct, and binding fails at the first key whose name is ambiguous if they are not.
-/

namespace Rollout

open Function (update)
open Scripted (Script Situation Succeeds Fails)

variable {c : Config} {session : Session} {script : Script} {s : Situation}

namespace Roles

/-- The names on the platform of the roles of a tenant, in the order of their keys. -/
def namesOf (c : Config) (tenant : String) : List String :=
  (c.roles.entries.filter (·.2.tenant = tenant)).map fun entry => platformName entry.1

/-- The roles that are created for some configured roles where there were none. -/
def created (entries : List (String × RoleSettings)) : List Role :=
  entries.mapIdx fun place entry => ⟨Memory.newRoleId place, platformName entry.1, none⟩

theorem created_concat (entries : List (String × RoleSettings)) (entry : String × RoleSettings) :
    created (entries ++ [entry]) =
      created entries ++ [⟨Memory.newRoleId entries.length, platformName entry.1, none⟩] := by
  simp [created]

theorem length_created (entries : List (String × RoleSettings)) :
    (created entries).length = entries.length := by
  simp [created]

theorem map_name_created (entries : List (String × RoleSettings)) :
    (created entries).map (·.name) = entries.map fun entry => platformName entry.1 := by
  apply List.ext_getElem
  · simp [created]
  · simp [created]

/-- As many roles are found under a name as there are configured roles that bear it. -/
theorem length_filter_created (entries : List (String × RoleSettings)) (name : String) :
    ((created entries).filter (·.name = name)).length =
      (entries.map fun entry => platformName entry.1).count name := by
  rw [← map_name_created, List.count, List.countP_map, List.countP_eq_length_filter]
  congr 1

theorem create_succeeds (fresh : s.content.roles session.tenant = []) :
    Succeeds script (create c session) s fun _ s' => s' = { s with
      content.roles := update s.content.roles session.tenant
        (created (c.rolesOf session.tenant)) } := by
  refine .weaken (.each (I := fun done (_ : List String) s' => s' = { s with
    content.roles := update s.content.roles session.tenant (created done) }) ?_ ?_) fun _ _ h => h
  · rw [show created [] = s.content.roles session.tenant from fresh.symm, Function.update_eq_self]
  · rintro done names entry rest - s' rfl
    refine .bind (.forEntity (.mutate rfl rfl)) fun _ s' hs' => .pure ?_
    rw [hs'.2]
    simp [Content.change, created_concat, length_created]

theorem lookupOf_ok (name : String) {roles : List Role} (h : roles.length ≤ 1) :
    ∃ lookup, lookupOf name roles = .ok lookup := by
  cases roles with
  | nil => exact ⟨_, rfl⟩
  | cons role rest =>
      cases rest with
      | nil => exact ⟨_, rfl⟩
      | cons other rest => simp at h

theorem lookupOf_ambiguous {name : String} {roles : List Role} (h : 1 < roles.length) :
    lookupOf name roles = .error (.ambiguousRole name roles.length) := by
  cases roles with
  | nil => simp at h
  | cons role rest =>
      cases rest with
      | nil => simp at h
      | cons other rest => rfl

/-- What is looked up is missing, or found if there is only one. -/
theorem find_succeeds {name : String}
    (h : ((s.content.roles session.tenant).filter (·.name = name)).length ≤ 1) :
    Succeeds script (find session name) s fun _ s' => s' = s := by
  obtain ⟨lookup, hlookup⟩ := lookupOf_ok name h
  refine .bind (.read rfl rfl) fun roles s' hroles => ?_
  obtain ⟨rfl, rfl⟩ := hroles
  exact .ofExcept hlookup rfl

/-- What is looked up is ambiguous if there are several. -/
theorem find_fails {name : String}
    (h : 1 < ((s.content.roles session.tenant).filter (·.name = name)).length) :
    Fails script (find session name) s fun e => e = .ambiguousRole name
      ((s.content.roles session.tenant).filter (·.name = name)).length := by
  refine .bind (.read rfl rfl) fun roles s' hroles => ?_
  obtain ⟨rfl, rfl⟩ := hroles
  exact .ofExcept (lookupOf_ambiguous h) rfl

/-- No name is borne by several roles of a tenant. -/
def Unambiguous (s : Situation) (tenant : String) : Prop :=
  ∀ name, ((s.content.roles tenant).filter (·.name = name)).length ≤ 1

theorem unambiguous_of_nodup {tenant : String}
    (hroles : s.content.roles tenant = created (c.rolesOf tenant))
    (h : (namesOf c tenant).Nodup) : Unambiguous s tenant := by
  intro name
  rw [hroles, length_filter_created]
  exact List.nodup_iff_count.1 h name

theorem configured_succeeds (h : Unambiguous s session.tenant) :
    Succeeds script (configured c session) s fun _ s' => s' = s := by
  refine .bind (.each_still fun entry _ => ?_) fun _ _ hs' => .pure hs'
  exact .bind (.forEntity (find_succeeds (h _))) fun _ _ hs' => .pure hs'

/-- An error that tells of a name that several configured roles of a tenant bear. -/
def Ambiguity (c : Config) (tenant : String) (e : Error) : Prop :=
  ∃ name, 1 < (namesOf c tenant).count name ∧
    e = .attributed (some tenant) (entity name)
      (.ambiguousRole name ((namesOf c tenant).count name))

/-- If two roles bear one name, the look-up of the first such name is ambiguous. -/
theorem configured_fails
    (hroles : s.content.roles session.tenant = created (c.rolesOf session.tenant))
    (h : ¬ (namesOf c session.tenant).Nodup) :
    Fails script (configured c session) s (Ambiguity c session.tenant) := by
  have hlength (name : String) : ((s.content.roles session.tenant).filter (·.name = name)).length =
      (namesOf c session.tenant).count name := by
    rw [hroles, length_filter_created, namesOf, Config.rolesOf]
  cases hfind : (c.rolesOf session.tenant).find? fun entry =>
      1 < (namesOf c session.tenant).count (platformName entry.1) with
  | none =>
      refine absurd (List.nodup_iff_count.2 fun name => ?_) h
      rcases Nat.eq_zero_or_pos ((namesOf c session.tenant).count name) with hzero | hpos
      · omega
      · obtain ⟨entry, he, rfl⟩ := List.mem_map.1 (List.count_pos_iff.1 hpos)
        simpa using List.find?_eq_none.1 hfind entry he
  | some entry =>
      obtain ⟨hmany, before, after, hsplit, hbefore⟩ := List.find?_eq_some_iff_append.1 hfind
      rw [configured, hsplit]
      refine .bind_first (.each (Q := fun _ s' => s' = s) (.each_still fun e he => ?_) ?_)
      · refine .bind (.forEntity (find_succeeds ?_)) fun _ _ hs' => .pure hs'
        rw [hlength]
        simpa using hbefore e he
      · rintro lookups s' rfl
        have hmany : 1 < (namesOf c session.tenant).count (platformName entry.1) := by
          simpa using hmany
        refine .bind_first (.forEntity ((find_fails (by rwa [hlength])).weaken ?_))
        rintro e rfl
        rw [hlength]
        exact ⟨_, hmany, rfl⟩

theorem detach_succeeds (h : Unambiguous s session.tenant) :
    Succeeds script (detach c session) s fun _ s' => s' = s := by
  refine .bind (configured_succeeds h) fun roles s' hs' => ?_
  subst hs'
  exact .bind (.sweep fun _ _ => ⟨rfl, rfl, _, rfl⟩) fun _ _ hs' => .pure hs'

theorem select_succeeds (selection : Selection) :
    Succeeds script (select session selection) s fun _ s' => s' = s := by
  cases selection with
  | all =>
      refine .bind (.read rfl rfl) fun applications s' hs' => ?_
      obtain ⟨-, rfl⟩ := hs'
      exact .bind (.each_still fun _ _ => (Succeeds.read rfl rfl).weaken fun _ _ h => h.2)
        fun _ _ hs' => .pure hs'
  | named names =>
      exact .bind (.each_still fun _ _ => (Succeeds.read rfl rfl).weaken fun _ _ h => h.2)
        fun _ _ hs' => .pure hs'

theorem attachTo_succeeds (role : Role) (names : List String) :
    Succeeds script (attachTo session role names) s fun _ s' => s' = s := by
  refine .bind (select_succeeds _) fun sets s' hs' => ?_
  dsimp only
  split
  · exact .pure hs'
  · exact .bind (.mutate rfl rfl) fun _ _ h => .pure (h.2.trans hs')

theorem attach_succeeds (h : Unambiguous s session.tenant) :
    Succeeds script (attach c session) s fun _ s' => s' = s := by
  refine .bind (configured_succeeds h) fun roles s' hs' => ?_
  subst hs'
  exact .bind (.each_still fun _ _ => .forEntity (attachTo_succeeds _ _))
    fun _ _ hs' => .pure hs'

theorem bind_fails (hroles : s.content.roles session.tenant = created (c.rolesOf session.tenant))
    (h : ¬ (namesOf c session.tenant).Nodup) :
    Fails script (bind c session) s (Ambiguity c session.tenant) :=
  .bind_first (.bind_first (configured_fails hroles h))

theorem bind_succeeds (h : Unambiguous s session.tenant) :
    Succeeds script (bind c session) s fun _ s' => s' = s := by
  refine .bind (detach_succeeds h) fun _ s' hs' => ?_
  subst hs'
  exact attach_succeeds h

end Roles

namespace Users

def created (users : List User) : List UserRecord :=
  users.map fun user => ⟨Memory.newUserId user.username, user.username⟩

theorem roleIds_succeeds (user : User) (h : Roles.Unambiguous s session.tenant) :
    Succeeds script (roleIds session user) s fun _ s' => s' = s := by
  refine .bind (.each_still fun key _ => ?_) fun _ _ hs' => .pure hs'
  exact .bind (Roles.find_succeeds (h _)) fun _ _ hs' => .pure hs'

theorem provision_succeeds (user : User) (h : Roles.Unambiguous s session.tenant) :
    Succeeds script (provision session user) s fun _ s' => s' = { s with
      content.users := update s.content.users session.tenant
        (s.content.users session.tenant ++ created [user]) } := by
  refine .bind (.mutate rfl rfl) fun id s₁ hs₁ => ?_
  refine .bind (.mutate rfl rfl) fun _ s₂ hs₂ => ?_
  obtain ⟨-, rfl⟩ := hs₁
  obtain ⟨-, rfl⟩ := hs₂
  refine .bind (roleIds_succeeds user h) fun ids s₃ hs₃ => ?_
  subst hs₃
  dsimp only
  split
  · refine .bind (.mutate rfl rfl) fun _ s₄ hs₄ => .pure ?_
    rw [hs₄.2]
    rfl
  · exact .pure rfl

theorem create_succeeds (fresh : s.content.users session.tenant = [])
    (h : Roles.Unambiguous s session.tenant) :
    Succeeds script (create c session) s fun _ s' => s' = { s with
      content.users := update s.content.users session.tenant
        (created (c.usersOf session.tenant)) } := by
  refine .weaken (.each (I := fun done (_ : List Provisioned) s' => s' = { s with
    content.users := update s.content.users session.tenant (created done) }) ?_ ?_) fun _ _ h => h
  · rw [show created [] = s.content.users session.tenant from fresh.symm, Function.update_eq_self]
  · rintro done results user rest - s' rfl
    refine .forEntity (.weaken (provision_succeeds user ?_) fun _ s' hs' => ?_)
    · exact h
    · rw [hs']
      simp [created]

end Users

end Rollout
