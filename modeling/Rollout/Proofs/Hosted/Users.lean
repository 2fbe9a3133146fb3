import Mathlib.Data.Finset.Card
import Mathlib.Data.List.Pairwise
import Mathlib.Data.Set.Function
import Rollout.Proofs.Hosted.Bindings
import Rollout.Proofs.Hosted.Log

/-!
# Which roles a user is bound to

The keys under which a user names its roles are made distinct before they are looked up, but the
name that a key has on the platform is not its own: `admin` and `Admin` both lead to the role
`Admin`. Such a role is bound twice in one call, and it counts twice in the report. It happens to a
user exactly if two of its keys lead to one name and the platform has a role with that name; else
every role found is bound and counted once.
-/

namespace Rollout

namespace Users

variable {σ : Type} {surroundings : Surroundings σ} {host : Host surroundings} {m : Memory}
  {k : Content} {failing : List String} {c : Config} {session : Session}

/-- The ids of the roles found for the keys of a user, in the order of the keys. -/
def boundIds (k : Content) (tenant : String) (user : User) : List String :=
  user.roleNames.toList.flatMap fun key =>
    ((k.roles tenant).filter (·.name = Roles.platformName key)).map (·.id)

/-- The ids of the roles that bear the name of one of a user's keys. -/
def namedIds (k : Content) (tenant : String) (user : User) : Set String :=
  {id | ∃ key ∈ user.roleNames, ∃ role ∈ k.roles tenant,
    role.name = Roles.platformName key ∧ role.id = id}

/-- No two keys of a user lead to one role. -/
def KeysApart (k : Content) (tenant : String) (user : User) : Prop :=
  Set.InjOn Roles.platformName
    {key | key ∈ user.roleNames ∧ ∃ role ∈ k.roles tenant, role.name = Roles.platformName key}

theorem mem_boundIds {tenant : String} {user : User} {id : String} :
    id ∈ boundIds k tenant user ↔ id ∈ namedIds k tenant user := by
  simp only [boundIds, namedIds, List.mem_flatMap, List.mem_map, List.mem_filter,
    decide_eq_true_eq, Set.mem_ofPred_eq, and_assoc]
  rfl

/-- Where the ids of roles are distinct, those that a user is bound to are distinct just if its keys
lead to different roles. -/
theorem nodup_boundIds_iff {tenant : String} {user : User}
    (ids : ((k.roles tenant).map (·.id)).Nodup) :
    (boundIds k tenant user).Nodup ↔ KeysApart k tenant user := by
  let idsOf (key : String) : List String :=
    ((k.roles tenant).filter (·.name = Roles.platformName key)).map (·.id)
  have mem_idsOf {key id : String} : id ∈ idsOf key ↔
      ∃ role ∈ k.roles tenant, role.name = Roles.platformName key ∧ role.id = id := by
    simp only [idsOf, List.mem_map, List.mem_filter, decide_eq_true_eq, and_assoc]
  have each (key : String) : (idsOf key).Nodup :=
    ids.sublist (List.filter_sublist.map _)
  have symmetric : Std.Symm (Function.onFun List.Disjoint idsOf) := ⟨fun _ _ h => h.symm⟩
  rw [boundIds, List.nodup_flatMap, and_iff_right fun key _ => each key]
  constructor
  · rintro apart key ⟨hkey, role, hrole, hname⟩ other ⟨hother, -⟩ same
    by_contra different
    exact apart.forall hkey hother different (mem_idsOf.2 ⟨role, hrole, hname, rfl⟩)
      (mem_idsOf.2 ⟨role, hrole, hname.trans same, rfl⟩)
  · intro apart
    refine user.roleNames.nodup_toList.pairwise_of_forall_ne fun key hkey other hother different =>
      fun id h h' => different ?_
    obtain ⟨role, hrole, hname, rfl⟩ := mem_idsOf.1 h
    obtain ⟨role', hrole', hname', hid⟩ := mem_idsOf.1 h'
    obtain rfl : role' = role := List.inj_on_of_nodup_map ids hrole' hrole hid
    exact apart ⟨hkey, role', hrole, hname⟩ ⟨hother, role', hrole, hname'⟩
      (hname.symm.trans hname')

def told (k : Content) (tenant : String) (user : User) : List LogEntry :=
  let id := Memory.newUserId user.username
  [.createUser tenant user.username, .attachCredentials tenant id] ++
    if boundIds k tenant user = [] then []
    else [.attachUserRoles tenant id (boundIds k tenant user)]

def provisioned (k : Content) (tenant : String) (user : User) : Provisioned :=
  ⟨user.username, Memory.newUserId user.username, (boundIds k tenant user).length⟩

theorem roleIds_ends (shows : m.Shows k failing) (user : User) :
    host.Ends (roleIds session user) m True fun ids m' =>
      ids = boundIds k session.tenant user ∧ m' = m := by
  refine .bind (.each (I := fun (done : List String) (lookups : List (Roles.Lookup × Unit)) m' =>
    (Roles.found lookups).map (·.1.id) = (done.flatMap fun key =>
      ((k.roles session.tenant).filter (·.name = Roles.platformName key)).map (·.id)) ∧
      m' = m) ⟨rfl, rfl⟩ ?_) fun _ _ h => .pure h
  rintro done lookups key rest - m' ⟨hfound, rfl⟩
  refine .bind (Roles.find_ends shows _) fun lookup m'' hm'' => .pure ?_
  obtain ⟨hlookup, rfl⟩ := hm''
  refine ⟨?_, rfl⟩
  rw [Roles.found_append, List.map_append, hfound, Roles.found_of_lookupOf hlookup,
    List.flatMap_append]
  simp

theorem provision_logs (shows : m.Shows k failing) (user : User) :
    host.Ends (provision session user) m True fun report m' =>
      (∃ k', m'.Shows k' failing ∧ k'.roles = k.roles) ∧
      m'.entries = m.entries ++ told k session.tenant user ∧
      report = provisioned k session.tenant user := by
  refine .bind (.mutate shows rfl rfl fun _ => trivial) fun id m₁ hm₁ => ?_
  obtain ⟨rfl, rfl⟩ := hm₁
  have shows₁ := shows.after (.createUser session user)
  refine .bind (.mutate shows₁ rfl rfl fun _ => trivial) fun _ m₂ hm₂ => ?_
  obtain ⟨-, rfl⟩ := hm₂
  have shows₂ := shows₁.after (.attachCredentials session (Memory.newUserId user.username)
    user.username user.password)
  refine .bind (roleIds_ends shows₂ user) fun ids m₃ hm₃ => ?_
  obtain ⟨rfl, rfl⟩ := hm₃
  have same : boundIds ((k.change (.createUser session user)).change (.attachCredentials session
      (Memory.newUserId user.username) user.username user.password)) session.tenant user =
      boundIds k session.tenant user := rfl
  rw [same, told]
  dsimp only
  split
  next hsome =>
    rw [if_neg (by simpa using hsome)]
    refine .bind (.mutate shows₂ rfl rfl fun _ => trivial) fun _ m₄ hm₄ => .pure ?_
    obtain ⟨-, rfl⟩ := hm₄
    refine ⟨⟨_, shows₂.after _, rfl⟩, ?_, rfl⟩
    rw [Memory.entries_after, Memory.entries_after, Memory.entries_after, List.append_assoc,
      List.append_assoc]
    rfl
  next hnone =>
    rw [if_pos (by simpa using hnone)]
    refine .pure ⟨⟨_, shows₂, rfl⟩, ?_, rfl⟩
    rw [Memory.entries_after, Memory.entries_after, List.append_assoc]
    rfl

theorem create_logs (shows : m.Shows k failing) :
    host.Ends (create c session) m True fun report m' =>
      m'.entries = m.entries ++ (c.usersOf session.tenant).flatMap (told k session.tenant) ∧
      report = (c.usersOf session.tenant).map (provisioned k session.tenant) := by
  refine .weaken (.each (I := fun (done : List User) (report : List Provisioned) m' =>
    (∃ k', m'.Shows k' failing ∧ k'.roles = k.roles) ∧
      m'.entries = m.entries ++ done.flatMap (told k session.tenant) ∧
      report = done.map (provisioned k session.tenant))
    ⟨⟨k, shows, rfl⟩, (List.append_nil _).symm, rfl⟩ ?_) fun _ _ h => h.2
  rintro done report user rest - m' ⟨⟨k', shows', roles⟩, hentries, rfl⟩
  refine .forEntity ((provision_logs shows' user).weaken ?_)
  rintro one m'' ⟨⟨k'', shows'', roles'⟩, hentries', rfl⟩
  -- What is told of a user depends on the platform through its roles alone.
  have ids : boundIds k' session.tenant user = boundIds k session.tenant user := by
    rw [boundIds, boundIds, roles]
  refine ⟨⟨k'', shows'', roles'.trans roles⟩, ?_, ?_⟩
  · rw [hentries', hentries, List.flatMap_append, List.flatMap_singleton, List.append_assoc,
      told, told, ids]
  · rw [List.map_append, List.map_singleton, provisioned, provisioned, ids]

/-- Creating users makes for each one call that creates it, one that sets its password and, if a
role is found for any of its keys, one that binds it; and it reports each with the number of ids in
the last. These are the ids of the roles found, no other. Each of them occurs once, and the number
reported is that of the roles bound, exactly if no two of the user's keys lead to one role. -/
theorem create_binds (host : Host surroundings) (state : σ) (clock : Nat) (session : Session)
    (ids : (((host.memory state).content.roles session.tenant).map (·.id)).Nodup)
    {report : List Provisioned}
    (succeeded : ((create c session).run.run surroundings state clock).value = .ok report) :
    let m := host.memory state
    let m' := host.memory ((create c session).run.run surroundings state clock).state
    let bound := boundIds m.content session.tenant
    m'.entries = m.entries ++ (c.usersOf session.tenant).flatMap (told m.content session.tenant) ∧
      report = (c.usersOf session.tenant).map (provisioned m.content session.tenant) ∧
      ∀ user ∈ c.usersOf session.tenant,
        {id | id ∈ bound user} = namedIds m.content session.tenant user ∧
        ((bound user).Nodup ↔ KeysApart m.content session.tenant user) ∧
        ((bound user).length = (bound user).toFinset.card ↔
          KeysApart m.content session.tenant user) := by
  intro m m' bound
  have ends : host.Ends (create c session) m True _ := create_logs m.shows_self
  obtain ⟨hentries, hreport⟩ := ends.of_ok rfl succeeded
  refine ⟨hentries, hreport, fun user _ => ⟨?_, nodup_boundIds_iff ids, ?_⟩⟩
  · ext id
    exact mem_boundIds
  · rw [← nodup_boundIds_iff ids, eq_comm]
    exact Multiset.toFinset_card_eq_card_iff_nodup (m := (bound user : Multiset String))

def oneUser (keys : List String) : Config where
  __ := Config.sample
  users := .ofList [("ann", ⟨"north", "secret", "Ann", "Lee", keys⟩)]

/-- A platform with two roles, only one of which bears the name of a key. -/
def twoRoles : Scripted.State where
  __ := Roles.otherwiseBound []
  memory := { (Roles.otherwiseBound []).memory with
    roles := .ofList [("north", [⟨"r1", "Admin", none⟩, ⟨"r2", "admin", none⟩])] }

/-- A user with one key that is found, and one that is not, is bound to one role. -/
theorem create_binds_one :
    let user : User := ⟨"ann", "north", "secret", "Ann", "Lee", .ofList ["admin", "guest"]⟩
    let r := (create (oneUser ["admin", "guest"]) ⟨"north", "t"⟩).run.run
      (Scripted.surroundings Pipeline.calm) twoRoles 0
    ((twoRoles.memory.content.roles "north").map (·.id)).Nodup ∧
      r.value = .ok [⟨"ann", "user-ann", 1⟩] ∧
      r.state.memory.entries = twoRoles.memory.entries ++ [.createUser "north" "ann",
        .attachCredentials "north" "user-ann", .attachUserRoles "north" "user-ann" ["r1"]] ∧
      KeysApart twoRoles.memory.content "north" user := by
  intro user r
  have ids : ((twoRoles.memory.content.roles "north").map (·.id)).Nodup := by decide +kernel
  have succeeded : r.value = .ok [⟨"ann", "user-ann", 1⟩] := by decide +kernel
  have users : (oneUser ["admin", "guest"]).usersOf "north" = [user] := by decide +kernel
  have bound : boundIds twoRoles.memory.content "north" user = ["r1"] := by decide +kernel
  have nodup : (boundIds twoRoles.memory.content "north" user).Nodup := by
    rw [bound]
    exact List.nodup_singleton "r1"
  have all : ((oneUser ["admin", "guest"]).usersOf "north").flatMap
      (told twoRoles.memory.content "north") = [.createUser "north" "ann",
        .attachCredentials "north" "user-ann", .attachUserRoles "north" "user-ann" ["r1"]] := by
    rw [users, List.flatMap_singleton, told, bound]
    rfl
  obtain ⟨hentries, -, each⟩ := create_binds (Scripted.host Pipeline.calm) twoRoles 0 ⟨"north", "t"⟩
    ids succeeded
  exact ⟨ids, succeeded, hentries.trans (congrArg (twoRoles.memory.entries ++ ·) all),
    (each user (users ▸ List.mem_singleton.2 rfl)).2.1.1 nodup⟩

/-- A user who names a role by two spellings is bound to it twice, and it counts as two roles. -/
theorem create_binds_twice :
    let c := oneUser ["admin", "Admin"]
    let r := (create c ⟨"north", "t"⟩).run.run (Scripted.surroundings Pipeline.calm) twoRoles 0
    c.Accepted ∧ ((twoRoles.memory.content.roles "north").map (·.id)).Nodup ∧
      r.value = .ok [⟨"ann", "user-ann", 2⟩] ∧
      r.state.memory.entries = twoRoles.memory.entries ++ [.createUser "north" "ann",
        .attachCredentials "north" "user-ann", .attachUserRoles "north" "user-ann" ["r1", "r1"]] ∧
      ¬ ["r1", "r1"].Nodup :=
  ⟨Config.fault?_eq_none_iff.1 (by decide), by decide +kernel, by decide +kernel, rfl, by decide⟩

end Users

end Rollout
