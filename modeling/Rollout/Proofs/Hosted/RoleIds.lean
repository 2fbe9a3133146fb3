import Mathlib.Data.List.Nodup
import Rollout.Proofs.Hosted.Log
import Rollout.Proofs.Hosted.Roles

/-!
# The ids of roles

A role that is created gets an id that tells how many roles its tenant then has. Such an id need not
be free: a role may have been deleted since the last one was numbered, or a platform may start with
roles that bear higher numbers. The roles of a tenant keep different ids as long as no role is
created under an id that is taken (`Clashes`), and a deletion then takes the one role that it names.

A tenant is `Settled` when none of its roles bears a number above their count. Creating roles keeps
a tenant settled, deleting them may not. So nothing clashes where the deletions come last.
-/

namespace Rollout

open Function (update)

namespace Operation

def createsRoleOf (tenant : String) : Operation → Bool
  | createRole session _ _ => session.tenant = tenant
  | _ => false

def deletesRoleOf (tenant : String) : Operation → Bool
  | deleteRole session _ => session.tenant = tenant
  | _ => false

end Operation

namespace Memory

variable {m : Memory} {tenant : String} {op : Operation} {ops : List Operation}

def roleIds (m : Memory) (tenant : String) : List String := (m.content.roles tenant).map (·.id)

/-- The roles of each tenant bear different ids. -/
def RolesApart (m : Memory) : Prop := ∀ tenant, (m.roleIds tenant).Nodup

/-- The operation creates a role under an id that another role of the tenant bears. -/
def Clashes (m : Memory) : Operation → Prop
  | .createRole session _ _ => "create_role" ∉ m.failing ∧
      newRoleId (m.roleIds session.tenant).length ∈ m.roleIds session.tenant
  | _ => False

/-- No role of a tenant bears a number above the count of its roles. -/
def Settled (m : Memory) (tenant : String) : Prop :=
  ∀ count, (m.roleIds tenant).length ≤ count → newRoleId count ∉ m.roleIds tenant

/-! ### One operation -/

theorem content_perform (op : Operation) (works : op.name ∉ m.failing) :
    (m.perform op).2.content = m.content.change op := by
  cases mutation : op.isMutation with
  | false =>
      rw [perform_still mutation]
      cases op <;> first | rfl | cases mutation
  | true =>
      rw [m.shows_self.perform_mutation works mutation]
      exact (m.shows_self.after op).content

/-- The ids change where the roles of a tenant change. -/
theorem roleIds_of_update {roles : List Role} {m' : Memory}
    (changed : m'.content.roles = update m.content.roles tenant roles) :
    m'.roleIds = update m.roleIds tenant (roles.map (·.id)) := by
  funext other
  rw [roleIds, changed]
  exact Function.apply_update (fun _ roles => roles.map Role.id) m.content.roles tenant roles other

theorem roleIds_createRole (works : "create_role" ∉ m.failing) (session : Session)
    (name description : String) :
    (m.perform (.createRole session name description)).2.roleIds =
      update m.roleIds session.tenant
        (m.roleIds session.tenant ++ [newRoleId (m.roleIds session.tenant).length]) := by
  have changed := congrArg Content.roles
    (content_perform (.createRole session name description) works)
  rw [roleIds_of_update changed, List.map_append, List.map_singleton, roleIds, List.length_map]

theorem roleIds_deleteRole (works : "delete_role" ∉ m.failing) (session : Session) (id : String) :
    (m.perform (.deleteRole session id)).2.roleIds =
      update m.roleIds session.tenant ((m.roleIds session.tenant).filter (· ≠ id)) := by
  have changed := congrArg Content.roles (content_perform (.deleteRole session id) works)
  rw [roleIds_of_update changed, roleIds, List.filter_map]
  rfl

/-- What an operation does to the ids of roles: it adds one, or it takes one out wherever it stands,
or it leaves them as they are. -/
theorem roleIds_perform (m : Memory) (op : Operation) :
    (∃ session name description, op = .createRole session name description ∧
      "create_role" ∉ m.failing ∧
      (m.perform op).2.roleIds = update m.roleIds session.tenant
        (m.roleIds session.tenant ++ [newRoleId (m.roleIds session.tenant).length])) ∨
    (∃ session id, op = .deleteRole session id ∧
      (m.perform op).2.roleIds = update m.roleIds session.tenant
        ((m.roleIds session.tenant).filter (· ≠ id))) ∨
    (m.perform op).2.roleIds = m.roleIds ∧ ¬ m.Clashes op := by
  by_cases fails : op.name ∈ m.failing
  · rw [m.shows_self.perform_failing fails]
    refine .inr (.inr ⟨rfl, ?_⟩)
    cases op with
    | createRole _ _ _ => exact fun clashes => clashes.1 fails
    | _ => exact id
  · cases op with
    | createRole session name description =>
        exact .inl ⟨session, name, description, rfl, fails, roleIds_createRole fails _ _ _⟩
    | deleteRole session id => exact .inr (.inl ⟨session, id, rfl, roleIds_deleteRole fails _ _⟩)
    | _ =>
        have same := congrArg Content.roles (content_perform _ fails)
        exact .inr (.inr ⟨funext fun _ => congrArg _ (congrFun same _), id⟩)

/-- Roles keep different ids through an operation unless it clashes. -/
theorem rolesApart_perform_iff (apart : m.RolesApart) :
    (m.perform op).2.RolesApart ↔ ¬ m.Clashes op := by
  obtain ⟨session, name, description, rfl, works, created⟩ | ⟨session, id, rfl, deleted⟩ |
    ⟨same, still⟩ := m.roleIds_perform op
  · rw [RolesApart, created,
      Function.forall_update_iff m.roleIds (fun _ (ids : List String) => ids.Nodup),
      ← List.concat_eq_append, List.nodup_concat]
    constructor
    · rintro ⟨⟨free, -⟩, -⟩ ⟨-, taken⟩
      exact free taken
    · intro free
      exact ⟨⟨fun taken => free ⟨works, taken⟩, apart _⟩, fun other _ => apart other⟩
  · rw [RolesApart, deleted,
      Function.forall_update_iff m.roleIds (fun _ (ids : List String) => ids.Nodup)]
    exact iff_of_true ⟨(apart _).filter _, fun other _ => apart other⟩ not_false
  · rw [RolesApart, same]
    exact iff_of_true apart still

theorem not_clashes_of_settled
    (settled : ∀ tenant, op.createsRoleOf tenant = true → m.Settled tenant) : ¬ m.Clashes op := by
  cases op with
  | createRole session _ _ =>
      rintro ⟨-, taken⟩
      exact settled session.tenant (decide_eq_true rfl) _ le_rfl taken
  | _ => exact id

/-- A tenant stays settled unless a role of it is deleted. -/
theorem Settled.perform (settled : m.Settled tenant) (kept : op.deletesRoleOf tenant = false) :
    (m.perform op).2.Settled tenant := by
  obtain ⟨session, name, description, rfl, -, created⟩ | ⟨session, id, rfl, deleted⟩ |
    ⟨same, -⟩ := m.roleIds_perform op
  · by_cases h : tenant = session.tenant
    · subst h
      rw [Settled, created, Function.update_self]
      intro count above
      rw [List.length_append, List.length_singleton] at above
      rw [List.mem_append, List.mem_singleton, not_or]
      refine ⟨settled count (by omega), fun same => ?_⟩
      have number := Roles.newRoleId_injective same
      omega
    · rwa [Settled, created, Function.update_of_ne h]
  · have other : tenant ≠ session.tenant := fun h => of_decide_eq_false kept h.symm
    rwa [Settled, deleted, Function.update_of_ne other]
  · rwa [Settled, same]

/-- Of roles with different ids, those without an id are all but the first that bears it. -/
theorem filter_ne_eq_eraseP {roles : List Role} (nodup : (roles.map (·.id)).Nodup) (id : String) :
    roles.filter (·.id ≠ id) = roles.eraseP (·.id = id) := by
  induction roles with
  | nil => rfl
  | cons role roles ih =>
      obtain ⟨alone, nodup⟩ := List.nodup_cons.1 nodup
      by_cases h : role.id = id
      · subst h
        have others : ∀ other ∈ roles, other.id ≠ role.id := fun other hother same =>
          alone (List.mem_map.2 ⟨other, hother, same⟩)
        rw [List.filter_cons_of_neg (by simp), List.eraseP_cons_of_pos (by simp)]
        exact List.filter_eq_self.2 fun other hother => by simpa using others other hother
      · rw [List.filter_cons_of_pos (by simpa using h), List.eraseP_cons_of_neg (by simpa using h),
          ih nodup]

/-- Where roles bear different ids, a deletion takes at most the one that it names. -/
theorem deleteRole_of_apart (apart : m.RolesApart) (session : Session) (id : String) :
    (m.perform (.deleteRole session id)).2.content.roles =
      if "delete_role" ∈ m.failing then m.content.roles
      else update m.content.roles session.tenant
        ((m.content.roles session.tenant).eraseP (·.id = id)) := by
  split
  next fails =>
    have still : m.perform (.deleteRole session id) = (.error (injected _), m) :=
      m.shows_self.perform_failing fails
    rw [still]
  next works =>
    rw [content_perform (.deleteRole session id) works,
      ← filter_ne_eq_eraseP (apart session.tenant)]
    rfl

/-! ### Operations one after the other -/

/-- A platform after the first few of some operations. -/
def afterFirst (m : Memory) (ops : List Operation) (n : Nat) : Memory :=
  (m.performAll (ops.take n)).2

theorem afterFirst_succ (m : Memory) {n : Nat} (h : n < ops.length) :
    m.afterFirst ops (n + 1) = ((m.afterFirst ops n).perform ops[n]).2 := by
  rw [afterFirst, List.take_succ_eq_append_getElem h, performAll_append]
  rfl

theorem afterFirst_succ_of_le (m : Memory) {n : Nat} (h : ops.length ≤ n) :
    m.afterFirst ops (n + 1) = m.afterFirst ops n := by
  rw [afterFirst, afterFirst, List.take_of_length_le h, List.take_of_length_le (by omega)]

/-- What holds at the start and is kept by each of the first operations holds after them. -/
theorem afterFirst_induction {P : Memory → Prop} {n : Nat} (start : P m)
    (step : ∀ (i : Nat) (h : i < ops.length), i < n → P (m.afterFirst ops i) →
      P ((m.afterFirst ops i).perform ops[i]).2) : P (m.afterFirst ops n) := by
  induction n with
  | zero => exact start
  | succ n ih =>
      have sofar := ih fun i h hi => step i h (Nat.lt_succ_of_lt hi)
      by_cases h : n < ops.length
      · rw [afterFirst_succ m h]
        exact step n h n.lt_succ_self sofar
      · rwa [afterFirst_succ_of_le m (Nat.le_of_not_lt h)]

theorem failing_afterFirst (m : Memory) (ops : List Operation) (n : Nat) :
    (m.afterFirst ops n).failing = m.failing :=
  afterFirst_induction (P := fun m' => m'.failing = m.failing) rfl
    fun _ _ _ same => (perform_told _ _).1.trans same

theorem rolesApart_afterFirst_iff (apart : m.RolesApart) (ops : List Operation) :
    (∀ n, (m.afterFirst ops n).RolesApart) ↔
      ∀ (n : Nat) (h : n < ops.length), ¬ (m.afterFirst ops n).Clashes ops[n] := by
  constructor
  · intro all n h
    rw [← rolesApart_perform_iff (all n), ← afterFirst_succ m h]
    exact all (n + 1)
  · intro free n
    refine afterFirst_induction apart fun i h _ apart' => ?_
    exact (rolesApart_perform_iff apart').2 (free i h)

/-- A tenant stays settled as long as no role of it is deleted. -/
theorem Settled.afterFirst (settled : m.Settled tenant) {n : Nat}
    (kept : ∀ (i : Nat) (h : i < ops.length), i < n → ops[i].deletesRoleOf tenant = false) :
    (m.afterFirst ops n).Settled tenant :=
  afterFirst_induction (P := (Settled · tenant)) settled
    fun i h hi sofar => Settled.perform sofar (kept i h hi)

/-- Nothing clashes on a settled platform if no role is created after one of the same tenant was
deleted. -/
theorem Settled.not_clashes (settled : ∀ tenant, m.Settled tenant)
    (ordered : ops.Pairwise fun first later =>
      ∀ tenant, first.deletesRoleOf tenant = true → later.createsRoleOf tenant = false)
    {n : Nat} (h : n < ops.length) : ¬ (m.afterFirst ops n).Clashes ops[n] := by
  refine not_clashes_of_settled fun tenant creates => ?_
  refine (settled tenant).afterFirst fun i hi before => ?_
  by_contra deletes
  have later := List.pairwise_iff_getElem.1 ordered i n hi h before tenant
    (eq_true_of_ne_false deletes)
  rw [creates] at later
  cases later

/-- Where roles are created and none deleted, the ids that there were stay. -/
theorem roleIds_afterFirst_replicate (works : "create_role" ∉ m.failing) (session : Session)
    (name description : String) {times n : Nat} (h : n ≤ times) :
    ∃ added : List String, added.length = n ∧
      (m.afterFirst (.replicate times (.createRole session name description)) n).roleIds
        session.tenant = m.roleIds session.tenant ++ added := by
  induction n with
  | zero => exact ⟨[], rfl, (List.append_nil _).symm⟩
  | succ n ih =>
      obtain ⟨added, hlength, hadded⟩ := ih (by omega)
      refine ⟨added ++ [newRoleId (m.roleIds session.tenant ++ added).length],
        by simp [hlength], ?_⟩
      rw [afterFirst_succ m (by rwa [List.length_replicate]), List.getElem_replicate,
        roleIds_createRole (by rwa [failing_afterFirst]), Function.update_self, hadded,
        List.append_assoc]

/-- If a role bears a number above the count of the roles of its tenant, then creating roles for
that tenant comes to a clash. -/
theorem exists_clash_of_not_settled (works : "create_role" ∉ m.failing)
    (unsettled : ¬ m.Settled tenant) :
    ∃ times n : Nat, n < times ∧
      (m.afterFirst (.replicate times (.createRole ⟨tenant, ""⟩ "" "")) n).Clashes
        (.createRole ⟨tenant, ""⟩ "" "") := by
  rw [Settled] at unsettled
  push Not at unsettled
  obtain ⟨count, above, taken⟩ := unsettled
  -- Each role that is created raises the count by one, until the number that is taken is next.
  let n := count - (m.roleIds tenant).length
  obtain ⟨added, hlength, hadded⟩ :=
    roleIds_afterFirst_replicate works ⟨tenant, ""⟩ "" "" n.le_succ
  refine ⟨n + 1, n, n.lt_succ_self, by rwa [failing_afterFirst], ?_⟩
  rw [hadded, List.length_append, hlength, Nat.add_sub_cancel' above]
  exact List.mem_append_left _ taken

/-- Roles that bear different ids keep them exactly as long as none is created under an id that is
taken. Until then a deletion takes at most the one role that it names. If no role bears a number
above the count of the roles of its tenant, this goes on as long as no role is created after one of
the same tenant was deleted; and if one does, it ends when enough roles are created. -/
theorem rolesApart_iff (apart : m.RolesApart) :
    (∀ ops : List Operation, (∀ n, (m.afterFirst ops n).RolesApart) ↔
      ∀ (n : Nat) (h : n < ops.length), ¬ (m.afterFirst ops n).Clashes ops[n]) ∧
    (∀ ops n session id, let m' := m.afterFirst ops n
      m'.RolesApart → (m'.perform (.deleteRole session id)).2.content.roles =
        if "delete_role" ∈ m.failing then m'.content.roles
        else update m'.content.roles session.tenant
          ((m'.content.roles session.tenant).eraseP (·.id = id))) ∧
    ("create_role" ∉ m.failing → ((∀ tenant, m.Settled tenant) ↔
      ∀ ops : List Operation,
        ops.Pairwise (fun first later =>
          ∀ tenant, first.deletesRoleOf tenant = true → later.createsRoleOf tenant = false) →
        ∀ n, (m.afterFirst ops n).RolesApart)) := by
  refine ⟨rolesApart_afterFirst_iff apart, ?_, fun works => ⟨?_, ?_⟩⟩
  · intro ops n session id m' apart'
    rw [deleteRole_of_apart apart', failing_afterFirst]
  · intro settled ops ordered
    exact (rolesApart_afterFirst_iff apart ops).2 fun n => Settled.not_clashes settled ordered
  · intro all tenant
    by_contra unsettled
    obtain ⟨times, n, h, clash⟩ := exists_clash_of_not_settled works unsettled
    have creations := all (.replicate times (.createRole ⟨tenant, ""⟩ "" "")) <|
      List.pairwise_replicate.2 (.inr nofun)
    refine (rolesApart_afterFirst_iff apart _).1 creations n (by rwa [List.length_replicate]) ?_
    rwa [List.getElem_replicate]

/-- A platform with the role that would be the first to be created. -/
def numbered : Memory :=
  ⟨∅, ∅, [], [], .ofList [("north", [⟨"role-1", "Reader", none⟩])], ∅, ∅, [], []⟩

theorem roleIds_numbered (tenant : String) :
    numbered.roleIds tenant = if tenant = "north" then [newRoleId 0] else [] := by
  by_cases h : tenant = "north"
  · subst h
    decide +kernel
  · have absent : numbered.roles.get? tenant = none := by
      rw [numbered, SortedMap.ofList, List.foldl_cons, List.foldl_nil, SortedMap.get?_insert,
        if_neg h, SortedMap.get?_empty]
    simp [roleIds, content, under, absent, h]

theorem rolesApart_numbered : numbered.RolesApart := by
  intro tenant
  rw [roleIds_numbered]
  split
  · exact List.nodup_singleton _
  · exact List.nodup_nil

theorem settled_numbered (tenant : String) : numbered.Settled tenant := by
  intro count above
  rw [roleIds_numbered] at above ⊢
  split at above
  next h =>
    rw [if_pos h, List.mem_singleton]
    intro same
    rw [Roles.newRoleId_injective same, List.length_singleton] at above
    omega
  next h => simp [h]

/-- The role that was created last may be deleted and another one created in its place; and all may
be deleted after two were created. -/
theorem rolesApart_numbered_twice :
    let session : Session := ⟨"north", "t"⟩
    let create (name : String) := Operation.createRole session name "Default"
    let delete (id : String) := Operation.deleteRole session id
    let replacing := [create "Admin", create "Auditor", delete "role-3", create "Writer"]
    let clearing := [create "Admin", create "Auditor", delete "role-1", delete "role-2",
      delete "role-3"]
    numbered.RolesApart ∧ "create_role" ∉ numbered.failing ∧ (∀ tenant, numbered.Settled tenant) ∧
      (∀ n, (numbered.afterFirst replacing n).RolesApart) ∧
      (numbered.afterFirst replacing 4).roleIds "north" = ["role-1", "role-2", "role-3"] ∧
      (∀ n, (numbered.afterFirst clearing n).RolesApart) ∧
      ((numbered.afterFirst clearing 2).perform (delete "role-1")).2.content.roles "north" =
        [⟨"role-2", "Admin", none⟩, ⟨"role-3", "Auditor", none⟩] := by
  intro session create delete replacing clearing
  obtain ⟨exactly, deletion, lasting⟩ := rolesApart_iff rolesApart_numbered
  have cleared := (lasting List.not_mem_nil).1 settled_numbered clearing (by
    simp [clearing, create, delete, Operation.deletesRoleOf, Operation.createsRoleOf])
  refine ⟨rolesApart_numbered, List.not_mem_nil, settled_numbered, ?_, by decide +kernel, cleared,
    ?_⟩
  · refine (exactly replacing).2 fun n h => ?_
    match n, h with
    | 0, _ => exact fun clash => absurd clash.2 (by decide +kernel)
    | 1, _ => exact fun clash => absurd clash.2 (by decide +kernel)
    | 2, _ => exact id
    | 3, _ => exact fun clash => absurd clash.2 (by decide +kernel)
  · rw [deletion clearing 2 session "role-1" (cleared 2)]
    decide +kernel

/-- After a role was deleted, the next one takes the id of the last, and both go at once. -/
theorem rolesApart_numbered_reused :
    let session : Session := ⟨"north", "t"⟩
    let ops := [.createRole session "Admin" "Default", .deleteRole session "role-1",
      .createRole session "Writer" "Default"]
    numbered.RolesApart ∧
      (numbered.performAll ops).2.content.roles "north" =
        [⟨"role-2", "Admin", none⟩, ⟨"role-2", "Writer", none⟩] ∧
      ¬ (numbered.performAll ops).2.RolesApart ∧
      (numbered.performAll (ops ++ [.deleteRole session "role-2"])).2.content.roles "north" =
        [] := by
  intro session ops
  have ids : (numbered.performAll ops).2.roleIds "north" = ["role-2", "role-2"] := by decide +kernel
  refine ⟨rolesApart_numbered, by decide +kernel, fun apart => ?_, by decide +kernel⟩
  have nodup := apart "north"
  rw [ids] at nodup
  exact absurd nodup (by decide)

end Memory

end Rollout
