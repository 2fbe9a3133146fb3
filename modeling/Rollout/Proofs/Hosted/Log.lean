import Rollout.Proofs.Hosted.Ends

/-!
# The log of a platform

The log tells of each mutation what it was made with, but neither descriptions nor passwords nor
tokens. That is enough to redo what was done: from the records that a platform started with, the
log leads to the records that it holds, a tenant without its description. So the log and the records
stay in step whatever is asked of a platform, what lists or finds records answers them
(`ShowsRecords`), and a call that fails leaves no trace in either.
-/

namespace Rollout

open Function (update)

inductive LogEntry where
  | createApplication (descriptor : ApplicationDescriptor)
  | deleteApplication (id : String)
  | createDiscovery (entries : List DiscoveryEntry)
  | replaceDiscovery (entry : DiscoveryEntry)
  | createTenant (name : String)
  | deleteTenant (id : String)
  | createEntitlement (entitlement : Entitlement) (parameters : String)
  | deleteEntitlement (entitlement : Entitlement)
  | createRole (tenant name : String)
  | deleteRole (tenant id : String)
  | detachCapabilitySets (tenant roleId : String)
  | attachCapabilitySets (tenant roleId : String) (ids : List String)
  | createUser (tenant username : String)
  | deleteUser (tenant id : String)
  | attachCredentials (tenant userId : String)
  | attachUserRoles (tenant userId : String) (roleIds : List String)

def Operation.logEntry? : Operation → Option LogEntry
  | .createApplication d => some (.createApplication d)
  | .deleteApplication id => some (.deleteApplication id)
  | .createDiscovery entries => some (.createDiscovery entries)
  | .replaceDiscovery entry => some (.replaceDiscovery entry)
  | .createTenant name _ => some (.createTenant name)
  | .deleteTenant id => some (.deleteTenant id)
  | .createEntitlement e parameters => some (.createEntitlement e parameters)
  | .deleteEntitlement e => some (.deleteEntitlement e)
  | .createRole s name _ => some (.createRole s.tenant name)
  | .deleteRole s id => some (.deleteRole s.tenant id)
  | .detachCapabilitySets s id => some (.detachCapabilitySets s.tenant id)
  | .attachCapabilitySets s id ids => some (.attachCapabilitySets s.tenant id ids)
  | .createUser s user => some (.createUser s.tenant user.username)
  | .deleteUser s id => some (.deleteUser s.tenant id)
  | .attachCredentials s id _ _ => some (.attachCredentials s.tenant id)
  | .attachUserRoles s id ids => some (.attachUserRoles s.tenant id ids)
  | .registryModules _ | .moduleDescriptor _ | .listApplications | .listTenants | .listRoles _
  | .findRoles _ _ | .applicationCapabilitySets _ _ | .findCapabilitySets _ _ | .listUsers _ => none

theorem Operation.isSome_logEntry? (op : Operation) : op.logEntry?.isSome = op.isMutation := by
  cases op <;> rfl

/-- The records that mutations create and delete: the applications, the ids and names of the
tenants, and the roles and the users of each tenant. -/
structure Records where
  applications : List ApplicationSummary
  tenants : List (String × String)
  roles : String → List Role
  users : String → List UserRecord

namespace Records

/-- The records after what an entry of the log tells is done to them. -/
def redo (r : Records) : LogEntry → Records
  | .createApplication d =>
      { r with applications := r.applications ++ [⟨d.id, d.name, d.version⟩] }
  | .deleteApplication id => { r with applications := r.applications.filter (·.id ≠ id) }
  | .createTenant name => { r with tenants := r.tenants ++ [(name ++ "-id", name)] }
  | .deleteTenant id => { r with tenants := r.tenants.filter (·.1 ≠ id) }
  | .createRole tenant name =>
      { r with
        roles := update r.roles tenant
          (r.roles tenant ++ [⟨"role-" ++ toString ((r.roles tenant).length + 1), name, none⟩]) }
  | .deleteRole tenant id =>
      { r with roles := update r.roles tenant ((r.roles tenant).filter (·.id ≠ id)) }
  | .createUser tenant username =>
      { r with
        users := update r.users tenant
          (r.users tenant ++ [⟨"user-" ++ username, username⟩]) }
  | .deleteUser tenant id =>
      { r with users := update r.users tenant ((r.users tenant).filter (·.id ≠ id)) }
  | .createDiscovery _ | .replaceDiscovery _ | .createEntitlement _ _ | .deleteEntitlement _
  | .detachCapabilitySets _ _ | .attachCapabilitySets _ _ _ | .attachCredentials _ _
  | .attachUserRoles _ _ _ => r

end Records

def Content.records (k : Content) : Records where
  applications := k.applications
  tenants := k.tenants.map fun t => (t.id, t.name)
  roles := k.roles
  users := k.users

/-- What the log tells of a mutation is what it does to the records. -/
theorem Content.records_change (k : Content) {op : Operation} {entry : LogEntry}
    (told : op.logEntry? = some entry) : (k.change op).records = k.records.redo entry := by
  cases op <;> cases told <;>
    simp [change, records, Records.redo, Memory.newTenantId, Memory.newRoleId, Memory.newUserId,
      List.filter_map, Function.comp_def]

namespace Memory

/-- What the log of a platform tells, from the first mutation on. -/
def entries (m : Memory) : List LogEntry := m.log.reverse.filterMap Operation.logEntry?

def records (m : Memory) : Records := m.content.records

/-- What lists or finds records answers those that a platform holds, unless it is set to fail. -/
structure ShowsRecords (m : Memory) : Prop where
  applications : Operation.listApplications.name ∉ m.failing →
    (m.perform .listApplications).1 = .ok m.records.applications
  tenants : Operation.listTenants.name ∉ m.failing →
    ∃ tenants, (m.perform .listTenants).1 = .ok tenants ∧
      tenants.map (fun t => (t.id, t.name)) = m.records.tenants
  roles session : (Operation.listRoles session).name ∉ m.failing →
    (m.perform (.listRoles session)).1 = .ok (m.records.roles session.tenant)
  namedRoles session name : (Operation.findRoles session name).name ∉ m.failing →
    (m.perform (.findRoles session name)).1 =
      .ok ((m.records.roles session.tenant).filter (·.name = name))
  users session : (Operation.listUsers session).name ∉ m.failing →
    (m.perform (.listUsers session)).1 = .ok (m.records.users session.tenant)

/-- Carries out operations one after the other: what came back of each, and the platform then. -/
def performAll (m : Memory) :
    List Operation → List ((op : Operation) × Except Failure op.Answer) × Memory
  | [] => ([], m)
  | op :: ops =>
      let rest := (m.perform op).2.performAll ops
      (⟨op, (m.perform op).1⟩ :: rest.1, rest.2)

/-- Those of some operations that a platform carries out and logs, as the log tells them. -/
def carriedOut (m : Memory) (ops : List Operation) : List LogEntry :=
  (ops.filter (·.name ∉ m.failing)).filterMap Operation.logEntry?

variable (m : Memory) {op : Operation}

theorem carriedOut_cons (op : Operation) (ops : List Operation) :
    m.carriedOut (op :: ops) = m.carriedOut [op] ++ m.carriedOut ops := by
  rw [carriedOut, carriedOut, carriedOut, ← List.filterMap_append, ← List.filter_append,
    List.singleton_append]

/-! ### One operation -/

/-- What is carried out is told last. -/
theorem entries_after (op : Operation) :
    (m.after op).entries = m.entries ++ op.logEntry?.toList := by
  rw [entries, entries, after, List.reverse_cons, List.filterMap_append]
  cases told : op.logEntry? <;> simp [told]

/-- A call that fails leaves a platform as it is. -/
theorem perform_of_error {f : Failure} (failed : (m.perform op).1 = .error f) :
    (m.perform op).2 = m := by
  by_cases fails : op.name ∈ m.failing
  · rw [m.shows_self.perform_failing fails]
  · cases mutation : op.isMutation with
    | false => exact perform_still mutation
    | true =>
        obtain ⟨x, answer⟩ := m.content.answer_of_mutation mutation
        rw [m.shows_self.perform_mutation fails mutation, answer] at failed
        cases failed

/-- What an operation does to the log and to the records, and that it does not change which
operations fail. -/
theorem perform_told (op : Operation) :
    (m.perform op).2.failing = m.failing ∧
      (m.perform op).2.entries = m.entries ++ m.carriedOut [op] ∧
      (m.perform op).2.records = (m.carriedOut [op]).foldl Records.redo m.records := by
  by_cases fails : op.name ∈ m.failing
  · rw [m.shows_self.perform_failing fails]
    simp [carriedOut, fails]
  · have told := op.isSome_logEntry?
    cases mutation : op.isMutation with
    | false =>
        rw [mutation, Option.isSome_eq_false_iff, Option.isNone_iff_eq_none] at told
        rw [perform_still mutation]
        simp [carriedOut, fails, told]
    | true =>
        rw [mutation] at told
        obtain ⟨entry, told⟩ := Option.isSome_iff_exists.1 told
        rw [m.shows_self.perform_mutation fails mutation, entries_after, told]
        have redone : (m.after op).records = m.records.redo entry := by
          rw [records, (m.shows_self.after op).content, m.content.records_change told]
          rfl
        have same : (m.after op).failing = m.failing := (m.shows_self.after op).failing
        simp [carriedOut, fails, told, redone, same]

theorem showsRecords : m.ShowsRecords where
  applications works := by
    rw [m.shows_self.perform_read works rfl]
    rfl
  tenants works := by
    rw [m.shows_self.perform_read works rfl]
    exact ⟨_, rfl, rfl⟩
  roles session works := by
    rw [m.shows_self.perform_read works rfl]
    rfl
  namedRoles session name works := by
    rw [m.shows_self.perform_read works rfl]
    rfl
  users session works := by
    rw [m.shows_self.perform_read works rfl]
    rfl

/-! ### Operations one after the other -/

theorem performAll_append (first second : List Operation) :
    m.performAll (first ++ second) =
      ((m.performAll first).1 ++ ((m.performAll first).2.performAll second).1,
        ((m.performAll first).2.performAll second).2) := by
  induction first generalizing m with
  | nil => rfl
  | cons op first ih => rw [List.cons_append, performAll, ih, performAll, List.cons_append]

theorem length_performAll (ops : List Operation) : (m.performAll ops).1.length = ops.length := by
  induction ops generalizing m with
  | nil => rfl
  | cons op ops ih => rw [performAll, List.length_cons, List.length_cons, ih]

theorem performAll_told (ops : List Operation) :
    (m.performAll ops).2.entries = m.entries ++ m.carriedOut ops ∧
      (m.performAll ops).2.records = (m.carriedOut ops).foldl Records.redo m.records := by
  induction ops generalizing m with
  | nil => exact ⟨(List.append_nil _).symm, rfl⟩
  | cons op ops ih =>
      obtain ⟨failing, entries, records⟩ := m.perform_told op
      have same : (m.perform op).2.carriedOut ops = m.carriedOut ops := by
        rw [carriedOut, carriedOut, failing]
      rw [performAll, m.carriedOut_cons, (ih _).1, (ih _).2, same, entries, records,
        List.append_assoc, List.foldl_append]
      exact ⟨rfl, rfl⟩

/-- A platform is a faithful log. Reading changes nothing. A mutation that is set to fail reports it
and changes nothing; any other mutation succeeds and is told by one more entry. After any operations
the log tells those mutations among them that were not set to fail, in their order, and the records
are those at the start with all of these redone, and are what lists and finds answer. A call that
failed may be left out: all others are answered as before, and the platform ends up the same. -/
theorem log_faithful :
    (∀ op : Operation, op.isMutation = false → (m.perform op).2 = m) ∧
    (∀ op : Operation, op.isMutation = true → op.name ∈ m.failing →
      m.perform op = (.error (injected op), m)) ∧
    (∀ op : Operation, op.isMutation = true → op.name ∉ m.failing →
      ∃ x entry, (m.perform op).1 = .ok x ∧ op.logEntry? = some entry ∧
        (m.perform op).2.entries = m.entries ++ [entry]) ∧
    (∀ ops, (m.performAll ops).2.entries = m.entries ++ m.carriedOut ops ∧
      (m.performAll ops).2.records = (m.carriedOut ops).foldl Records.redo m.records ∧
      (m.performAll ops).2.ShowsRecords) ∧
    ∀ before op after f, ((m.performAll before).2.perform op).1 = .error f →
      ∃ earlier later m', earlier.length = before.length ∧
        m.performAll (before ++ op :: after) = (earlier ++ ⟨op, .error f⟩ :: later, m') ∧
        m.performAll (before ++ after) = (earlier ++ later, m') := by
  refine ⟨fun op => perform_still, fun op _ => m.shows_self.perform_failing, ?_,
    fun ops => ⟨(m.performAll_told ops).1, (m.performAll_told ops).2, showsRecords _⟩, ?_⟩
  · intro op mutation works
    obtain ⟨x, answer⟩ := m.content.answer_of_mutation mutation
    obtain ⟨entry, told⟩ := Option.isSome_iff_exists.1 (op.isSome_logEntry?.trans mutation)
    refine ⟨x, entry, ?_, told, ?_⟩
    · rw [m.shows_self.perform_mutation works mutation, answer]
    · rw [m.shows_self.perform_mutation works mutation, entries_after, told]
      rfl
  · intro before op after f failed
    have still := (m.performAll before).2.perform_of_error failed
    refine ⟨(m.performAll before).1, ((m.performAll before).2.performAll after).1,
      ((m.performAll before).2.performAll after).2, m.length_performAll before, ?_,
      m.performAll_append before after⟩
    rw [performAll_append, performAll, failed, still]

def roleless : Memory := ⟨∅, ∅, [], [], ∅, ∅, ∅, ["create_role"], []⟩

/-- The role that could not be created between a tenant and a user is not missed. -/
theorem log_faithful_roleless :
    let session : Session := ⟨"north", "t"⟩
    let tenant := Operation.createTenant "north" "Default"
    let role := Operation.createRole session "Admin" "Default"
    let user := Operation.createUser session ⟨"ann", "north", "secret", "Ann", "Lee", ∅⟩
    role.isMutation = true ∧ role.name ∈ roleless.failing ∧
      roleless.carriedOut [tenant, role, user] =
        [.createTenant "north", .createUser "north" "ann"] ∧
      (roleless.performAll [tenant, role, user]).2.entries =
        [.createTenant "north", .createUser "north" "ann"] ∧
      ∃ earlier later m', earlier.length = 1 ∧
        roleless.performAll [tenant, role, user] =
          (earlier ++ ⟨role, .error (injected role)⟩ :: later, m') ∧
        roleless.performAll [tenant, user] = (earlier ++ later, m') := by
  intro session tenant role user
  obtain ⟨-, -, -, sequences, drops⟩ := log_faithful roleless
  refine ⟨rfl, List.mem_singleton.2 rfl, rfl, (sequences [tenant, role, user]).1, ?_⟩
  exact drops [tenant] role [user] _ rfl

end Memory

end Rollout
