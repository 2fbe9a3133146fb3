import Rollout.Proofs.Hosted.Ends
import Rollout.Proofs.Tenancy.Tasks

/-!
# Tenants do not interfere

Two hosted platforms may hold anything at all for other tenants, and two configurations may say
anything of them. Tasks for a tenant then go the same on both as long as the platforms show the same
for that tenant and the configurations say the same of it: what a task asks is answered from the
records of the tenant and the listing of the applications, and changes nothing but those records
(`InStep.perform`). The tasks end alike, the same is recorded of them, all of it for the tenant, and
the records of every other tenant stay as they are.
-/

namespace Rollout

/-- Two contents show the same for a tenant. -/
structure Content.SameFor (tenant : String) (k k' : Content) : Prop where
  applications : k.applications = k'.applications
  roles : k.roles tenant = k'.roles tenant
  capabilitySets : k.capabilitySets tenant = k'.capabilitySets tenant
  users : k.users tenant = k'.users tenant

/-- The records of every tenant but one are as they were. -/
structure Content.Untouched (tenant : String) (before after : Content) : Prop where
  roles : ∀ other ≠ tenant, after.roles other = before.roles other
  capabilitySets : ∀ other ≠ tenant, after.capabilitySets other = before.capabilitySets other
  users : ∀ other ≠ tenant, after.users other = before.users other

def Operation.Within (s : Session) (op : Operation) : Prop :=
  op = .listApplications ∨ op.session? = some s

/-- In one session with the same users an operation is its only counterpart. -/
theorem Operation.Counterpart.within {s : Session} {op op' : Operation}
    (h : Counterpart Eq s s op op') : op = op' ∧ op.Within s := by
  cases h with
  | listApplications => exact ⟨rfl, .inl rfl⟩
  | createUser h => exact ⟨h ▸ rfl, .inr rfl⟩
  | attachCredentials id h => exact ⟨h ▸ rfl, .inr rfl⟩
  | _ => exact ⟨rfl, .inr rfl⟩

namespace Content

variable {s : Session} {k k' : Content} {op : Operation}

theorem SameFor.answer (h : SameFor s.tenant k k') (within : op.Within s) :
    k.answer op = k'.answer op := by
  obtain ⟨applications, roles, capabilitySets, users⟩ := h
  rcases within with rfl | within
  · simp [Content.answer, applications]
  · cases op <;> cases within <;> simp [Content.answer, roles, capabilitySets, users]

theorem SameFor.change (h : SameFor s.tenant k k') (within : op.Within s) :
    SameFor s.tenant (k.change op) (k'.change op) := by
  obtain ⟨applications, roles, capabilitySets, users⟩ := h
  rcases within with rfl | within
  · exact ⟨applications, roles, capabilitySets, users⟩
  · cases op <;> cases within <;>
      constructor <;> simp [Content.change, applications, roles, capabilitySets, users]

theorem Untouched.change {before : Content} (h : Untouched s.tenant before k)
    (within : op.Within s) : Untouched s.tenant before (k.change op) := by
  rcases within with rfl | within
  · exact h
  · constructor <;> intro other apart
    · rw [← h.roles other apart]
      cases op <;> cases within <;> simp [Content.change, apart]
    · rw [← h.capabilitySets other apart]
      cases op <;> cases within <;> rfl
    · rw [← h.users other apart]
      cases op <;> cases within <;> simp [Content.change, apart]

end Content

/-- Where two platforms stand in the course of tasks in a session: they show the same for its tenant
and fail in the same operations, the same has been recorded on both, and no other tenant has been
touched. -/
structure InStep (s : Session) (before before' m m' : Memory) : Prop where
  same : m.content.SameFor s.tenant m'.content
  failing : ∀ name, name ∈ m.failing ↔ name ∈ m'.failing
  recorded : ∃ calls, m.log = calls ++ before.log ∧ m'.log = calls ++ before'.log ∧
    ∀ op ∈ calls, op.session? = some s
  untouched : before.content.Untouched s.tenant m.content
  untouched' : before'.content.Untouched s.tenant m'.content

namespace InStep

variable {s : Session} {before before' m m' : Memory} {op : Operation}

theorem start (same : m.content.SameFor s.tenant m'.content)
    (failing : ∀ name, name ∈ m.failing ↔ name ∈ m'.failing) : InStep s m m' m m' where
  same := same
  failing := failing
  recorded := ⟨[], rfl, rfl, by simp⟩
  untouched := ⟨fun _ _ => rfl, fun _ _ => rfl, fun _ _ => rfl⟩
  untouched' := ⟨fun _ _ => rfl, fun _ _ => rfl, fun _ _ => rfl⟩

theorem after (h : InStep s before before' m m') (within : op.session? = some s) :
    InStep s before before' (m.after op) (m'.after op) where
  same := by
    rw [(m.shows_self.after op).content, (m'.shows_self.after op).content]
    exact h.same.change (.inr within)
  failing name := by
    rw [(m.shows_self.after op).failing, (m'.shows_self.after op).failing]
    exact h.failing name
  recorded := by
    obtain ⟨calls, hlog, hlog', hcalls⟩ := h.recorded
    refine ⟨op :: calls, congrArg _ hlog, congrArg _ hlog', ?_⟩
    simpa [within] using hcalls
  untouched := by
    rw [(m.shows_self.after op).content]
    exact h.untouched.change (.inr within)
  untouched' := by
    rw [(m'.shows_self.after op).content]
    exact h.untouched'.change (.inr within)

/-- An operation within the session is answered the same on both platforms, which stay in step. -/
theorem perform (h : InStep s before before' m m') (within : op.Within s) :
    (m.perform op).1 = (m'.perform op).1 ∧
      InStep s before before' (m.perform op).2 (m'.perform op).2 := by
  have answer := h.same.answer within
  by_cases fails : op.name ∈ m.failing
  · rw [m.shows_self.perform_failing fails,
      m'.shows_self.perform_failing ((h.failing _).1 fails)]
    exact ⟨rfl, h⟩
  · have works := mt (h.failing op.name).2 fails
    cases mutates : op.isMutation with
    | false =>
        rw [m.shows_self.perform_read fails mutates, m'.shows_self.perform_read works mutates]
        exact ⟨answer, h⟩
    | true =>
        rw [m.shows_self.perform_mutation fails mutates,
          m'.shows_self.perform_mutation works mutates]
        refine ⟨answer, h.after (within.resolve_left ?_)⟩
        rintro rfl
        cases mutates

end InStep

section Hosts

variable {σ σ' : Type} {surroundings : Surroundings σ} {surroundings' : Surroundings σ'}
  (host : Host surroundings) (host' : Host surroundings') (s : Session) (before before' : Memory)

def Host.pairing : Pairing surroundings surroundings' where
  linked state _ state' _ := InStep s before before' (host.memory state) (host'.memory state')
  passing _ h := h

theorem Host.pairing_serves : (host.pairing host' s before before').Serves Eq s s where
  asks := by
    intro op op' h
    obtain ⟨rfl, within⟩ := h.within
    refine .ask fun state clock state' clock' inStep => ?_
    obtain ⟨hreply, hmemory⟩ := Prod.ext_iff.1 (host.performs op state)
    obtain ⟨hreply', hmemory'⟩ := Prod.ext_iff.1 (host'.performs op state')
    obtain ⟨same, inStep⟩ := inStep.perform within
    rw [← hreply, ← hreply'] at same
    rw [← hmemory, ← hmemory'] at inStep
    exact ⟨(SameOutcome.of_eq same).imp fun _ _ => heq_of_eq, inStep⟩
  together := congrArg User.anonymous

/-- Tasks for a tenant end alike on two platforms that show the same for the tenant, from two
configurations that say the same of it. The same is recorded of them on both, each call in the
session, and what either platform holds for other tenants stays as it is. -/
theorem Task.without_interference {c c' : Config} {tenant : String} (token : String)
    (roles : c.rolesOf tenant = c'.rolesOf tenant) (users : c.usersOf tenant = c'.usersOf tenant)
    (state : σ) (state' : σ')
    (same : (host.memory state).content.SameFor tenant (host'.memory state').content)
    (failing : ∀ name, name ∈ (host.memory state).failing ↔ name ∈ (host'.memory state').failing)
    (tasks : List Task) (clock clock' : Nat) :
    let work := fun c (task : Task) => (task.action c ⟨tenant, token⟩).run
    let r := (Procedure.inTurn (work c) tasks).run surroundings state clock
    let r' := (Procedure.inTurn (work c') tasks).run surroundings' state' clock'
    r.value = r'.value ∧
    (∃ calls, (host.memory r.state).log = calls ++ (host.memory state).log ∧
      (host'.memory r'.state).log = calls ++ (host'.memory state').log ∧
      ∀ op ∈ calls, op.session? = some ⟨tenant, token⟩) ∧
    (host.memory state).content.Untouched tenant (host.memory r.state).content ∧
    (host'.memory state').content.Untouched tenant (host'.memory r'.state).content := by
  intro work r r'
  have serves := host.pairing_serves host' ⟨tenant, token⟩ (host.memory state)
    (host'.memory state')
  have configs : Config.Matches Eq tenant c c' :=
    ⟨roles, users ▸ List.forall₂_same.2 fun _ _ => rfl⟩
  have alike : (host.pairing host' _ _ _).Alike (Procedure.inTurn (work c) tasks)
      (Procedure.inTurn (work c') tasks) Eq :=
    .inTurn fun task _ => (Task.agree serves configs task).run
  obtain ⟨value, inStep⟩ := @alike state clock state' clock' (InStep.start same failing)
  exact ⟨value, inStep.recorded, inStep.untouched, inStep.untouched'⟩

end Hosts

def Config.neighbourly : Config where
  __ := Config.sample
  tenants := .ofList ["north", "south"]
  roles := .ofList [("admin", ⟨"north", ["all"]⟩), ("clerk", ⟨"south", ["Notes"]⟩)]
  users := .ofList [("ann", ⟨"north", "secret", "Ann", "Lee", ["admin"]⟩),
    ("bob", ⟨"south", "hidden", "Bob", "Ray", ["clerk"]⟩)]

/-- A platform with an application, a capability set of it for a tenant, and roles and users as they
come. -/
def Scripted.State.furnished (roles : SortedMap (List Role)) (users : SortedMap (List UserRecord)) :
    Scripted.State :=
  ⟨⟨∅, ∅, [⟨"app-1.0", "app", "1.0"⟩], [], roles,
    .ofList [("north", [⟨"cs", "Users", "app-1.0"⟩])], users, [], []⟩, [], 0⟩

/-- A platform on which a neighbour has a role and a user, of the names that are about to come. -/
def Scripted.State.shared : Scripted.State :=
  .furnished (.ofList [("south", [⟨"role-1", "Admin", none⟩])])
    (.ofList [("south", [⟨"user-ann", "ann"⟩])])

/-- What a neighbour has neither changes the tasks for a tenant nor is changed by them. -/
theorem Task.without_interference_neighbour :
    let script : Scripted.Script := ⟨[], [], .missing⟩
    let tasks := [Task.createRoles, .bindCapabilitySets, .createUsers, .removeUsers, .removeRoles]
    let work := fun c (task : Task) => (task.action c ⟨"north", "t"⟩).run
    let r := (Procedure.inTurn (work Config.sample) tasks).run (Scripted.surroundings script)
      (.furnished ∅ ∅) 0
    let r' := (Procedure.inTurn (work Config.neighbourly) tasks).run
      (Scripted.surroundings script) .shared 0
    r.value = r'.value ∧
      Scripted.State.shared.memory.content.Untouched "north" r'.state.memory.content := by
  intro script tasks work r r'
  have roles : Config.sample.rolesOf "north" = Config.neighbourly.rolesOf "north" := by decide
  have users : Config.sample.usersOf "north" = Config.neighbourly.usersOf "north" := by decide
  have same : Content.SameFor "north" (Scripted.State.furnished ∅ ∅).memory.content
      Scripted.State.shared.memory.content := ⟨rfl, rfl, rfl, rfl⟩
  have apart := Task.without_interference (Scripted.host script) (Scripted.host script) "t" roles
    users (.furnished ∅ ∅) .shared same (fun _ => .rfl) tasks 0 0
  exact ⟨apart.1, apart.2.2.2⟩

end Rollout
