import Rollout.CommandLine.Outcome
import Rollout.Proofs.Config.Belonging
import Rollout.Proofs.Json.Text
import Rollout.Proofs.Pipeline.TeardownOrder

/-!
# What commands print as JSON

Every output is a document whose numbers are integers. A command that succeeds has one output, but
for a task that is done for every configured tenant that the platform has: it has one for each. So
what is printed is one JSON document if there is one such tenant, and else it is none.
-/

namespace Rollout.CommandLine

/-! ### Outputs -/

namespace Output

theorem integral_strings (l : List String) : (Json.strings l).Integral :=
  Json.itemsIntegral_iff.2 (List.forall_mem_map.2 fun _ _ => trivial)

theorem integral_arr {α : Type} {encode : α → Json} (item : ∀ x, (encode x).Integral)
    (l : List α) : (Json.arr (l.map encode)).Integral :=
  Json.itemsIntegral_iff.2 (List.forall_mem_map.2 fun x _ => item x)

theorem integral_binding (b : Roles.Binding) : b.toJson.Integral := ⟨trivial, trivial, trivial⟩

theorem integral_provisioned (u : Users.Provisioned) : u.toJson.Integral :=
  ⟨trivial, trivial, trivial, trivial⟩

theorem integral_tenantReport (r : TenantReport) : r.toJson.Integral :=
  ⟨trivial, trivial, integral_strings _, integral_arr integral_binding _,
    integral_arr integral_provisioned _, trivial⟩

theorem integral_names (done : String) (l : List String) : (names done l).document.Integral :=
  integral_strings l

theorem integral_rollout (r : RunReport) : (rollout r).document.Integral :=
  ⟨trivial, integral_strings _, trivial, trivial, trivial, integral_arr integral_tenantReport _,
    trivial⟩

theorem integral_deployed (d : ApplicationDescriptor) (n : Nat) :
    (deployed d n).document.Integral :=
  ⟨trivial, integral_strings _, integral_strings _, trivial, trivial⟩

theorem integral_bindings (tenant : String) (l : List Roles.Binding) :
    (bindings tenant l).document.Integral :=
  ⟨trivial, integral_arr integral_binding l, trivial⟩

theorem integral_users (tenant : String) (l : List Users.Provisioned) :
    (users tenant l).document.Integral :=
  ⟨trivial, integral_arr integral_provisioned l, trivial⟩

theorem integral_discovery (e : DiscoveryEntry) : (discovery e).document.Integral :=
  ⟨trivial, trivial, trivial, trivial, trivial⟩

theorem integral_teardown (r : TeardownReport) : (teardown r).document.Integral :=
  ⟨integral_strings _, integral_strings _, integral_strings _, integral_strings _,
    integral_strings _, trivial⟩

end Output

/-! ### Printing -/

namespace Console

variable {α β : Type} {S : List Event → α → Prop} {Q Q' : List Event → α → List Json → Prop}
  {R : List Event → β → List Json → Prop}

/-- Whatever is printed already, `a` prints documents whose numbers are integers if it succeeds, and
`Q` holds of what was seen of it, of its result and of the documents. -/
def Prints (a : Console α) (Q : List Event → α → List Json → Prop) : Prop :=
  ∀ ⦃printed events x printed'⦄, (a.run.run printed).Yields events (.ok x, printed') →
    ∃ documents, printed' = printed ++ Json.prettyLines documents ∧
      (∀ j ∈ documents, j.Integral) ∧ Q events x documents

namespace Prints

theorem mono {a : Console α} (h : Prints a Q)
    (sub : ∀ events x documents, Q events x documents → Q' events x documents) : Prints a Q' := by
  intro printed events x printed' hy
  obtain ⟨documents, hprinted, integral, hQ⟩ := h hy
  exact ⟨documents, hprinted, integral, sub _ _ _ hQ⟩

theorem pure {x : α} (h : Q [] x []) : Prints (pure x) Q := by
  intro printed events y printed' hy
  obtain ⟨rfl, hresult⟩ := Procedure.yields_done_iff.1 hy
  cases hresult
  exact ⟨[], by simp [Json.prettyLines], nofun, h⟩

theorem throw {fault : Fault} : Prints (throw fault) Q := by
  intro printed events y printed' hy
  obtain ⟨-, hresult⟩ := Procedure.yields_done_iff.1 hy
  cases hresult

theorem bind {a : Console α} {f : α → Console β} (first : Prints a Q)
    (rest : ∀ x, Prints (f x) fun events y documents => ∀ before earlier, Q before x earlier →
      R (before ++ events) y (earlier ++ documents)) : Prints (a >>= f) R := by
  intro printed events y printed' hy
  obtain ⟨⟨result, middle⟩, before, after, rfl, ha, hf⟩ := Procedure.yields_bind_iff.1
    (show (a.run.run printed >>= _ : Procedure (Except Fault β × String)).Yields events
      (.ok y, printed') from hy)
  cases result with
  | error fault =>
      obtain ⟨-, hresult⟩ := Procedure.yields_done_iff.1 hf
      cases hresult
  | ok x =>
      obtain ⟨earlier, rfl, integral, hQ⟩ := first ha
      obtain ⟨documents, rfl, integral', hR⟩ := rest x hf
      refine ⟨earlier ++ documents, ?_, List.forall_mem_append.2 ⟨integral, integral'⟩,
        hR before earlier hQ⟩
      rw [String.append_assoc, Json.prettyLines_append]

theorem stage {s : Staged α} (h : Action.Shows s S) :
    Prints (stage s) fun events x documents => S events x ∧ documents = [] := by
  intro printed events x printed' hy
  obtain ⟨result, before, after, rfl, hs, hdone⟩ := Procedure.yields_bind_iff.1
    (show (s.run >>= _ : Procedure (Except Fault α × String)).Yields events
      (.ok x, printed') from hy)
  obtain ⟨rfl, hresult⟩ := Procedure.yields_done_iff.1 hdone
  cases result with
  | error failure => cases hresult
  | ok x =>
      cases hresult
      rw [List.append_nil]
      exact ⟨[], by simp [Json.prettyLines], nofun, h hs, rfl⟩

theorem print {o : Output} {Q : List Event → Unit → List Json → Prop}
    (integral : o.document.Integral) (h : Q [] () [o.document]) : Prints (print .json o) Q := by
  intro printed events x printed' hy
  obtain ⟨rfl, hresult⟩ := Procedure.yields_done_iff.1 hy
  cases hresult
  refine ⟨[o.document], ?_, by simpa using integral, h⟩
  simp [Json.prettyLines, Output.text]

/-- A stage whose result is printed prints one document. -/
theorem report {s : Staged α} {output : α → Output}
    (integral : ∀ x, (output x).document.Integral) :
    Prints (report .json s output) fun _ _ documents => documents.length = 1 := by
  refine (stage (S := fun _ _ => True) fun _ _ _ => trivial).bind fun x => .print (integral x) ?_
  rintro _ _ ⟨-, rfl⟩
  rfl

/-- What prints one document for each item prints as many as there are items. -/
theorem forEach {f : α → Console Unit} {items : List α}
    (item : ∀ x ∈ items, Prints (f x) fun _ _ documents => documents.length = 1) :
    Prints (forEach f items) fun _ _ documents => documents.length = items.length := by
  induction items with
  | nil => exact .pure rfl
  | cons x rest ih =>
      have others := ih fun x' h => item x' (List.mem_cons_of_mem _ h)
      refine (item x List.mem_cons_self).bind fun _ => others.mono ?_
      intro _ _ documents count _ earlier one
      rw [List.length_append, one, count, List.length_cons, Nat.add_comm]

end Prints

end Console

/-! ### Commands -/

variable {p : Pipeline}

theorem TenantTask.prints (task : TenantTask) (tenant : String) :
    Console.Prints (task.execute p .json tenant) fun _ _ documents => documents.length = 1 := by
  cases task with
  | createRoles | removeRoles | detachCapabilitySets | removeUsers =>
      exact .report fun _ => Output.integral_names _ _
  | createUsers => exact .report fun _ => Output.integral_users _ _
  | attachCapabilitySets wait =>
      have attaching : Console.Prints (Console.report .json (p.attachCapabilitySets tenant)
          (.bindings tenant)) fun _ _ documents => documents.length = 1 :=
        .report fun _ => Output.integral_bindings _ _
      cases wait with
      | false => exact attaching
      | true =>
          refine (Console.Prints.stage (S := fun _ _ => True) fun _ _ _ => trivial).bind fun _ =>
            attaching.mono ?_
          rintro _ _ documents one _ _ ⟨-, rfl⟩
          exact one

/-- How many documents a command prints: one for each configured tenant that the platform was seen
to list, if it does a task for all of them, and else one. -/
def Command.Counts (c : Config) (events : List Event) (count : Nat) : Command → Prop
  | .forTenants _ none => ∃ time listed rest,
      events = ⟨time, .platform .listTenants, .ok listed⟩ :: rest ∧
        count = (listed.filter (·.name ∈ c.tenants)).length
  | _ => count = 1

theorem Command.Counts.unique {command : Command} {c : Config} {events : List Event}
    {count count' : Nat} (h : command.Counts c events count) (h' : command.Counts c events count') :
    count = count' := by
  cases command with
  | forTenants task only =>
      cases only with
      | some tenant => exact h.trans h'.symm
      | none =>
          obtain ⟨_, listed, rest, rfl, rfl⟩ := h
          obtain ⟨_, listed', rest', same, rfl⟩ := h'
          cases same
          rfl
  | _ => exact h.trans h'.symm

theorem targetTenants_prints_some (tenant : String) :
    Console.Prints (targetTenants p (some tenant)) fun _ tenants documents =>
      tenants = [tenant] ∧ documents = [] := by
  rw [targetTenants]
  split
  · exact .pure ⟨rfl, rfl⟩
  · exact .throw

theorem Command.prints (command : Command) :
    Console.Prints (command.execute p .json) fun events _ documents =>
      command.Counts p.config events documents.length := by
  cases command with
  | run => exact .report Output.integral_rollout
  | deployApplication => exact .report fun _ => Output.integral_deployed _ _
  | removeApplications | createTenants | removeTenants | createEntitlements
  | removeEntitlements | awaitHealth => exact .report fun _ => Output.integral_names _ _
  | updateDiscovery id location restore port => exact .report Output.integral_discovery
  | teardown => exact .report Output.integral_teardown
  | forTenants task only =>
      have each (tenants : List String) : Console.Prints
          (Console.forEach (task.execute p .json ·) tenants) fun _ _ documents =>
            documents.length = tenants.length := .forEach fun tenant _ => task.prints tenant
      cases only with
      | some tenant =>
          refine (targetTenants_prints_some tenant).bind fun tenants => (each tenants).mono ?_
          rintro _ _ documents count _ _ ⟨rfl, rfl⟩
          exact count
      | none =>
          refine (Console.Prints.stage Pipeline.existingTenants_conforms.shows).bind fun tenants =>
            (each tenants).mono ?_
          rintro events _ documents count _ _ ⟨⟨time, listed, rfl, rfl⟩, rfl⟩
          exact ⟨time, listed, events, rfl, by simpa using count⟩

/-- A command that succeeds prints documents, each on lines of its own: one, or one for each
configured tenant that the platform lists if it does a task for all of these. What is printed is
read as the document if there is one, and it is no JSON document if there are none or several. -/
theorem Command.prints_documents (p : Pipeline) (command : Command) {σ : Type}
    (surroundings : Surroundings σ) (state : σ) (clock : Nat)
    (succeeded : ((command.outcome p .json).run surroundings state clock).value.status = 0) :
    let r := (command.outcome p .json).run surroundings state clock
    (∃ documents : List Json, r.value.printed = Json.prettyLines documents ∧
      command.Counts p.config r.events documents.length ∧
      Json.Document.read r.value.printed = (Json.single? documents).map Json.toDocument) ∧
    ((Json.Document.read r.value.printed).isSome = true ↔ command.Counts p.config r.events 1) := by
  intro r
  obtain ⟨⟨result, printed⟩, hy, hvalue⟩ := Procedure.yields_map_iff.1
    (Procedure.yields_run surroundings (command.outcome p .json) state clock)
  have ends : r.value = Outcome.ofResult (result, printed) := hvalue.symm
  rw [ends] at succeeded ⊢
  cases result with
  | error fault => cases succeeded
  | ok x =>
      obtain ⟨documents, hprinted, integral, counts⟩ := command.prints hy
      obtain rfl : printed = Json.prettyLines documents := by rw [hprinted, String.empty_append]
      have read : Json.Document.read (Json.prettyLines documents) =
          (Json.single? documents).map Json.toDocument := Json.read_prettyLines integral
      refine ⟨⟨documents, rfl, counts, read⟩, ?_⟩
      show (Json.Document.read (Json.prettyLines documents)).isSome = true ↔ _
      rw [read, Option.isSome_map, Json.isSome_single?]
      exact ⟨fun one => one ▸ counts, counts.unique⟩

def roleless : Pipeline where
  config := { Config.sample with
    tenants := .ofList ["north", "south"]
    roles := .empty
    users := .empty }
  timings := .standard

def networked : Http.Server where
  reachable := true
  host := "http://localhost"
  queue := roleless.config.queue
  commands := none
  tokens := .always "token"

def listing (tenants : String) : Http.ServerState where
  routes := [⟨"GET", "http://localhost:9902/tenants",
    ⟨200, none, "\x7b\"tenants\": [" ++ tenants ++ "]\x7d"⟩, false, false⟩]
  arrivals := []
  commandsRun := 0

def north : String := "\x7b\"id\": \"t1\", \"name\": \"north\"\x7d"

def south : String := "\x7b\"id\": \"t2\", \"name\": \"south\"\x7d"

/-- Where the platform has one of the tenants, what is printed is one document. -/
theorem Command.prints_documents_one :
    let r := ((Command.forTenants .detachCapabilitySets none).outcome roleless .json).run
      networked.surroundings (listing north) 0
    r.value = ⟨0, "[]\n", none⟩ ∧ (Json.Document.read r.value.printed).isSome = true := by
  intro r
  have outcome : r.value = ⟨0, "[]\n", none⟩ := by decide +kernel
  have printed := Command.prints_documents roleless (.forTenants .detachCapabilitySets none)
    networked.surroundings (listing north) 0 (congrArg Outcome.status outcome)
  exact ⟨outcome, printed.2.2 ⟨0, [⟨"t1", "north", none⟩], _, rfl, by decide +kernel⟩⟩

/-- Where it has both, two documents are printed, and what is printed is none. -/
theorem Command.prints_documents_two :
    let r := ((Command.forTenants .detachCapabilitySets none).outcome roleless .json).run
      networked.surroundings (listing (north ++ ", " ++ south)) 0
    roleless.config.Accepted ∧ r.value = ⟨0, "[]\n[]\n", none⟩ ∧
      Json.Document.read r.value.printed = none := by
  intro r
  have outcome : r.value = ⟨0, "[]\n[]\n", none⟩ := by decide +kernel
  refine ⟨Config.fault?_eq_none_iff.1 (by decide +kernel), outcome, ?_⟩
  rw [outcome]
  rfl

end Rollout.CommandLine
