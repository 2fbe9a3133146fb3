import Rollout.Proofs.Pipeline.Ownership
import Rollout.Proofs.Pipeline.TeardownOrder

/-!
# Removals lose nothing

Users, roles, tenants and applications are removed in one way: records are listed, those that are
chosen are deleted one after the other, and the names of those that went are answered. A listing
that fails is the only failure that is not tolerated. Whatever becomes of the deletions, each chosen
record is attempted once, no other is, and none is told to have gone that did not.
-/

namespace Rollout

open Procedure (Yields)

inductive Removed {α : Type} (doing : String) (listing : Nat → Except Failure (List α) → Event)
    (chosen : α → Prop) [DecidablePred chosen] (deletion : α → Operation) (label : α → String) :
    List Event → Except Error (List String) → Prop
  /-- The listing fails; nothing is deleted, and the failure is told. -/
  | unlisted (time : Nat) (f : Failure) :
      Removed doing listing chosen deletion label [listing time (.error f)]
        (.error (.other (f.context doing)))
  /-- The listing is answered; the chosen records are attempted in its order, one deletion for each,
  and those whose deletion succeeded are named in that order. -/
  | swept (time : Nat) (listed : List α) (deletions : List Event)
      (attempts : deletions.map (·.call) =
        (listed.filter chosen).map fun x => .platform (deletion x)) :
      Removed doing listing chosen deletion label (listing time (.ok listed) :: deletions)
        (.ok ((((listed.filter chosen).zip deletions).filter (·.2.reply.isOk)).map (label ·.1)))

section

variable {α : Type} {doing : String} {listing : Nat → Except Failure (List α) → Event}
  {deletion : α → Operation} {label : α → String} {events : List Event}

/-- Records that are listed and swept are removed. -/
theorem removed_of_yields {a : Action (List α)} {value : Except Error (List String)}
    (lists : ∀ events value, a.run.Yields events value → ∃ time reply,
      events = [listing time reply] ∧ value = reply.mapError fun f => .other (f.context doing))
    {selects : α → Bool} (chosen : α → Prop) [DecidablePred chosen]
    (selects_iff : ∀ x, selects x = true ↔ chosen x)
    (hy : Yields (ExceptT.run do
      let listed ← a
      let removed ← Action.sweep deletion (listed.filter selects)
      return removed.map label) events value) :
    Removed doing listing chosen deletion label events value := by
  obtain rfl := eq_decide_of_iff selects_iff
  cases value with
  | ok names =>
      obtain ⟨listed, first, deletions, rfl, hlisted, hswept⟩ := Action.yields_bind_ok_iff.1 hy
      obtain ⟨time, reply, rfl, hreply⟩ := lists _ _ hlisted
      obtain ⟨result, hsweep, hnames⟩ := Action.yields_bind_pure_iff.1 hswept
      obtain ⟨removed, rfl, swept⟩ := Action.sweep_yields hsweep
      cases reply with
      | error f => cases hreply
      | ok listed =>
          cases hreply
          cases hnames
          rw [swept.kept_eq, List.map_map]
          exact .swept time listed deletions swept.calls
  | error e =>
      rcases Action.yields_bind_error_iff.1 hy with hlisted | ⟨listed, _, _, _, _, hswept⟩
      · obtain ⟨time, reply, rfl, hreply⟩ := lists _ _ hlisted
        cases reply with
        | error f =>
            cases hreply
            exact .unlisted time f
        | ok listed => cases hreply
      -- a sweep does not fail
      · obtain ⟨result, hsweep, hresult⟩ := Action.yields_bind_pure_iff.1 hswept
        obtain ⟨removed, rfl, -⟩ := Action.sweep_yields hsweep
        cases hresult

end

/-- Whatever the surroundings answer, the users and roles that are configured for the tenant of a
session, the configured tenants and all applications are removed as they are listed: with a listing
that fails nothing is deleted and its failure is told, and otherwise each is attempted once by its
id, and those that went are named. A listed role is configured under its name in small letters. -/
theorem removals_tolerant {σ : Type} (surroundings : Surroundings σ) (state : σ) (clock : Nat)
    (c : Config) (session : Session) :
    let users := (Users.remove c session).run.run surroundings state clock
    let roles := (Roles.remove c session).run.run surroundings state clock
    let tenants := (Tenants.remove c).run.run surroundings state clock
    let applications := Application.removeAll.run.run surroundings state clock
    Removed "listing users" (fun time reply => ⟨time, .platform (.listUsers session), reply⟩)
        (fun u => c.UserIn u.username session.tenant) (fun u => .deleteUser session u.id)
        (·.username) users.events users.value ∧
      Removed "listing roles" (fun time reply => ⟨time, .platform (.listRoles session), reply⟩)
        (fun r => c.RoleIn (Text.lowered r.name) session.tenant)
        (fun r => .deleteRole session r.id) (·.name) roles.events roles.value ∧
      Removed "listing tenants" (fun time reply => ⟨time, .platform .listTenants, reply⟩)
        (·.name ∈ c.tenants) (fun t => .deleteTenant t.id) (·.name) tenants.events tenants.value ∧
      Removed "listing applications" (fun time reply => ⟨time, .platform .listApplications, reply⟩)
        (fun _ => True) (fun a => .deleteApplication a.id) (·.id) applications.events
        applications.value := by
  intro users roles tenants applications
  refine ⟨?_, ?_, ?_, ?_⟩
  · exact removed_of_yields (fun _ _ => Action.operate_yields) _
      (fun _ => Users.isConfigured_iff) (Procedure.yields_run ..)
  · exact removed_of_yields (fun _ _ => Action.operate_yields) _
      (fun _ => Roles.isConfigured_iff) (Procedure.yields_run ..)
  · have hy : (Tenants.remove c).run.Yields tenants.events tenants.value :=
      Procedure.yields_run ..
    rw [Tenants.remove_eq] at hy
    exact removed_of_yields (fun _ _ => Action.operate_yields) _ (fun _ => Config.hasTenant_iff) hy
  · have hy : Application.removeAll.run.Yields applications.events applications.value :=
      Procedure.yields_run ..
    rw [Application.removeAll_eq] at hy
    exact removed_of_yields (fun _ _ => Action.operate_yields) _
      (fun _ => iff_of_true rfl trivial) hy

/-- Surroundings with three applications, two of one id, and one that cannot be deleted. -/
def reluctant : Surroundings Unit where
  answer
    | .platform .listApplications, s =>
        (⟨.ok [⟨"a", "first", "1"⟩, ⟨"b", "second", "1"⟩, ⟨"a", "third", "1"⟩], 0⟩, s)
    | .platform (.deleteApplication id), s =>
        (⟨if id = "b" then .error (.of "in use") else .ok (), 0⟩, s)
    | _, s => (⟨.error (.of "not to be asked"), 0⟩, s)

example :
    let r := Application.removeAll.run.run reluctant () 0
    r.value = .ok ["a", "a"] ∧ r.events.map (·.call) = [.platform .listApplications,
      .platform (.deleteApplication "a"), .platform (.deleteApplication "b"),
      .platform (.deleteApplication "a")] :=
  ⟨rfl, rfl⟩

end Rollout
