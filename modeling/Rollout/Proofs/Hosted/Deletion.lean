import Rollout.Proofs.Hosted.Ends

/-!
# Deleting records

A collection is the records of one kind that a platform holds, with the mutation that deletes those
with an id. A sweep that deletes a list of records leaves exactly the records whose ids are not in
the list, in their order; this holds of the applications, of the tenants, and of the roles and the
users of each tenant.
-/

namespace Rollout

open Function (update)

/-- The records of one kind, each with an id, and the mutation that deletes by id. -/
structure Collection (α : Type) where
  get : Content → List α
  put : Content → List α → Content
  idOf : α → String
  delete : String → Operation
  name : String
  mutation : ∀ id, (delete id).isMutation = true
  name_delete : ∀ id, (delete id).name = name
  get_put : ∀ k records, get (put k records) = records
  put_get : ∀ k, put k (get k) = k
  put_put : ∀ k first second, put (put k first) second = put k second
  change_delete : ∀ k id, k.change (delete id) = put k ((get k).filter (idOf · ≠ id))

namespace Collection

variable {α : Type}

def applications : Collection ApplicationSummary where
  get := Content.applications
  put k records := { k with applications := records }
  idOf := ApplicationSummary.id
  delete := .deleteApplication
  name := "delete_application"
  mutation _ := rfl
  name_delete _ := rfl
  get_put _ _ := rfl
  put_get _ := rfl
  put_put _ _ _ := rfl
  change_delete _ _ := rfl

def tenants : Collection Tenant where
  get := Content.tenants
  put k records := { k with tenants := records }
  idOf := Tenant.id
  delete := .deleteTenant
  name := "delete_tenant"
  mutation _ := rfl
  name_delete _ := rfl
  get_put _ _ := rfl
  put_get _ := rfl
  put_put _ _ _ := rfl
  change_delete _ _ := rfl

def roles (session : Session) : Collection Role where
  get k := k.roles session.tenant
  put k records := { k with roles := update k.roles session.tenant records }
  idOf := Role.id
  delete := .deleteRole session
  name := "delete_role"
  mutation _ := rfl
  name_delete _ := rfl
  get_put _ _ := Function.update_self ..
  put_get _ := by simp
  put_put _ _ _ := by simp
  change_delete _ _ := rfl

def users (session : Session) : Collection UserRecord where
  get k := k.users session.tenant
  put k records := { k with users := update k.users session.tenant records }
  idOf := UserRecord.id
  delete := .deleteUser session
  name := "delete_user"
  mutation _ := rfl
  name_delete _ := rfl
  get_put _ _ := Function.update_self ..
  put_get _ := by simp
  put_put _ _ _ := by simp
  change_delete _ _ := rfl

variable (C : Collection α)

/-- The content without the records that have one of some ids. -/
def without (k : Content) (ids : List String) : Content :=
  C.put k ((C.get k).filter (C.idOf · ∉ ids))

theorem without_nil (k : Content) : C.without k [] = k := by
  have all : (C.get k).filter (C.idOf · ∉ []) = C.get k := by simp
  rw [without, all, C.put_get]

/-- One more deletion. -/
theorem change_without (k : Content) (ids : List String) (id : String) :
    (C.without k ids).change (C.delete id) = C.without k (ids ++ [id]) := by
  have filters : ((C.get k).filter (C.idOf · ∉ ids)).filter (C.idOf · ≠ id) =
      (C.get k).filter (C.idOf · ∉ ids ++ [id]) := by
    rw [List.filter_filter]
    refine List.filter_congr fun x _ => ?_
    simp [and_comm]
  rw [C.change_delete, without, C.get_put, C.put_put, filters, without]

/-- A sweep of deletions that do not fail deletes all that it is given, and nothing else but what
has the same id. -/
theorem sweep_ends {σ : Type} {surroundings : Surroundings σ} {host : Host surroundings}
    {m : Memory} {mayFail : Prop} {k : Content} {failing : List String}
    (shows : m.Shows k failing) (works : C.name ∉ failing) (items : List α) :
    host.Ends (Action.sweep (fun x => C.delete (C.idOf x)) items) m mayFail fun deleted m' =>
      deleted = items ∧ m'.Shows (C.without k (items.map C.idOf)) failing := by
  refine .sweep (I := fun done deleted m' =>
    deleted = done ∧ m'.Shows (C.without k (done.map C.idOf)) failing) ?_ ?_
  · exact ⟨rfl, by rwa [List.map_nil, C.without_nil]⟩
  · rintro done deleted x rest - m' ⟨rfl, shows'⟩
    refine (Host.Ends.attempt shows' (C.mutation _)).weaken ?_
    rw [C.name_delete]
    rintro succeeded m'' ⟨rfl, rfl⟩
    rw [if_neg works]
    have after := shows'.after (C.delete (C.idOf x))
    rw [C.change_without] at after
    exact ⟨by simp [works], by simpa using after⟩

end Collection

end Rollout
