import Rollout.Health.Body
import Rollout.Proofs.Json.Meaning

/-!
# What a health body says

A body that is a JSON document is judged by the last member of the document that is named `status`,
whatever else stands in it, and any other body by whether `OK` stands in it (`isHealthy_iff`).
-/

namespace Rollout.Health

open Json (Document stringPoints memberValue)

/-- The status of a document: the text of the last of its members that is named so. -/
def HasStatus (d : Document) (status : String) : Prop :=
  ∃ before after,
    d = .obj (before ++ (stringPoints "status", .str (stringPoints status)) :: after) ∧
      ∀ m ∈ after, m.1 ≠ stringPoints "status"

theorem statusUp_iff {j : Json} : statusUp j = true ↔
    ∃ status, j.get? "status" = some (.str status) ∧ "UP".toList <:+: status.toList := by
  rw [statusUp]
  cases j.get? "status" with
  | none => simp
  | some value =>
      cases value with
      | str status => simp [Json.text?, Text.contains, Text.holds_iff]
      | _ => simp [Json.text?]

variable {d : Document} {s : String} {j : Json}

/-- The status is read from the value of a document as it is written. -/
theorem get?_status_iff (sound : d.IsSound s) (means : d.meaning? Json.maxDepth = some j)
    (status : String) : j.get? "status" = some (.str status) ↔ HasStatus d status := by
  have valid := Json.LaidOut.valid sound.text
  have ofMembers {members : List (List Nat × Document)} (same : d = .obj members) :
      j.get? "status" = some (.str status) ↔ HasStatus d status := by
    subst same
    obtain ⟨values, rfl, read⟩ := Document.exists_values_of_meaning? means
    have tokens := Json.forall_mem_memberTokens trivial trivial valid
    rw [Json.get?_membersMeaning? (fun m hm => tokens m hm _ List.mem_cons_self) read, HasStatus]
    constructor
    · rintro ⟨before, d, after, rfl, apart, up⟩
      have inside := fun t ht => tokens _ (List.mem_append_right _ List.mem_cons_self) t
        (List.mem_cons_of_mem _ (List.mem_cons_of_mem _ ht))
      obtain rfl := (Document.meaning?_eq_str_iff inside).1 up
      exact ⟨before, after, rfl, apart⟩
    · rintro ⟨before, after, same, apart⟩
      obtain rfl := Document.obj.inj same
      have inside := fun t ht => tokens _ (List.mem_append_right _ List.mem_cons_self) t
        (List.mem_cons_of_mem _ (List.mem_cons_of_mem _ ht))
      exact ⟨before, _, after, rfl, apart, (Document.meaning?_eq_str_iff inside).2 rfl⟩
  constructor
  · intro h
    obtain ⟨values, rfl⟩ := Json.exists_obj_of_get? h
    obtain ⟨members, same⟩ := Document.exists_obj_of_meaning? means
    exact (ofMembers same).1 h
  · intro h
    have ⟨before, after, same, _⟩ := h
    exact (ofMembers same).2 h

/-- The verdict on a body, and which numbers a document may have. -/
theorem isHealthy_iff (body : String) :
    (∀ d : Document, d.IsSound body → (isHealthy body = true ↔
      ∃ status, HasStatus d status ∧ "UP".toList <:+: status.toList)) ∧
    ((¬ ∃ d : Document, d.IsSound body) →
      (isHealthy body = true ↔ "OK".toList <:+: body.toList)) ∧
    ∀ d : Document, d.IsText body → ∀ digits, .num digits ∈ d.tokens →
      (digits.magnitude ≤ 2 ^ (1024 : Int) * (1 - 1 / 2 ^ 50) → digits.InRange) ∧
      (2 ^ (1024 : Int) * (1 + 1 / 2 ^ 50) ≤ digits.magnitude → ¬ digits.InRange) := by
  refine ⟨?_, ?_, fun d text digits mem => text.inRange mem⟩
  · intro d sound
    obtain ⟨j, means⟩ := sound.exists_meaning
    have found : Json.read body = some j := Json.read_eq_some_iff.2 ⟨d, sound, means⟩
    rw [isHealthy, found]
    dsimp only
    rw [statusUp_iff]
    exact exists_congr fun status => and_congr_left' (get?_status_iff sound means status)
  · intro unsound
    have nothing : Json.read body = none := by
      refine Option.eq_none_iff_forall_ne_some.2 fun j found => ?_
      obtain ⟨d, sound, -⟩ := Json.read_eq_some_iff.1 found
      exact unsound ⟨d, sound⟩
    rw [isHealthy, nothing]
    exact Text.holds_iff

/-- An object whose status is repeated and written with escapes is judged by the last of them. -/
theorem isHealthy_iff_escaped : isHealthy
    "\x7b\"status\": \"DOWN\", \"st\\u0061tus\": \"\\u0055P\", \"n\": [1]\x7d" = true := by
  have read : Document.read
      "\x7b\"status\": \"DOWN\", \"st\\u0061tus\": \"\\u0055P\", \"n\": [1]\x7d" = some (.obj [
        (stringPoints "status", .str (stringPoints "DOWN")),
        (stringPoints "status", .str (stringPoints "UP")),
        (stringPoints "n", .arr [.num ⟨false, ['1'], [], none⟩])]) := rfl
  refine ((isHealthy_iff _).1 _ ⟨Document.isText_iff.2 ⟨read, ?_⟩, by decide, ?_⟩).2
    ⟨"UP", ⟨[(stringPoints "status", .str (stringPoints "DOWN"))],
      [(stringPoints "n", .arr [.num ⟨false, ['1'], [], none⟩])], rfl, by decide⟩, by decide⟩
  · decide
  · simp [Document.tokens, Json.membersTokens, Json.itemsTokens]
    decide

end Rollout.Health
