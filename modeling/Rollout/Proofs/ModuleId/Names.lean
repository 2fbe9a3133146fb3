import Rollout.ModuleRef
import Rollout.Proofs.ModuleId.Grammar

/-!
# What an id names

A text names a module when it spells the id of one, whatever marks stand around the name. What is
read from a text is then one of three things: it is the reserved id, it names a module, or it is
malformed.

An id that is put together from a name and a version with a hyphen names them if and only if the
version is one (`names_hyphen_iff`).
-/

namespace Rollout

namespace ModuleId

/-- A text is the id of a module, in some spelling. -/
def Names (raw : String) (id : ModuleId) : Prop := ∃ before between, Spells raw before id between

/-- A text is the id of some version of the module with a name. -/
def Mentions (raw name : String) : Prop := ∃ version, Names raw ⟨name, version⟩

/-- A text is neither the id of a module nor the reserved id. -/
def Malformed (raw : String) : Prop := raw ≠ reservedId ∧ ∀ id, ¬ Names raw id

variable {raw name version : String} {id id' : ModuleId}

theorem names_iff : Names raw id ↔ split? raw.toList = some id := split?_eq_some_iff.symm

theorem Names.unique (h : Names raw id) (h' : Names raw id') : id = id' :=
  Option.some.inj ((names_iff.1 h).symm.trans (names_iff.1 h'))

theorem Names.isName (h : Names raw id) : IsName id.name.toList := by
  obtain ⟨before, between, spells⟩ := h
  exact spells.name

theorem Names.isVersion (h : Names raw id) : IsVersion id.version.toList := by
  obtain ⟨before, between, spells⟩ := h
  exact spells.version

theorem Names.not_malformed (h : Names raw id) : ¬ Malformed raw := fun hmalformed =>
  hmalformed.2 id h

theorem not_names_reserved : ¬ Names reservedId id := by
  rintro ⟨before, between, spells⟩
  exact not_spells_reserved spells

theorem not_malformed_reserved : ¬ Malformed reservedId := fun h => h.1 rfl

/-- What is read from a text. -/
theorem read_cases (raw : String) :
    (raw = reservedId ∧ read raw = .ok .reserved) ∨
      (∃ id, Names raw id ∧ read raw = .ok (.resolved id)) ∨
        Malformed raw ∧ read raw = .error (.malformedIdentifier raw) := by
  rw [read]
  split
  next hreserved => exact .inl ⟨hreserved, rfl⟩
  next hother =>
    cases hsplit : split? raw.toList with
    | some id => exact .inr (.inl ⟨id, names_iff.2 hsplit, rfl⟩)
    | none =>
        refine .inr (.inr ⟨⟨hother, fun id hid => ?_⟩, rfl⟩)
        cases hsplit.symm.trans (names_iff.1 hid)

/-- An id that has to be one of a module is read as the module that it names. -/
theorem readModule_eq_ok_iff : readModule raw = .ok id ↔ Names raw id := by
  rcases read_cases raw with ⟨rfl, hread⟩ | ⟨other, hother, hread⟩ | ⟨hmalformed, hread⟩
  · simp [readModule, hread, bind, Except.bind, not_names_reserved]
  · simp only [readModule, hread, bind, Except.bind, Except.ok.injEq]
    exact ⟨fun h => h ▸ hother, fun h => hother.unique h⟩
  · simp [readModule, hread, bind, Except.bind, hmalformed.2 id]

theorem names_hyphen_iff (hname : IsName name.toList) :
    Names (name ++ "-" ++ version) ⟨name, version⟩ ↔ IsVersion version.toList :=
  ⟨fun h => h.isVersion, fun h => ⟨"", "-", @spells_hyphen ⟨name, version⟩ hname h⟩⟩

theorem isVersionChar_of_isNameChar {c : Char} (h : isNameChar c = true) :
    isVersionChar c = true := by
  rw [isVersionChar_iff]
  rcases isNameChar_iff.1 h with hc | rfl | rfl
  · exact .inr (.inl hc)
  · simp
  · simp

/-- All of an id is made of the characters of a version. -/
theorem Names.chars (h : Names raw id) : ∀ c ∈ raw.toList, isVersionChar c = true := by
  obtain ⟨before, between, spells⟩ := h
  intro c hc
  rw [spells.toList] at hc
  rcases List.mem_append.1 hc with hc | hc
  · exact isVersionChar_of_isNameChar (spells.nameChars c hc)
  · have hversion := isVersion_iff.2 spells.version
    cases htext : id.version.toList with
    | nil => simp [htext] at hc
    | cons digit rest =>
        rw [htext, ModuleId.isVersion, Bool.and_eq_true, List.all_eq_true] at hversion
        rcases List.mem_cons.1 (htext ▸ hc) with rfl | hc
        · simp [isVersionChar, Char.isAlphanum, hversion.1]
        · exact hversion.2 c hc

end ModuleId

namespace ModuleRef

open ModuleId (Names Malformed)

def listed (raw : String) (id : ModuleId) : ModuleRef :=
  ⟨raw, id.name, id.version, id.sidecarName, false, none⟩

/-- What an id of a listing stands for. -/
theorem resolve_cases (raw : String) :
    (raw = reservedId ∧ resolve raw = .ok none) ∨
      (∃ id, Names raw id ∧ resolve raw = .ok (some (listed raw id))) ∨
        Malformed raw ∧ resolve raw = .error (.malformedIdentifier raw) := by
  rcases ModuleId.read_cases raw with ⟨hreserved, hread⟩ | ⟨id, hid, hread⟩ | ⟨hmalformed, hread⟩
  · exact .inl ⟨hreserved, by rw [resolve, hread]; rfl⟩
  · exact .inr (.inl ⟨id, hid, by rw [resolve, hread]; rfl⟩)
  · exact .inr (.inr ⟨hmalformed, by rw [resolve, hread]; rfl⟩)

/-- An id of a listing stands for something unless it is malformed. -/
theorem exists_resolve_iff {raw : String} : (∃ m, resolve raw = .ok m) ↔ ¬ Malformed raw := by
  rcases resolve_cases raw with ⟨rfl, hresolve⟩ | ⟨id, hid, hresolve⟩ | ⟨hbad, hresolve⟩
  · exact iff_of_true ⟨_, hresolve⟩ ModuleId.not_malformed_reserved
  · exact iff_of_true ⟨_, hresolve⟩ hid.not_malformed
  · exact iff_of_false (by simp [hresolve]) (not_not_intro hbad)

end ModuleRef

end Rollout
