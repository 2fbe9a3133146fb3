import Rollout.Proofs.Config.Belonging
import Rollout.Proofs.Text.Ascii
import Rollout.Roles.Name

/-!
# The names of roles with ASCII keys

The name of a role keeps the length of its key and every character up to its case, and it depends on
nothing but the small form of the key: where a word begins is told by which characters are
alphanumeric, and the case of a letter plays no part in that. Both are inductions along the key, and
all else follows from the two. Keys collide exactly if they are the same up to case, a name is its
own name, and the way back from a name ends at the small form of the key.
-/

namespace Rollout.Roles

open Text (IsAscii SameUpToCase isAlphanumeric)

variable {cs : List Char}

theorem capitalized_cons_ascii {c : Char} (h : IsAscii c) (wordStart : Bool) (cs : List Char) :
    capitalized wordStart (c :: cs) =
      (if isAlphanumeric c then if wordStart then c.toUpper else c.toLower else c) ::
        capitalized (! isAlphanumeric c) cs := by
  rw [capitalized]
  cases alphanumeric : isAlphanumeric c with
  | false => rfl
  | true =>
      rw [Text.uppercase_ascii h, Text.lowercase_ascii h]
      cases wordStart <;> rfl

theorem isAscii_capitalized (h : ∀ c ∈ cs, IsAscii c) (wordStart : Bool) :
    ∀ c ∈ capitalized wordStart cs, IsAscii c := by
  induction cs generalizing wordStart with
  | nil => simp [capitalized]
  | cons c cs ih =>
      obtain ⟨hc, hcs⟩ := List.forall_mem_cons.1 h
      rw [capitalized_cons_ascii hc, List.forall_mem_cons]
      refine ⟨?_, ih hcs _⟩
      split
      · split
        · exact hc.toUpper
        · exact hc.toLower
      · exact hc

/-- Capitalizing changes nothing but the case of letters. -/
theorem capitalized_sameUpToCase (h : ∀ c ∈ cs, IsAscii c) (wordStart : Bool) :
    SameUpToCase (capitalized wordStart cs) cs := by
  induction cs generalizing wordStart with
  | nil => rfl
  | cons c cs ih =>
      obtain ⟨hc, hcs⟩ := List.forall_mem_cons.1 h
      rw [SameUpToCase, capitalized_cons_ascii hc, List.map_cons, List.map_cons, ih hcs]
      congr 1
      split
      · split
        · exact Text.toLower_toUpper hc
        · exact Text.toLower_toLower hc
      · rfl

/-- Words begin at the same places in the small form of a text, and are capitalized alike there. -/
theorem capitalized_map_toLower (h : ∀ c ∈ cs, IsAscii c) (wordStart : Bool) :
    capitalized wordStart (cs.map Char.toLower) = capitalized wordStart cs := by
  induction cs generalizing wordStart with
  | nil => rfl
  | cons c cs ih =>
      obtain ⟨hc, hcs⟩ := List.forall_mem_cons.1 h
      rw [List.map_cons, capitalized_cons_ascii hc.toLower, capitalized_cons_ascii hc,
        Text.isAlphanumeric_toLower hc, Text.toUpper_toLower hc, Text.toLower_toLower hc, ih hcs]
      cases alphanumeric : isAlphanumeric c with
      | false => rw [Text.toLower_of_not_alphanumeric hc alphanumeric]
      | true => rfl

theorem capitalized_eq_iff {ds : List Char} (hcs : ∀ c ∈ cs, IsAscii c) (hds : ∀ d ∈ ds, IsAscii d)
    (wordStart : Bool) :
    capitalized wordStart cs = capitalized wordStart ds ↔ SameUpToCase cs ds := by
  constructor
  · intro h
    calc cs.map Char.toLower = (capitalized wordStart cs).map Char.toLower :=
          (capitalized_sameUpToCase hcs wordStart).symm
      _ = (capitalized wordStart ds).map Char.toLower := by rw [h]
      _ = ds.map Char.toLower := capitalized_sameUpToCase hds wordStart
  · intro h
    rw [← capitalized_map_toLower hcs, h, capitalized_map_toLower hds]

/-! ### Names and keys -/

variable {a b : String}

theorem toList_platformName (key : String) :
    (platformName key).toList = capitalized true key.toList := String.toList_ofList

theorem platformName_eq_iff (ha : ∀ c ∈ a.toList, IsAscii c) (hb : ∀ c ∈ b.toList, IsAscii c) :
    platformName a = platformName b ↔ SameUpToCase a.toList b.toList := by
  rw [platformName, platformName, String.ofList_inj, capitalized_eq_iff ha hb]

theorem platformName_sameUpToCase (ha : ∀ c ∈ a.toList, IsAscii c) :
    SameUpToCase (platformName a).toList a.toList := by
  rw [toList_platformName]
  exact capitalized_sameUpToCase ha true

theorem isAscii_platformName (ha : ∀ c ∈ a.toList, IsAscii c) :
    ∀ c ∈ (platformName a).toList, IsAscii c := by
  rw [toList_platformName]
  exact isAscii_capitalized ha true

/-- The way back from the name of a role ends at the small form of its key. -/
theorem lowered_platformName (ha : ∀ c ∈ a.toList, IsAscii c) :
    Text.lowered (platformName a) = String.ofList (a.toList.map Char.toLower) := by
  rw [Text.lowered, Text.lowerAfter_ascii (isAscii_platformName ha), platformName_sameUpToCase ha]

theorem lowered_platformName_eq_self_iff (ha : ∀ c ∈ a.toList, IsAscii c) :
    Text.lowered (platformName a) = a ↔ ∀ c ∈ a.toList, c.isUpper = false := by
  rw [lowered_platformName ha, ← Text.map_toLower_eq_self_iff ha, ← String.toList_inj,
    String.toList_ofList]

theorem roleFor?_eq_some_iff {c : Config} {name key : String} {settings : RoleSettings} :
    c.roleFor? name = some (key, settings) ↔
      Text.lowered name = key ∧ c.roles.get? key = some settings := by
  simp only [Config.roleFor?, Option.map_eq_some_iff, Prod.mk.injEq]
  constructor
  · rintro ⟨_, found, rfl, rfl⟩
    exact ⟨rfl, found⟩
  · rintro ⟨rfl, found⟩
    exact ⟨settings, found, rfl, rfl⟩

/-- Roles with ASCII keys collide exactly if their keys are the same up to case. The name of such a
role is its own name, it has the length of the key and the same characters up to case, and it leads
back to the entry of the key exactly if the key has no capital. -/
theorem platformName_upToCase (ha : ∀ c ∈ a.toList, IsAscii c) (hb : ∀ c ∈ b.toList, IsAscii c) :
    (platformName a = platformName b ↔ SameUpToCase a.toList b.toList) ∧
      platformName (platformName a) = platformName a ∧
      (platformName a).length = a.length ∧
      SameUpToCase (platformName a).toList a.toList ∧
      ∀ (c : Config) (settings : RoleSettings), c.roles.get? a = some settings →
        (c.roleFor? (platformName a) = some (a, settings) ↔
          ∀ ch ∈ a.toList, ch.isUpper = false) := by
  have same := platformName_sameUpToCase ha
  refine ⟨platformName_eq_iff ha hb, (platformName_eq_iff (isAscii_platformName ha) ha).2 same,
    ?_, same, ?_⟩
  · rw [← String.length_toList, ← String.length_toList, same.length_eq]
  · intro c settings configured
    rw [roleFor?_eq_some_iff, and_iff_left configured, lowered_platformName_eq_self_iff ha]

def twoSpellings : Config := { Config.sample with
  roles := .ofList [("circ_STAFF", ⟨"north", []⟩), ("circ_staff", ⟨"north", ["all"]⟩)] }

/-- The two keys bear one name, which leads back to the one in small letters. -/
theorem platformName_twoSpellings :
    platformName "circ_STAFF" = platformName "circ_staff" ∧
      platformName (platformName "circ_STAFF") = platformName "circ_STAFF" ∧
      (platformName "circ_STAFF").length = 10 ∧
      twoSpellings.roleFor? (platformName "circ_STAFF") ≠ some ("circ_STAFF", ⟨"north", []⟩) ∧
      twoSpellings.roleFor? (platformName "circ_staff") =
        some ("circ_staff", ⟨"north", ["all"]⟩) := by
  have large : ∀ c ∈ "circ_STAFF".toList, IsAscii c := by simp [IsAscii]
  have small : ∀ c ∈ "circ_staff".toList, IsAscii c := by simp [IsAscii]
  obtain ⟨collide, again, length, -, back⟩ := platformName_upToCase large small
  obtain ⟨-, -, -, -, back'⟩ := platformName_upToCase small large
  have configured : twoSpellings.roles.get? "circ_STAFF" = some ⟨"north", []⟩ ∧
      twoSpellings.roles.get? "circ_staff" = some ⟨"north", ["all"]⟩ := by decide +kernel
  refine ⟨collide.2 (by decide +kernel), again, length, ?_, ?_⟩
  · rw [Ne, back twoSpellings ⟨"north", []⟩ configured.1]
    simp
  · rw [back' twoSpellings ⟨"north", ["all"]⟩ configured.2]
    simp

end Rollout.Roles
