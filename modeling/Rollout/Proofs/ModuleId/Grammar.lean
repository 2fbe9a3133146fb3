import Mathlib.Data.List.DropRight
import Rollout.ModuleId

/-!
# The grammar of module ids

A text spells a module id when it is made of marks, the name, marks and the version, one after the
other. A name has name letters only, and no mark at either end; a version begins with a digit. What
`split?` finds in a text is what the text spells (`split?_eq_some_iff`): the version begins where
the letters of the name and the marks end, and the name lies between the marks at both sides. So a
text spells one id at most, in one way.
-/

namespace Rollout.ModuleId

/-- Nothing but hyphens and underscores. -/
def Marks (cs : List Char) : Prop := ∀ c ∈ cs, c = '-' ∨ c = '_'

/-- A name: small letters, hyphens and underscores, with a letter at both ends. -/
structure IsName (cs : List Char) : Prop where
  ne_nil : cs ≠ []
  chars : ∀ c ∈ cs, ('a' ≤ c ∧ c ≤ 'z') ∨ c = '-' ∨ c = '_'
  head : ∀ c ∈ cs.head?, ¬ (c = '-' ∨ c = '_')
  last : ∀ c ∈ cs.getLast?, ¬ (c = '-' ∨ c = '_')

/-- A version: a digit, and letters, digits, points, underscores and hyphens after it. -/
def IsVersion : List Char → Prop
  | [] => False
  | digit :: rest =>
      ('0' ≤ digit ∧ digit ≤ '9') ∧ ∀ c ∈ rest, ('A' ≤ c ∧ c ≤ 'Z') ∨ ('a' ≤ c ∧ c ≤ 'z') ∨
        ('0' ≤ c ∧ c ≤ '9') ∨ c = '.' ∨ c = '_' ∨ c = '-'

/-- A text is marks, the name of an id, marks and its version. -/
structure Spells (raw before : String) (id : ModuleId) (between : String) : Prop where
  text : raw = before ++ id.name ++ between ++ id.version
  before : Marks before.toList
  name : IsName id.name.toList
  between : Marks between.toList
  version : IsVersion id.version.toList

section Classes

variable {c : Char} {cs : List Char}

theorem isMark_iff : isMark c = true ↔ c = '-' ∨ c = '_' := by
  simp [isMark]

theorem isNameChar_iff : isNameChar c = true ↔ ('a' ≤ c ∧ c ≤ 'z') ∨ c = '-' ∨ c = '_' := by
  simp [isNameChar, or_assoc]

theorem isNameChar_of_isMark (h : isMark c = true) : isNameChar c = true :=
  isNameChar_iff.2 (.inr (isMark_iff.1 h))

theorem isDigit_iff : c.isDigit = true ↔ '0' ≤ c ∧ c ≤ '9' := by
  simp [Char.isDigit, Char.le_def]

theorem isAlphanum_iff : c.isAlphanum = true ↔
    ('A' ≤ c ∧ c ≤ 'Z') ∨ ('a' ≤ c ∧ c ≤ 'z') ∨ '0' ≤ c ∧ c ≤ '9' := by
  delta Char.isAlphanum Char.isAlpha Char.isUpper Char.isLower Char.isDigit
  simp [Char.le_def, or_assoc]

theorem isVersionChar_iff : isVersionChar c = true ↔ ('A' ≤ c ∧ c ≤ 'Z') ∨ ('a' ≤ c ∧ c ≤ 'z') ∨
    ('0' ≤ c ∧ c ≤ '9') ∨ c = '.' ∨ c = '_' ∨ c = '-' := by
  simp [isVersionChar, isAlphanum_iff, or_assoc]

theorem isNameChar_of_isDigit (h : c.isDigit = true) : isNameChar c = false := by
  rw [isDigit_iff] at h
  rw [← Bool.not_eq_true, isNameChar_iff]
  rintro (⟨hc, -⟩ | rfl | rfl)
  · exact absurd (Char.le_trans hc h.2) (by decide)
  · exact absurd h.1 (by decide)
  · exact absurd h.2 (by decide)

theorem marks_iff : Marks cs ↔ ∀ c ∈ cs, isMark c = true := by
  simp only [Marks, isMark_iff]

theorem isVersion_iff : isVersion cs = true ↔ IsVersion cs := by
  cases cs with
  | nil => simp [isVersion, IsVersion]
  | cons digit rest =>
      simp only [isVersion, IsVersion, Bool.and_eq_true, List.all_eq_true, isDigit_iff,
        isVersionChar_iff]

end Classes

section Parts

variable {before name between version cs : List Char}

theorem trimMarks_eq (cs : List Char) :
    trimMarks cs = (cs.dropWhile isMark).rdropWhile isMark := rfl

/-- Marks around a name are trimmed. -/
theorem trimMarks_append (hbefore : Marks before) (hname : IsName name) (hbetween : Marks between) :
    trimMarks (before ++ name ++ between) = name := by
  obtain ⟨first, rest, rfl⟩ := List.exists_cons_of_ne_nil hname.ne_nil
  have hfirst : ¬ isMark first = true := isMark_iff.not.2 (hname.head first rfl)
  have hfront : (before ++ (first :: rest) ++ between).dropWhile isMark =
      (first :: rest) ++ between := by
    rw [List.append_assoc, List.dropWhile_append_of_pos (marks_iff.1 hbefore)]
    exact List.dropWhile_cons_of_neg hfirst
  have hlast : ¬ isMark ((first :: rest).getLast hname.ne_nil) = true :=
    isMark_iff.not.2 (hname.last _ (List.getLast?_eq_getLast_of_ne_nil _))
  rw [trimMarks_eq, hfront, List.rdropWhile, List.reverse_append,
    List.dropWhile_append_of_pos fun c hc => marks_iff.1 hbetween c (List.mem_reverse.1 hc)]
  exact List.rdropWhile_eq_self_iff.2 fun _ => hlast

/-- Trimming a text takes marks away from both ends. -/
theorem exists_marks_trimMarks (cs : List Char) :
    ∃ before between, Marks before ∧ Marks between ∧ cs = before ++ trimMarks cs ++ between := by
  refine ⟨cs.takeWhile isMark, (cs.dropWhile isMark).rtakeWhile isMark, ?_, ?_, ?_⟩
  · exact marks_iff.2 fun c hc => List.mem_takeWhile_imp hc
  · exact marks_iff.2 fun c hc => List.mem_rtakeWhile_imp hc
  · rw [trimMarks_eq, List.append_assoc, List.rdropWhile_append_rtakeWhile,
      List.takeWhile_append_dropWhile]

theorem isName_trimMarks (chars : ∀ c ∈ cs, isNameChar c = true) (held : trimMarks cs ≠ []) :
    IsName (trimMarks cs) where
  ne_nil := held
  chars c hc := by
    obtain ⟨before, between, -, -, hcs⟩ := exists_marks_trimMarks cs
    exact isNameChar_iff.1 (chars c (hcs ▸ by simp [hc]))
  head c hc := by
    obtain ⟨after, hfront⟩ : trimMarks cs <+: cs.dropWhile isMark := List.rdropWhile_prefix _ _
    have hhead : (cs.dropWhile isMark).head? = some c := by
      rw [← hfront, List.head?_append_of_ne_nil _ held]
      exact hc
    have hnot := List.head?_dropWhile_not isMark cs
    rw [hhead] at hnot
    exact isMark_iff.not.1 (by simpa using hnot)
  last c hc := by
    have hlast : (trimMarks cs).getLast held = c := by
      rw [Option.mem_def, List.getLast?_eq_getLast_of_ne_nil held] at hc
      exact Option.some.inj hc
    exact hlast ▸ isMark_iff.not.1 (List.rdropWhile_last_not _ _ held)

/-- The letters and marks in front of a version end where it begins. -/
theorem takeWhile_append_version (chars : ∀ c ∈ name, isNameChar c = true)
    (hversion : IsVersion version) :
    (name ++ version).takeWhile isNameChar = name ∧
      (name ++ version).dropWhile isNameChar = version := by
  cases version with
  | nil => exact hversion.elim
  | cons digit rest =>
      have hdigit : ¬ isNameChar digit = true := by
        rw [isNameChar_of_isDigit (isDigit_iff.2 hversion.1)]
        decide
      rw [List.takeWhile_append_of_pos chars, List.dropWhile_append_of_pos chars,
        List.takeWhile_cons_of_neg hdigit, List.dropWhile_cons_of_neg hdigit]
      simp

end Parts

section Spelling

variable {raw before before' between between' : String} {id id' : ModuleId}

theorem Spells.toList (h : Spells raw before id between) :
    raw.toList = before.toList ++ id.name.toList ++ between.toList ++ id.version.toList := by
  simp [h.text]

theorem Spells.nameChars (h : Spells raw before id between) :
    ∀ c ∈ before.toList ++ id.name.toList ++ between.toList, isNameChar c = true := by
  intro c hc
  rcases List.mem_append.1 hc with hc | hc
  · rcases List.mem_append.1 hc with hc | hc
    · exact isNameChar_of_isMark (marks_iff.1 h.before c hc)
    · exact isNameChar_iff.2 (h.name.chars c hc)
  · exact isNameChar_of_isMark (marks_iff.1 h.between c hc)

theorem Spells.split? (h : Spells raw before id between) : split? raw.toList = some id := by
  obtain ⟨htake, hdrop⟩ := takeWhile_append_version h.nameChars h.version
  rw [← h.toList] at htake hdrop
  have hname : trimMarks (raw.toList.takeWhile isNameChar) = id.name.toList := by
    rw [htake, trimMarks_append h.before h.name h.between]
  rw [ModuleId.split?, hname, hdrop, if_pos ⟨h.name.ne_nil, isVersion_iff.2 h.version⟩]
  simp

theorem exists_spells_of_split? (h : ModuleId.split? raw.toList = some id) :
    ∃ before between, Spells raw before id between := by
  rw [ModuleId.split?] at h
  split at h
  next hparts =>
    cases h
    obtain ⟨before, between, hbefore, hbetween, hcs⟩ :=
      exists_marks_trimMarks (raw.toList.takeWhile isNameChar)
    have chars : ∀ c ∈ raw.toList.takeWhile isNameChar, isNameChar c = true :=
      fun c hc => List.mem_takeWhile_imp hc
    refine ⟨String.ofList before, String.ofList between, ?_, ?_, ?_, ?_, ?_⟩
    · rw [← String.toList_inj]
      simp [← hcs]
    · simpa using hbefore
    · simpa using isName_trimMarks chars hparts.1
    · simpa using hbetween
    · simpa using isVersion_iff.1 hparts.2
  next => cases h

theorem split?_eq_some_iff :
    ModuleId.split? raw.toList = some id ↔ ∃ before between, Spells raw before id between :=
  ⟨exists_spells_of_split?, fun ⟨_, _, h⟩ => h.split?⟩

/-- A text spells one id at most, and in one way. -/
theorem Spells.unique (h : Spells raw before id between) (h' : Spells raw before' id' between') :
    before = before' ∧ id = id' ∧ between = between' := by
  have hid : id = id' := Option.some.inj (h.split?.symm.trans h'.split?)
  subst hid
  have hfront : before.toList ++ id.name.toList ++ between.toList =
      before'.toList ++ id.name.toList ++ between'.toList :=
    List.append_cancel_right (h.toList.symm.trans h'.toList)
  -- The marks in front are those that come before the first letter of the name.
  have marksBefore {b s : String} (hb : Marks b.toList) :
      (b.toList ++ id.name.toList ++ s.toList).takeWhile isMark = b.toList := by
    obtain ⟨first, rest, hname⟩ := List.exists_cons_of_ne_nil h.name.ne_nil
    have hfirst : ¬ isMark first = true := isMark_iff.not.2 (h.name.head first (by simp [hname]))
    rw [hname, List.append_assoc, List.takeWhile_append_of_pos (marks_iff.1 hb), List.cons_append,
      List.takeWhile_cons_of_neg hfirst, List.append_nil]
  have hbefore : before.toList = before'.toList := by
    rw [← marksBefore (s := between) h.before, hfront, marksBefore h'.before]
  rw [hbefore] at hfront
  have hbetween : between.toList = between'.toList := List.append_cancel_left hfront
  exact ⟨String.toList_inj.1 hbefore, rfl, String.toList_inj.1 hbetween⟩

theorem not_spells_reserved : ¬ Spells reservedId before id between := by
  intro h
  have hsplit := h.split?
  simp [show ModuleId.split? reservedId.toList = none from by decide] at hsplit

/-- The id that is spelt with one hyphen after the name, as ids are put together. -/
theorem spells_hyphen (name : IsName id.name.toList) (version : IsVersion id.version.toList) :
    Spells (id.name ++ "-" ++ id.version) "" id "-" :=
  ⟨by simp, by simp [Marks], name, by simp [Marks], version⟩

end Spelling

/-- A text is read as the reserved id if it is that id, and as a module id if it spells one, which
it does in one way at most; any other text is malformed, and told in the error as it is. A name and
a version with a hyphen between them spell their id. -/
theorem read_grammar (raw : String) :
    (read raw = .ok .reserved ↔ raw = "okapi") ∧
      (∀ id, read raw = .ok (.resolved id) ↔ ∃ before between, Spells raw before id between) ∧
      (∀ before before' id id' between between', Spells raw before id between →
        Spells raw before' id' between' → before = before' ∧ id = id' ∧ between = between') ∧
      (raw ≠ "okapi" → (¬ ∃ before id between, Spells raw before id between) →
        read raw = .error (.malformedIdentifier raw)) ∧
      ∀ id : ModuleId, IsName id.name.toList → IsVersion id.version.toList →
        read (id.name ++ "-" ++ id.version) = .ok (.resolved id) := by
  have resolved {raw : String} {id : ModuleId} :
      read raw = .ok (.resolved id) ↔ ∃ before between, Spells raw before id between := by
    rw [← split?_eq_some_iff, read]
    split
    next hreserved =>
      subst hreserved
      simp [split?_eq_some_iff, not_spells_reserved]
    next => cases ModuleId.split? raw.toList <;> simp
  refine ⟨?_, fun id => resolved, fun _ _ _ _ _ _ => Spells.unique, fun hother hnone => ?_,
    fun id name version => resolved.2 ⟨_, _, spells_hyphen name version⟩⟩
  · rw [read, reservedId]
    split
    next h => simp [h]
    next h => cases ModuleId.split? raw.toList <;> simp [h]
  · rw [read, reservedId, if_neg hother]
    cases hsplit : ModuleId.split? raw.toList with
    | none => rfl
    | some id =>
        obtain ⟨before, between, hspells⟩ := split?_eq_some_iff.1 hsplit
        exact absurd ⟨before, id, between, hspells⟩ hnone

example : read "-mod-users__2.1.0-b" = .ok (.resolved ⟨"mod-users", "2.1.0-b"⟩) := by decide

end Rollout.ModuleId
