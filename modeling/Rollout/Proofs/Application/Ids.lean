import Rollout.Proofs.Application.Assembly

/-!
# When two modules of an application have one id

The modules of an application are told apart by their names. A listed id gives its name away, so
two modules that keep their listed ids have different ones. A version override is any text, though,
and is put behind the name with a hyphen: where one name goes on as another does after a hyphen, the
override of the shorter one can go on as the longer one does, up to the end of its id. This is the
only way in which two modules can come to have one id (`IsPlan.id_eq_iff`).
-/

namespace Rollout

open ModuleId (Names IsName IsVersion Marks)

namespace Application

/-- The version override in effect for a name takes up another module: it goes on as the name of the
other does, and then as the id of the other does after its name. -/
def TakesUp (c : Config) (name other otherId : String) : Prop :=
  ∃ rest suffix, rest ≠ "" ∧ other = name ++ "-" ++ rest ∧ c.Overrides name (rest ++ suffix) ∧
    otherId = other ++ suffix

variable {c : Config} {ids : List String} {name other override id : String}
  {planned : List PlannedModule} {p q : PlannedModule}

section Spelling

theorem TakesUp.ne (h : TakesUp c name other id) : name ≠ other := by
  obtain ⟨rest, suffix, -, hother, -⟩ := h
  intro heq
  have hlength := congrArg String.length (heq.trans hother)
  simp only [String.length_append] at hlength
  have hhyphen : "-".length = 1 := rfl
  omega

/-- A text that begins as a name does has no marks in front. -/
theorem marks_eq_nil {before rest name after : List Char} (hbefore : Marks before)
    (named : IsName name) (h : before ++ rest = name ++ after) : before = [] := by
  cases before with
  | nil => rfl
  | cons mark before =>
      obtain ⟨letter, letters, rfl⟩ := List.exists_cons_of_ne_nil named.ne_nil
      obtain ⟨rfl, -⟩ := List.cons.inj h
      exact absurd (hbefore mark List.mem_cons_self) (named.head mark rfl)

/-- Where a version begins after some marks, no longer name goes on before a hyphen. -/
theorem version_ne_more {name more between version after : List Char}
    (named : IsName (name ++ more)) (hmore : more ≠ []) (hbetween : Marks between)
    (hversion : IsVersion version) : between ++ version ≠ more ++ '-' :: after := by
  intro h
  have nameChars : ∀ c ∈ more, ModuleId.isNameChar c = true := fun c hc =>
    ModuleId.isNameChar_iff.2 (named.chars c (List.mem_append_right _ hc))
  have marks : (between ++ version).takeWhile ModuleId.isNameChar = between :=
    (ModuleId.takeWhile_append_version (fun c hc => ModuleId.isNameChar_of_isMark
      (ModuleId.marks_iff.1 hbetween c hc)) hversion).1
  rw [h, List.takeWhile_append_of_pos nameChars] at marks
  have last : more.getLast hmore ∈ (name ++ more).getLast? := by
    rw [List.getLast?_append_of_ne_nil _ hmore, List.getLast?_eq_getLast_of_ne_nil hmore]
    rfl
  have mark : more.getLast hmore ∈ between :=
    marks ▸ List.mem_append_left _ (List.getLast_mem hmore)
  exact named.last _ last (hbetween _ mark)

/-- Where a name is longer than another one with an override, and their ids go on alike, the
override takes the longer one up. -/
theorem takesUp_of_more {more : List Char} (suffix : String) (named : IsName other.toList)
    (differ : name ≠ other) (overridden : c.Overrides name override)
    (hother : other.toList = name.toList ++ more)
    (hrest : '-' :: override.toList = more ++ suffix.toList) :
    TakesUp c name other (other ++ suffix) := by
  cases more with
  | nil => exact absurd (String.toList_inj.1 (by simpa using hother.symm)) differ
  | cons hyphen rest =>
      obtain ⟨rfl, hoverride⟩ := List.cons.inj hrest
      have held : rest ≠ [] := by
        rintro rfl
        exact named.last '-' (by simp [hother]) (.inl rfl)
      have hoverride : override = String.ofList rest ++ suffix := by
        rw [← String.toList_inj]
        simpa using hoverride
      refine ⟨String.ofList rest, suffix, ?_, ?_, hoverride ▸ overridden, rfl⟩
      · rw [ne_eq, ← String.toList_inj]
        simpa using held
      · rw [← String.toList_inj]
        simpa using hother

end Spelling

section Planned

/-- The id of a planned module: it names the module, or it is the name with an override. -/
def IsIdOf (c : Config) (name id : String) : Prop :=
  (∃ version, Names id ⟨name, version⟩) ∨
    ∃ override, c.Overrides name override ∧ id = name ++ "-" ++ override

theorem Settled.isIdOf (h : Settled c ids p) : IsIdOf c p.module.name p.module.id := by
  by_cases silent : ∀ version, ¬ c.Overrides p.module.name version
  · exact .inl ⟨_, (h.listed silent).2⟩
  · obtain ⟨override, overridden⟩ := not_forall_not.1 silent
    exact .inr ⟨override, overridden, (h.overridden override overridden).2⟩

theorem takesUp_of_overridden (named : IsName name.toList) (named' : IsName other.toList)
    (differ : name ≠ other) (overridden : c.Overrides name override)
    (isId : IsIdOf c other (name ++ "-" ++ override)) :
    TakesUp c name other (name ++ "-" ++ override) ∨
      TakesUp c other name (name ++ "-" ++ override) := by
  rcases isId with ⟨version, before, between, spells⟩ | ⟨override', overridden', hid⟩
  · have text := spells.toList
    simp only [String.toList_append, List.append_assoc] at text
    have hbefore : before.toList = [] := marks_eq_nil spells.before named text.symm
    rw [hbefore, List.nil_append] at text
    rcases List.append_eq_append_iff.1 text with ⟨more, hother, hrest⟩ | ⟨more, hname, hrest⟩
    · have h := takesUp_of_more (between ++ version) named' differ overridden hother
        (by simpa using hrest)
      rw [spells.text, String.toList_inj.1 (hbefore.trans String.toList_empty.symm)]
      simpa [String.append_assoc] using Or.inl h
    · have hmore : more ≠ [] := by
        rintro rfl
        exact differ (String.toList_inj.1 (by simpa using hname))
      exact absurd hrest (version_ne_more (hname ▸ named) hmore spells.between spells.version)
  · have text := congrArg String.toList hid
    simp only [String.toList_append, List.append_assoc] at text
    rcases List.append_eq_append_iff.1 text with ⟨more, hother, hrest⟩ | ⟨more, hname, hrest⟩
    · have h := takesUp_of_more ("-" ++ override') named' differ overridden hother
        (by simpa using hrest)
      rw [hid, String.append_assoc]
      exact .inl h
    · have h := takesUp_of_more ("-" ++ override) named (Ne.symm differ) overridden' hname
        (by simpa using hrest)
      rw [String.append_assoc]
      exact .inr h

/-- Two planned modules have one id if and only if an override takes one of them up. -/
theorem IsPlan.id_eq_iff (h : IsPlan c ids planned) (hp : p ∈ planned) (hq : q ∈ planned)
    (differ : p.module.name ≠ q.module.name) :
    p.module.id = q.module.id ↔ TakesUp c p.module.name q.module.name q.module.id ∨
      TakesUp c q.module.name p.module.name p.module.id := by
  have overridden_of_takesUp {p q : PlannedModule} (hp : p ∈ planned)
      (taken : TakesUp c p.module.name q.module.name q.module.id) :
      p.module.id = q.module.id := by
    obtain ⟨rest, suffix, -, hother, overridden, hid⟩ := taken
    rw [((h.settled p hp).overridden _ overridden).2, hid, hother, String.append_assoc,
      String.append_assoc, String.append_assoc]
  constructor
  · intro hid
    rcases (h.settled p hp).isIdOf with ⟨version, names⟩ | ⟨override, overridden, hpid⟩
    · rcases (h.settled q hq).isIdOf with ⟨version', names'⟩ | ⟨override, overridden, hqid⟩
      · exact absurd (congrArg ModuleId.name (names.unique (hid ▸ names'))) differ
      · have taken := takesUp_of_overridden (h.isName hq) (h.isName hp) differ.symm overridden
          (hqid ▸ hid ▸ (h.settled p hp).isIdOf)
        rw [← hqid] at taken
        exact hid ▸ taken.symm
    · have taken := takesUp_of_overridden (h.isName hp) (h.isName hq) differ overridden
        (hpid ▸ hid ▸ (h.settled q hq).isIdOf)
      rw [← hpid] at taken
      exact hid ▸ taken
  · rintro (taken | taken)
    · exact overridden_of_takesUp hp taken
    · exact (overridden_of_takesUp hq taken).symm

/-- Some of the planned modules have different ids if and only if none takes up another. -/
theorem IsPlan.nodup_ids_iff (h : IsPlan c ids planned) {chosen : List PlannedModule}
    (sub : chosen ⊆ planned) (distinct : (chosen.map (·.module.name)).Nodup) :
    (chosen.map (·.module.id)).Nodup ↔
      ∀ p ∈ chosen, ∀ q ∈ chosen, ¬ TakesUp c p.module.name q.module.name q.module.id := by
  rw [List.nodup_map_iff_inj_on distinct.of_map]
  constructor
  · intro injective p hp q hq taken
    have same := injective p hp q hq ((h.id_eq_iff (sub hp) (sub hq) taken.ne).2 (.inl taken))
    exact taken.ne (same ▸ rfl)
  · intro free p hp q hq hid
    by_contra differ
    have names : p.module.name ≠ q.module.name := fun heq =>
      differ (List.inj_on_of_nodup_map distinct hp hq heq)
    rcases (h.id_eq_iff (sub hp) (sub hq) names).1 hid with taken | taken
    · exact free p hp q hq taken
    · exact free q hq p hp taken

end Planned

section Descriptor

variable {registry : String} {document : String → Json → Prop} {d : ApplicationDescriptor}

theorem perm_placed (planned : List PlannedModule) :
    (placed .backend planned ++ placed .frontend planned).Perm planned := by
  have frontend : placed .frontend planned =
      planned.filter fun p => !decide (p.placement = .backend) := by
    refine List.filter_congr fun p _ => ?_
    cases p.placement <;> rfl
  rw [frontend]
  exact List.filter_append_perm _ _

/-- The entries of a descriptor bear the names and ids of planned modules. -/
theorem Reflects.modules_labels (h : Reflects c registry document planned d) :
    (d.backendModules ++ d.frontendModules).map (fun e => (e.name, e.id)) =
      (placed .backend planned ++ placed .frontend planned).map
        fun p => (p.module.name, p.module.id) := by
  rw [← List.forall₂_eq_eq_eq, List.forall₂_map_left_iff, List.forall₂_map_right_iff]
  exact .flip ((List.rel_append h.backend h.frontend).imp fun p e entered => by
    rw [flip, entered.name, entered.id])

theorem Reflects.discovery_labels (h : Reflects c registry document planned d) :
    d.discovery.map (fun e => (e.name, e.id)) =
      ((placed .backend planned).filter (·.module.serverPort.isSome)).map
        fun p => (p.module.name, p.module.id) := by
  rw [← List.forall₂_eq_eq_eq, List.forall₂_map_left_iff, List.forall₂_map_right_iff]
  exact .flip (h.discovery.imp fun p e announced => by rw [flip, announced.name, announced.id])

section Labels

variable {α : Type} {nameOf idOf : α → String} {entries : List α} {chosen : List PlannedModule}

theorem ids_of_labels (labels : entries.map (fun e => (nameOf e, idOf e)) =
      chosen.map fun p => (p.module.name, p.module.id)) :
    entries.map idOf = chosen.map (·.module.id) := by
  simpa [Function.comp_def] using congrArg (List.map Prod.snd) labels

/-- What holds of the ids of planned modules holds of entries that bear their names and ids. -/
theorem nodup_ids_congr (labels : entries.map (fun e => (nameOf e, idOf e)) =
      chosen.map fun p => (p.module.name, p.module.id))
    (h : (chosen.map (·.module.id)).Nodup ↔
      ∀ p ∈ chosen, ∀ q ∈ chosen, ¬ TakesUp c p.module.name q.module.name q.module.id) :
    (entries.map idOf).Nodup ↔
      ∀ e ∈ entries, ∀ e' ∈ entries, ¬ TakesUp c (nameOf e) (nameOf e') (idOf e') := by
  have free : (∀ a ∈ entries.map (fun e => (nameOf e, idOf e)),
      ∀ b ∈ entries.map (fun e => (nameOf e, idOf e)), ¬ TakesUp c a.1 b.1 b.2) ↔
      ∀ p ∈ chosen, ∀ q ∈ chosen, ¬ TakesUp c p.module.name q.module.name q.module.id := by
    rw [labels]
    simp only [List.forall_mem_map]
  simp only [List.forall_mem_map] at free
  rw [ids_of_labels labels, h, free]

end Labels

/-- An override that begins with a digit takes no module up. -/
theorem not_takesUp_of_digit (named : IsName other.toList)
    (digits : ∀ version, c.Overrides name version →
      ∀ first ∈ version.toList.head?, first.isDigit = true) : ¬ TakesUp c name other id := by
  rintro ⟨rest, suffix, held, rfl, overridden, -⟩
  cases htext : rest.toList with
  | nil => exact held (String.toList_inj.1 htext)
  | cons first others =>
      have hdigit := digits _ overridden first (by simp [htext])
      have hname := ModuleId.isNameChar_iff.2 (named.chars first (by simp [htext]))
      rw [ModuleId.isNameChar_of_isDigit hdigit] at hname
      cases hname

end Descriptor

variable {σ : Type} {surroundings : Surroundings σ} {state : σ} {clock : Nat}
  {d : ApplicationDescriptor}

/-- Whatever the platform answers, the modules of a descriptor that is assembled have different ids
if and only if no version override in effect for one of them takes up another, and so have its
discovery entries. In particular they do if no override begins with anything but a digit. -/
theorem assemble_ids (h : ((assemble c).run.run surroundings state clock).value = .ok d) :
    let modules := d.backendModules ++ d.frontendModules
    ((modules.map (·.id)).Nodup ↔
      ∀ e ∈ modules, ∀ e' ∈ modules, ¬ TakesUp c e.name e'.name e'.id) ∧
    ((d.discovery.map (·.id)).Nodup ↔
      ∀ e ∈ d.discovery, ∀ e' ∈ d.discovery, ¬ TakesUp c e.name e'.name e'.id) ∧
    ((∀ e ∈ modules, ∀ version, c.Overrides e.name version →
        ∀ first ∈ version.toList.head?, first.isDigit = true) →
      (modules.map (·.id)).Nodup ∧ (d.discovery.map (·.id)).Nodup) := by
  intro modules
  obtain ⟨registry, listed, planned, -, -, hplan, reflects⟩ := assemble_reflects h
  have isPlan := isPlan_of_plan hplan
  have perm := perm_placed planned
  have all := nodup_ids_congr reflects.modules_labels
    (isPlan.nodup_ids_iff perm.subset ((perm.map _).nodup_iff.2 isPlan.distinct))
  have sub : ((placed .backend planned).filter (·.module.serverPort.isSome)).Sublist
      (placed .backend planned ++ placed .frontend planned) :=
    List.filter_sublist.trans (List.sublist_append_left _ _)
  have announced := nodup_ids_congr reflects.discovery_labels
    (isPlan.nodup_ids_iff (List.Subset.trans sub.subset perm.subset)
      ((sub.map _).nodup ((perm.map _).nodup_iff.2 isPlan.distinct)))
  refine ⟨all, announced, fun digits => ?_⟩
  have distinct : (modules.map (·.id)).Nodup := by
    refine all.2 fun e he e' he' => not_takesUp_of_digit ?_ (digits e he)
    have labelled := List.mem_map_of_mem (f := fun e => (e.name, e.id)) he'
    rw [reflects.modules_labels] at labelled
    obtain ⟨p, hp, hlabel⟩ := List.mem_map.1 labelled
    rw [← (Prod.mk.inj hlabel).1]
    exact isPlan.isName (perm.subset hp)
  refine ⟨distinct, ?_⟩
  rw [ids_of_labels reflects.modules_labels] at distinct
  rw [ids_of_labels reflects.discovery_labels]
  exact (sub.map _).nodup distinct

/-- With a version for the shorter name, the two modules have different ids. -/
theorem assemble_ids_differ : ∃ d, ((assemble (neighbours "2.0.0")).run.run
      (Scripted.surroundings ⟨[], [], .missing⟩) neighbourhood 0).value = .ok d ∧
    ((d.backendModules ++ d.frontendModules).map (·.id)).Nodup ∧
    (d.discovery.map (·.id)).Nodup := by
  have assembled : ((assemble (neighbours "2.0.0")).run.run
      (Scripted.surroundings ⟨[], [], .missing⟩) neighbourhood 0).value = .ok _ := rfl
  refine ⟨_, assembled, (assemble_ids assembled).2.2 ?_⟩
  intro e he version overridden first hfirst
  rw [overrides_neighbours overridden] at hfirst
  obtain rfl : '2' = first := Option.some.inj hfirst
  rfl

/-- With an override that takes the longer name up, the two modules have one id. -/
theorem assemble_ids_coincide : (neighbours "users-1.0.0").Accepted ∧
    ∃ d, ((assemble (neighbours "users-1.0.0")).run.run
      (Scripted.surroundings ⟨[], [], .missing⟩) neighbourhood 0).value = .ok d ∧
    ¬ ((d.backendModules ++ d.frontendModules).map (·.id)).Nodup ∧
    ¬ (d.discovery.map (·.id)).Nodup := by
  refine ⟨Config.fault?_eq_none_iff.1 (by decide), _, rfl, ?_, ?_⟩
  · decide
  · decide

end Application

end Rollout
