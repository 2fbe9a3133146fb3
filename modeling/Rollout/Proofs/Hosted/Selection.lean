import Mathlib.Data.Set.Basic
import Rollout.Proofs.Data.First
import Rollout.Proofs.Hosted.Ends

/-!
# What a selection of capability sets is

A capability set can be offered more than once: under a name that occurs twice, by an application
that is registered twice, or because two sets share an id. `offered` lists all that is offered, with
these repetitions, and `selectedSets` keeps the first of each id. That names
are made distinct before they are looked up does not show in the outcome. The ids depend only on
which names, applications and capability sets there are, and not on their order or on how often each
occurs.
-/

namespace Rollout

namespace Roles

/-- The ids of the capability sets of a tenant that some names select: those of every registered
application if the names ask for all, and else those that bear one of the names. -/
def selectedIds (k : Content) (tenant : String) (names : List String) : Set String :=
  {id | ∃ set ∈ k.capabilitySets tenant, set.id = id ∧
    if allSets ∈ names then ∃ a ∈ k.applications, a.id = set.applicationId else set.name ∈ names}

/-- The capability sets of a tenant that some names are answered: those of one registered
application after the other if the names ask for all, and else those that bear one name after the
other. -/
def offered (k : Content) (tenant : String) (names : List String) : List CapabilitySet :=
  if allSets ∈ names then
    k.applications.flatMap fun a => (k.capabilitySets tenant).filter (·.applicationId = a.id)
  else names.flatMap fun name => (k.capabilitySets tenant).filter (·.name = name)

def selectedSets (k : Content) (tenant : String) (names : List String) : List CapabilitySet :=
  firstByKey CapabilitySet.id [] (offered k tenant names)

/-- Some capability sets are an exact selection by names: each id occurs once, on the first set
with it that is offered, in the order in which the ids are first offered; and the ids are those that
the names select. -/
structure Selects (k : Content) (tenant : String) (names : List String)
    (sets : List CapabilitySet) : Prop where
  distinct : (sets.map (·.id)).Nodup
  first : ∀ set, set ∈ sets ↔ FirstOf (·.id = set.id) (offered k tenant names) set
  ordered : sets.Pairwise fun set other =>
    Sooner (·.id = set.id) (·.id = other.id) (offered k tenant names)
  exact : {x | x ∈ sets.map (·.id)} = selectedIds k tenant names

section

variable {k k' : Content} {tenant : String} {names names' : List String}

theorem mem_offered {set : CapabilitySet} :
    set ∈ offered k tenant names ↔ set ∈ k.capabilitySets tenant ∧
      if allSets ∈ names then ∃ a ∈ k.applications, a.id = set.applicationId
      else set.name ∈ names := by
  rw [offered]
  split
  next hall =>
    simp only [List.mem_flatMap, List.mem_filter, decide_eq_true_eq]
    constructor
    · rintro ⟨a, ha, hset, hid⟩
      exact ⟨hset, a, ha, hid.symm⟩
    · rintro ⟨hset, a, ha, hid⟩
      exact ⟨a, ha, hset, hid.symm⟩
  next hall =>
    simp only [List.mem_flatMap, List.mem_filter, decide_eq_true_eq]
    constructor
    · rintro ⟨name, hname, hset, rfl⟩
      exact ⟨hset, hname⟩
    · rintro ⟨hset, hname⟩
      exact ⟨set.name, hname, hset, rfl⟩

theorem selects_selectedSets (k : Content) (tenant : String) (names : List String) :
    Selects k tenant names (selectedSets k tenant names) where
  distinct := nodup_map_firstByKey
  first _ := mem_firstByKey.trans (and_iff_right List.not_mem_nil)
  ordered := pairwise_firstByKey
  exact := by
    ext id
    have kept : id ∈ (selectedSets k tenant names).map CapabilitySet.id ↔
        id ∈ (offered k tenant names).map CapabilitySet.id ∧ id ∉ [] := mem_map_firstByKey
    rw [Set.mem_ofPred_eq, kept, and_iff_left List.not_mem_nil, List.mem_map]
    simp only [mem_offered, selectedIds, Set.mem_ofPred_eq]
    constructor
    · rintro ⟨set, ⟨hset, hnames⟩, hid⟩
      exact ⟨set, hset, hid, hnames⟩
    · rintro ⟨set, hset, hid, hnames⟩
      exact ⟨set, ⟨hset, hnames⟩, hid⟩

/-- What is selected depends on nothing but which names, applications and capability sets there
are. -/
theorem selectedIds_congr (sameNames : ∀ name, name ∈ names ↔ name ∈ names')
    (sameApplications : ∀ a, a ∈ k.applications ↔ a ∈ k'.applications)
    (sameSets : ∀ set, set ∈ k.capabilitySets tenant ↔ set ∈ k'.capabilitySets tenant) :
    selectedIds k tenant names = selectedIds k' tenant names' := by
  ext id
  simp only [selectedIds, Set.mem_ofPred_eq, sameNames, sameApplications, sameSets]

end

variable {σ : Type} {surroundings : Surroundings σ} {host : Host surroundings} {m : Memory}
  {k : Content} {failing : List String} {c : Config} {session : Session}

theorem select_ends (shows : m.Shows k failing) (names : List String) :
    host.Ends (select session (.ofNames names)) m True fun sets m' =>
      sets = selectedSets k session.tenant names ∧ m' = m := by
  rw [Selection.ofNames]
  split
  next hall =>
    refine .bind (.read shows rfl rfl fun _ => trivial) fun applications m' hm' => ?_
    obtain ⟨rfl, rfl⟩ := hm'
    refine .bind (.each_still fun a _ => .read shows rfl rfl fun _ => trivial) fun sets m' hm' => ?_
    obtain ⟨rfl, rfl⟩ := hm'
    refine .pure ⟨?_, rfl⟩
    rw [selectedSets, offered, if_pos hall, ← List.flatMap_def]
  next hall =>
    refine .bind (.each_still fun a _ => .read shows rfl rfl fun _ => trivial) fun sets m' hm' => ?_
    obtain ⟨rfl, rfl⟩ := hm'
    refine .pure ⟨?_, rfl⟩
    rw [selectedSets, offered, if_neg hall, ← List.flatMap_def]
    exact firstByKey_flatMap nofun

end Roles

end Rollout
