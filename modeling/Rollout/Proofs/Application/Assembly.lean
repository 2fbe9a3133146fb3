import Rollout.Proofs.Application.Plan
import Rollout.Proofs.Config.Belonging
import Rollout.Proofs.Hosted.Ends
import Rollout.Proofs.Pipeline.Footprint
import Rollout.Proofs.Procedure.Stops
import Rollout.Proofs.Rehearsal.Stages
import Rollout.Proofs.Text.Slashes

/-!
# What an assembled descriptor says

`Reflects c registry document planned d` says that `d` is the image of a plan: its entries are the
planned modules of either placement in the order of the plan, its discovery entries are those of the
backend modules with a port, and each entry goes with the document that the registry serves for it,
or else with the address where it is served.

Whatever the platform answers, a descriptor that is assembled reflects the plan for what the
registries listed (`assemble_reflects`). A hosted platform is only read meanwhile, so there the
listings and the documents are those that it holds.
-/

namespace Rollout.Application

open Rollout.Action (Abides StopsAt)
open History (Answered Lasting)

def placed (placement : Placement) (planned : List PlannedModule) : List PlannedModule :=
  planned.filter (·.placement = placement)

structure Enters (p : PlannedModule) (e : ModuleEntry) : Prop where
  id : e.id = p.module.id
  name : e.name = p.module.name
  version : e.version = p.module.version

/-- The discovery entry of a planned module, which leads to its sidecar. -/
structure Announces (c : Config) (p : PlannedModule) (e : DiscoveryEntry) : Prop where
  id : e.id = p.module.id
  name : e.name = p.module.name
  version : e.version = p.module.version
  location : ∃ port, p.module.serverPort = some port ∧
    e.location = "http://" ++ p.module.name ++ "-sc." ++ c.network ++ ":" ++ toString port.toNat

def ServedAt (registry id url : String) : Prop :=
  ∃ base, Text.WithSlashes registry base ∧ url = base ++ "/_/proxy/modules/" ++ id

theorem servedAt_iff {registry id url : String} :
    ServedAt registry id url ↔ url = descriptorUrl registry id := by
  constructor
  · rintro ⟨base, slashed, rfl⟩
    rw [descriptorUrl, slashed.withoutSlashes_eq]
  · rintro rfl
    exact ⟨_, Text.withSlashes_withoutSlashes registry, rfl⟩

theorem sidecarUrl_eq (name network : String) (port : Nat) :
    sidecarUrl name network port =
      "http://" ++ name ++ "-sc." ++ network ++ ":" ++ toString port := by
  apply String.toList_inj.1
  simp [sidecarUrl, sidecarSuffix]

/-- A descriptor is the image of a plan, where `document` says which document is served at an
address. -/
structure Reflects (c : Config) (registry : String) (document : String → Json → Prop)
    (planned : List PlannedModule) (d : ApplicationDescriptor) : Prop where
  backend : List.Forall₂ Enters (placed .backend planned) d.backendModules
  frontend : List.Forall₂ Enters (placed .frontend planned) d.frontendModules
  apart : ∀ e ∈ d.backendModules, ∀ e' ∈ d.frontendModules, e.name ≠ e'.name
  complete : ∀ p ∈ planned, ∃ e ∈ d.backendModules ++ d.frontendModules, Enters p e
  discovery : List.Forall₂ (Announces c)
    ((placed .backend planned).filter (·.module.serverPort.isSome)) d.discovery
  fetched : c.application.fetchDescriptors = true →
    (∀ e ∈ d.backendModules ++ d.frontendModules, e.url = none) ∧
      List.Forall₂ (fun e doc => ∃ url, ServedAt registry e.id url ∧ document url doc)
        d.backendModules d.moduleDescriptors ∧
      List.Forall₂ (fun e doc => ∃ url, ServedAt registry e.id url ∧ document url doc)
        d.frontendModules d.frontendModuleDescriptors
  linked : c.application.fetchDescriptors = false →
    (∀ e ∈ d.backendModules ++ d.frontendModules, ∃ url, e.url = some url ∧
      ServedAt registry e.id url) ∧
      d.moduleDescriptors = [] ∧ d.frontendModuleDescriptors = []

variable {c : Config} {registry : String} {document : String → Json → Prop}
  {modules : List Described}

section Descriptor

/-- A planned module is described as the configuration asks for it: with the document that is served
for it, or without any. -/
structure Fetched (c : Config) (registry : String) (document : String → Json → Prop)
    (m : Described) : Prop where
  fetched : c.application.fetchDescriptors = true →
    ∃ doc, m.descriptor = some doc ∧ document (descriptorUrl registry m.planned.module.id) doc
  linked : c.application.fetchDescriptors = false → m.descriptor = none

theorem placed_map_planned (placement : Placement) (modules : List Described) :
    placed placement (modules.map (·.planned)) =
      (modules.filter (·.planned.placement = placement)).map (·.planned) := by
  rw [placed, List.filter_map]
  rfl

theorem enters_entries (modules : List Described) : List.Forall₂ Enters
    (modules.map (·.planned)) (modules.map (Described.entry registry)) := by
  rw [List.forall₂_map_left_iff, List.forall₂_map_right_iff, List.forall₂_same]
  exact fun _ _ => ⟨rfl, rfl, rfl⟩

theorem announces_discovery (modules : List Described) : List.Forall₂ (Announces c)
    ((modules.map (·.planned)).filter (·.module.serverPort.isSome))
    (modules.filterMap (Described.discovery? c.network)) := by
  induction modules with
  | nil => exact .nil
  | cons m rest ih =>
      cases hport : m.planned.module.serverPort with
      | none =>
          have unannounced : Described.discovery? c.network m = none := by
            simp [Described.discovery?, hport]
          rw [List.filterMap_cons_none unannounced, List.map_cons,
            List.filter_cons_of_neg (by simp [hport])]
          exact ih
      | some port =>
          have announced : Described.discovery? c.network m = some ⟨m.planned.module.id,
              m.planned.module.name, m.planned.module.version,
              sidecarUrl m.planned.module.name c.network port.toNat⟩ := by
            simp [Described.discovery?, hport]
          rw [List.filterMap_cons_some announced, List.map_cons,
            List.filter_cons_of_pos (by simp [hport])]
          exact .cons ⟨rfl, rfl, rfl, port, hport, sidecarUrl_eq ..⟩ ih

theorem documents_of_fetched (fetch : c.application.fetchDescriptors = true)
    (h : ∀ m ∈ modules, Fetched c registry document m) :
    List.Forall₂ (fun e doc => ∃ url, ServedAt registry e.id url ∧ document url doc)
      (modules.map (Described.entry registry)) (modules.filterMap (·.descriptor)) := by
  induction modules with
  | nil => exact .nil
  | cons m rest ih =>
      obtain ⟨doc, hdoc, served⟩ := (h m List.mem_cons_self).fetched fetch
      rw [List.filterMap_cons_some hdoc, List.map_cons]
      exact .cons ⟨_, servedAt_iff.2 rfl, served⟩
        (ih fun m' hm' => h m' (List.mem_cons_of_mem _ hm'))

theorem mem_entries_iff {e : ModuleEntry} :
    e ∈ (descriptorOf c registry modules).backendModules ++
        (descriptorOf c registry modules).frontendModules ↔
      ∃ m ∈ modules, Described.entry registry m = e := by
  simp only [descriptorOf, List.mem_append, List.mem_map, List.mem_filter, decide_eq_true_eq]
  constructor
  · rintro (⟨m, ⟨hm, -⟩, rfl⟩ | ⟨m, ⟨hm, -⟩, rfl⟩)
    · exact ⟨m, hm, rfl⟩
    · exact ⟨m, hm, rfl⟩
  · rintro ⟨m, hm, rfl⟩
    cases hplacement : m.planned.placement with
    | backend => exact .inl ⟨m, ⟨hm, hplacement⟩, rfl⟩
    | frontend => exact .inr ⟨m, ⟨hm, hplacement⟩, rfl⟩

/-- The descriptor with some modules reflects the plan that they make up, if no two of them have one
name. -/
theorem descriptorOf_reflects
    (distinct : (modules.map (·.planned.module.name)).Nodup)
    (described : ∀ m ∈ modules, Fetched c registry document m) :
    Reflects c registry document (modules.map (·.planned)) (descriptorOf c registry modules) where
  backend := by
    rw [placed_map_planned]
    exact enters_entries _
  frontend := by
    rw [placed_map_planned]
    exact enters_entries _
  apart e he e' he' hname := by
    obtain ⟨m, hm, rfl⟩ := List.mem_map.1 he
    obtain ⟨m', hm', rfl⟩ := List.mem_map.1 he'
    obtain ⟨hm, hbackend⟩ := List.mem_filter.1 hm
    obtain ⟨hm', hfrontend⟩ := List.mem_filter.1 hm'
    obtain rfl : m = m' := List.inj_on_of_nodup_map distinct hm hm' hname
    simp [of_decide_eq_true hbackend] at hfrontend
  complete p hp := by
    obtain ⟨m, hm, rfl⟩ := List.mem_map.1 hp
    exact ⟨_, mem_entries_iff.2 ⟨m, hm, rfl⟩, rfl, rfl, rfl⟩
  discovery := by
    rw [placed_map_planned]
    exact announces_discovery _
  fetched fetch := by
    refine ⟨fun e he => ?_, documents_of_fetched fetch fun m hm => ?_,
      documents_of_fetched fetch fun m hm => ?_⟩
    · obtain ⟨m, hm, rfl⟩ := mem_entries_iff.1 he
      obtain ⟨doc, hdoc, -⟩ := (described m hm).fetched fetch
      simp [Described.entry, hdoc]
    · exact described m (List.mem_filter.1 hm).1
    · exact described m (List.mem_filter.1 hm).1
  linked link := by
    refine ⟨fun e he => ?_, List.filterMap_eq_nil_iff.2 fun m hm => ?_,
      List.filterMap_eq_nil_iff.2 fun m hm => ?_⟩
    · obtain ⟨m, hm, rfl⟩ := mem_entries_iff.1 he
      refine ⟨_, ?_, servedAt_iff.2 rfl⟩
      simp [Described.entry, (described m hm).linked link]
    · exact (described m (List.mem_filter.1 hm).1).linked link
    · exact (described m (List.mem_filter.1 hm).1).linked link

theorem Reflects.imp {document' : String → Json → Prop} {planned : List PlannedModule}
    {d : ApplicationDescriptor} (h : Reflects c registry document planned d)
    (sub : ∀ url doc, document url doc → document' url doc) :
    Reflects c registry document' planned d where
  __ := h
  fetched fetch := by
    obtain ⟨nowhere, backend, frontend⟩ := h.fetched fetch
    have served (e : ModuleEntry) (doc : Json) :
        (∃ url, ServedAt registry e.id url ∧ document url doc) →
          ∃ url, ServedAt registry e.id url ∧ document' url doc :=
      fun ⟨url, address, served⟩ => ⟨url, address, sub _ _ served⟩
    exact ⟨nowhere, backend.imp served, frontend.imp served⟩

end Descriptor

section Assembly

def answeredDocument (past : History) (url : String) (doc : Json) : Prop :=
  Answered (.platform (.moduleDescriptor url)) doc past

theorem lasting_fetched (m : Described) :
    Lasting fun past => Fetched c registry (answeredDocument past) m := by
  rintro past e ⟨fetched, linked⟩
  refine ⟨fun fetch => ?_, linked⟩
  obtain ⟨doc, hdoc, answered⟩ := fetched fetch
  exact ⟨doc, hdoc, History.lasting_answered _ _ _ _ answered⟩

/-- A planned module is described with what the platform answers for it. -/
theorem describe_abides {P : History → Prop} (lasts : Lasting P) (planned : PlannedModule) :
    Abides (fun _ _ => True) P (describe c registry planned) fun m past =>
      P past ∧ m.planned = planned ∧ Fetched c registry (answeredDocument past) m := by
  rw [describe]
  split
  next fetch =>
    refine .bind (.forEntity (.operate (S := fun doc past => P past ∧
      answeredDocument past (descriptorUrl registry planned.module.id) doc)
      (fun _ _ _ _ => trivial) fun past time doc hP => ⟨lasts _ _ hP, ?_⟩)) fun doc => ?_
    · exact History.answered_append_self _ _ _ _
    · refine .pure fun past h => ⟨h.1, rfl, fun _ => ⟨doc, rfl, h.2⟩, fun link => ?_⟩
      cases fetch.symm.trans link
  next link => exact .pure fun past hP => ⟨hP, rfl, fun fetch => absurd fetch link, fun _ => rfl⟩

theorem describeAll_abides {P : History → Prop} (lasts : Lasting P)
    (planned : List PlannedModule) :
    Abides (fun _ _ => True) P (each (describe c registry) planned) fun modules past =>
      P past ∧ planned = modules.map (·.planned) ∧
        ∀ m ∈ modules, Fetched c registry (answeredDocument past) m := by
  refine (Abides.each_paired (T := fun (p : PlannedModule) m past => m.planned = p ∧
    Fetched c registry (answeredDocument past) m) ?_
      fun p _ => describe_abides lasts p).weaken (fun _ => id) ?_
  · rintro p m past e ⟨hplanned, fetched⟩
    exact ⟨hplanned, lasting_fetched m past e fetched⟩
  · rintro modules past ⟨hP, paired⟩
    have hplanned : planned = modules.map (·.planned) := by
      rw [← List.forall₂_eq_eq_eq, List.forall₂_map_right_iff]
      exact paired.imp fun _ _ h => h.1.symm
    refine ⟨hP, hplanned, fun m hm => ?_⟩
    obtain ⟨p, -, -, fetched⟩ := exists_paired paired hm
    exact fetched

def Listed (c : Config) (listings : List (List RegistryModule)) (past : History) : Prop :=
  List.Forall₂ (fun entry listing =>
    Answered (.platform (.registryModules entry.2)) listing past) c.registries.entries listings

theorem lasting_listed (listings : List (List RegistryModule)) :
    Lasting (Listed c listings) := fun _ _ h =>
  List.Forall₂.imp (fun _ _ answered => History.lasting_answered _ _ _ _ answered) h

theorem listAll_abides {P : History → Prop} (lasts : Lasting P) {doing : String × String → String} :
    Abides (fun _ _ => True) P (each (fun (entry : String × String) =>
      Action.operate (doing entry) (.registryModules entry.2)) c.registries.entries)
      fun listings past => P past ∧ Listed c listings past := by
  refine Abides.each_paired (T := fun (entry : String × String) listing =>
    Answered (.platform (.registryModules entry.2)) listing)
    (fun _ _ => History.lasting_answered _ _) fun entry _ => ?_
  exact .operate (fun _ _ _ _ => trivial) fun past time listing hP =>
    ⟨lasts _ _ hP, History.answered_append_self _ _ _ _⟩

theorem descriptorRegistry_eq_ok_iff :
    descriptorRegistry c = .ok registry ↔ c.descriptorRegistryUrl? = some registry := by
  rw [descriptorRegistry]
  cases c.descriptorRegistryUrl? with
  | none => simp
  | some url => simp

/-- The registries are listed, the plan for them is made, and its modules are described. -/
theorem assemble_abides : Abides (fun _ _ => True) (fun _ => True) (assemble c) fun d past =>
    ∃ registry listings modules, c.descriptorRegistryUrl? = some registry ∧
      Listed c listings past ∧ plan c listings = .ok (modules.map (·.planned)) ∧
      (∀ m ∈ modules, Fetched c registry (answeredDocument past) m) ∧
      d = descriptorOf c registry modules := by
  refine .bind (Q := fun registry _ => c.descriptorRegistryUrl? = some registry)
    (.ofExcept fun _ _ h _ => descriptorRegistry_eq_ok_iff.1 h) fun registry => ?_
  refine .bind (listAll_abides fun _ _ => id) fun listings => ?_
  refine .bind (Q := fun planned past => Listed c listings past ∧
      c.descriptorRegistryUrl? = some registry ∧ plan c listings = .ok planned)
    (.ofExcept fun planned past hplan h => ⟨h.2, h.1, hplan⟩) fun planned => ?_
  refine .bind (describeAll_abides ?_ planned) fun modules => .pure ?_
  · rintro past e ⟨hlisted, h⟩
    exact ⟨lasting_listed listings past e hlisted, h⟩
  · rintro past ⟨⟨hlisted, hregistry, hplan⟩, rfl, fetched⟩
    exact ⟨registry, listings, modules, hregistry, hlisted, hplan, fetched, rfl⟩

variable {σ : Type} {surroundings : Surroundings σ} {state : σ} {clock : Nat}
  {d : ApplicationDescriptor}

/-- Whatever the platform answers, a descriptor that is assembled reflects the plan for what was
listed. -/
theorem assemble_reflects
    (h : ((assemble c).run.run surroundings state clock).value = .ok d) :
    let past := ((assemble c).run.run surroundings state clock).events
    ∃ registry listings planned, c.descriptorRegistryUrl? = some registry ∧
      Listed c listings past ∧ plan c listings = .ok planned ∧
      Reflects c registry (answeredDocument past) planned d := by
  have ended := (Procedure.Abides.of_run (assemble_abides (c := c)) trivial surroundings state
    clock).2
  rw [h] at ended
  obtain ⟨registry, listings, modules, hregistry, hlisted, hplan, described, rfl⟩ := ended
  have distinct := (isPlan_of_plan hplan).distinct
  rw [List.map_map] at distinct
  exact ⟨registry, listings, _, hregistry, hlisted, hplan,
    descriptorOf_reflects distinct described⟩

/-- An error of the configuration is met only if the descriptor registry is not configured. -/
theorem assemble_stops : StopsAt (fun e => ∀ text, e = .config text →
    c.descriptorRegistryUrl? = none) (assemble c) := by
  refine .bind (.ofExcept fun e he text _ => ?_) fun registry =>
    .bind (.each fun entry _ => .operate fun f text h => ?_) fun listings =>
      .bind (.ofExcept fun e he text h => ?_) fun planned =>
        .bind (.each fun p _ => ?_) fun modules => .pure
  · cases hurl : c.descriptorRegistryUrl? with
    | none => rfl
    | some url => cases he.symm.trans (descriptorRegistry_eq_ok_iff.2 hurl)
  · cases h
  · obtain ⟨id, -, rfl⟩ := plan_eq_error_iff.1 he
    cases h
  · rw [describe]
    split
    · refine .bind (.forEntity (.operate (E := fun _ => True) fun _ => trivial) ?_) fun _ => .pure
      intro e _ text h
      cases h
    · exact .pure

/-- Without a descriptor registry nothing is asked of the platform. -/
theorem assemble_unregistered (h : c.descriptorRegistryUrl? = none) :
    let r := (assemble c).run.run surroundings state clock
    (∃ text, r.value = .error (.config text)) ∧ r.events = [] := by
  have stopped : ((Action.ofExcept (descriptorRegistry c)).run.run surroundings state clock).value =
      .error (.config ("descriptor registry " ++ c.descriptorRegistry ++
        " is not among the configured registries")) := by
    rw [descriptorRegistry, h]
    rfl
  obtain ⟨hvalue, hevents⟩ := Action.run_bind_error stopped _
  exact ⟨⟨_, hvalue⟩, hevents⟩

theorem assemble_reads :
    ∀ e ∈ ((assemble c).run.run surroundings state clock).events, ∀ op, e.call = .platform op →
      op.isMutation = false := by
  have consults := Procedure.makes_iff.1 (assemble_orderly (c := c)).makes.run _ _
    (Procedure.yields_run surroundings _ state clock)
  intro e he op hop
  obtain ⟨url, hcall | hcall⟩ := consults e he
  · cases hop.symm.trans hcall
    rfl
  · cases hop.symm.trans hcall
    rfl

/-- On a hosted platform the listings are those that the platform holds. -/
theorem listings_of_listed (host : Host surroundings) {listed : List (List RegistryModule)}
    (h : Listed c listed ((assemble c).run.run surroundings state clock).events) :
    listed = listings c (host.memory state).content := by
  rw [listings, ← List.forall₂_eq_eq_eq, List.forall₂_map_right_iff]
  refine .flip (h.imp fun entry listing answered => ?_)
  exact (Except.ok.inj (host.content_of_answered _ assemble_reads answered)).symm

/-- On a hosted platform, a descriptor that is assembled reflects the plan for what the registries
list there, with the documents that are served there. Assembling changes nothing, and meets an error
of the configuration if and only if the descriptor registry is not configured; then nothing is asked
of the platform. -/
theorem assemble_faithful (host : Host surroundings) (c : Config) (state : σ) (clock : Nat) :
    let k := (host.memory state).content
    let r := (assemble c).run.run surroundings state clock
    (∀ d, r.value = .ok d → ∃ registry planned,
      c.registries.get? c.descriptorRegistry = some registry ∧
      plan c (listings c k) = .ok planned ∧
      Reflects c registry (fun url doc => k.descriptors url = some doc) planned d) ∧
    host.memory r.state = host.memory state ∧
    ((∃ text, r.value = .error (.config text)) ↔ c.registries.get? c.descriptorRegistry = none) ∧
    (c.registries.get? c.descriptorRegistry = none → r.events = []) := by
  intro k r
  refine ⟨fun d hd => ?_, host.run_still _ state clock assemble_reads, ⟨?_, fun h => ?_⟩,
    fun h => (assemble_unregistered h).2⟩
  · obtain ⟨registry, listed, planned, hregistry, hlisted, hplan, reflects⟩ := assemble_reflects hd
    rw [listings_of_listed host hlisted] at hplan
    refine ⟨registry, planned, hregistry, hplan, reflects.imp fun url doc answered => ?_⟩
    have held := host.content_of_answered _ assemble_reads answered
    rw [Content.answer] at held
    split at held
    next document hdocument => rwa [Except.ok.inj held] at hdocument
    next => cases held
  · rintro ⟨text, htext⟩
    exact assemble_stops.of_run htext text rfl
  · exact (assemble_unregistered h).1

end Assembly

/-- A module with a version override, beside one whose name is longer. -/
def neighbours (version : String) : Config where
  __ := Config.sample
  backendModules := .ofList [("mod", ⟨true, some 8082, none, some version⟩),
    ("mod-users", ⟨true, some 8081, none, none⟩)]

/-- There is no other override between the neighbours. -/
theorem overrides_neighbours {override name version : String}
    (h : (neighbours override).Overrides name version) : version = override := by
  cases h with
  | backend entry given =>
      simp only [neighbours, SortedMap.ofList, List.foldl_cons, List.foldl_nil,
        SortedMap.get?_insert, SortedMap.get?_empty] at entry
      split at entry
      · cases entry
        cases given
      · split at entry
        · cases entry
          exact (Option.some.inj given).symm
        · cases entry
  | frontend silent entry given => cases entry

def neighbourhood : Scripted.State where
  memory := ⟨.ofList [("http://registry", [⟨"mod-users-1.0.0", none⟩, ⟨"mod-1.0.0", none⟩])],
    ∅, [], [], ∅, ∅, ∅, [], []⟩
  probed := []
  polled := 0

end Rollout.Application
