import Rollout.Proofs.Application.Restoring
import Rollout.Proofs.Http.Sending

/-!
# Discovery entries on the network

The id of a module stands in the path of the request that replaces its discovery entry, with hyphens
for colons. An id that names a module is plain, points in its version included, so it arrives there
as it is written (`Discovery.update_addressed`). An id that names no module is not sent at all.
-/

namespace Rollout

namespace Discovery

open Http (IsPlain MadeOf Request applicationsPort)

variable {id network : String} {location : Option String} {restore : Bool} {port : Port}
  {e : DiscoveryEntry} {m : ModuleId}

theorem hyphenated_eq (id : String) :
    hyphenated id = String.ofList (id.toList.map fun c => if c = ':' then '-' else c) := by
  rw [← String.toList_inj, hyphenated, String.toList_map, String.toList_ofList]

theorem isPlain_of_names (h : ModuleId.Names id m) : IsPlain id.toList where
  chars c hc := by
    have version := h.chars c hc
    simp only [ModuleId.isVersionChar, Bool.or_eq_true, decide_eq_true_eq] at version
    simp only [List.mem_cons, List.not_mem_nil, or_false]
    tauto
  named := by
    have nameless : ∀ dots ∈ [['.'], ['.', '.']], ModuleId.split? dots = none := by decide
    have found := ModuleId.names_iff.1 h
    constructor <;> (intro dots; rw [dots, nameless _ (by decide)] at found; cases found)

/-- An entry is the one for the id with hyphens for colons, which names the module. -/
theorem entry_spec (h : entry id location restore port network = .ok e) :
    e.id = hyphenated id ∧ ModuleId.Names e.id ⟨e.name, e.version⟩ := by
  rw [entry] at h
  cases hread : ModuleId.readModule (hyphenated id) with
  | error err =>
      rw [hread] at h
      cases h
  | ok m =>
      rw [hread] at h
      obtain rfl := Except.ok.inj h
      exact ⟨rfl, ModuleId.readModule_eq_ok_iff.1 hread⟩

/-- The entry for the id of an entry is the same entry. -/
theorem entry_again (h : entry id location restore port network = .ok e) :
    entry e.id location restore port network = .ok e := by
  obtain ⟨written, names⟩ := entry_spec h
  have same : hyphenated e.id = hyphenated id := (hyphenated_of_names names).trans written
  rw [entry, same]
  exact h

/-- Where there is an entry, it is replaced, and it is what comes of that. -/
theorem update_of_entry (h : entry id location restore port network = .ok e) :
    (update network id location restore port).run =
      .call (.platform (.replaceDiscovery e)) fun reply => .done <|
        (reply.mapError fun f => .other (f.context ("updating discovery of " ++ e.id))).map
          fun _ => e := by
  rw [update, h]
  refine congrArg (Procedure.call _) (funext fun reply => ?_)
  cases reply <;> rfl

theorem eq_of_value_update {σ : Type} {surroundings : Surroundings σ} {state : σ} {clock : Nat}
    {e' : DiscoveryEntry} (h : entry id location restore port network = .ok e)
    (updated : ((update network id location restore port).run.run surroundings state clock).value =
      .ok e') : e' = e := by
  rw [update_of_entry h, Procedure.run] at updated
  cases hreply : (surroundings.answer (.platform (.replaceDiscovery e)) state).1.reply with
  | error f =>
      simp [hreply, Procedure.run, Except.mapError, Except.map] at updated
  | ok answer =>
      simpa [hreply, Procedure.run, Except.mapError, Except.map, eq_comm] using updated

/-- The reserved id has no entry. -/
theorem entry_reserved : entry reservedId location restore port network =
    .error (.malformedIdentifier reservedId) := by
  have same : hyphenated reservedId = reservedId := by
    rw [hyphenated_eq]
    decide
  have refused : ModuleId.readModule reservedId = .error (.malformedIdentifier reservedId) := rfl
  rw [entry, same, refused]
  rfl

/-- The request that replaces an entry has the id of the entry in its path. -/
theorem request_of_names {host scheme name : String} (named : Http.Names host scheme name)
    (names : ModuleId.Names e.id m) :
    ∃ r, Http.requestOf host (.replaceDiscovery e) = some r ∧ r.method = .put ∧
      r.url = ⟨scheme, String.ofList (name.toList.map Char.toLower), some applicationsPort,
        ["modules", e.id, "discovery"], none⟩ ∧
      r.body = some (.obj [("id", .str e.id), ("name", .str e.name), ("version", .str e.version),
        ("location", .str e.location)]) := by
  have plain : ∀ s ∈ ["modules", e.id, "discovery"], IsPlain s.toList := by
    simp only [List.forall_mem_cons, List.not_mem_nil, false_implies, implies_true, and_true]
    exact ⟨by decide, isPlain_of_names names, by decide⟩
  have plain' : ∀ s ∈ ["modules", e.id, "discovery"].map String.toList, IsPlain s := by
    simpa only [List.forall_mem_map] using plain
  have made : MadeOf ("/modules/" ++ e.id ++ "/discovery")
      (["modules", e.id, "discovery"].map String.toList) :=
    .of_isPlain (List.cons_ne_nil _ _) (by simp [Http.slashed]) plain'
  obtain ⟨headers, request⟩ := Http.plainDraft_request .put [] (some e.toJson)
    (made.read_service named (by decide : applicationsPort ∈ Http.servicePorts)
      fun s hs => (plain' s hs).not_dots)
  refine ⟨_, request, rfl, ?_, rfl⟩
  rw [Http.serviceUrl, Http.map_written_of_isPlain plain]
  rfl

/-- An id has an entry if and only if it names a module once hyphens stand for its colons. -/
theorem exists_entry_iff : (∃ e, entry id location restore port network = .ok e) ↔
    ∃ m, ModuleId.Names (hyphenated id) m := by
  constructor
  · rintro ⟨e, h⟩
    obtain ⟨written, names⟩ := entry_spec h
    exact ⟨_, written ▸ names⟩
  · rintro ⟨m, names⟩
    rw [entry, ModuleId.readModule_eq_ok_iff.2 names]
    exact ⟨_, rfl⟩

/-- An update of discovery sends one request, whose path has the id with hyphens for colons as it is
written, and whose body has that id, and the name and the version that it is made of. From the id of
the entry the same comes again. An id that has no entry, as it then names no module, sends
nothing. -/
theorem update_addressed {n : Http.Network} {scheme name : String}
    (named : Http.Names n.host scheme name) (network id : String) (location : Option String)
    (restore : Bool) (port : Port) :
    let hyphens := String.ofList (id.toList.map fun c => if c = ':' then '-' else c)
    ((∃ e, entry id location restore port network = .ok e) ↔ ∃ m, ModuleId.Names hyphens m) ∧
    (∀ e, entry id location restore port network = .ok e →
      ModuleId.Names hyphens ⟨e.name, e.version⟩ ∧ e.id = hyphens ∧ ∃ r,
      n.Sends (update network id location restore port).run r ∧ r.method = .put ∧
      r.url = ⟨scheme, String.ofList (name.toList.map Char.toLower), some applicationsPort,
        ["modules", hyphens, "discovery"], none⟩ ∧
      r.body = some (.obj [("id", .str hyphens), ("name", .str e.name), ("version", .str e.version),
        ("location", .str e.location)]) ∧
      (∀ tokens past clock e', ((update network id location restore port).run.run
        (n.surroundings tokens) past clock).value = .ok e' → e' = e) ∧
      entry e.id location restore port network = .ok e ∧
      n.Sends (update network e.id location restore port).run r) ∧
    (∀ err, entry id location restore port network = .error err →
      n.SendsNothing (update network id location restore port).run) ∧
    entry reservedId location restore port network = .error (.malformedIdentifier reservedId) := by
  intro hyphens
  have spelled : hyphenated id = hyphens := hyphenated_eq id
  rw [← spelled]
  refine ⟨exists_entry_iff, fun e h => ?_, fun err h => ?_, entry_reserved⟩
  · obtain ⟨written, names⟩ := entry_spec h
    obtain ⟨r, request, method, url, body⟩ := request_of_names named names
    have again := entry_again h
    have sends {id : String} (h : entry id location restore port network = .ok e) :
        n.Sends (update network id location restore port).run r := by
      rw [update_of_entry h]
      exact Http.Network.sends_of_request request _
    rw [written] at names url body
    exact ⟨names, written, r, sends h, method, url, body, fun _ _ _ _ => eq_of_value_update h,
      again, sends again⟩
  · intro tokens past clock
    rw [update, h]
    rfl

/-- A module whose id is given with colons is addressed with hyphens for them. -/
theorem update_addressed_colons : ∃ r,
    Http.Network.mute.Sends (update "net" "mod:users:2.0.x" none false 8081).run r ∧
      r.url = ⟨"http", "platform", some 9901, ["modules", "mod-users-2.0.x", "discovery"], none⟩ ∧
      Http.Network.mute.Sends (update "net" "mod-users-2.0.x" none false 8081).run r := by
  have host : String.ofList ("platform".toList.map Char.toLower) = "platform" := by decide
  have written : hyphenated "mod:users:2.0.x" = "mod-users-2.0.x" := by
    rw [hyphenated_eq]
    decide
  have found : entry "mod:users:2.0.x" none false 8081 "net" = .ok
      ⟨"mod-users-2.0.x", "mod-users", "2.0.x", sidecarUrl "mod-users" "net" 8081⟩ := by
    rw [entry, written]
    rfl
  have addressed := update_addressed (n := .mute) Http.names_platform "net" "mod:users:2.0.x" none
    false 8081
  obtain ⟨-, id, r, sent, -, url, -, -, -, again⟩ := addressed.2.1 _ found
  rw [host, ← id] at url
  exact ⟨r, sent, url, again⟩

end Discovery

end Rollout
