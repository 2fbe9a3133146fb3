import Rollout.Config.Encode
import Rollout.Json.Writer
import Rollout.Proofs.Config.Partition
import Rollout.Proofs.Yaml.Values

/-!
# Writing a configuration and reading it again

Each part of a configuration is read back from the value that it is written as: the keys are those
that it is read by, nothing is left out that would take a default, an optional setting that is
missing is null and a port is a number in range. So an accepted configuration is read back whole,
and accepted again.
-/

namespace Rollout

namespace Config

open Yaml (Document)

variable {d : Document}

/-! ### Settings -/

theorem port?_toJson (p : Port) : port? d (.ofValue p.toJson) = some p := by
  have below : p.toNat < UInt16.size := p.toNat_lt
  rw [port?, Port.toJson, Document.nat?_nat below, Option.map_some, UInt16.ofNat_toNat]

@[simp] theorem optional?_port (p : Option Port) :
    d.optional? (port? d) (.ofValue (Port.optionalJson p)) = some p := by
  cases p with
  | none => rfl
  | some p =>
      exact (Document.optional?_nat p.toNat).trans (congrArg (Option.map some) (port?_toJson p))

@[simp] theorem optional?_text (s : Option String) :
    d.optional? d.text? (.ofValue (Json.string? s)) = some s := by
  cases s with
  | none => rfl
  | some s => rfl

theorem map?_toJson {α : Type} {decode : Yaml.Node → Option α} {encode : α → Json}
    (back : ∀ x, decode (.ofValue (encode x)) = some x) (m : SortedMap α) :
    d.map? decode (.ofValue (m.toJson encode)) = some m :=
  Document.map?_obj back m

@[simp] theorem map?_texts (m : SortedMap String) :
    d.map? d.text? (.ofValue (m.toJson .str)) = some m :=
  map?_toJson Document.text?_str m

theorem application?_toJson (a : ApplicationSettings) :
    application? d (.ofValue a.toJson) = some a := by
  rw [application?, ApplicationSettings.toJson, Document.fields?_obj (by simp) (by simp)]
  simp

theorem role?_toJson (r : RoleSettings) : role? d (.ofValue r.toJson) = some r := by
  rw [role?, RoleSettings.toJson, Document.fields?_obj (by simp) (by simp)]
  simp

theorem user?_toJson (u : UserSettings) : user? d (.ofValue u.toJson) = some u := by
  rw [user?, UserSettings.toJson, Document.fields?_obj (by simp) (by simp)]
  simp

theorem backend?_toJson (b : BackendSettings) : backend? d (.ofValue b.toJson) = some b := by
  rw [backend?, BackendSettings.toJson, Document.fields?_obj (by simp) (by simp)]
  simp

/-- The text of what is written is read in the same way. -/
example : (Document.read (Json.compact
    (BackendSettings.toJson ⟨true, some 8081, none, some "1.0"⟩))).bind
      (fun d => backend? d d.root) = some ⟨true, some 8081, none, some "1.0"⟩ := by
  decide +kernel

theorem frontend?_toJson (f : FrontendSettings) : frontend? d (.ofValue f.toJson) = some f := by
  rw [frontend?, FrontendSettings.toJson, Document.fields?_obj (by simp) (by simp)]
  simp

theorem queue?_toJson (q : QueueSettings) : queue? d (.ofValue q.toJson) = some q := by
  rw [queue?, QueueSettings.toJson, Document.fields?_obj (by simp) (by simp)]
  simp

/-! ### Configurations -/

theorem ofNode?_toJson (c : Config) : ofNode? d (.ofValue c.toJson) = some c := by
  rw [ofNode?, toJson, Document.fields?_obj (by simp) (by simp [fieldNames])]
  simp [application?_toJson, map?_toJson role?_toJson, map?_toJson user?_toJson,
    map?_toJson backend?_toJson, map?_toJson frontend?_toJson, queue?_toJson]

theorem Accepted.ofDocument_toJson {c : Config} (h : c.Accepted) :
    ofDocument (.ofValue c.toJson) = .ok c :=
  ofDocument_eq_ok_iff.2 ⟨ofNode?_toJson c, h⟩

/-- A configuration that was read and accepted is written under all of its keys, and what is written
is accepted and read as the same configuration. So writing what was read once more changes
nothing. -/
theorem reread_of_read {text : String} {c : Config} (read : Config.read text = .ok c) :
    (∃ members, c.toJson = .obj members ∧ members.map (·.1) = fieldNames) ∧
      ofDocument (.ofValue c.toJson) = .ok c ∧
      (ofDocument (.ofValue c.toJson)).map toJson = .ok c.toJson := by
  have reread := (accepted_of_read read).ofDocument_toJson
  exact ⟨⟨_, rfl, rfl⟩, reread, by rw [reread]; rfl⟩

/-- What was left out is written, and what was given twice is written once. -/
theorem reread_of_read_repeated : Config.read repeatedText = .ok repeated ∧
    repeated.toJson = .obj [
      ("environment", .str "folio"), ("network", .str "eureka"), ("registries", .obj []),
      ("descriptor-registry", .str "folio"),
      ("application", .obj [("name", .str "a"), ("version", .str "b"), ("platform", .str "base"),
        ("dependencies", .obj []), ("fetch-descriptors", .bool false),
        ("tenant-parameters", .str "loadReference=true,loadSample=true")]),
      ("tenants", Json.strings ["n", "s"]),
      ("roles", .obj [("q", .obj [("tenant", .str "s"), ("capability-sets", .arr [])]),
        ("r", .obj [("tenant", .str "n"), ("capability-sets", .arr [])])]),
      ("users", .obj [("u", .obj [("tenant", .str "s"), ("password", .str "p"),
        ("first-name", .str ""), ("last-name", .str ""),
        ("roles", Json.strings ["r", "q", "r"])])]),
      ("backend-modules", .obj [("m", .obj [("deploy-module", .bool true), ("server-port", .null),
        ("health-port", .null), ("version", .null)])]),
      ("frontend-modules", .obj []),
      ("kafka", .obj [("container", .str "kafka"), ("broker", .str "kafka.eureka:9092")])] ∧
    ofDocument (.ofValue repeated.toJson) = .ok repeated :=
  ⟨read_repeatedText, rfl, (reread_of_read read_repeatedText).2.1⟩

end Config

end Rollout
