import Rollout.Platform.Wire
import Rollout.Proofs.Json.Decoding

/-!
# Records and their documents

Every record is read back from its document, the port of a module and the optional members
included; only the discovery entries of a descriptor are no part of it. So whatever a document is
decoded to, however it was written, its own document is decoded to the same.
-/

namespace Rollout

open Json (Source)

/-! ### Ports and optional members -/

theorem Port.ofDocument?_toJson (p : Port) : ofDocument? p.toJson = some p := by
  have below : p.toNat < UInt16.size := p.toNat_lt
  rw [ofDocument?, toJson, Source.nat?_nat below, Option.map_some, UInt16.ofNat_toNat]

@[simp] theorem Port.optional?_toJson (p : Option Port) :
    Source.optional? ofDocument? ((p.map toJson).getD .null) = some p := by
  cases p with
  | none => rfl
  | some p => exact congrArg (Option.map some) p.ofDocument?_toJson

variable {names : List String} {name : String} {least : Nat} {members : Fields Json}

/-- The fields of an object that ends in an optional member. -/
theorem fields?_optionalMember {value : Option String}
    (different : (members.map (·.1) ++ [name]).Nodup)
    (known : ∀ m ∈ members.map (·.1) ++ [name], m ∈ names) :
    Source.fields? names least (Json.obj (members ++ optionalMember name value)) =
      some (members ++ optionalMember name value) := by
  have labels : ((members ++ optionalMember name value).map (·.1)).Sublist
      (members.map (·.1) ++ [name]) := by
    cases value <;> simp [optionalMember]
  refine Source.fields?_obj (different.sublist labels) fun m hm => ?_
  exact known m.1 (labels.subset (List.mem_map_of_mem hm))

@[simp] theorem optional_optionalMember (value : Option String) :
    Fields.optional (optionalMember name value) name Source.string? = some value := by
  cases value with
  | none => rfl
  | some s => simp [optionalMember]

/-! ### Records -/

theorem ModuleRef.ofDocument?_toJson (m : ModuleRef) : ofDocument? m.toJson = some m := by
  rw [ofDocument?, toJson, Source.fields?_obj (by simp) (by simp)]
  simp

theorem ModuleEntry.ofDocument?_toJson (m : ModuleEntry) : ofDocument? m.toJson = some m := by
  rw [ofDocument?, toJson, fields?_optionalMember (by simp) (by simp)]
  simp

theorem DiscoveryEntry.ofDocument?_toJson (e : DiscoveryEntry) :
    ofDocument? e.toJson = some e := by
  rw [ofDocument?, toJson, Source.fields?_obj (by simp) (by simp)]
  simp

/-- The discovery entries are no part of the document. -/
theorem ApplicationDescriptor.ofDocument?_toJson (a : ApplicationDescriptor) :
    ofDocument? a.toJson = some { a with discovery := [] } := by
  have dependencies := Source.map?_obj Source.string?_str a.dependencies
  have modules := Source.list?_arr ModuleEntry.ofDocument?_toJson
  have values (l : List Json) :
      Source.list? (Source.value? (Json.maxDepth - 2)) (Json.arr l) = some l := by
    have encoded := Source.list?_arr (Source.value?_json (Json.maxDepth - 2)) l
    rwa [List.map_id'] at encoded
  rw [ofDocument?, toJson, Source.fields?_obj (by simp) (by simp)]
  simp [dependencies, modules, values]

theorem Tenant.ofDocument?_toJson (t : Tenant) : ofDocument? t.toJson = some t := by
  rw [ofDocument?, toJson, fields?_optionalMember (by simp) (by simp)]
  simp

theorem Entitlement.ofDocument?_toJson (e : Entitlement) : ofDocument? e.toJson = some e := by
  rw [ofDocument?, toJson, Source.fields?_obj (by simp) (by simp)]
  simp

theorem Role.ofDocument?_toJson (r : Role) : ofDocument? r.toJson = some r := by
  rw [ofDocument?, toJson, fields?_optionalMember (by simp) (by simp)]
  simp

theorem CapabilitySet.ofDocument?_toJson (c : CapabilitySet) : ofDocument? c.toJson = some c := by
  rw [ofDocument?, toJson, Source.fields?_obj (by simp) (by simp)]
  simp

theorem User.ofDocument?_toJson (u : User) : ofDocument? u.toJson = some u := by
  rw [ofDocument?, toJson, Source.fields?_obj (by simp) (by simp)]
  simp

theorem RegistryModule.ofDocument?_toJson (m : RegistryModule) :
    ofDocument? m.toJson = some m := by
  have shape : m.toJson = .obj ([("id", .str m.id)] ++ optionalMember "action" m.action) := rfl
  rw [ofDocument?, shape, fields?_optionalMember (by simp) (by simp)]
  simp

theorem ApplicationSummary.ofDocument?_toJson (a : ApplicationSummary) :
    ofDocument? a.toJson = some a := by
  rw [ofDocument?, toJson, Source.fields?_obj (by simp) (by simp)]
  simp

theorem UserRecord.ofDocument?_toJson (u : UserRecord) : ofDocument? u.toJson = some u := by
  rw [ofDocument?, toJson, Source.fields?_obj (by simp) (by simp)]
  simp

/-- No decoder of a descriptor finds discovery entries. -/
theorem ApplicationDescriptor.discovery_of_ofDocument? {δ : Type} [Source δ] {d : δ}
    {a : ApplicationDescriptor} (h : ofDocument? d = some a) : a.discovery = [] := by
  simp only [ofDocument?, Option.bind_eq_bind, Option.bind_eq_some_iff, Option.pure_def,
    Option.some.injEq] at h
  obtain ⟨_, -, _, -, _, -, _, -, _, -, _, -, _, -, _, -, _, -, _, -, _, -, rfl⟩ := h
  rfl

/-! ### Round trips -/

/-- What `encode` writes of a value is read back by `decode` as what is `written` of it. Whatever is
decoded loses nothing more when it is written and read once more. -/
structure RoundTrip {α : Type} (encode : α → Json)
    (decode : {δ : Type} → [Source δ] → δ → Option α) (written : α → α) : Prop where
  encoded : ∀ r, decode (encode r) = some (written r)
  decoded : ∀ {δ : Type} [Source δ] (d : δ) (r : α), decode d = some r →
    decode (encode r) = some r

/-- A decoder that reads every value back. -/
theorem RoundTrip.of_encoded {α : Type} {encode : α → Json}
    {decode : {δ : Type} → [Source δ] → δ → Option α}
    (encoded : ∀ r, decode (encode r) = some r) : RoundTrip encode decode id :=
  ⟨encoded, fun _ r _ => encoded r⟩

/-- A descriptor that was decoded has no discovery entries to lose. -/
theorem ApplicationDescriptor.roundTrip :
    RoundTrip toJson ofDocument? fun a => { a with discovery := [] } where
  encoded := ofDocument?_toJson
  decoded d a h := by
    have bare : { a with discovery := [] } = a := by rw [← discovery_of_ofDocument? h]
    rw [ofDocument?_toJson, bare]

/-- Every record survives its document, a descriptor without its discovery entries. -/
theorem records_roundTrip :
    RoundTrip ModuleRef.toJson ModuleRef.ofDocument? id ∧
    RoundTrip ModuleEntry.toJson ModuleEntry.ofDocument? id ∧
    RoundTrip DiscoveryEntry.toJson DiscoveryEntry.ofDocument? id ∧
    RoundTrip ApplicationDescriptor.toJson ApplicationDescriptor.ofDocument?
      (fun a => { a with discovery := [] }) ∧
    RoundTrip Tenant.toJson Tenant.ofDocument? id ∧
    RoundTrip Entitlement.toJson Entitlement.ofDocument? id ∧
    RoundTrip Role.toJson Role.ofDocument? id ∧
    RoundTrip CapabilitySet.toJson CapabilitySet.ofDocument? id ∧
    RoundTrip User.toJson User.ofDocument? id ∧
    RoundTrip RegistryModule.toJson RegistryModule.ofDocument? id ∧
    RoundTrip ApplicationSummary.toJson ApplicationSummary.ofDocument? id ∧
    RoundTrip UserRecord.toJson UserRecord.ofDocument? id :=
  ⟨.of_encoded ModuleRef.ofDocument?_toJson, .of_encoded ModuleEntry.ofDocument?_toJson,
    .of_encoded DiscoveryEntry.ofDocument?_toJson, ApplicationDescriptor.roundTrip,
    .of_encoded Tenant.ofDocument?_toJson, .of_encoded Entitlement.ofDocument?_toJson,
    .of_encoded Role.ofDocument?_toJson, .of_encoded CapabilitySet.ofDocument?_toJson,
    .of_encoded User.ofDocument?_toJson, .of_encoded RegistryModule.ofDocument?_toJson,
    .of_encoded ApplicationSummary.ofDocument?_toJson, .of_encoded UserRecord.ofDocument?_toJson⟩

/-- A user that comes as an array, its roles out of order and one of them twice, and the document
that it settles on. -/
theorem records_roundTrip_unsorted :
    User.ofDocument? (Json.arr [.str "ada", .str "north", .str "pw", .str "Ada", .str "King",
      Json.strings ["write", "read", "write"]]) =
        some ⟨"ada", "north", "pw", "Ada", "King", .ofList ["read", "write"]⟩ ∧
    User.toJson ⟨"ada", "north", "pw", "Ada", "King", .ofList ["read", "write"]⟩ = .obj [
      ("username", .str "ada"), ("tenant", .str "north"), ("password", .str "pw"),
      ("first_name", .str "Ada"), ("last_name", .str "King"),
      ("role_names", Json.strings ["read", "write"])] ∧
    User.ofDocument? (User.toJson ⟨"ada", "north", "pw", "Ada", "King",
      .ofList ["read", "write"]⟩) =
        some ⟨"ada", "north", "pw", "Ada", "King", .ofList ["read", "write"]⟩ := by
  obtain ⟨-, -, -, -, -, -, -, -, users, -⟩ := records_roundTrip
  have read : User.ofDocument? (Json.arr [.str "ada", .str "north", .str "pw", .str "Ada",
      .str "King", Json.strings ["write", "read", "write"]]) =
        some ⟨"ada", "north", "pw", "Ada", "King", .ofList ["read", "write"]⟩ := by
    decide +kernel
  exact ⟨read, rfl, users.decoded _ _ read⟩

end Rollout
