import Rollout.Config.Basic
import Rollout.Error
import Rollout.Yaml.Decode

/-!
# Reading a configuration

A configuration is written in YAML, under keys in kebab case. The application with its name and
version has to be given, a role or a user needs its tenant, and a user a password; whatever else is
missing takes its default.

A text may be no such configuration at all, or one that is not accepted; `ConfigFault` tells these
apart.
-/

namespace Rollout.Config

open Yaml (Document Node)

inductive ConfigFault where
  | malformed
  | rejected (text : String)
  deriving DecidableEq, Repr

def ConfigFault.rejection? : ConfigFault → Option Error
  | .malformed => none
  | .rejected text => some (.config text)

section

variable (d : Document)

def port? (n : Node) : Option Port := (d.nat? UInt16.size n).map UInt16.ofNat

def application? (n : Node) : Option ApplicationSettings := do
  let fields ← d.fields? ["name", "version", "platform", "dependencies", "fetch-descriptors",
    "tenant-parameters"] n
  return {
    name := ← fields.need "name" d.text?
    version := ← fields.need "version" d.text?
    platform := ← fields.withDefault "platform" "base" d.text?
    dependencies := ← fields.withDefault "dependencies" ∅ (d.map? d.text?)
    fetchDescriptors := ← fields.withDefault "fetch-descriptors" false d.bool?
    tenantParameters :=
      ← fields.withDefault "tenant-parameters" "loadReference=true,loadSample=true" d.text? }

def role? (n : Node) : Option RoleSettings := do
  let fields ← d.fields? ["tenant", "capability-sets"] n
  return {
    tenant := ← fields.need "tenant" d.text?
    capabilitySets := ← fields.withDefault "capability-sets" [] d.texts? }

def user? (n : Node) : Option UserSettings := do
  let fields ← d.fields? ["tenant", "password", "first-name", "last-name", "roles"] n
  return {
    tenant := ← fields.need "tenant" d.text?
    password := ← fields.need "password" d.text?
    firstName := ← fields.withDefault "first-name" "" d.text?
    lastName := ← fields.withDefault "last-name" "" d.text?
    roles := ← fields.withDefault "roles" [] d.texts? }

def backend? (n : Node) : Option BackendSettings := do
  let fields ← d.fields? ["deploy-module", "server-port", "health-port", "version"] n
  return {
    deploy := ← fields.withDefault "deploy-module" true d.bool?
    serverPort := ← fields.withDefault "server-port" none (d.optional? (port? d))
    healthPort := ← fields.withDefault "health-port" none (d.optional? (port? d))
    version := ← fields.withDefault "version" none (d.optional? d.text?) }

def frontend? (n : Node) : Option FrontendSettings := do
  let fields ← d.fields? ["deploy-module", "version"] n
  return {
    deploy := ← fields.withDefault "deploy-module" true d.bool?
    version := ← fields.withDefault "version" none (d.optional? d.text?) }

def standardQueue : QueueSettings := ⟨"kafka", "kafka.eureka:9092"⟩

def queue? (n : Node) : Option QueueSettings := do
  let fields ← d.fields? ["container", "broker"] n
  return {
    container := ← fields.withDefault "container" standardQueue.container d.text?
    broker := ← fields.withDefault "broker" standardQueue.broker d.text? }

def fieldNames : List String := ["environment", "network", "registries", "descriptor-registry",
  "application", "tenants", "roles", "users", "backend-modules", "frontend-modules", "kafka"]

def ofNode? (n : Node) : Option Config := do
  let fields ← d.fields? fieldNames n
  return {
    environment := ← fields.withDefault "environment" "folio" d.text?
    network := ← fields.withDefault "network" "eureka" d.text?
    registries := ← fields.withDefault "registries" ∅ (d.map? d.text?)
    descriptorRegistry := ← fields.withDefault "descriptor-registry" "folio" d.text?
    application := ← fields.need "application" (application? d)
    tenants := ← fields.withDefault "tenants" ∅ d.set?
    roles := ← fields.withDefault "roles" ∅ (d.map? (role? d))
    users := ← fields.withDefault "users" ∅ (d.map? (user? d))
    backendModules := ← fields.withDefault "backend-modules" ∅ (d.map? (backend? d))
    frontendModules := ← fields.withDefault "frontend-modules" ∅ (d.map? (frontend? d))
    queue := ← fields.withDefault "kafka" standardQueue (queue? d) }

end

def ofDocument (d : Document) : Except ConfigFault Config :=
  match ofNode? d d.root with
  | none => .error .malformed
  | some c =>
      match c.fault? with
      | some text => .error (.rejected text)
      | none => .ok c

theorem ofDocument_eq_ok_iff {d : Document} {c : Config} :
    ofDocument d = .ok c ↔ ofNode? d d.root = some c ∧ c.Accepted := by
  constructor
  · intro h
    rw [ofDocument] at h
    split at h
    · cases h
    next c' decoded =>
      split at h
      · cases h
      next sound =>
        cases h
        exact ⟨decoded, fault?_eq_none_iff.1 sound⟩
  · rintro ⟨decoded, accepted⟩
    have sound : c.fault? = none := fault?_eq_none_iff.2 accepted
    simp only [ofDocument, decoded, sound]

def read (s : String) : Except ConfigFault Config :=
  match Document.read s with
  | none => .error .malformed
  | some d => ofDocument d

theorem accepted_of_read {s : String} {c : Config} (h : read s = .ok c) : c.Accepted := by
  rw [read] at h
  split at h
  · cases h
  · exact (ofDocument_eq_ok_iff.1 h).2

end Rollout.Config
