import Rollout.Json.Decode
import Rollout.ModuleRef
import Rollout.Stage

/-!
# Records as JSON

Each record has an encoding, `toJson`, and a decoder, `ofDocument?`. An optional field is left out
when it is missing, except the port of a module, which is written as `null`; sets are written as
arrays in ascending order. The decoders accept what `Json.Source.fields?` accepts, so a record may
come with unknown members or as an array of its fields.
-/

namespace Rollout

open Json (Source)

variable {δ : Type} [Source δ]

/-- The member of an optional field: none when it is missing. -/
def optionalMember (name : String) (value : Option String) : List (String × Json) :=
  (value.map fun v => (name, Json.str v)).toList

def Port.toJson (p : Port) : Json := Json.nat p.toNat

def Port.ofDocument? (d : δ) : Option Port := (Source.nat? UInt16.size d).map UInt16.ofNat

namespace ModuleRef

def toJson (m : ModuleRef) : Json := .obj [
  ("id", .str m.id), ("name", .str m.name), ("version", .str m.version),
  ("sidecar_name", .str m.sidecarName), ("deploy", .bool m.deploy),
  ("server_port", (m.serverPort.map Port.toJson).getD .null)]

def ofDocument? (d : δ) : Option ModuleRef := do
  let fields ← Source.fields? ["id", "name", "version", "sidecar_name", "deploy", "server_port"] 6 d
  return {
    id := ← fields.need "id" Source.string?
    name := ← fields.need "name" Source.string?
    version := ← fields.need "version" Source.string?
    sidecarName := ← fields.need "sidecar_name" Source.string?
    deploy := ← fields.need "deploy" Source.bool?
    serverPort := ← fields.optional "server_port" Port.ofDocument? }

end ModuleRef

namespace ModuleEntry

def toJson (m : ModuleEntry) : Json := .obj <| [
  ("id", .str m.id), ("name", .str m.name), ("version", .str m.version)] ++
  optionalMember "url" m.url

def ofDocument? (d : δ) : Option ModuleEntry := do
  let fields ← Source.fields? ["id", "name", "version", "url"] 3 d
  return {
    id := ← fields.need "id" Source.string?
    name := ← fields.need "name" Source.string?
    version := ← fields.need "version" Source.string?
    url := ← fields.optional "url" Source.string? }

end ModuleEntry

namespace DiscoveryEntry

def toJson (e : DiscoveryEntry) : Json := .obj [
  ("id", .str e.id), ("name", .str e.name), ("version", .str e.version),
  ("location", .str e.location)]

def ofDocument? (d : δ) : Option DiscoveryEntry := do
  let fields ← Source.fields? ["id", "name", "version", "location"] 4 d
  return {
    id := ← fields.need "id" Source.string?
    name := ← fields.need "name" Source.string?
    version := ← fields.need "version" Source.string?
    location := ← fields.need "location" Source.string? }

end DiscoveryEntry

namespace ApplicationDescriptor

/-- The document of a descriptor, which leaves out the discovery entries. -/
def toJson (a : ApplicationDescriptor) : Json := .obj [
  ("id", .str a.id), ("name", .str a.name), ("version", .str a.version),
  ("description", .str a.description), ("platform", .str a.platform),
  ("dependencies", .obj (a.dependencies.map Json.str).entries),
  ("modules", .arr (a.backendModules.map ModuleEntry.toJson)),
  ("uiModules", .arr (a.frontendModules.map ModuleEntry.toJson)),
  ("moduleDescriptors", .arr a.moduleDescriptors),
  ("uiModuleDescriptors", .arr a.frontendModuleDescriptors)]

/-- The descriptor in a document, without discovery entries. The descriptors of the modules are two
levels below the document. -/
def ofDocument? (d : δ) : Option ApplicationDescriptor := do
  let fields ← Source.fields? ["id", "name", "version", "description", "platform", "dependencies",
    "modules", "uiModules", "moduleDescriptors", "uiModuleDescriptors"] 10 d
  let values := Source.list? (Source.value? (δ := δ) (Json.maxDepth - 2))
  return {
    id := ← fields.need "id" Source.string?
    name := ← fields.need "name" Source.string?
    version := ← fields.need "version" Source.string?
    description := ← fields.need "description" Source.string?
    platform := ← fields.need "platform" Source.string?
    dependencies := ← fields.need "dependencies" (Source.map? Source.string?)
    backendModules := ← fields.need "modules" (Source.list? ModuleEntry.ofDocument?)
    frontendModules := ← fields.need "uiModules" (Source.list? ModuleEntry.ofDocument?)
    moduleDescriptors := ← fields.need "moduleDescriptors" values
    frontendModuleDescriptors := ← fields.need "uiModuleDescriptors" values
    discovery := [] }

end ApplicationDescriptor

namespace Tenant

def toJson (t : Tenant) : Json := .obj <|
  [("id", .str t.id), ("name", .str t.name)] ++ optionalMember "description" t.description

def ofDocument? (d : δ) : Option Tenant := do
  let fields ← Source.fields? ["id", "name", "description"] 2 d
  return {
    id := ← fields.need "id" Source.string?
    name := ← fields.need "name" Source.string?
    description := ← fields.optional "description" Source.string? }

end Tenant

namespace Entitlement

def toJson (e : Entitlement) : Json := .obj [
  ("tenantId", .str e.tenantId), ("applications", Json.strings e.applicationIds.toList)]

def ofDocument? (d : δ) : Option Entitlement := do
  let fields ← Source.fields? ["tenantId", "applications"] 2 d
  return {
    tenantId := ← fields.need "tenantId" Source.string?
    applicationIds := ← fields.need "applications" Source.set? }

end Entitlement

namespace Role

def toJson (r : Role) : Json := .obj <|
  [("id", .str r.id), ("name", .str r.name)] ++ optionalMember "description" r.description

def ofDocument? (d : δ) : Option Role := do
  let fields ← Source.fields? ["id", "name", "description"] 2 d
  return {
    id := ← fields.need "id" Source.string?
    name := ← fields.need "name" Source.string?
    description := ← fields.optional "description" Source.string? }

end Role

namespace CapabilitySet

def toJson (c : CapabilitySet) : Json := .obj [
  ("id", .str c.id), ("name", .str c.name), ("applicationId", .str c.applicationId)]

def ofDocument? (d : δ) : Option CapabilitySet := do
  let fields ← Source.fields? ["id", "name", "applicationId"] 2 d
  return {
    id := ← fields.need "id" Source.string?
    name := ← fields.need "name" Source.string?
    applicationId := ← fields.withDefault "applicationId" "" Source.string? }

end CapabilitySet

namespace User

def toJson (u : User) : Json := .obj [
  ("username", .str u.username), ("tenant", .str u.tenant), ("password", .str u.password),
  ("first_name", .str u.firstName), ("last_name", .str u.lastName),
  ("role_names", Json.strings u.roleNames.toList)]

def ofDocument? (d : δ) : Option User := do
  let fields ← Source.fields?
    ["username", "tenant", "password", "first_name", "last_name", "role_names"] 6 d
  return {
    username := ← fields.need "username" Source.string?
    tenant := ← fields.need "tenant" Source.string?
    password := ← fields.need "password" Source.string?
    firstName := ← fields.need "first_name" Source.string?
    lastName := ← fields.need "last_name" Source.string?
    roleNames := ← fields.need "role_names" Source.set? }

end User

namespace RegistryModule

def toJson (m : RegistryModule) : Json := .obj <|
  ("id", .str m.id) :: optionalMember "action" m.action

def ofDocument? (d : δ) : Option RegistryModule := do
  let fields ← Source.fields? ["id", "action"] 1 d
  return {
    id := ← fields.need "id" Source.string?
    action := ← fields.optional "action" Source.string? }

end RegistryModule

namespace ApplicationSummary

def toJson (a : ApplicationSummary) : Json := .obj [
  ("id", .str a.id), ("name", .str a.name), ("version", .str a.version)]

def ofDocument? (d : δ) : Option ApplicationSummary := do
  let fields ← Source.fields? ["id", "name", "version"] 1 d
  return {
    id := ← fields.need "id" Source.string?
    name := ← fields.withDefault "name" "" Source.string?
    version := ← fields.withDefault "version" "" Source.string? }

end ApplicationSummary

namespace UserRecord

def toJson (u : UserRecord) : Json := .obj [("id", .str u.id), ("username", .str u.username)]

def ofDocument? (d : δ) : Option UserRecord := do
  let fields ← Source.fields? ["id", "username"] 2 d
  return {
    id := ← fields.need "id" Source.string?
    username := ← fields.need "username" Source.string? }

end UserRecord

def Stage.toJson (s : Stage) : Json := .str s.name

/-- The stage that a document names, by its name alone or as the one member of an object. -/
def Stage.ofDocument? (d : δ) : Option Stage :=
  match Source.view d with
  | .str text => do Stage.ofName? (← text)
  | .obj [(label, d)] =>
      match Source.view d with
      | .null => do Stage.ofName? (← label)
      | _ => none
  | _ => none

end Rollout
