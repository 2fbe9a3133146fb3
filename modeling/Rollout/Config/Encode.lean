import Rollout.Config.Basic
import Rollout.Platform.Wire

/-!
# Writing a configuration

A configuration is written with all its fields under the keys that it is read by, the ones that took
their defaults included. An optional setting that is missing is written as `null`.
-/

namespace Rollout

def SortedMap.toJson {α : Type} (encode : α → Json) (m : SortedMap α) : Json :=
  .obj (m.map encode).entries

def Port.optionalJson (p : Option Port) : Json := (p.map Port.toJson).getD .null

def ApplicationSettings.toJson (a : ApplicationSettings) : Json := .obj [
  ("name", .str a.name), ("version", .str a.version), ("platform", .str a.platform),
  ("dependencies", a.dependencies.toJson .str), ("fetch-descriptors", .bool a.fetchDescriptors),
  ("tenant-parameters", .str a.tenantParameters)]

def RoleSettings.toJson (r : RoleSettings) : Json := .obj [
  ("tenant", .str r.tenant), ("capability-sets", Json.strings r.capabilitySets)]

def UserSettings.toJson (u : UserSettings) : Json := .obj [
  ("tenant", .str u.tenant), ("password", .str u.password), ("first-name", .str u.firstName),
  ("last-name", .str u.lastName), ("roles", Json.strings u.roles)]

def BackendSettings.toJson (b : BackendSettings) : Json := .obj [
  ("deploy-module", .bool b.deploy), ("server-port", Port.optionalJson b.serverPort),
  ("health-port", Port.optionalJson b.healthPort), ("version", Json.string? b.version)]

def FrontendSettings.toJson (f : FrontendSettings) : Json := .obj [
  ("deploy-module", .bool f.deploy), ("version", Json.string? f.version)]

def QueueSettings.toJson (q : QueueSettings) : Json := .obj [
  ("container", .str q.container), ("broker", .str q.broker)]

def Config.toJson (c : Config) : Json := .obj [
  ("environment", .str c.environment), ("network", .str c.network),
  ("registries", c.registries.toJson .str), ("descriptor-registry", .str c.descriptorRegistry),
  ("application", c.application.toJson), ("tenants", Json.strings c.tenants.toList),
  ("roles", c.roles.toJson RoleSettings.toJson), ("users", c.users.toJson UserSettings.toJson),
  ("backend-modules", c.backendModules.toJson BackendSettings.toJson),
  ("frontend-modules", c.frontendModules.toJson FrontendSettings.toJson),
  ("kafka", c.queue.toJson)]

end Rollout
