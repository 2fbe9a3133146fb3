import Rollout.CommandLine.Command
import Rollout.Json.Writer
import Rollout.Pipeline.Report
import Rollout.Platform.Wire

/-!
# What commands print

A result is printed as lines for a reader, or as a JSON document.
-/

namespace Rollout.CommandLine

structure Output where
  lines : List String
  document : Json

namespace Output

def text : Format → Output → String
  | .human, o => String.join (o.lines.map (· ++ "\n"))
  | .json, o => o.document.pretty ++ "\n"

def about (tenant text : String) : String := "[" ++ tenant ++ "] " ++ text

def counted (n : Nat) (things : String) : String := toString n ++ " " ++ things

def names (done : String) (names : List String) : Output where
  lines := if names.isEmpty then ["nothing " ++ done] else names.map fun n => done ++ " " ++ n
  document := .strings names

def tenantLine (r : TenantReport) : String :=
  "tenant " ++ r.tenant ++ ": " ++
    ", ".intercalate [counted r.roles.length "roles", counted r.bindings.length "role bindings",
      counted r.users.length "users"] ++
    " (lag drained after " ++ counted r.lagPolls "polls" ++ ")"

def rollout (r : RunReport) : Output where
  lines :=
    ("application " ++ r.application ++ " (" ++
      ", ".intercalate [counted r.backendModules "modules", counted r.frontendModules "ui modules",
        counted r.discoveryEntries "discovery entries"] ++ ")") :: r.tenants.map tenantLine
  document := r.toJson

def deployed (d : ApplicationDescriptor) (discoveryEntries : Nat) : Output :=
  let modules := d.backendModules.map (·.id)
  let uiModules := d.frontendModules.map (·.id)
  { lines :=
      ["created application " ++ d.id] ++ (modules ++ uiModules).map ("  " ++ ·) ++
        ["created " ++ counted discoveryEntries "discovery entries"]
    document := .obj [
      ("application", .str d.id), ("modules", .strings modules), ("ui_modules", .strings uiModules),
      ("discovery_entries", .nat discoveryEntries)] }

def forTenant {α : Type} (tenant : String) (results : List α) (line : α → String)
    (encode : α → Json) : Output where
  lines := results.map fun r => about tenant (line r)
  document := .obj [("tenant", .str tenant), ("result", .arr (results.map encode))]

def bindings (tenant : String) (bindings : List Roles.Binding) : Output :=
  forTenant tenant bindings
    (fun b => "attached " ++ counted b.capabilitySets "capability sets" ++ " to " ++ b.role)
    Roles.Binding.toJson

def users (tenant : String) (users : List Users.Provisioned) : Output :=
  forTenant tenant users
    (fun u => "created user " ++ u.username ++ " with " ++ counted u.roles "roles")
    Users.Provisioned.toJson

def discovery (e : DiscoveryEntry) : Output where
  lines := [e.id ++ " -> " ++ e.location]
  document := e.toJson

def healthy (modules : List Health.Healthy) : Output :=
  names "healthy" (modules.map fun m => m.name ++ " (" ++ counted m.attempts "attempts" ++ ")")

def teardown (r : TeardownReport) : Output where
  lines := ["removed " ++ ", ".intercalate [
    counted r.users.length "users", counted r.roles.length "roles",
    counted r.entitlements.length "entitlements", counted r.tenants.length "tenants",
    counted r.applications.length "applications"]]
  document := r.toJson

end Output

end Rollout.CommandLine
