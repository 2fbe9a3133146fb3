import Rollout.CommandLine.Command
import Rollout.CommandLine.Words
import Rollout.Text.Decimal

/-!
# How commands are written

A command is asked for by its name, its own options and its operands. `forms` lists all commands.
-/

namespace Rollout.CommandLine

/-- The options that were given, with their values, in the order of the words. -/
abbrev Given := List (OptionName × String)

namespace Given

def value? (given : Given) (name : OptionName) : Option String := List.lookup name given

def has (given : Given) (name : OptionName) : Bool := (given.value? name).isSome

end Given

/-- How a command is written: its name, its own options, and what it is when these and the operands
are given. -/
structure Form where
  name : String
  options : List OptionName
  command? : Given → List String → Option Command

namespace Form

def plain (name : String) (command : Command) : Form where
  name := name
  options := []
  command?
    | _, [] => some command
    | _, _ :: _ => none

def tenantTask (name : String) (options : List OptionName) (task : Given → TenantTask) : Form where
  name := name
  options := .tenant :: options
  command?
    | given, [] => some (.forTenants (task given) (given.value? .tenant))
    | _, _ :: _ => none

/-- The port that a text gives. A sign may stand before the digits. -/
def port? (text : String) : Option Port :=
  match text.toList with
  | '-' :: digits => ((Text.digits? digits).filter (· = 0)).map UInt16.ofNat
  | chars => (Text.decimal? UInt16.size chars).map UInt16.ofNat

/-- The port of a module behind its sidecar when none is given. -/
def standardPort : Port := 8081

def updateDiscovery : Form where
  name := "update-discovery"
  options := [.url, .restore, .serverPort]
  command?
    | given, [id] => do
        let port ← match given.value? .serverPort with
          | some text => port? text
          | none => some standardPort
        return .updateDiscovery id (given.value? .url) (given.has .restore) port
    | _, _ => none

end Form

def forms : List Form := [
  .plain "run" .run,
  .plain "deploy-application" .deployApplication,
  .plain "remove-applications" .removeApplications,
  .plain "create-tenants" .createTenants,
  .plain "remove-tenants" .removeTenants,
  .plain "create-entitlements" .createEntitlements,
  .plain "remove-entitlements" .removeEntitlements,
  .tenantTask "create-roles" [] fun _ => .createRoles,
  .tenantTask "remove-roles" [] fun _ => .removeRoles,
  .tenantTask "attach-capability-sets" [.noWait] fun given =>
    .attachCapabilitySets (!given.has .noWait),
  .tenantTask "detach-capability-sets" [] fun _ => .detachCapabilitySets,
  .tenantTask "create-users" [] fun _ => .createUsers,
  .tenantTask "remove-users" [] fun _ => .removeUsers,
  .updateDiscovery,
  .plain "await-health" .awaitHealth,
  .plain "teardown" .teardown]

def Form.named? (name : String) : Option Form := forms.find? (·.name = name)

end Rollout.CommandLine
