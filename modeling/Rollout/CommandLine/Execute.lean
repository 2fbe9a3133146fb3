import Rollout.CommandLine.Output
import Rollout.Pipeline.Run

/-!
# Executing commands

A command prints its results as they come. A task for tenants prints one output for each tenant, and
what was printed before a fault stays.
-/

namespace Rollout.CommandLine

inductive Fault where
  | stage (failure : StageFailure)
  | unknownTenant (tenant : String)
  deriving DecidableEq, Repr

def Fault.message : Fault → String
  | .stage failure => failure.message
  | .unknownTenant tenant => "tenant " ++ tenant ++ " is not configured"

/-- A procedure that prints, and may stop at a fault. -/
abbrev Console := ExceptT Fault (StateT String Procedure)

namespace Console

def stage {α : Type} (s : Staged α) : Console α :=
  ExceptT.mk fun printed => do
    let result ← s.run
    return (result.mapError .stage, printed)

def print (format : Format) (o : Output) : Console Unit :=
  ExceptT.mk fun printed => pure (.ok (), printed ++ o.text format)

def report {α : Type} (format : Format) (s : Staged α) (output : α → Output) : Console Unit := do
  print format (output (← stage s))

def forEach {α : Type} (f : α → Console Unit) : List α → Console Unit
  | [] => pure ()
  | item :: rest => do
      f item
      forEach f rest

end Console

open Console

/-- The tenants that a task is for: the one that is asked for, which has to be configured, or those
that the platform has. -/
def targetTenants (p : Pipeline) : Option String → Console (List String)
  | some tenant =>
      if p.config.hasTenant tenant then pure [tenant] else throw (.unknownTenant tenant)
  | none => stage p.existingTenants

def TenantTask.execute (p : Pipeline) (format : Format) (tenant : String) :
    TenantTask → Console Unit
  | .createRoles =>
      report format (p.createRoles tenant) (.names (Output.about tenant "created role"))
  | .removeRoles =>
      report format (p.removeRoles tenant) (.names (Output.about tenant "removed role"))
  | .attachCapabilitySets wait => do
      if wait then
        let _ ← stage (p.awaitCapabilitySets tenant)
      report format (p.attachCapabilitySets tenant) (.bindings tenant)
  | .detachCapabilitySets =>
      report format (p.detachCapabilitySets tenant)
        (.names (Output.about tenant "detached capability sets from"))
  | .createUsers => report format (p.createUsers tenant) (.users tenant)
  | .removeUsers =>
      report format (p.removeUsers tenant) (.names (Output.about tenant "removed user"))

def Command.execute (p : Pipeline) (format : Format) : Command → Console Unit
  | .run => report format p.run .rollout
  | .deployApplication =>
      report format p.deployApplication fun d => .deployed d.1 d.2
  | .removeApplications =>
      report format Pipeline.removeApplications (.names "removed application")
  | .createTenants => report format p.createTenants (.names "created tenant")
  | .removeTenants => report format p.removeTenants (.names "removed tenant")
  | .createEntitlements => report format p.createEntitlements (.names "entitled tenant")
  | .removeEntitlements =>
      report format p.removeEntitlements (.names "removed entitlement of tenant")
  | .forTenants task only => do
      forEach (task.execute p format ·) (← targetTenants p only)
  | .updateDiscovery id location restore port =>
      report format (p.updateDiscovery id location restore port) .discovery
  | .awaitHealth => report format p.awaitHealth .healthy
  | .teardown => report format p.teardown .teardown

end Rollout.CommandLine
