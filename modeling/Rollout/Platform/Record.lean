import Rollout.Data.SortedMap
import Rollout.Data.SortedSet
import Rollout.Json.Value

/-!
# Records of the platform

The applications, tenants, roles and users that a rollout creates and looks up, as the services of
the platform exchange them. A record holds what the rollout reads; whatever else a service answers
is dropped where the record is decoded.

The discovery entries of an application are kept with its descriptor and submitted on their own, so
they are no part of the descriptor as a document.
-/

namespace Rollout

abbrev Port := UInt16

def defaultDescription : String := "Default"

structure ModuleEntry where
  id : String
  name : String
  version : String
  url : Option String
  deriving DecidableEq, Repr

structure DiscoveryEntry where
  id : String
  name : String
  version : String
  location : String
  deriving DecidableEq, Repr

/-- An application: its modules with their descriptors, and where they are found. -/
structure ApplicationDescriptor where
  id : String
  name : String
  version : String
  description : String
  platform : String
  dependencies : SortedMap String
  backendModules : List ModuleEntry
  frontendModules : List ModuleEntry
  moduleDescriptors : List Json
  frontendModuleDescriptors : List Json
  discovery : List DiscoveryEntry

def applicationId (name version : String) : String := name ++ "-" ++ version

def ApplicationDescriptor.containsModule (d : ApplicationDescriptor) (name : String) : Bool :=
  (d.backendModules ++ d.frontendModules).any (·.name = name)

structure Tenant where
  id : String
  name : String
  description : Option String
  deriving DecidableEq, Repr

structure Entitlement where
  tenantId : String
  applicationIds : SortedSet
  deriving DecidableEq

def Entitlement.to (tenantId applicationId : String) : Entitlement :=
  ⟨tenantId, .singleton applicationId⟩

structure Role where
  id : String
  name : String
  description : Option String
  deriving DecidableEq, Repr

structure CapabilitySet where
  id : String
  name : String
  applicationId : String
  deriving DecidableEq, Repr

structure User where
  username : String
  tenant : String
  password : String
  firstName : String
  lastName : String
  roleNames : SortedSet
  deriving DecidableEq

structure RegistryModule where
  id : String
  action : Option String
  deriving DecidableEq, Repr

structure ApplicationSummary where
  id : String
  name : String
  version : String
  deriving DecidableEq, Repr

structure UserRecord where
  id : String
  username : String
  deriving DecidableEq, Repr

/-- The tenant that a call works on, and the token that admits it there. -/
structure Session where
  tenant : String
  token : String
  deriving DecidableEq, Repr

end Rollout
