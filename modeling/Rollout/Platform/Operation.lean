import Rollout.Platform.Record

/-!
# Operations of the platform

What the services of the platform can be asked to do: each operation is one request with one answer,
whose type depends on the operation. An operation that changes the platform is a mutation.
-/

namespace Rollout

inductive Operation where
  | registryModules (url : String)
  | moduleDescriptor (url : String)
  | listApplications
  | createApplication (descriptor : ApplicationDescriptor)
  | deleteApplication (id : String)
  | createDiscovery (entries : List DiscoveryEntry)
  | replaceDiscovery (entry : DiscoveryEntry)
  | listTenants
  | createTenant (name description : String)
  | deleteTenant (id : String)
  | createEntitlement (entitlement : Entitlement) (parameters : String)
  | deleteEntitlement (entitlement : Entitlement)
  | listRoles (session : Session)
  | findRoles (session : Session) (name : String)
  | createRole (session : Session) (name description : String)
  | deleteRole (session : Session) (id : String)
  | applicationCapabilitySets (session : Session) (applicationId : String)
  | findCapabilitySets (session : Session) (name : String)
  | detachCapabilitySets (session : Session) (roleId : String)
  | attachCapabilitySets (session : Session) (roleId : String) (ids : List String)
  | listUsers (session : Session)
  | createUser (session : Session) (user : User)
  | deleteUser (session : Session) (id : String)
  | attachCredentials (session : Session) (userId username password : String)
  | attachUserRoles (session : Session) (userId : String) (roleIds : List String)

namespace Operation

abbrev Answer : Operation → Type
  | registryModules _ => List RegistryModule
  | moduleDescriptor _ => Json
  | listApplications => List ApplicationSummary
  | listTenants => List Tenant
  | listRoles _ => List Role
  | findRoles _ _ => List Role
  | applicationCapabilitySets _ _ => List CapabilitySet
  | findCapabilitySets _ _ => List CapabilitySet
  | listUsers _ => List UserRecord
  | createUser _ _ => String
  | createApplication _ | deleteApplication _ | createDiscovery _ | replaceDiscovery _
  | createTenant _ _ | deleteTenant _ | createEntitlement _ _ | deleteEntitlement _
  | createRole _ _ _ | deleteRole _ _ | detachCapabilitySets _ _ | attachCapabilitySets _ _ _
  | deleteUser _ _ | attachCredentials _ _ _ _ | attachUserRoles _ _ _ => Unit

def name : Operation → String
  | registryModules _ => "registry_modules"
  | moduleDescriptor _ => "module_descriptor"
  | listApplications => "list_applications"
  | createApplication _ => "create_application"
  | deleteApplication _ => "delete_application"
  | createDiscovery _ => "create_discovery"
  | replaceDiscovery _ => "replace_discovery"
  | listTenants => "list_tenants"
  | createTenant _ _ => "create_tenant"
  | deleteTenant _ => "delete_tenant"
  | createEntitlement _ _ => "create_entitlement"
  | deleteEntitlement _ => "delete_entitlement"
  | listRoles _ => "list_roles"
  | findRoles _ _ => "find_roles_by_name"
  | createRole _ _ _ => "create_role"
  | deleteRole _ _ => "delete_role"
  | applicationCapabilitySets _ _ => "capability_sets_for_application"
  | findCapabilitySets _ _ => "find_capability_sets_by_name"
  | detachCapabilitySets _ _ => "detach_role_capability_sets"
  | attachCapabilitySets _ _ _ => "attach_role_capability_sets"
  | listUsers _ => "list_users"
  | createUser _ _ => "create_user"
  | deleteUser _ _ => "delete_user"
  | attachCredentials _ _ _ _ => "attach_credentials"
  | attachUserRoles _ _ _ => "attach_user_roles"

def isMutation : Operation → Bool
  | registryModules _ | moduleDescriptor _ | listApplications | listTenants | listRoles _
  | findRoles _ _ | applicationCapabilitySets _ _ | findCapabilitySets _ _ | listUsers _ => false
  | _ => true

def session? : Operation → Option Session
  | listRoles s | findRoles s _ | createRole s _ _ | deleteRole s _ | applicationCapabilitySets s _
  | findCapabilitySets s _ | detachCapabilitySets s _ | attachCapabilitySets s _ _ | listUsers s
  | createUser s _ | deleteUser s _ | attachCredentials s _ _ _ | attachUserRoles s _ _ => some s
  | _ => none

end Operation

end Rollout
