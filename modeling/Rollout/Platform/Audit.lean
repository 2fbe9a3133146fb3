import Rollout.Platform.Operation
import Rollout.Platform.Wire

/-!
# Mutations as documents

The log of a platform tells the mutations by their documents: the name of the operation, the tenant
if it was made for one, and what it was made with. Descriptions and passwords are left out.
-/

namespace Rollout.Operation

def details : Operation → List (String × Json)
  | createApplication d =>
      [("descriptor", d.toJson), ("discovery", .arr (d.discovery.map DiscoveryEntry.toJson))]
  | deleteApplication id | deleteTenant id | deleteRole _ id | deleteUser _ id => [("id", .str id)]
  | createDiscovery entries => [("entries", .arr (entries.map DiscoveryEntry.toJson))]
  | replaceDiscovery entry => [("entry", entry.toJson)]
  | createTenant name _ | createRole _ name _ => [("name", .str name)]
  | createEntitlement e parameters =>
      [("entitlement", e.toJson), ("tenant_parameters", .str parameters)]
  | deleteEntitlement e => [("entitlement", e.toJson)]
  | detachCapabilitySets _ id => [("role_id", .str id)]
  | attachCapabilitySets _ id ids => [("role_id", .str id), ("ids", .strings ids)]
  | createUser _ user => [("username", .str user.username)]
  | attachCredentials _ id _ _ => [("user_id", .str id)]
  | attachUserRoles _ id ids => [("user_id", .str id), ("role_ids", .strings ids)]
  | registryModules _ | moduleDescriptor _ | listApplications | listTenants | listRoles _
  | findRoles _ _ | applicationCapabilitySets _ _ | findCapabilitySets _ _ | listUsers _ => []

def toJson (op : Operation) : Json := .obj <|
  ("call", .str op.name) :: (op.session?.map fun s => ("tenant", Json.str s.tenant)).toList ++
    op.details

end Rollout.Operation
