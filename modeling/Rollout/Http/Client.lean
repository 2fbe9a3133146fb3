import Rollout.Error
import Rollout.Http.Message
import Rollout.Json.Reader
import Rollout.Platform.Operation
import Rollout.Platform.Wire
import Rollout.Text.Blank

/-!
# The platform over HTTP

Each service of the platform listens on a port of its own. An operation is one request: `requestOf`
builds it, unless its address or one of its headers cannot be written, and `answerOf` reads what a
successful response says. Whatever is known by a tenant goes through the gateway, with the tenant
and its token in headers; the credentials of a user are sent with the token as authorization
instead.
-/

namespace Rollout.Http

def gatewayPort : Nat := 8000

def applicationsPort : Nat := 9901

def tenantsPort : Nat := 9902

def entitlementsPort : Nat := 9903

def addressOf (host : String) (port : Nat) (path : String) : String :=
  Text.withoutSlashes host ++ ":" ++ toString port ++ path

def jsonContent : String × String := ("content-type", "application/json")

/-- A request before its address is read. -/
structure Draft where
  method : Method
  address : String
  pairs : List (String × String)
  headers : List (String × String)
  body : Option Json

def Draft.request? (d : Draft) : Option Request := do
  let url ← Url.read d.address
  if d.headers.all fun h => isHeaderValue h.2 then
    return ⟨d.method, url.withPairs d.pairs, d.headers, d.body⟩
  else none

def plainDraft (host : String) (port : Nat) (method : Method) (path : String)
    (pairs : List (String × String)) (body : Option Json) : Draft :=
  ⟨method, addressOf host port path, pairs, (body.map fun _ => jsonContent).toList, body⟩

def gatewayDraft (host : String) (session : Session) (method : Method) (path : String)
    (pairs : List (String × String)) (body : Option Json) : Draft :=
  ⟨method, addressOf host gatewayPort path, pairs,
    [jsonContent, ("x-okapi-tenant", session.tenant), ("x-okapi-token", session.token)], body⟩

def pageLimit : String := "10000"

def page (limit : String) : List (String × String) := [("offset", "0"), ("limit", limit)]

def entitlementPairs : List (String × String) :=
  [("purgeOnRollback", "true"), ("ignoreErrors", "false")]

def userBody (user : User) : Json := .obj [
  ("username", .str user.username), ("active", .bool true), ("type", .str "staff"),
  ("personal", .obj [
    ("firstName", .str user.firstName), ("lastName", .str user.lastName),
    ("email", .str (user.tenant ++ "-" ++ user.username)),
    ("preferredContactTypeId", .str "002")])]

def namedBody (name description : String) : Json :=
  .obj [("name", .str name), ("description", .str description)]

def draftOf (host : String) : Operation → Draft
  | .registryModules url =>
      ⟨.get, Text.withoutSlashes url ++ "/_/proxy/modules", [], [], none⟩
  | .moduleDescriptor url => ⟨.get, url, [], [], none⟩
  | .listApplications => plainDraft host applicationsPort .get "/applications" [] none
  | .createApplication d =>
      plainDraft host applicationsPort .post "/applications" [("check", "true")] (some d.toJson)
  | .deleteApplication id =>
      plainDraft host applicationsPort .delete ("/applications/" ++ id) [] none
  | .createDiscovery entries =>
      plainDraft host applicationsPort .post "/modules/discovery" []
        (some (.obj [("discovery", .arr (entries.map DiscoveryEntry.toJson))]))
  | .replaceDiscovery entry =>
      plainDraft host applicationsPort .put ("/modules/" ++ entry.id ++ "/discovery") []
        (some entry.toJson)
  | .listTenants => plainDraft host tenantsPort .get "/tenants" [] none
  | .createTenant name description =>
      plainDraft host tenantsPort .post "/tenants" [] (some (namedBody name description))
  | .deleteTenant id =>
      plainDraft host tenantsPort .delete ("/tenants/" ++ id) [("purge", "true")] none
  | .createEntitlement entitlement parameters =>
      plainDraft host entitlementsPort .post "/entitlements"
        (entitlementPairs ++ [("tenantParameters", parameters)]) (some entitlement.toJson)
  | .deleteEntitlement entitlement =>
      plainDraft host entitlementsPort .delete "/entitlements" entitlementPairs
        (some entitlement.toJson)
  | .listRoles session => gatewayDraft host session .get "/roles" (page pageLimit) none
  | .findRoles session name =>
      gatewayDraft host session .get "/roles" [("query", "name==" ++ name)] none
  | .createRole session name description =>
      gatewayDraft host session .post "/roles" [] (some (namedBody name description))
  | .deleteRole session id =>
      gatewayDraft host session .delete ("/roles-keycloak/roles/" ++ id) [] none
  | .applicationCapabilitySets session id =>
      gatewayDraft host session .get "/capability-sets"
        (page pageLimit ++ [("query", "applicationId==" ++ id)]) none
  | .findCapabilitySets session name =>
      gatewayDraft host session .get "/capability-sets"
        (page "1000" ++ [("query", "name=" ++ name)]) none
  | .detachCapabilitySets session roleId =>
      gatewayDraft host session .delete ("/roles/" ++ roleId ++ "/capability-sets") [] none
  | .attachCapabilitySets session roleId ids =>
      gatewayDraft host session .post "/roles/capability-sets" []
        (some (.obj [("roleId", .str roleId), ("capabilitySetIds", Json.strings ids)]))
  | .listUsers session => gatewayDraft host session .get "/users" (page pageLimit) none
  | .createUser session user =>
      gatewayDraft host session .post "/users-keycloak/users" [] (some (userBody user))
  | .deleteUser session id =>
      gatewayDraft host session .delete ("/users-keycloak/users/" ++ id) [] none
  | .attachCredentials session userId username password =>
      ⟨.post, addressOf host gatewayPort "/authn/credentials", [],
        [jsonContent, ("x-okapi-tenant", session.tenant),
          ("authorization", "Bearer " ++ session.token)],
        some (.obj [
          ("userId", .str userId), ("username", .str username), ("password", .str password)])⟩
  | .attachUserRoles session userId roleIds =>
      gatewayDraft host session .post "/roles/users" []
        (some (.obj [("userId", .str userId), ("roleIds", Json.strings roleIds)]))

def requestOf (host : String) (op : Operation) : Option Request := (draftOf host op).request?

def doing : Operation → String
  | .registryModules _ => "list registry modules"
  | .moduleDescriptor _ => "fetch module descriptor"
  | .listApplications => "list applications"
  | .createApplication _ => "create application"
  | .deleteApplication _ => "delete application"
  | .createDiscovery _ => "create module discovery"
  | .replaceDiscovery _ => "update module discovery"
  | .listTenants => "list tenants"
  | .createTenant _ _ => "create tenant"
  | .deleteTenant _ => "delete tenant"
  | .createEntitlement _ _ => "create entitlement"
  | .deleteEntitlement _ => "delete entitlement"
  | .listRoles _ => "list roles"
  | .findRoles _ _ => "find role by name"
  | .createRole _ _ _ => "create role"
  | .deleteRole _ _ => "delete role"
  | .applicationCapabilitySets _ _ => "list capability sets"
  | .findCapabilitySets _ _ => "find capability sets by name"
  | .detachCapabilitySets _ _ => "detach role capability sets"
  | .attachCapabilitySets _ _ _ => "attach role capability sets"
  | .listUsers _ => "list users"
  | .createUser _ _ => "create user"
  | .deleteUser _ _ => "delete user"
  | .attachCredentials _ _ _ _ => "attach credentials"
  | .attachUserRoles _ _ _ => "attach user roles"

open Json (Document Source)

/-- The list under a name in a document, empty if there is none. -/
def listUnder? {α : Type} (name : String) (decode : Document → Option α) (body : String) :
    Option (List α) := do
  (← Source.fields? [name] 0 (← Document.read body)).withDefault name [] (Source.list? decode)

def listOf? {α : Type} (decode : Document → Option α) (body : String) : Option (List α) := do
  Source.list? decode (← Document.read body)

def createdId? (body : String) : Option String := do
  (← Source.fields? ["id"] 1 (← Document.read body)).need "id" Source.string?

def answerOf? (body : String) : (op : Operation) → Option op.Answer
  | .registryModules _ => listOf? RegistryModule.ofDocument? body
  | .moduleDescriptor _ => Json.read body
  | .listApplications => listUnder? "applicationDescriptors" ApplicationSummary.ofDocument? body
  | .listTenants => listUnder? "tenants" Tenant.ofDocument? body
  | .listRoles _ => listUnder? "roles" Role.ofDocument? body
  | .findRoles _ _ => listUnder? "roles" Role.ofDocument? body
  | .applicationCapabilitySets _ _ => listUnder? "capabilitySets" CapabilitySet.ofDocument? body
  | .findCapabilitySets _ _ => listUnder? "capabilitySets" CapabilitySet.ofDocument? body
  | .listUsers _ => listUnder? "users" UserRecord.ofDocument? body
  | .createUser _ _ => createdId? body
  | .createApplication _ | .deleteApplication _ | .createDiscovery _ | .replaceDiscovery _
  | .createTenant _ _ | .deleteTenant _ | .createEntitlement _ _ | .deleteEntitlement _
  | .createRole _ _ _ | .deleteRole _ _ | .detachCapabilitySets _ _ | .attachCapabilitySets _ _ _
  | .deleteUser _ _ | .attachCredentials _ _ _ _ | .attachUserRoles _ _ _ => some ()

def outcomeOf (op : Operation) : Option Response → Except Failure op.Answer
  | none => .error (.of (doing op ++ " request failed"))
  | some response =>
      if isSuccess response.status then
        match answerOf? response.body op with
        | some answer => .ok answer
        | none => .error (.of ("decoding " ++ doing op ++ " response"))
      else .error <| .of <|
        doing op ++ " returned " ++ statusText response.status ++ ": " ++ Text.trim response.body

def healthPath : String := "/admin/health"

def healthAddress (host : String) (port : Port) : String := addressOf host port.toNat healthPath

def probeRequest (host : String) (port : Port) : Option Request :=
  Draft.request? ⟨.get, healthAddress host port, [], [], none⟩

def probeOutcome (host : String) (port : Port) : Option Response → Except Failure String
  | none => .error (.of ("GET " ++ healthAddress host port))
  | some response =>
      if isSuccess response.status then .ok response.body
      else .error <| .of <|
        "GET " ++ healthAddress host port ++ " returned " ++ statusText response.status

end Rollout.Http
