import Rollout.Proofs.Http.Form
import Rollout.Proofs.Http.Sending

/-!
# Texts in queries

Four operations send a text that somebody chose in a query. It stands there as the value of a pair,
or at the end of one, and the pairs are read back as they were meant, whatever the text holds
(`Lookup.pairs_intact`).
-/

namespace Rollout.Http

/-- An operation that sends a text in a query: the port and the segment that it is sent to, and the
pairs that it is meant to send. -/
inductive Lookup (text : String) :
    Operation → (port : Nat) → (segment : String) → List (String × String) → Prop
  | roles (session : Session) :
      Lookup text (.findRoles session text) gatewayPort "roles" [("query", "name==" ++ text)]
  | applicationSets (session : Session) :
      Lookup text (.applicationCapabilitySets session text) gatewayPort "capability-sets"
        [("offset", "0"), ("limit", "10000"), ("query", "applicationId==" ++ text)]
  | namedSets (session : Session) :
      Lookup text (.findCapabilitySets session text) gatewayPort "capability-sets"
        [("offset", "0"), ("limit", "1000"), ("query", "name=" ++ text)]
  | entitlement (entitlement : Entitlement) :
      Lookup text (.createEntitlement entitlement text) entitlementsPort "entitlements"
        [("purgeOnRollback", "true"), ("ignoreErrors", "false"), ("tenantParameters", text)]

section

variable {text segment : String} {op : Operation} {port : Nat} {pairs : List (String × String)}
  (lookup : Lookup text op port segment pairs)

include lookup

theorem Lookup.request (legal : ∀ session ∈ op.session?, session.Legal)
    {host scheme name : String} (names : Names host scheme name) :
    ∃ r, requestOf host op = some r ∧
      r.url = (serviceUrl scheme name port [segment.toList]).withPairs pairs := by
  have read : ∀ segment ∈ ["roles", "capability-sets", "entitlements"], ∀ port ∈ servicePorts,
      Url.read (addressOf host port ("/" ++ segment)) =
        some (serviceUrl scheme name port [segment.toList]) := by
    intro segment known port service
    have made : ∀ segment ∈ ["roles", "capability-sets", "entitlements"],
        MadeOf ("/" ++ segment) [segment.toList] ∧ ∀ s ∈ [segment.toList], ¬ IsDots s := by decide
    exact (made segment known).1.read_service names service (made segment known).2
  cases lookup with
  | roles session =>
      obtain ⟨headers, h⟩ := gatewayDraft_request .get [("query", "name==" ++ text)] none
        (read "roles" (by decide) gatewayPort (by decide)) (legal session rfl)
      exact ⟨_, h, rfl⟩
  | applicationSets session =>
      obtain ⟨headers, h⟩ := gatewayDraft_request .get
        (page pageLimit ++ [("query", "applicationId==" ++ text)]) none
        (read "capability-sets" (by decide) gatewayPort (by decide)) (legal session rfl)
      exact ⟨_, h, rfl⟩
  | namedSets session =>
      obtain ⟨headers, h⟩ := gatewayDraft_request .get
        (page "1000" ++ [("query", "name=" ++ text)]) none
        (read "capability-sets" (by decide) gatewayPort (by decide)) (legal session rfl)
      exact ⟨_, h, rfl⟩
  | entitlement entitlement =>
      obtain ⟨headers, h⟩ := plainDraft_request .post
        (entitlementPairs ++ [("tenantParameters", text)]) (some entitlement.toJson)
        (read "entitlements" (by decide) entitlementsPort (by decide))
      exact ⟨_, h, rfl⟩

theorem Lookup.written_segment : String.ofList (written segment.toList) = segment := by
  cases lookup <;> decide

theorem Lookup.pairs_ne_nil : pairs ≠ [] := by
  cases lookup <;> exact List.cons_ne_nil _ _

/-- Whatever the text of a lookup is, one request is sent, to the port and with the path that are
meant, and its query is read back as the pairs that are meant, with the text as it is. -/
theorem Lookup.pairs_intact (legal : ∀ session ∈ op.session?, session.Legal) {n : Network}
    {scheme name : String} (names : Names n.host scheme name) :
    ∃ r query, n.Sends (.ask (.platform op)) r ∧
      r.url = ⟨scheme, String.ofList (name.toList.map Char.toLower), port, [segment], some query⟩ ∧
      formPairs query = pairs := by
  obtain ⟨r, request, url⟩ := lookup.request legal names
  obtain ⟨query, added, read⟩ := formPairs_withPairs
    (u := serviceUrl scheme name port [segment.toList]) rfl lookup.pairs_ne_nil
  refine ⟨r, query, Network.sends_ask request, ?_, read⟩
  rw [url, added]
  simp [serviceUrl, lookup.written_segment]

end

/-- The name of a role that is full of what separates pairs is looked up as it is. -/
theorem Lookup.pairs_intact_separators :
    let lookup := Operation.findRoles ⟨"north", "token"⟩ "a&query=b +%26#\u00e9"
    ∃ r query, Network.mute.Sends (.ask (.platform lookup)) r ∧
      r.url = ⟨"http", "platform", some 8000, ["roles"], some query⟩ ∧
        formPairs query = [("query", "name==a&query=b +%26#\u00e9")] := by
  intro lookup
  have host : String.ofList ("platform".toList.map Char.toLower) = "platform" := by decide
  have legal : ∀ session ∈ some (⟨"north", "token"⟩ : Session), session.Legal := by
    rintro session ⟨⟩
    exact ⟨by decide, by decide⟩
  obtain ⟨r, query, sent, url, read⟩ :=
    Lookup.pairs_intact (.roles ⟨"north", "token"⟩) legal (n := .mute) names_platform
  rw [host] at url
  exact ⟨r, query, sent, url, read⟩

end Rollout.Http
