import Rollout.Procedure.Run
import Rollout.Proofs.Http.Network
import Rollout.Proofs.Http.Path

/-!
# What is sent for an operation

An operation is sent as one request, if its address and its headers can be written. Both can be
where the host is a name, the path starts with a slash and the session has legal values for headers
(`plainDraft_request`, `gatewayDraft_request`). What else arrives has taken the place of that
request, where the network redirects it (`Network.Receives`).
-/

namespace Rollout

/-- The tenant and the token of a session can be sent in headers. -/
structure Session.Legal (session : Session) : Prop where
  tenant : Http.isHeaderValue session.tenant = true
  token : Http.isHeaderValue session.token = true

namespace Http

/-- To what had arrived on a network a request was added, and what that was redirected to, if the
network redirects at all. -/
def Network.Receives (n : Network) (past : List Arrival) (r : Request) (arrivals : List Arrival) :
    Prop :=
  ∃ further, arrivals = further ++ .request r :: past ∧
    (∀ a ∈ further, ∃ next, a = .redirected r next) ∧ (n.Direct → further = [])

/-- Whatever arrived before, a procedure sends one request on a network, whether that is redirected
or not. -/
def Network.Sends {α : Type} (n : Network) (p : Procedure α) (r : Request) : Prop :=
  ∀ (tokens : String → Except Failure String) (past : List Arrival) (clock : Nat),
    n.Receives past r (p.run (n.surroundings tokens) past clock).state

def Network.SendsNothing {α : Type} (n : Network) (p : Procedure α) : Prop :=
  ∀ (tokens : String → Except Failure String) (past : List Arrival) (clock : Nat),
    (p.run (n.surroundings tokens) past clock).state = past

namespace Network

variable {n : Network} {r : Request}

/-- What is delivered after the first request of a chain was redirected from it. -/
theorem follow_further (left : Nat) (a : Arrival) (last : Request) (elapsed : Nat)
    (past : List Arrival) :
    ∃ further, (follow n.deliver r (left + 1) a last (elapsed, past)).2.2 = further ++ a :: past ∧
      (∀ a ∈ further, ∃ next, a = .redirected r next) ∧ (n.Direct → further = []) := by
  induction left generalizing a last elapsed past with
  | zero =>
      refine ⟨[], ?_, by simp, fun _ => rfl⟩
      rw [follow]
      cases (n.deliver a last (elapsed, past)).1.bind last.next? <;> rfl
  | succ left ih =>
      rw [follow]
      cases next : (n.deliver a last (elapsed, past)).1.bind last.next? with
      | none => exact ⟨[], rfl, by simp, fun _ => rfl⟩
      | some r' =>
          obtain ⟨further, arrived, redirected, -⟩ :=
            ih (.redirected r r') r' (elapsed + (n.respond (a :: past)).2) (a :: past)
          refine ⟨further ++ [.redirected r r'], ?_, ?_, fun direct => ?_⟩
          · rw [List.append_assoc]
            exact arrived
          · simpa [or_imp, forall_and] using redirected
          · rw [direct.next?_eq_none] at next
            cases next

/-- What is called with a request sends it, if nothing but the end comes after the call. -/
theorem sends_of_request {α : Type} {op : Operation} (h : requestOf n.host op = some r)
    (value : Except Failure op.Answer → α) :
    n.Sends (.call (.platform op) fun reply => .done (value reply)) r := by
  intro tokens past clock
  rw [Procedure.run, answer_platform, h]
  exact follow_further _ _ _ _ _

theorem sends_ask {op : Operation} (h : requestOf n.host op = some r) :
    n.Sends (.ask (.platform op)) r :=
  sends_of_request h id

/-- One request at most is sent by a procedure. -/
theorem Sends.unique {α : Type} {p : Procedure α} {r' : Request} (h : n.Sends p r)
    (h' : n.Sends p r') : r = r' := by
  obtain ⟨further, arrived, -⟩ := h (fun _ => .error default) [] 0
  obtain ⟨further', arrived', -⟩ := h' (fun _ => .error default) [] 0
  have same : further ++ [.request r] = further' ++ [.request r'] := arrived.symm.trans arrived'
  simpa using (List.append_inj' same rfl).2

end Network

def Network.mute : Network where
  host := "http://platform"
  queue := ⟨"kafka", "broker"⟩
  respond _ := (none, 0)
  describe _ := (.error default, 0)

def servicePorts : List Nat := [gatewayPort, applicationsPort, tenantsPort, entitlementsPort]

section

variable {host scheme name : String} (names : Names host scheme name) {port : Nat}
  (service : port ∈ servicePorts)

include names service

theorem unusual_of_service : port ≠ Url.usualPort scheme ∧ port < 65536 := by
  have far : ∀ port ∈ servicePorts, port ≠ 80 ∧ port ≠ 443 ∧ port < 65536 := by decide
  obtain ⟨ne80, ne443, small⟩ := far port service
  rcases names.known with rfl | rfl
  · exact ⟨ne80, small⟩
  · exact ⟨ne443, small⟩

end

/-- The address of some segments on a port of a host that is a name. -/
def serviceUrl (scheme name : String) (port : Nat) (segments : List (List Char)) : Url :=
  ⟨scheme, String.ofList (name.toList.map Char.toLower), port,
    segments.map fun s => String.ofList (written s), none⟩

/-- An address without its path and its query. -/
def Url.origin (u : Url) : Url := { u with path := [], query := none }

theorem Url.withPairs_origin (u : Url) (pairs : List (String × String)) :
    (u.withPairs pairs).origin = u.origin := by
  rw [Url.withPairs]
  split <;> rfl

theorem isHeaderValue_jsonContent : isHeaderValue jsonContent.2 = true := by decide

section

variable {host path : String} {u : Url} (method : Method) (pairs : List (String × String))
  (body : Option Json)

/-- A request to a service is sent if its address can be read. -/
theorem plainDraft_request {port : Nat} (read : Url.read (addressOf host port path) = some u) :
    ∃ headers, (plainDraft host port method path pairs body).request? =
      some ⟨method, u.withPairs pairs, headers, body⟩ := by
  refine ⟨(body.map fun _ => jsonContent).toList, ?_⟩
  have legal : ((body.map fun _ => jsonContent).toList.all fun h => isHeaderValue h.2) = true := by
    cases body with
    | none => rfl
    | some body => simp [isHeaderValue_jsonContent]
  rw [Draft.request?_eq, plainDraft, if_pos legal, read]
  rfl

/-- A request to the gateway is sent if its address can be read and its session is legal. -/
theorem gatewayDraft_request (read : Url.read (addressOf host gatewayPort path) = some u)
    {session : Session} (legal : session.Legal) :
    ∃ headers, (gatewayDraft host session method path pairs body).request? =
      some ⟨method, u.withPairs pairs, headers, body⟩ := by
  refine ⟨[jsonContent, ("x-okapi-tenant", session.tenant), ("x-okapi-token", session.token)], ?_⟩
  have sent : ([jsonContent, ("x-okapi-tenant", session.tenant),
      ("x-okapi-token", session.token)].all fun h => isHeaderValue h.2) = true := by
    simp [isHeaderValue_jsonContent, legal.tenant, legal.token]
  rw [Draft.request?_eq, gatewayDraft, if_pos sent, read]
  rfl

end

/-- The address of a path that is put together from plain segments is theirs. -/
theorem MadeOf.read_service {host scheme name path : String} {segments : List (List Char)}
    {port : Nat} (made : MadeOf path segments) (names : Names host scheme name)
    (service : port ∈ servicePorts) (named : ∀ s ∈ segments, ¬ IsDots s) :
    Url.read (addressOf host port path) = some (serviceUrl scheme name port segments) := by
  obtain ⟨unusual, small⟩ := unusual_of_service names service
  exact made.read names unusual small named

end Http

end Rollout
