import Rollout.Http.Routes
import Rollout.Proofs.Http.Address
import Rollout.Proofs.Http.Redirects
import Rollout.Proofs.Tenancy.Tasks

/-!
# Secrets on the network

A network answers a request as it sees fit, which may depend on all that has arrived before, and it
may redirect it. It is discreet when its answers do not depend on secrets: neither on the values of
the headers that carry a token nor on the body with which the credentials of a user are posted.

`Request.Alike` says in what the requests of two runs may differ that have the same to do with other
secrets: in the token of a request to the gateway, and in the token and the password where
credentials are posted there. What a network makes of two such requests by redirecting them differs
in the same (`Arrival.Alike`). The requests of an operation in one session and of its counterpart in
another are alike (`counterpart_alike`), and a discreet network answers them the same.
-/

namespace Rollout

/-- A call that is made in nobody's name: it neither asks for a token nor bears one. -/
def Call.Impersonal (c : Call) : Prop :=
  c.General ∨ (∃ group, c = .describeGroup group) ∨ ∃ port, c = .probe port

namespace Http

/-- A network: the host of the services, the queue, and what becomes of the latest of what has
arrived, and after how long. -/
structure Network where
  host : String
  queue : QueueSettings
  respond : List Arrival → Option Response × Nat
  describe : List Arrival → Except Failure Lag.CommandOutput × Nat

namespace Network

def deliver (n : Network) (arrival : Arrival) (_ : Request) (state : Nat × List Arrival) :
    Option Response × Nat × List Arrival :=
  let (response, elapsed) := n.respond (arrival :: state.2)
  (response, state.1 + elapsed, arrival :: state.2)

def send (n : Network) (c : Call) (outcome : Option Response → c.Reply) (request : Option Request)
    (past : List Arrival) : Rollout.Response c × List Arrival :=
  match request with
  | none => (⟨outcome none, 0⟩, past)
  | some request =>
      let (response, elapsed, past) :=
        follow n.deliver request redirectLimit (.request request) request (0, past)
      (⟨outcome response, elapsed⟩, past)

/-- No response of a network sends a request on. -/
def Direct (n : Network) : Prop :=
  ∀ past, ∀ response ∈ (n.respond past).1, response.target? = none

/-- The surroundings that a network makes, with the tokens of the tenants. Their state is what has
arrived, the latest first. -/
def surroundings (n : Network) (tokens : String → Except Failure String) :
    Surroundings (List Arrival) where
  answer
    | .platform op, past => n.send (.platform op) (outcomeOf op) (requestOf n.host op) past
    | .accessToken tenant, past => (⟨tokens tenant, 0⟩, past)
    | .describeGroup group, past =>
        let arrivals := .command (Lag.describeArguments n.queue group) :: past
        let (reply, elapsed) := n.describe arrivals
        (⟨reply, elapsed⟩, arrivals)
    | .probe port, past =>
        n.send (.probe port) (probeOutcome n.host port) (probeRequest n.host port) past

section

variable (n : Network) (tokens : String → Except Failure String) (past : List Arrival)

-- The answers are rewritten and not unfolded: a comparison by `rfl` would read the addresses.

@[simp] theorem answer_platform (op : Operation) :
    (n.surroundings tokens).answer (.platform op) past =
      n.send (.platform op) (outcomeOf op) (requestOf n.host op) past := by
  simp only [surroundings]

@[simp] theorem answer_describeGroup (group : String) :
    (n.surroundings tokens).answer (.describeGroup group) past =
      let arrivals := .command (Lag.describeArguments n.queue group) :: past
      (⟨(n.describe arrivals).1, (n.describe arrivals).2⟩, arrivals) := rfl

@[simp] theorem answer_probe (port : Port) :
    (n.surroundings tokens).answer (.probe port) past =
      n.send (.probe port) (probeOutcome n.host port) (probeRequest n.host port) past := by
  simp only [surroundings]

end

theorem Direct.next?_eq_none {n : Network} (direct : n.Direct) (a : Arrival) (r last : Request)
    (state : Nat × List Arrival) : (n.deliver a r state).1.bind last.next? = none := by
  cases answered : (n.deliver a r state).1 with
  | none => rfl
  | some response =>
      rw [Option.bind_some, Request.next?, direct _ response answered]
      rfl

end Network

def tokenHeaders : List String := ["x-okapi-token", "authorization"]

def credentialsUrl? (host : String) : Option Url :=
  Url.read (addressOf host gatewayPort "/authn/credentials")

def Request.isCredentials (host : String) (r : Request) : Bool :=
  r.method = .post && credentialsUrl? host = some r.url

/-- A request without its tokens, and without its body if that is secret. -/
def Request.veiled (secret : Bool) (r : Request) : Request where
  method := r.method
  url := r.url
  headers := r.headers.map fun h => if h.1 ∈ tokenHeaders then (h.1, "") else h
  body := if secret then none else r.body

def Request.blind (host : String) (r : Request) : Request := r.veiled (r.isCredentials host)

/-- What arrived, without its secrets. A redirected request has those of the first one. -/
def Arrival.blind (host : String) : Arrival → Arrival
  | .request r => .request (r.blind host)
  | .redirected first r => .redirected (first.blind host) (r.veiled (first.isCredentials host))
  | arrival => arrival

/-- The answers of a network do not depend on secrets. -/
def Network.Discreet (n : Network) : Prop :=
  ∀ past past' : List Arrival,
    past.map (Arrival.blind n.host) = past'.map (Arrival.blind n.host) →
      n.respond past = n.respond past' ∧ n.describe past = n.describe past'

def ReachesGateway (host : String) (url : Url) : Prop :=
  ∃ path u pairs, path.toList.head? = some '/' ∧
    Url.read (addressOf host gatewayPort path) = some u ∧ url = u.withPairs pairs

/-- Where the host of the services is a name, the gateway is on the port of its own. -/
theorem ReachesGateway.port {host scheme name : String} (names : Names host scheme name) {url : Url}
    (reaches : ReachesGateway host url) : url.port = some gatewayPort := by
  obtain ⟨path, u, pairs, rooted, hread, rfl⟩ := reaches
  have unusual : gatewayPort ≠ Url.usualPort scheme := by
    rcases names.known with rfl | rfl <;> decide
  rw [read_addressOf names unusual (by decide) rooted, Option.some_inj] at hread
  rw [Url.withPairs_port, ← hread]

def Arrival.request? : Arrival → Option Request
  | .request r | .redirected _ r => some r
  | _ => none

/-- What arrived has no header that carries a token. -/
def Arrival.Tokenless (a : Arrival) : Prop :=
  ∀ r ∈ a.request?, ∀ h ∈ r.headers, h.1 ∉ tokenHeaders

/-- What arrived is a request on a port, which was not redirected there. -/
def Arrival.OnPort (port : Nat) : Arrival → Prop
  | .request r => r.url.port = some port
  | _ => False

def credentialsBody (id username password : String) : Json :=
  .obj [("userId", .str id), ("username", .str username), ("password", .str password)]

/-- The requests of two runs are the same and have no token; or they are the same request to the
gateway but for the token of its session; or they post the credentials of a user there, the same but
for the token and the password. -/
inductive Request.Alike (host : String) : Request → Request → Prop
  | same {r : Request} (tokenless : ∀ h ∈ r.headers, h.1 ∉ tokenHeaders) : Alike host r r
  | gateway {url : Url} (reaches : ReachesGateway host url) (method : Method) (tenant : String)
      (token token' : String) (body : Option Json) :
      Alike host
        ⟨method, url, [jsonContent, ("x-okapi-tenant", tenant), ("x-okapi-token", token)], body⟩
        ⟨method, url, [jsonContent, ("x-okapi-tenant", tenant), ("x-okapi-token", token')], body⟩
  | credentials {url : Url} (reaches : credentialsUrl? host = some url)
      (tenant id username token password token' password' : String) :
      Alike host
        ⟨.post, url, [jsonContent, ("x-okapi-tenant", tenant),
          ("authorization", "Bearer " ++ token)], some (credentialsBody id username password)⟩
        ⟨.post, url, [jsonContent, ("x-okapi-tenant", tenant),
          ("authorization", "Bearer " ++ token')], some (credentialsBody id username password')⟩

/-- What arrived in two runs on a network: requests that are alike, or, where it redirects, what the
same responses made of such requests, or the same command. -/
inductive Arrival.Alike (n : Network) : Arrival → Arrival → Prop
  | request {r r' : Request} (alike : r.Alike n.host r') : Alike n (.request r) (.request r')
  | redirected {first first' r r' : Request} (redirects : ¬ n.Direct)
      (alike : first.Alike n.host first') (responses : List Response)
      (next : responses.foldlM Request.next? first = some r)
      (next' : responses.foldlM Request.next? first' = some r') :
      Alike n (.redirected first r) (.redirected first' r')
  | command (arguments : List String) : Alike n (.command arguments) (.command arguments)

section Veiled

variable {host : String}

theorem Request.veiled_sentOn (secret repeated : Bool) (url : Url) (r : Request) :
    (r.sentOn repeated url).veiled secret = (r.veiled secret).sentOn repeated url := by
  have named (h : String × String) :
      (if h.1 ∈ tokenHeaders then (h.1, "") else h).1 = h.1 := by
    split <;> rfl
  simp only [veiled, sentOn, Request.mk.injEq, List.filter_map, Function.comp_def, named, true_and]
  cases secret <;> cases repeated <;> rfl

theorem Request.veiled_next? (secret : Bool) (r : Request) (response : Response) :
    (r.next? response).map (veiled secret) = (r.veiled secret).next? response := by
  rw [next?, next?, Option.map_map]
  exact congrArg (response.target?.map ·) (funext fun url => veiled_sentOn ..)

/-- What is redirected without its secrets is redirected to the same without its secrets. -/
theorem Request.veiled_foldlM (secret : Bool) (r : Request) (responses : List Response) :
    (responses.foldlM next? r).map (veiled secret) =
      responses.foldlM next? (r.veiled secret) := by
  induction responses generalizing r with
  | nil => rfl
  | cons response rest ih =>
      rw [List.foldlM_cons, List.foldlM_cons, ← veiled_next?]
      cases r.next? response with
      | none => rfl
      | some next => exact ih next

theorem Request.Alike.isCredentials {r r' : Request} (h : r.Alike host r') :
    r.isCredentials host = r'.isCredentials host := by
  cases h <;> rfl

theorem Request.Alike.veiled {r r' : Request} (h : r.Alike host r') :
    r.veiled (r.isCredentials host) = r'.veiled (r.isCredentials host) := by
  cases h with
  | same => rfl
  | gateway reaches method tenant token token' body => simp [Request.veiled, tokenHeaders]
  | credentials reaches tenant id username token password token' password' =>
      simp [Request.veiled, Request.isCredentials, tokenHeaders, reaches]

/-- Where the host of the services is a name, a request has no token or is on the port of the
gateway. -/
theorem Request.Alike.port {scheme name : String} (names : Names host scheme name)
    {r r' : Request} (h : r.Alike host r') :
    (∀ h ∈ r.headers, h.1 ∉ tokenHeaders) ∨ r.url.port = some gatewayPort := by
  cases h with
  | same tokenless => exact .inl tokenless
  | gateway reaches => exact .inr (reaches.port names)
  | @credentials url reaches =>
      exact .inr (ReachesGateway.port names
        ⟨"/authn/credentials", url, [], by simp, reaches, rfl⟩)

end Veiled

namespace Arrival

variable {n : Network}

theorem Alike.blind {a a' : Arrival} (h : Alike n a a') : a.blind n.host = a'.blind n.host := by
  cases h with
  | request alike =>
      rw [Arrival.blind, Arrival.blind, Request.blind, Request.blind, ← alike.isCredentials,
        alike.veiled]
  | @redirected first first' r r' redirects alike responses next next' =>
      have last : some (r.veiled (first.isCredentials n.host)) =
          some (r'.veiled (first.isCredentials n.host)) := by
        rw [← Option.map_some, ← Option.map_some, ← next, ← next', Request.veiled_foldlM,
          Request.veiled_foldlM, alike.veiled]
      rw [Arrival.blind, Arrival.blind, Request.blind, Request.blind, ← alike.isCredentials,
        alike.veiled, Option.some_inj.1 last]
  | command => rfl

/-- Where the host of the services is a name, what arrives has no token or is on the port of the
gateway, unless it takes the place of such a request that was redirected. -/
theorem Alike.port {scheme name : String} (names : Names n.host scheme name) {a a' : Arrival}
    (h : Alike n a a') : a.Tokenless ∨ a.OnPort gatewayPort ∨
      ¬ n.Direct ∧ ∃ first r, a = .redirected first r ∧ first.url.port = some gatewayPort := by
  cases h with
  | request alike =>
      rcases alike.port names with tokenless | port
      · exact .inl fun r hr => Option.some_inj.1 hr ▸ tokenless
      · exact .inr (.inl port)
  | @redirected first first' r r' redirects alike responses next =>
      rcases alike.port names with tokenless | port
      · refine .inl fun last hlast h hmem => ?_
        obtain rfl := Option.some_inj.1 hlast
        exact tokenless h (Request.headers_subset next hmem)
      · exact .inr (.inr ⟨redirects, first, r, rfl, port⟩)
  | command => exact .inl fun r hr => by cases hr

theorem blind_of_alike {past past' : List Arrival} (h : List.Forall₂ (Alike n) past past') :
    past.map (Arrival.blind n.host) = past'.map (Arrival.blind n.host) := by
  rw [← List.forall₂_eq_eq_eq, List.forall₂_map_left_iff, List.forall₂_map_right_iff]
  exact h.imp fun _ _ => Alike.blind

end Arrival

def AlikeRequests (host : String) : Option Request → Option Request → Prop :=
  Option.Rel (Request.Alike host)

section Requests

variable {host tenant token token' : String}

theorem Draft.request?_eq (d : Draft) :
    d.request? = if d.headers.all fun h => isHeaderValue h.2 then
      (Url.read d.address).map fun url => ⟨d.method, url.withPairs d.pairs, d.headers, d.body⟩
    else none := by
  cases h : Url.read d.address with
  | none => simp [Draft.request?, h]
  | some url => simp [Draft.request?, h]

theorem Draft.request?_headers {d : Draft} {r : Request} (h : d.request? = some r) :
    r.headers = d.headers := by
  rw [Draft.request?_eq] at h
  split at h
  · obtain ⟨url, -, rfl⟩ := Option.map_eq_some_iff.1 h
    rfl
  · cases h

theorem Draft.alike_self {d : Draft} (tokenless : ∀ h ∈ d.headers, h.1 ∉ tokenHeaders) :
    AlikeRequests host d.request? d.request? := by
  cases hr : d.request? with
  | none => exact .none
  | some r => exact .some (.same fun h hmem => tokenless h (Draft.request?_headers hr ▸ hmem))

theorem plainDraft_tokenless {port : Nat} {method : Method} {path : String}
    {pairs : List (String × String)} {body : Option Json} :
    ∀ h ∈ (plainDraft host port method path pairs body).headers, h.1 ∉ tokenHeaders := by
  cases body with
  | none => simp [plainDraft]
  | some body => simp [plainDraft, jsonContent, tokenHeaders]

/-- An operation in no session is requested without a token. -/
theorem general_alike {op : Operation} (general : op.session? = none) :
    AlikeRequests host (requestOf host op) (requestOf host op) := by
  refine Draft.alike_self ?_
  cases op <;> cases general
  case registryModules => simp [draftOf]
  case moduleDescriptor => simp [draftOf]
  all_goals exact plainDraft_tokenless

theorem gatewayDraft_alike (legal : isHeaderValue token = true)
    (legal' : isHeaderValue token' = true) (method : Method) {path : String}
    (rooted : path.toList.head? = some '/') (pairs : List (String × String)) (body : Option Json) :
    AlikeRequests host (gatewayDraft host ⟨tenant, token⟩ method path pairs body).request?
      (gatewayDraft host ⟨tenant, token'⟩ method path pairs body).request? := by
  simp only [Draft.request?_eq, gatewayDraft, List.all_cons, List.all_nil, legal, legal']
  split
  · cases hread : Url.read (addressOf host gatewayPort path) with
    | none => exact .none
    | some u =>
        exact .some (.gateway ⟨path, u, pairs, rooted, hread, rfl⟩ method tenant token token' body)
  · exact .none

theorem isHeaderValue_bearer {token : String} :
    isHeaderValue ("Bearer " ++ token) = isHeaderValue token := by
  simp [isHeaderValue]

theorem attachCredentials_alike (legal : isHeaderValue token = true)
    (legal' : isHeaderValue token' = true) (id username password password' : String) :
    AlikeRequests host (requestOf host (.attachCredentials ⟨tenant, token⟩ id username password))
      (requestOf host (.attachCredentials ⟨tenant, token'⟩ id username password')) := by
  simp only [requestOf, draftOf, Draft.request?_eq, List.all_cons, List.all_nil,
    isHeaderValue_bearer, legal, legal']
  split
  · cases hread : Url.read (addressOf host gatewayPort "/authn/credentials") with
    | none => exact .none
    | some u =>
        exact .some (.credentials hread tenant id username token password token' password')
  · exact .none

/-- The requests of an operation in a session for a tenant and of its counterpart in another are
alike. -/
theorem counterpart_alike {same : User → User → Prop} {op op' : Operation}
    (legal : isHeaderValue token = true) (legal' : isHeaderValue token' = true)
    (together : ∀ {user user'}, same user user' → user.anonymous = user'.anonymous)
    (h : Operation.Counterpart same ⟨tenant, token⟩ ⟨tenant, token'⟩ op op') :
    AlikeRequests host (requestOf host op) (requestOf host op') := by
  cases h with
  | listApplications => exact general_alike rfl
  | createUser h =>
      have body : userBody _ = userBody _ := congrArg userBody (together h)
      rw [requestOf, requestOf, draftOf, draftOf]
      exact body ▸ gatewayDraft_alike legal legal' _ rfl _ _
  | attachCredentials id h =>
      have name : User.username _ = User.username _ := congrArg User.username (together h)
      exact name ▸ attachCredentials_alike legal legal' id _ _ _
  | _ => exact gatewayDraft_alike legal legal' _ (by simp) _ _

end Requests

theorem outcomeOf_same {op op' : Operation} (named : doing op = doing op')
    (answers : ∀ body, Option.Rel (fun x x' => HEq x x') (answerOf? body op) (answerOf? body op'))
    (response : Option Response) :
    SameOutcome (fun x x' => HEq x x') (outcomeOf op response) (outcomeOf op' response) := by
  cases response with
  | none => exact congrArg (fun doing => Failure.of (doing ++ " request failed")) named
  | some response =>
      rw [outcomeOf, outcomeOf, ← named]
      split
      · have h := answers response.body
        generalize answerOf? response.body op = answer at h
        generalize answerOf? response.body op' = answer' at h
        cases h with
        | none => rfl
        | some h => exact h
      · rfl

theorem outcomeOf_counterpart {same : User → User → Prop} {s s' : Session} {op op' : Operation}
    (h : Operation.Counterpart same s s' op op') (response : Option Response) :
    SameOutcome (fun x x' => HEq x x') (outcomeOf op response) (outcomeOf op' response) := by
  have self {α : Type} (answer : Option α) : Option.Rel (fun x x' => HEq x x') answer answer := by
    cases answer with
    | none => exact .none
    | some x => exact .some .rfl
  cases h <;> (refine outcomeOf_same ?_ (fun body => ?_) response; rfl; exact self _)

namespace Network

variable (n : Network) (tokens tokens' : String → Except Failure String)

/-- A network in two runs with tokens of their own, between which time passes alike and what arrives
differs in secrets only. -/
def pairing : Pairing (n.surroundings tokens) (n.surroundings tokens') where
  linked past clock past' clock' := clock = clock' ∧ List.Forall₂ (Arrival.Alike n) past past'
  passing duration h := ⟨congrArg (· + duration) h.1, h.2⟩

variable {n tokens tokens'} (discreet : n.Discreet)

include discreet

/-- Requests that are alike are redirected to alike ones, and answered the same in the end. -/
theorem follow_alike {first first' : Request} (alike : first.Alike n.host first') (left : Nat)
    {past past' : List Arrival} (h : List.Forall₂ (Arrival.Alike n) past past') :
    let followed := follow n.deliver first left (.request first) first (0, past)
    let followed' := follow n.deliver first' left (.request first') first' (0, past')
    followed.1 = followed'.1 ∧ followed.2.1 = followed'.2.1 ∧
      List.Forall₂ (Arrival.Alike n) followed.2.2 followed'.2.2 := by
  refine follow_related
    (S := fun (state state' : Nat × List Arrival) => state.1 = state'.1 ∧
      List.Forall₂ (Arrival.Alike n) state.2 state'.2)
    (T := fun a r a' r' => Arrival.Alike n a a' ∧ ∃ responses : List Response,
      responses.foldlM Request.next? first = some r ∧
        responses.foldlM Request.next? first' = some r')
    ?_ left ⟨.request alike, [], rfl, rfl⟩ ⟨rfl, h⟩
  rintro a r state a' r' state' ⟨arrives, responses, next, next'⟩ ⟨elapsed, past⟩
  -- The network sees the request as the latest of what has arrived.
  have arrived := past.cons arrives
  obtain ⟨responded, -⟩ := discreet _ _ (Arrival.blind_of_alike arrived)
  have response : (n.deliver a r state).1 = (n.deliver a' r' state').1 := by
    simp only [deliver, responded]
  have time : (n.deliver a r state).2.1 = (n.deliver a' r' state').2.1 := by
    simp only [deliver, responded, elapsed]
  refine ⟨response, ⟨time, arrived⟩, ?_⟩
  by_cases direct : n.Direct
  · rw [direct.next?_eq_none, direct.next?_eq_none]
    exact .none
  · exact Request.next?_together next next' (fun responses last last' next next' =>
      ⟨.redirected direct alike responses next next', responses, next, next'⟩) _

/-- Requests that are alike are answered the same. -/
theorem send_alike (c c' : Call) {outcome : Option Response → c.Reply}
    {outcome' : Option Response → c'.Reply} {V : c.Reply → c'.Reply → Prop}
    (outcomes : ∀ response, V (outcome response) (outcome' response)) {request request'}
    (requests : AlikeRequests n.host request request') {past past' : List Arrival}
    (h : List.Forall₂ (Arrival.Alike n) past past') :
    let sent := n.send c outcome request past
    let sent' := n.send c' outcome' request' past'
    V sent.1.reply sent'.1.reply ∧ sent.1.elapsed = sent'.1.elapsed ∧
      List.Forall₂ (Arrival.Alike n) sent.2 sent'.2 := by
  cases requests with
  | none => exact ⟨outcomes none, rfl, h⟩
  | some alike =>
      obtain ⟨response, elapsed, arrived⟩ := follow_alike discreet alike redirectLimit h
      simp only [send, ← response]
      exact ⟨outcomes _, elapsed, arrived⟩

theorem pairing_asks {op op' : Operation}
    (outcomes : ∀ response, SameOutcome (fun x x' => HEq x x') (outcomeOf op response)
      (outcomeOf op' response))
    (requests : AlikeRequests n.host (requestOf n.host op) (requestOf n.host op')) :
    (n.pairing tokens tokens').Asks op op' := by
  refine .ask fun past clock past' clock' h => ?_
  obtain ⟨value, elapsed, arrived⟩ :=
    send_alike discreet (.platform op) (.platform op') outcomes requests h.2
  rw [answer_platform, answer_platform]
  exact ⟨value, congr (congrArg (· + ·) h.1) elapsed, arrived⟩

theorem pairing_serves {same : User → User → Prop}
    (together : ∀ {user user'}, same user user' → user.anonymous = user'.anonymous)
    {tenant token token' : String} (legal : isHeaderValue token = true)
    (legal' : isHeaderValue token' = true) :
    (n.pairing tokens tokens').Serves same ⟨tenant, token⟩ ⟨tenant, token'⟩ where
  asks h := pairing_asks discreet (outcomeOf_counterpart h)
    (counterpart_alike legal legal' together h)
  together := together

theorem send_same {c : Call} {outcome : Option Response → c.Reply} {request : Option Request}
    (requests : AlikeRequests n.host request request) {past past' : List Arrival}
    (h : List.Forall₂ (Arrival.Alike n) past past') :
    (n.send c outcome request past).1 = (n.send c outcome request past').1 ∧
      List.Forall₂ (Arrival.Alike n) (n.send c outcome request past).2
        (n.send c outcome request past').2 := by
  obtain ⟨reply, elapsed, arrived⟩ :=
    send_alike discreet c c (V := Eq) (fun response => Eq.refl (outcome response)) requests h
  exact ⟨(Rollout.Response.mk.injEq ..).mpr ⟨reply, elapsed⟩, arrived⟩

theorem answer_impersonal {c : Call} (impersonal : c.Impersonal) {past past' : List Arrival}
    (h : List.Forall₂ (Arrival.Alike n) past past') :
    ((n.surroundings tokens).answer c past).1 = ((n.surroundings tokens').answer c past').1 ∧
      List.Forall₂ (Arrival.Alike n) ((n.surroundings tokens).answer c past).2
        ((n.surroundings tokens').answer c past').2 := by
  rcases impersonal with ⟨op, rfl, general⟩ | ⟨group, rfl⟩ | ⟨port, rfl⟩
  · rw [answer_platform, answer_platform]
    exact send_same discreet (general_alike general) h
  · have arrived : List.Forall₂ (Arrival.Alike n)
        (.command (Lag.describeArguments n.queue group) :: past)
        (.command (Lag.describeArguments n.queue group) :: past') := h.cons (.command _)
    obtain ⟨-, described⟩ := discreet _ _ (Arrival.blind_of_alike arrived)
    simp only [answer_describeGroup, ← described]
    exact ⟨trivial, arrived⟩
  · rw [answer_probe, answer_probe]
    exact send_same discreet
      (Draft.alike_self (d := ⟨.get, healthAddress n.host port, [], [], none⟩) (by simp)) h

end Network

end Http

end Rollout
