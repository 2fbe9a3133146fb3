import Rollout.Http.Client
import Rollout.Http.Redirect
import Rollout.Lag.Administration
import Rollout.Platform.Token
import Rollout.Procedure.Surroundings

/-!
# A server that follows a table

Surroundings for rehearsing the requests of a rollout. A table of routes says how requests are
answered: the first route with the method and the address of a request counts, and the address may
leave out the query. A route may serve once only, and it may drop the connection. Where no route
fits, nothing was found. The descriptions of consumer groups come from a script that goes on with
its last entry.

When no network is there, no request reaches the server.
-/

namespace Rollout.Http

structure Route where
  method : String
  url : String
  response : Response
  once : Bool
  drop : Bool
  deriving DecidableEq, Repr

/-- What the requests and commands of a rollout meet: whether there is a network, the host of the
services, the queue, what its tool writes if there is one, and the tokens. -/
structure Server where
  reachable : Bool
  host : String
  queue : QueueSettings
  commands : Option (List Lag.CommandOutput)
  tokens : TokenSource

/-- The routes that are left, what has arrived, the latest first, and how many commands were run. -/
structure ServerState where
  routes : List Route
  arrivals : List Arrival
  commandsRun : Nat

def Route.fits (r : Route) (request : Request) : Bool :=
  r.method = request.method.name &&
    (r.url = request.url.render || r.url = request.url.withoutQuery.render)

/-- What a route answers. Some statuses come without a body. -/
def Route.answer (r : Route) : Option Response :=
  if r.drop then none
  else if r.response.status = 204 ∨ r.response.status = 304 then some { r.response with body := "" }
  else some r.response

def notFound : Response := ⟨404, none, "no route"⟩

/-- Takes the first route for a request out of a table if it serves once only, and answers it. -/
def serve (request : Request) : List Route → Option Response × List Route
  | [] => (some notFound, [])
  | r :: rest =>
      if r.fits request then (r.answer, if r.once then rest else r :: rest)
      else
        let (response, rest) := serve request rest
        (response, r :: rest)

namespace Server

def deliver (s : Server) (arrival : Arrival) (request : Request) (state : ServerState) :
    Option Response × ServerState :=
  if s.reachable then
    let (response, routes) := serve request state.routes
    (response, { state with routes, arrivals := arrival :: state.arrivals })
  else (none, state)

def send (s : Server) (arrival : Request → Arrival) (request : Option Request)
    (state : ServerState) : Option Response × ServerState :=
  match request with
  | none => (none, state)
  | some request => follow s.deliver request redirectLimit (arrival request) request state

def describe (s : Server) (group : String) (state : ServerState) :
    Except Failure Lag.CommandOutput × ServerState :=
  match s.commands with
  | none => (.error Lag.notRun, state)
  | some outputs =>
      let output := (outputs[state.commandsRun]? <|> outputs.getLast?).getD ⟨"", ""⟩
      (.ok output, { state with
        arrivals := .command (Lag.describeArguments s.queue group) :: state.arrivals
        commandsRun := state.commandsRun + 1 })

/-- The surroundings that a server makes. Nothing takes any time. -/
def surroundings (s : Server) : Surroundings ServerState where
  answer
    | .platform op, state =>
        let (response, state) := s.send .request (requestOf s.host op) state
        (⟨outcomeOf op response, 0⟩, state)
    | .accessToken tenant, state => (⟨s.tokens.tokenFor tenant, 0⟩, state)
    | .describeGroup group, state =>
        let (reply, state) := s.describe group state
        (⟨reply, 0⟩, state)
    | .probe port, state =>
        let (response, state) :=
          s.send (fun r => .probe r.url.render) (probeRequest s.host port) state
        (⟨probeOutcome s.host port response, 0⟩, state)

end Server

end Rollout.Http
