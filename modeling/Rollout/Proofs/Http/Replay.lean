import Rollout.Http.Routes
import Rollout.Proofs.Http.Network

/-!
# A server with a table is a discreet network

What a server with a table of routes answers next depends on what has arrived so far, and it can be
replayed from that. So whatever meets the server could have met the network that replays it: all
goes the same there (`meets_network`). A table knows a request by its method and its address only,
whence the network is discreet (`network_discreet`). It redirects nothing if no route names an
address (`network_direct`).
-/

namespace Rollout.Http

/-- What a server notes of what arrives on a network: a probe by its address, all else as it is. -/
inductive Arrival.Noted : Arrival → Arrival → Prop
  | same (arrival : Arrival) : Noted arrival arrival
  | probe (r : Request) : Noted (.probe r.url.render) (.request r)

namespace Server

variable (s : Server) (routes : List Route)

/-- The state in which a server is after what has arrived, but for what it has noted. -/
def replay : List Arrival → ServerState
  | [] => ⟨routes, [], 0⟩
  | .request r :: past => (s.deliver (.request r) r (replay past)).2
  | .redirected _ r :: past => (s.deliver (.request r) r (replay past)).2
  | .probe _ :: past => replay past
  -- The count of the descriptions is the same for each group.
  | .command _ :: past => (s.describe "" (replay past)).2

def network : Network where
  host := s.host
  queue := s.queue
  respond
    | .request r :: past | .redirected _ r :: past =>
        ((s.deliver (.request r) r (s.replay routes past)).1, 0)
    | _ => (none, 0)
  describe
    | .command _ :: past => ((s.describe "" (s.replay routes past)).1, 0)
    | _ => (.error default, 0)

@[simp] theorem network_host : (s.network routes).host = s.host := rfl

/-- A server stands where the replay of what has arrived does, and has noted all that arrived if it
can be reached and has the tool of the queue. -/
structure Replays (state : ServerState) (past : List Arrival) : Prop where
  table : state.routes = (s.replay routes past).routes
  count : state.commandsRun = (s.replay routes past).commandsRun
  noted : s.reachable = true → s.commands.isSome = true →
    List.Forall₂ Arrival.Noted state.arrivals past

variable {s routes} {state : ServerState} {past : List Arrival}

/-- Servers that stand alike answer requests alike that a table cannot tell apart. -/
theorem deliver_same {state' : ServerState} {r r' : Request} (table : state.routes = state'.routes)
    (count : state.commandsRun = state'.commandsRun) (served : serve r = serve r')
    (note note' : Arrival) :
    let delivered := s.deliver note r state
    let delivered' := s.deliver note' r' state'
    delivered.1 = delivered'.1 ∧ delivered.2.routes = delivered'.2.routes ∧
      delivered.2.commandsRun = delivered'.2.commandsRun := by
  cases h : s.reachable with
  | false => simp [Server.deliver, h, table, count]
  | true => simp [Server.deliver, h, table, count, served]

theorem deliver_arrivals (h : s.reachable = true) (note : Arrival) (r : Request) :
    (s.deliver note r state).2.arrivals = note :: state.arrivals := by
  simp [Server.deliver, h]

theorem respond_of_request {a : Arrival} {r : Request} (h : a.request? = some r) :
    (s.network routes).respond (a :: past) =
      ((s.deliver (.request r) r (s.replay routes past)).1, 0) := by
  cases a <;> cases h <;> rfl

theorem replay_of_request {a : Arrival} {r : Request} (h : a.request? = some r) :
    s.replay routes (a :: past) = (s.deliver (.request r) r (s.replay routes past)).2 := by
  cases a <;> cases h <;> rfl

theorem Replays.deliver (h : s.Replays routes state past) {note a : Arrival} {r : Request}
    (noted : note.Noted a) (arrives : a.request? = some r) :
    (s.deliver note r state).1 = (s.deliver (.request r) r (s.replay routes past)).1 ∧
      s.Replays routes (s.deliver note r state).2 (a :: past) := by
  obtain ⟨response, table, count⟩ := deliver_same h.table h.count rfl note (.request r)
  rw [← replay_of_request arrives] at table count
  refine ⟨response, table, count, fun reachable tool => ?_⟩
  rw [deliver_arrivals reachable]
  exact .cons noted (h.noted reachable tool)

theorem Replays.describe (h : s.Replays routes state past) (group : String) :
    (s.describe group state).1 = (s.describe "" (s.replay routes past)).1 ∧
      s.Replays routes (s.describe group state).2
        (.command (Lag.describeArguments s.queue group) :: past) := by
  obtain ⟨table, count, arrived⟩ := h
  cases tool : s.commands with
  | none =>
      refine ⟨by simp [Server.describe, tool], ?_, ?_, fun _ h => by simp [tool] at h⟩
      · simp [replay, Server.describe, tool, table]
      · simp [replay, Server.describe, tool, count]
  | some outputs =>
      refine ⟨by simp [Server.describe, tool, count], ?_, ?_, fun reachable _ => ?_⟩
      · simp [replay, Server.describe, tool, table]
      · simp [replay, Server.describe, tool, count]
      · simp only [Server.describe, tool]
        exact .cons (.same _) (arrived reachable (by simp [tool]))

variable (s routes)

def replaying : Pairing s.surroundings ((s.network routes).surroundings s.tokens.tokenFor) where
  linked state clock past clock' := clock = clock' ∧ s.Replays routes state past
  passing duration h := ⟨congrArg (· + duration) h.1, h.2⟩

variable {s routes}

theorem Replays.follow (h : s.Replays routes state past) {note a : Arrival} {first : Request}
    (noted : note.Noted a) (arrives : a.request? = some first) (left : Nat) :
    let followed := follow s.deliver first left note first state
    let followed' := follow (s.network routes).deliver first left a first (0, past)
    followed.1 = followed'.1 ∧ followed'.2.1 = 0 ∧
      s.Replays routes followed.2 followed'.2.2 := by
  refine follow_related
    (S := fun (state : ServerState) (sent : Nat × List Arrival) =>
      sent.1 = 0 ∧ s.Replays routes state sent.2)
    (T := fun note r a r' => r' = r ∧ note.Noted a ∧ a.request? = some r)
    ?_ left ⟨rfl, noted, arrives⟩ ⟨rfl, h⟩
  rintro note _ state a r ⟨elapsed, past⟩ ⟨rfl, noted, arrives⟩ ⟨hzero, h⟩
  obtain ⟨response, h⟩ := h.deliver noted arrives
  simp only [Network.deliver, respond_of_request arrives, response]
  refine ⟨trivial, ⟨hzero, h⟩, ?_⟩
  cases (s.deliver (.request r) r (s.replay routes past)).1.bind r.next? with
  | none => exact .none
  | some next => exact .some ⟨rfl, .same _, rfl⟩

theorem Replays.requested (h : s.Replays routes state past) (c : Call)
    (outcome : Option Response → c.Reply) (request : Option Request) {note : Request → Arrival}
    (noted : ∀ r, Arrival.Noted (note r) (.request r)) :
    let answered := s.send note request state
    let sent := (s.network routes).send c outcome request past
    (⟨outcome answered.1, 0⟩ : Rollout.Response c) = sent.1 ∧
      s.Replays routes answered.2 sent.2 := by
  cases request with
  | none => exact ⟨rfl, h⟩
  | some r =>
      obtain ⟨response, elapsed, h⟩ := h.follow (noted r) rfl redirectLimit
      simp only [Server.send, Network.send, response, elapsed]
      exact ⟨trivial, h⟩

section

variable (s) (state)

theorem answer_platform (op : Operation) :
    s.surroundings.answer (.platform op) state =
      let sent := s.send .request (requestOf s.host op) state
      (⟨outcomeOf op sent.1, 0⟩, sent.2) := by
  simp only [surroundings]

theorem answer_describeGroup (group : String) :
    s.surroundings.answer (.describeGroup group) state =
      (⟨(s.describe group state).1, 0⟩, (s.describe group state).2) := rfl

theorem answer_probe (port : Port) :
    s.surroundings.answer (.probe port) state =
      let sent := s.send (fun r => .probe r.url.render) (probeRequest s.host port) state
      (⟨probeOutcome s.host port sent.1, 0⟩, sent.2) := by
  simp only [surroundings]

end

/-- What a call meets at the server it meets on the network. -/
theorem Replays.answer (h : s.Replays routes state past) (c : Call) :
    let answer := s.surroundings.answer c state
    let answer' := ((s.network routes).surroundings s.tokens.tokenFor).answer c past
    answer.1 = answer'.1 ∧ s.Replays routes answer.2 answer'.2 := by
  cases c with
  | platform op =>
      rw [answer_platform, Network.answer_platform, network_host]
      exact h.requested (.platform op) (outcomeOf op) (requestOf s.host op) fun _ => .same _
  | accessToken tenant => exact ⟨rfl, h⟩
  | describeGroup group =>
      obtain ⟨reply, h⟩ := h.describe group
      rw [answer_describeGroup, Network.answer_describeGroup, reply]
      exact ⟨rfl, h⟩
  | probe port =>
      rw [answer_probe, Network.answer_probe, network_host]
      simpa only using
        h.requested (.probe port) (probeOutcome s.host port) (probeRequest s.host port) .probe

/-- Whatever meets a server with a table could as well meet the network on which it answers: it ends
with the same value at the same time, and the server has noted what arrived there. -/
theorem meets_network {α : Type} (s : Server) (routes : List Route) (p : Procedure α) :
    let r := p.run s.surroundings ⟨routes, [], 0⟩ 0
    let r' := p.run ((s.network routes).surroundings s.tokens.tokenFor) [] 0
    r.value = r'.value ∧ r.clock = r'.clock ∧ (s.reachable = true → s.commands.isSome = true →
      List.Forall₂ Arrival.Noted r.state.arrivals r'.state) := by
  have makes : Procedure.Makes (fun _ => True) p :=
    Procedure.makes_iff.2 fun _ _ _ _ _ => trivial
  have alike : (s.replaying routes).Alike p p Eq := by
    refine Pairing.alike_self makes (fun c _ => .ask_same fun state clock past clock' h => ?_)
      (.gate Iff.rfl fun port state past h => h.answer (.probe port))
    obtain ⟨answer, stands⟩ := Replays.answer h.2 c
    exact ⟨answer, h.1, stands⟩
  have start : s.Replays routes ⟨routes, [], 0⟩ [] := ⟨rfl, rfl, fun _ _ => .nil⟩
  obtain ⟨value, clock, stands⟩ := alike (And.intro (Eq.refl 0) start)
  exact ⟨value, clock, stands.noted⟩

/-- A table answers a request without its secrets as it answers the request. -/
theorem serve_veiled (secret : Bool) (r : Request) : serve (r.veiled secret) = serve r := by
  funext routes
  induction routes with
  | nil => rfl
  | cons route rest ih =>
      have fits : route.fits (r.veiled secret) = route.fits r := rfl
      simp only [serve, ih, fits]

variable (s routes) in
/-- A server stands after what has arrived where it stands after the same without its secrets. -/
theorem replay_blind (host : String) (past : List Arrival) :
    (s.replay routes (past.map (Arrival.blind host))).routes = (s.replay routes past).routes ∧
      (s.replay routes (past.map (Arrival.blind host))).commandsRun =
        (s.replay routes past).commandsRun := by
  induction past with
  | nil => exact ⟨rfl, rfl⟩
  | cons arrival past ih =>
      cases arrival with
      | probe address => exact ih
      | request r => exact (deliver_same ih.1 ih.2 (serve_veiled _ r) ..).2
      | redirected first r => exact (deliver_same ih.1 ih.2 (serve_veiled _ r) ..).2
      | command arguments =>
          cases tool : s.commands with
          | none => simpa [Arrival.blind, replay, Server.describe, tool] using ih
          | some outputs => simp [Arrival.blind, replay, Server.describe, tool, ih]

/-- What a server answers does not depend on secrets. -/
theorem network_discreet (s : Server) (routes : List Route) : (s.network routes).Discreet := by
  have blind (past : List Arrival) :
      (s.network routes).respond (past.map (Arrival.blind s.host)) =
        (s.network routes).respond past ∧
      (s.network routes).describe (past.map (Arrival.blind s.host)) =
        (s.network routes).describe past := by
    cases past with
    | nil => exact ⟨rfl, rfl⟩
    | cons arrival past =>
        obtain ⟨table, count⟩ := replay_blind s routes s.host past
        have answered (secret : Bool) (r : Request) :=
          congrArg (·, 0) (deliver_same (s := s) table count (serve_veiled secret r)
            (.request (r.veiled secret)) (.request r)).1
        cases arrival with
        | probe address => exact ⟨rfl, rfl⟩
        | request r => exact ⟨answered _ r, rfl⟩
        | redirected first r => exact ⟨answered _ r, rfl⟩
        | command arguments =>
            refine ⟨rfl, congrArg (·, 0) ?_⟩
            simp only [Server.describe, count]
            split <;> rfl
  intro past past' h
  obtain ⟨responded, described⟩ := blind past
  rw [network_host] at h
  rw [← responded, ← described, h]
  exact blind past'

theorem serve_unlocated (r : Request) {routes : List Route}
    (h : ∀ route ∈ routes, route.response.location = none) :
    (∀ response ∈ (serve r routes).1, response.location = none) ∧
      ∀ route ∈ (serve r routes).2, route.response.location = none := by
  induction routes with
  | nil => exact ⟨by simp [serve, notFound], h⟩
  | cons route rest ih =>
      obtain ⟨here, there⟩ := List.forall_mem_cons.1 h
      have answer : ∀ response ∈ route.answer, response.location = none := by
        intro response hresponse
        rw [Route.answer] at hresponse
        split at hresponse
        · cases hresponse
        · split at hresponse <;> exact Option.some_inj.1 hresponse ▸ here
      rw [serve]
      split
      · refine ⟨answer, ?_⟩
        split
        exacts [there, h]
      · exact ⟨(ih there).1, List.forall_mem_cons.2 ⟨here, (ih there).2⟩⟩

theorem deliver_unlocated (h : ∀ route ∈ state.routes, route.response.location = none)
    (note : Arrival) (r : Request) :
    (∀ response ∈ (s.deliver note r state).1, response.location = none) ∧
      ∀ route ∈ (s.deliver note r state).2.routes, route.response.location = none := by
  rw [Server.deliver]
  split
  · exact serve_unlocated r h
  · exact ⟨by simp, h⟩

/-- A table that names no address redirects nothing. -/
theorem network_direct (h : ∀ route ∈ routes, route.response.location = none) :
    (s.network routes).Direct := by
  have left (past : List Arrival) :
      ∀ route ∈ (s.replay routes past).routes, route.response.location = none := by
    induction past with
    | nil => exact h
    | cons arrival past ih =>
        cases arrival with
        | request r | redirected first r => exact (deliver_unlocated ih _ r).2
        | probe address => exact ih
        | command arguments =>
            rw [replay, Server.describe]
            split <;> exact ih
  have unlocated (past : List Arrival) (r : Request) :
      ∀ response ∈ (s.deliver (.request r) r (s.replay routes past)).1,
        response.target? = none := by
    intro response hresponse
    rw [Response.target?, (deliver_unlocated (left past) _ r).1 response hresponse, ite_self]
  rintro (_ | ⟨_ | _ | _ | _, past⟩) response hresponse
  case cons.request r | cons.redirected first r => exact unlocated past _ response hresponse
  all_goals cases hresponse

end Server

end Rollout.Http
