import Rollout.Http.Message

/-!
# Redirects

A response may send a request on to another address, and the client goes there without asking
whoever made the request. Two statuses have the request repeated as it is; after the others it is
one for reading, without a body. An authorization is not taken along to another server, but every
other header is. A client gives up at the tenth redirect.
-/

namespace Rollout.Http

/-- Where a response sends its request on to. -/
def Response.target? (a : Response) : Option Url :=
  if a.status ∈ [301, 302, 303, 307, 308] then a.location else none

/-- Whether a redirect has the request repeated. -/
def Response.repeats (a : Response) : Bool := a.status = 307 || a.status = 308

def Url.sharesServer (u v : Url) : Bool :=
  u.host = v.host && u.port.getD (usualPort u.scheme) = v.port.getD (usualPort v.scheme)

def Request.sentOn (r : Request) (repeated : Bool) (url : Url) : Request where
  method := if repeated then r.method else .get
  url := url
  headers := r.headers.filter fun h =>
    (repeated || h.1 ≠ "content-type") && (h.1 ≠ "authorization" || url.sharesServer r.url)
  body := if repeated then r.body else none

def Request.next? (r : Request) (a : Response) : Option Request :=
  a.target?.map (r.sentOn a.repeats)

/-- What arrives at a server. A request that was redirected comes with the first one of its
chain. -/
inductive Arrival where
  | request (request : Request)
  | redirected (first request : Request)
  | probe (address : String)
  | command (arguments : List String)

def redirectLimit : Nat := 10

/-- Delivers a request, and after each redirect the one that takes its place, until so many were
delivered. There is no response if the last of these is redirected as well. -/
def follow {σ : Type} (deliver : Arrival → Request → σ → Option Response × σ) (first : Request) :
    Nat → Arrival → Request → σ → Option Response × σ
  | 0, _, _, state => (none, state)
  | left + 1, arrival, r, state =>
      let delivered := deliver arrival r state
      match delivered.1.bind r.next? with
      | none => delivered
      | some next => follow deliver first left (.redirected first next) next delivered.2

end Rollout.Http
