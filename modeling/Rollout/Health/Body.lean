import Rollout.Error
import Rollout.Json.Reader
import Rollout.Text.Blank

/-!
# Health bodies

A module reports its health in one of two forms: a JSON object whose `status` says `UP`, or a plain
text that says `OK`. Which form a module uses is not known, so a body that is JSON is judged by its
status alone and any other body as a text.
-/

namespace Rollout.Health

def statusUp (j : Json) : Bool :=
  match (j.get? "status").bind Json.text? with
  | some status => Text.contains status "UP"
  | none => false

def isHealthy (body : String) : Bool :=
  match Json.read body with
  | some j => statusUp j
  | none => Text.contains body "OK"

/-- Whether what came back from a probe says that the module is healthy. A probe that failed found
it unhealthy. -/
def foundHealthy : Except Failure String → Bool
  | .ok body => isHealthy body
  | .error _ => false

end Rollout.Health
