import Rollout.Data.SortedMap
import Rollout.Error

/-!
# Sources of access tokens

A token admits a rollout to a tenant. How it was acquired is no concern of a rollout; a source hands
out one token for every tenant, or one for each, or has none at all.
-/

namespace Rollout

inductive TokenSource where
  | always (token : String)
  | perTenant (tokens : SortedMap String)
  | missing

def TokenSource.tokenFor (source : TokenSource) (tenant : String) : Except Failure String :=
  match source with
  | .always token => .ok token
  | .perTenant tokens =>
      match tokens.get? tenant with
      | some token => .ok token
      | none => .error (.of ("no token for " ++ tenant))
  | .missing => .error <| .of <|
      "no access token for tenant " ++ tenant ++ "; pass --token or set ROLLOUT_TOKEN"

end Rollout
