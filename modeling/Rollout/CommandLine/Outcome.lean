import Rollout.CommandLine.Execute
import Rollout.CommandLine.Request
import Rollout.Config.Decode
import Rollout.Http.Routes

/-!
# From a command line to its outcome

A command line that is none ends with status 2. A configuration that cannot be loaded or a fault
ends with status 1 and a message. All else ends with status 0.
-/

namespace Rollout.CommandLine

/-- How a command line ends: its status, what was printed, and the message of what went wrong. -/
structure Outcome where
  status : UInt32
  printed : String
  error : Option String
  deriving DecidableEq, Repr

namespace Outcome

def refused : Outcome := ⟨2, "", none⟩

def notLoaded (path : String) : Outcome := ⟨1, "", some ("loading " ++ path)⟩

def version : Outcome := ⟨0, "rolloutctl 0.0.0\n", none⟩

def ofResult : Except Fault Unit × String → Outcome
  | (.ok (), printed) => ⟨0, printed, none⟩
  | (.error fault, printed) => ⟨1, printed, some fault.message⟩

def complaint? (o : Outcome) : Option String := o.error.map ("Error: " ++ ·)

end Outcome

def Settings.tokens (s : Settings) : TokenSource :=
  match s.token with
  | some token => .always token
  | none => .missing

def Settings.pipeline? (s : Settings) (env : String → Option String) (text : Option String) :
    Except Outcome Pipeline :=
  match text.map Config.read with
  | some (.ok config) => .ok ⟨config, .ofEnvironment env⟩
  | _ => .error (.notLoaded s.config)

/-- The server that a command meets at its gateway, on a machine with a network or without, and with
a tool for the queue or without. -/
def Settings.server (s : Settings) (p : Pipeline) (reachable : Bool)
    (commands : Option (List Lag.CommandOutput)) : Http.Server where
  reachable := reachable
  host := s.gateway
  queue := p.config.queue
  commands := commands
  tokens := s.tokens

def Command.outcome (p : Pipeline) (format : Format) (c : Command) : Procedure Outcome :=
  Outcome.ofResult <$> (c.execute p format).run ""

end Rollout.CommandLine
