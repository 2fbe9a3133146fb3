import Rollout.CommandLine.Outcome
import Rollout.Procedure.Run

/-!
# The program

Reads the command line, the environment and the file of the configuration, executes the command and
writes what it printed. The program carries no transport, so a command meets a machine without a
network and without a tool for the queue: whatever it asks of them fails as it would there.
-/

open Rollout

def readEnvironment : IO (String → Option String) := do
  let names := CommandLine.optionVariables ++ Timings.variableNames
  let settings ← names.mapM fun name => return (name, ← IO.getEnv name)
  return fun name => (settings.lookup name).join

def readText (path : String) : IO (Option String) :=
  try return some (← IO.FS.readFile path) catch _ => return none

def executeCommand (env : String → Option String) (settings : CommandLine.Settings)
    (command : CommandLine.Command) : IO CommandLine.Outcome := do
  match settings.pipeline? env (← readText settings.config) with
  | .error outcome => return outcome
  | .ok pipeline =>
      let server := settings.server pipeline false none
      let run := (command.outcome pipeline settings.format).run server.surroundings ⟨[], [], 0⟩ 0
      return run.value

def main (words : List String) : IO UInt32 := do
  let env ← readEnvironment
  let outcome ← match CommandLine.Request.read? env words with
    | none => pure .refused
    | some .version => pure .version
    | some (.command settings command) => executeCommand env settings command
  (← IO.getStdout).putStr outcome.printed
  if let some complaint := outcome.complaint? then
    (← IO.getStderr).putStrLn complaint
  return outcome.status
