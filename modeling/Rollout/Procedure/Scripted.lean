import Rollout.Platform.Memory
import Rollout.Platform.Token
import Rollout.Procedure.Surroundings

/-!
# Scripted surroundings

Surroundings for rehearsing a rollout: the platform is a `Memory`, and the probes and the
descriptions of consumer groups follow a script. The probes of each port follow a script of their
own. A script that has come to its end goes on with its last entry.
-/

namespace Rollout.Scripted

structure ProbeEntry where
  body : Option String
  delay : Nat
  deriving Repr

structure Script where
  probes : List (Port × List ProbeEntry)
  polls : List (Except Failure Lag.CommandOutput)
  tokens : TokenSource

/-- The platform, and which probes and how many polls were made. -/
structure State where
  memory : Memory
  probed : List Port
  polled : Nat

def entryAt? {α : Type} (entries : List α) (place : Nat) : Option α :=
  entries[place]? <|> entries.getLast?

def Script.probe (s : Script) (port : Port) (place : Nat) : ProbeEntry :=
  (entryAt? ((s.probes.lookup port).getD []) place).getD ⟨none, 0⟩

def Script.poll (s : Script) (place : Nat) : Except Failure Lag.CommandOutput :=
  (entryAt? s.polls place).getD (.ok ⟨"", ""⟩)

def ProbeEntry.reply (e : ProbeEntry) : Except Failure String :=
  match e.body with
  | some body => .ok body
  | none => .error (.of "probe failed")

def surroundings (s : Script) : Surroundings State where
  answer
    | .platform op, state =>
        let (reply, memory) := state.memory.perform op
        (⟨reply, 0⟩, { state with memory := memory })
    | .accessToken tenant, state => (⟨s.tokens.tokenFor tenant, 0⟩, state)
    | .describeGroup _, state =>
        (⟨s.poll state.polled, 0⟩, { state with polled := state.polled + 1 })
    | .probe port, state =>
        let entry := s.probe port (state.probed.count port)
        (⟨entry.reply, entry.delay⟩, { state with probed := port :: state.probed })

end Rollout.Scripted
