import Rollout.Config.Basic
import Rollout.Lag.Reading
import Rollout.Text.Utf8

/-!
# Describing a consumer group

The description of a consumer group is the output of the queue's own tool, run inside its container.
What the tool writes need not be well-formed text; damaged places are replaced.
-/

namespace Rollout.Lag

def groupsTool : String := "kafka-consumer-groups.sh"

def describeScript (queue : QueueSettings) (group : String) : String :=
  groupsTool ++ " --bootstrap-server " ++ queue.broker ++ " --describe --group " ++ group

def describeArguments (queue : QueueSettings) (group : String) : List String :=
  ["exec", "-i", queue.container, "bash", "-c", describeScript queue group]

def CommandOutput.ofBytes (stdout stderr : List UInt8) : CommandOutput :=
  ⟨String.ofList (Text.ofUtf8 stdout), String.ofList (Text.ofUtf8 stderr)⟩

def notRun : Failure := .of ("running " ++ groupsTool)

end Rollout.Lag
