import Rollout.CommandLine.Outcome
import Rollout.Config.Decode
import Rollout.Config.Encode
import Rollout.Http.Routes
import Rollout.Json.Writer
import Rollout.Lag.Sample
import Rollout.Main
import Rollout.Pipeline.Run
import Rollout.Platform.Audit
import Rollout.Platform.Wire
import Rollout.Procedure.Run
import Rollout.Procedure.Scripted
import Rollout.Proofs.Pipeline.Activity
import Rollout.Proofs.Pipeline.Discipline
import Rollout.Proofs.Pipeline.Gating
import Rollout.Proofs.Rehearsal.Fresh
import Rollout.Proofs.Hosted.Deletion
import Rollout.Proofs.Hosted.Roles
import Rollout.Proofs.Hosted.Bindings
import Rollout.Proofs.Hosted.Run
import Rollout.Proofs.Hosted.Teardown
import Rollout.Proofs.Hosted.Cleared
import Rollout.Proofs.Pipeline.Attribution
import Rollout.Proofs.Pipeline.Report
import Rollout.Proofs.Pipeline.TeardownOrder
import Rollout.Proofs.Lag.Table
import Rollout.Proofs.Lag.Rows
import Rollout.Proofs.ModuleId.Grammar
import Rollout.Proofs.Health.Alone
import Rollout.Proofs.Tenancy.Interference
import Rollout.Proofs.Http.Secrecy
import Rollout.Proofs.Application.Ids
import Rollout.Proofs.Application.Restoring
import Rollout.Proofs.Lag.Feed
import Rollout.Proofs.Config.Partition
import Rollout.Proofs.Config.RoundTrip
import Rollout.Proofs.Json.Decoding
import Rollout.Proofs.Platform.Records
import Rollout.Proofs.Hosted.Attachment
import Rollout.Proofs.Hosted.Users
import Rollout.Proofs.CommandLine.Documents
import Rollout.Proofs.Health.Attempts
import Rollout.Proofs.Lag.Polls
import Rollout.Proofs.Pipeline.Removals
import Rollout.Proofs.Http.Lookup
import Rollout.Proofs.Http.Removal
import Rollout.Proofs.Http.Rediscovery
import Rollout.Proofs.Health.Bodies
import Rollout.Proofs.Error.Attribution
import Rollout.Proofs.Hosted.RoleIds
import Rollout.Proofs.Roles.Names
