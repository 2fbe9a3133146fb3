import Rollout.Json.Decode
import Rollout.Lag.Barrier
import Rollout.Time.Timestamp

/-!
# Lag samples

A sample is a backlog with the moment at which it was read. Its document has a flat member for each
part.
-/

namespace Rollout.Lag

open Json (Source)

variable {δ : Type} [Source δ]

structure Sample where
  backlog : Backlog
  moment : Time.Timestamp
  deriving DecidableEq, Repr

namespace Sample

def toJson (s : Sample) : Json := .obj [
  ("consumer_group", .str s.backlog.group), ("tenant", .str s.backlog.tenant),
  ("lag", Json.nat s.backlog.lag), ("timestamp", .str s.moment.render)]

def moment? (d : δ) : Option Time.Timestamp := do Time.Timestamp.read (← Source.string? d)

def ofDocument? (d : δ) : Option Sample := do
  let fields ← Source.fields? ["consumer_group", "tenant", "lag", "timestamp"] 4 d
  return {
    backlog := {
      group := ← fields.need "consumer_group" Source.string?
      tenant := ← fields.need "tenant" Source.string?
      lag := ← fields.need "lag" (Source.nat? UInt64.size) }
    moment := ← fields.need "timestamp" moment? }

end Sample

end Rollout.Lag
