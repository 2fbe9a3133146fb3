import Rollout.Error
import Rollout.Text.Blank
import Rollout.Text.Decimal

/-!
# Reading the backlog of a consumer group

The queue describes a consumer group as a table with a row for each partition. The second column of
a row names its topic and the sixth is the number of messages not consumed yet. `readLag` sums that
column over the rows whose topic holds the name of a tenant, in words of 64 bits: a sum that does
not fit wraps around.

The table counts only when the queue has nothing to complain about. Two complaints say that the
group is not ready and carry no other news; any other is fatal, as is a count that is no number and
a table without a row for the tenant.
-/

namespace Rollout.Lag

/-- What a command wrote: its output, and its complaints. -/
structure CommandOutput where
  stdout : String
  stderr : String
  deriving DecidableEq, Repr, Inhabited

inductive Reading where
  | lag (count : Nat)
  | transient (complaint : String)
  deriving DecidableEq, Repr

def noActiveMembers (group : String) : String :=
  "Consumer group '" ++ group ++ "' has no active members."

def rebalancing (group : String) : String := "Consumer group '" ++ group ++ "' is rebalancing."

/-- Whether a complaint only says that the group is not ready. -/
def isTransient (group complaint : String) : Bool :=
  Text.contains complaint (noActiveMembers group) || Text.contains complaint (rebalancing group)

/-- Whether the topic of a row, its second column, holds the name of a tenant. -/
def concerns (tenant : List Char) (row : List (List Char)) : Bool :=
  match row[1]? with
  | some topic => Text.holds tenant topic
  | none => false

/-- The sixth column of a row, empty if there is none. -/
def lagColumn (row : List (List Char)) : List Char := row[5]?.getD []

def lagNumber? (column : List Char) : Option Nat := Text.decimal? UInt64.size column

/-- The sum of the lag columns in 64 bits, or the first of them that is no number. -/
def sumColumns : List (List Char) → Except (List Char) Nat
  | [] => .ok 0
  | column :: rest =>
      match lagNumber? column with
      | none => .error column
      | some n => (sumColumns rest).map fun total => (n + total) % UInt64.size

def tableRows (table : String) : List (List (List Char)) := (Text.lines table.toList).map Text.words

def tenantColumns (tenant table : String) : List (List Char) :=
  ((tableRows table).filter (concerns tenant.toList)).map lagColumn

def tableLag (tenant table : String) : Except Error Nat :=
  let columns := tenantColumns tenant table
  if columns.isEmpty then .error (.lagNotNumeric tenant (Text.trim table))
  else (sumColumns columns).mapError fun raw => .lagNotNumeric tenant (String.ofList raw)

def readLag (output : CommandOutput) (group tenant : String) : Except Error Reading :=
  let complaint := Text.trim output.stderr
  if complaint ≠ "" then
    if isTransient group complaint then .ok (.transient complaint)
    else .error (.queueAdmin group complaint)
  else (tableLag tenant output.stdout).map .lag

end Rollout.Lag
