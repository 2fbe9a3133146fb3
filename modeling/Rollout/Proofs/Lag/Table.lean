import Rollout.Lag.Barrier
import Rollout.Proofs.Lag.Rows

/-!
# The backlog of a tenant in a table

The description of a consumer group is a heading and a row for each partition; the topic of a row
is made of an environment, a tenant and a rest. What is read for a tenant is the sum, in 64 bits,
over the rows whose topics hold its name somewhere, be they its own or not, and other rows have no
bearing on it.

The heading is read as a row too, so all this is said of names that do not stand in `TOPIC`.
-/

namespace Rollout.Lag

def heading : List (List Char) :=
  ["GROUP", "TOPIC", "PARTITION", "CURRENT-OFFSET", "LOG-END-OFFSET", "LAG", "CONSUMER-ID", "HOST",
    "CLIENT-ID"].map String.toList

/-- A row of the table, with the number that its lag column writes. -/
structure Row where
  group : String
  environment : String
  tenant : String
  rest : String
  partition : String
  current : String
  ended : String
  lag : String
  consumer : String
  host : String
  client : String
  count : Nat
  counted : lagNumber? lag.toList = some count

namespace Row

def topic (r : Row) : List Char :=
  r.environment.toList ++ '.' :: (r.tenant.toList ++ '.' :: r.rest.toList)

def columns (r : Row) : List (List Char) :=
  [r.group.toList, r.topic, r.partition.toList, r.current.toList, r.ended.toList, r.lag.toList,
    r.consumer.toList, r.host.toList, r.client.toList]

/-- Whether the name of a tenant stands in the topic of a row. -/
def mentions (tenant : String) (r : Row) : Bool := tenant.toList <:+: r.topic

theorem mentions_self (r : Row) : r.mentions r.tenant = true :=
  decide_eq_true ⟨r.environment.toList ++ ['.'], '.' :: r.rest.toList, by simp [topic]⟩

end Row

/-- A text is the table of some rows: its lines hold the heading and then the rows, and maybe there
are blank lines. -/
def Describes (rows : List Row) (text : String) : Prop :=
  ∃ shown, Text.HoldsRows shown text.toList ∧
    shown.filter (· ≠ []) = heading :: rows.map Row.columns

variable {rows rows' : List Row} {text text' group tenant : String}

def headingRow : WideRow := ⟨heading, by decide⟩

def Row.wideRow (r : Row) : WideRow := ⟨r.columns, by simp [Row.columns]⟩

theorem describes_iff_laidOut :
    Describes rows text ↔ LaidOut (headingRow :: rows.map Row.wideRow) text := by
  rw [Describes, LaidOut, List.map_cons, List.map_map]
  rfl

/-- The lag columns that are read for a tenant are those of the rows that mention it, and that of
the heading if its name stands there. -/
theorem tenantColumns_of_describes (h : Describes rows text) :
    tenantColumns tenant text =
      (if tenant.toList <:+: "TOPIC".toList then ["LAG".toList] else []) ++
        (rows.filter (·.mentions tenant)).map (·.lag.toList) := by
  have heads : headingRow.mentions tenant = decide (tenant.toList <:+: "TOPIC".toList) := rfl
  have rowwise : WideRow.mentions tenant ∘ Row.wideRow = Row.mentions tenant := rfl
  rw [tenantColumns_of_laidOut (describes_iff_laidOut.1 h), List.filter_cons, List.filter_map,
    rowwise, heads]
  simp only [decide_eq_true_eq]
  split
  · rw [List.map_cons, List.map_map]
    rfl
  · rw [List.map_map]
    rfl

theorem sumColumns_lags (rows : List Row) :
    sumColumns (rows.map (·.lag.toList)) = .ok ((rows.map (·.count)).sum % 2 ^ 64) := by
  refine sumColumns_eq_ok_iff.2 ⟨_, ?_, rfl⟩
  rw [List.forall₂_map_left_iff, List.forall₂_map_right_iff]
  exact List.forall₂_same.2 fun row _ => row.counted

theorem readLag_of_quiet (text group tenant : String) :
    readLag ⟨text, ""⟩ group tenant = (tableLag tenant text).map Reading.lag := by
  have blank : Blank "" := by decide
  exact readLag_of_blank blank text group tenant

/-- What is read for a tenant is the sum over the rows that mention it, if there are any. -/
theorem readLag_of_describes (apart : ¬ tenant.toList <:+: "TOPIC".toList)
    (h : Describes rows text) :
    readLag ⟨text, ""⟩ group tenant =
      if rows.filter (·.mentions tenant) = [] then .error (.lagNotNumeric tenant (Text.trim text))
      else .ok (.lag (((rows.filter (·.mentions tenant)).map (·.count)).sum % 2 ^ 64)) := by
  rw [readLag_of_quiet, tableLag, tenantColumns_of_describes h, if_neg apart, List.nil_append]
  cases hown : rows.filter (·.mentions tenant) with
  | nil => rfl
  | cons row own =>
      show ((sumColumns ((row :: own).map (·.lag.toList))).mapError _).map Reading.lag = _
      rw [sumColumns_lags, if_neg (List.cons_ne_nil row own)]
      rfl

/-- For a name that stands in the heading nothing is ever read: the heading counts as a row, and
what it has over the numbers is no number. -/
theorem readLag_of_heading (within : tenant.toList <:+: "TOPIC".toList) (h : Describes rows text) :
    readLag ⟨text, ""⟩ group tenant = .error (.lagNotNumeric tenant "LAG") := by
  rw [readLag_of_quiet, tableLag, tenantColumns_of_describes h, if_pos within]
  rfl

/-- For a name that does not stand in the heading, what is read for a tenant is the sum over the
rows whose topics hold the name, up to a multiple of 2⁶⁴, and there must be one. Where no other
tenant's topics hold it, these are the rows of the tenant. Rows whose topics do not hold it may be
added, changed and removed without a change to what is read or to what the barrier of the tenant
makes of it. -/
theorem readLag_local (group : String) (apart : ¬ tenant.toList <:+: "TOPIC".toList)
    (h : Describes rows text) :
    let own := rows.filter (·.mentions tenant)
    let reading := readLag ⟨text, ""⟩ group tenant
    (reading = if own = [] then .error (.lagNotNumeric tenant (Text.trim text))
      else .ok (.lag ((own.map (·.count)).sum % 2 ^ 64))) ∧
    ((∀ row ∈ rows, row.mentions tenant = true → row.tenant = tenant) →
      own = rows.filter (·.tenant = tenant)) ∧
    ∀ rows' text', Describes rows' text' → rows'.filter (·.mentions tenant) = own →
      (readLag ⟨text', ""⟩ group tenant).toOption = reading.toOption ∧
      ∀ b : Barrier, b.tenant = tenant →
        (b.observe ⟨text', ""⟩).toOption = (b.observe ⟨text, ""⟩).toOption := by
  intro own reading
  refine ⟨readLag_of_describes apart h, ?_, ?_⟩
  · intro alone
    refine List.filter_congr fun row hrow => ?_
    rw [Bool.eq_iff_iff, decide_eq_true_eq]
    refine ⟨alone row hrow, ?_⟩
    rintro rfl
    exact row.mentions_self
  · intro rows' text' h' same
    have reads (group : String) : (readLag ⟨text', ""⟩ group tenant).toOption =
        (readLag ⟨text, ""⟩ group tenant).toOption := by
      rw [readLag_of_describes apart h', readLag_of_describes apart h, same]
      split
      · rfl
      · rfl
    refine ⟨reads group, ?_⟩
    rintro b rfl
    have noted (r : Except Error Reading) : (r.map b.note).toOption = r.toOption.map b.note := by
      cases r <;> rfl
    rw [Barrier.observe, Barrier.observe]
    split
    · rfl
    · rw [noted, noted, reads b.group]

def plainTable (rows : List Row) : String :=
  String.ofList (Text.plainText (heading :: rows.map Row.columns))

/-- Rows whose columns are words have a table. -/
theorem describes_plainTable (words : ∀ row ∈ rows, ∀ w ∈ row.columns, Text.IsWord w) :
    Describes rows (plainTable rows) := by
  have columns : heading :: rows.map Row.columns =
      (headingRow :: rows.map Row.wideRow).map WideRow.columns := by
    rw [List.map_cons, List.map_map]
    rfl
  rw [describes_iff_laidOut, plainTable, columns]
  refine laidOut_plainText (List.forall_mem_cons.2 ⟨by decide, ?_⟩)
  simpa [Row.wideRow] using words

def partition (tenant lag : String) (count : Nat)
    (counted : lagNumber? lag.toList = some count) : Row where
  group := "group"
  environment := "folio"
  tenant
  rest := "capability"
  partition := "0"
  current := "10"
  ended := "15"
  lag
  consumer := "consumer-1"
  host := "/10.0.0.7"
  client := "client-1"
  count
  counted

/-- Four tenants: the name of one begins the name of another, and one name stands in the heading. -/
def fourTenants : List Row :=
  [partition "north" "0" 0 rfl, partition "northern" "5" 5 rfl, partition "south" "7" 7 rfl,
    partition "TOP" "0" 0 rfl]

def southAlone : List Row := [partition "south" "7" 7 rfl]

theorem describes_fourTenants : Describes fourTenants (plainTable fourTenants) :=
  describes_plainTable (by decide +kernel)

theorem describes_southAlone : Describes southAlone (plainTable southAlone) :=
  describes_plainTable (by decide +kernel)

/-- A tenant whose name stands in no other topic is read alone, whatever becomes of the others. -/
theorem readLag_local_south : ¬ "south".toList <:+: "TOPIC".toList ∧
    Describes fourTenants (plainTable fourTenants) ∧
    Describes southAlone (plainTable southAlone) ∧
    (∀ row ∈ fourTenants, row.mentions "south" = true → row.tenant = "south") ∧
    southAlone.filter (·.mentions "south") = fourTenants.filter (·.mentions "south") ∧
    readLag ⟨plainTable fourTenants, ""⟩ "group" "south" = .ok (.lag 7) ∧
    (readLag ⟨plainTable southAlone, ""⟩ "group" "south").toOption = some (.lag 7) := by
  have apart : ¬ "south".toList <:+: "TOPIC".toList := by decide
  have alone : ∀ row ∈ fourTenants, row.mentions "south" = true → row.tenant = "south" := by
    decide +kernel
  obtain ⟨read, own, changed⟩ := readLag_local "group" apart describes_fourTenants
  have tenants : fourTenants.filter (·.tenant = "south") = southAlone := rfl
  have others : southAlone.filter (·.mentions "south") = southAlone :=
    List.filter_eq_self.2 (by decide +kernel)
  have shared : southAlone.filter (·.mentions "south") =
      fourTenants.filter (·.mentions "south") := by
    rw [others, own alone, tenants]
  have some : southAlone ≠ [] := List.cons_ne_nil _ _
  rw [own alone, tenants, if_neg some] at read
  have same := (changed _ _ describes_southAlone shared).1
  rw [read] at same
  exact ⟨apart, describes_fourTenants, describes_southAlone, alone, shared, read, same⟩

/-- A tenant whose name begins another has nothing left of its own, and yet a lag is read. One whose
name stands in the heading has nothing left either, and nothing is read. -/
theorem readLag_overlapping : Describes fourTenants (plainTable fourTenants) ∧
    ((fourTenants.filter (·.tenant = "north")).map (·.count) = [0] ∧
      readLag ⟨plainTable fourTenants, ""⟩ "group" "north" = .ok (.lag 5)) ∧
    (fourTenants.filter (·.tenant = "TOP")).map (·.count) = [0] ∧
      readLag ⟨plainTable fourTenants, ""⟩ "group" "TOP" = .error (.lagNotNumeric "TOP" "LAG") := by
  have apart : ¬ "north".toList <:+: "TOPIC".toList := by decide
  have counts : (fourTenants.filter (·.mentions "north")).map (·.count) = [0, 5] := by
    decide +kernel
  have some : fourTenants.filter (·.mentions "north") ≠ [] := fun h => by simp [h] at counts
  have read : readLag ⟨plainTable fourTenants, ""⟩ "group" "north" = .ok (.lag 5) := by
    rw [readLag_of_describes apart describes_fourTenants, if_neg some, counts]
    rfl
  exact ⟨describes_fourTenants, ⟨by decide, read⟩, by decide,
    readLag_of_heading (by decide) describes_fourTenants⟩

end Rollout.Lag
