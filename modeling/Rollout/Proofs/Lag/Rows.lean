import Mathlib.Algebra.BigOperators.Group.List.Basic
import Mathlib.Data.List.Infix
import Mathlib.Data.List.TakeWhile
import Rollout.Lag.Reading
import Rollout.Proofs.Text.Decimal
import Rollout.Proofs.Text.Layout

/-!
# Reading the rows of a table

A table shows rows of words in lines, with any blanks between and around them and with blank lines
anywhere. What is read for a tenant is told by the rows whose second words hold its name: the sum of
the numbers that their sixth words write, as far as it fits in 64 bits, or else the first of these
words that writes none. How the rows are laid out, and for a sum in which order, makes no
difference.
-/

namespace Rollout.Lag

/-- A row with as many columns as are read. -/
structure WideRow where
  columns : List (List Char)
  wide : 6 ≤ columns.length
  deriving DecidableEq

namespace WideRow

def topic (r : WideRow) : List Char :=
  have := r.wide
  r.columns[1]

def lag (r : WideRow) : List Char :=
  have := r.wide
  r.columns[5]

/-- Whether the name of a tenant stands in the topic of a row. -/
def mentions (tenant : String) (r : WideRow) : Bool := tenant.toList <:+: r.topic

/-- The lag column of a row writes a number that fits in 64 bits. -/
def Counts (r : WideRow) (n : Nat) : Prop := Text.Writes n r.lag ∧ n < 2 ^ 64

variable {r : WideRow} {tenant : String}

theorem concerns_columns : concerns tenant.toList r.columns = r.mentions tenant := by
  have second : r.columns[1]? = some r.topic := List.getElem?_eq_getElem _
  rw [concerns, second, Bool.eq_iff_iff, mentions, decide_eq_true_eq]
  exact Text.holds_iff

theorem lagColumn_columns : lagColumn r.columns = r.lag := by
  have sixth : r.columns[5]? = some r.lag := List.getElem?_eq_getElem _
  rw [lagColumn, sixth, Option.getD_some]

theorem lagNumber?_eq_some_iff {n : Nat} : lagNumber? r.lag = some n ↔ r.Counts n :=
  Text.decimal?_eq_some_iff

end WideRow

/-- A text is a table of some rows: its lines hold them, and maybe there are blank lines. -/
def LaidOut (rows : List WideRow) (text : String) : Prop :=
  ∃ shown, Text.HoldsRows shown text.toList ∧
    shown.filter (· ≠ []) = rows.map WideRow.columns

def Blank (text : String) : Prop := ∀ c ∈ text.toList, Text.isBlank c = true

instance (text : String) : Decidable (Blank text) :=
  decidable_of_bool (text.toList.all Text.isBlank) List.all_eq_true

variable {rows rows' : List WideRow} {text text' stderr group tenant : String}

/-- Rows whose columns are words have a table. -/
theorem laidOut_plainText (words : ∀ row ∈ rows, ∀ w ∈ row.columns, Text.IsWord w) :
    LaidOut rows (String.ofList (Text.plainText (rows.map WideRow.columns))) := by
  refine ⟨rows.map WideRow.columns, ?_, ?_⟩
  · rw [String.toList_ofList]
    apply Text.holdsRows_plainText
    simpa using words
  · apply List.filter_eq_self.2
    intro columns hmem
    obtain ⟨row, -, rfl⟩ := List.mem_map.1 hmem
    have length : 0 < row.columns.length := Nat.lt_of_lt_of_le (by decide) row.wide
    exact decide_eq_true (List.ne_nil_of_length_pos length)

/-- Two tables with a line feed between them are a table of the rows of both. -/
theorem LaidOut.append (h : LaidOut rows text) (h' : LaidOut rows' text') :
    LaidOut (rows ++ rows') (text ++ "\n" ++ text') := by
  obtain ⟨shown, holds, same⟩ := h
  obtain ⟨shown', holds', same'⟩ := h'
  obtain ⟨both, holdsBoth, sameBoth⟩ := holds.append holds'
  refine ⟨both, ?_, ?_⟩
  · rw [String.toList_append, String.toList_append, List.append_assoc]
    exact holdsBoth
  · rw [sameBoth, same, same', List.map_append]

theorem trim_of_blank (blank : Blank stderr) : Text.trim stderr = "" := by
  have front : Text.trimStart stderr.toList = [] := List.dropWhile_eq_nil_iff.2 blank
  rw [Text.trim, Text.trimmed, front]
  rfl

theorem readLag_of_blank (blank : Blank stderr) (text group tenant : String) :
    readLag ⟨text, stderr⟩ group tenant = (tableLag tenant text).map Reading.lag := by
  have quiet : ¬ Text.trim stderr ≠ "" := not_not_intro (trim_of_blank blank)
  rw [readLag, if_neg quiet]

/-- The lag columns that are read for a tenant are those of the rows that mention it. -/
theorem tenantColumns_of_laidOut (h : LaidOut rows text) :
    tenantColumns tenant text = (rows.filter (·.mentions tenant)).map WideRow.lag := by
  obtain ⟨shown, holds, hshown⟩ := h
  have some : shown.filter (concerns tenant.toList) =
      (shown.filter (· ≠ [])).filter (concerns tenant.toList) := by
    rw [List.filter_filter]
    refine List.filter_congr fun row _ => ?_
    cases row with
    | nil => rfl
    | cons first others => simp
  have rowwise : concerns tenant.toList ∘ WideRow.columns = WideRow.mentions tenant :=
    funext fun _ => WideRow.concerns_columns
  rw [tenantColumns, tableRows, Text.words_of_lines holds, some, hshown, List.filter_map, rowwise,
    List.map_map]
  exact List.map_congr_left fun _ _ => WideRow.lagColumn_columns

/-! ### The sum of some columns -/

/-- It makes no difference whether a sum wraps around at each step or at the end. -/
theorem sum_cons_wraps (n : Nat) (counts : List Nat) :
    (n :: counts).sum % 2 ^ 64 = (n + counts.sum % 2 ^ 64) % UInt64.size := by
  rw [List.sum_cons]
  exact (Nat.add_mod_mod n counts.sum (2 ^ 64)).symm

theorem sumColumns_eq_ok_iff {columns : List (List Char)} {n : Nat} :
    sumColumns columns = .ok n ↔
      ∃ counts, List.Forall₂ (fun column n => lagNumber? column = some n) columns counts ∧
        counts.sum % 2 ^ 64 = n := by
  induction columns generalizing n with
  | nil => simp [sumColumns]
  | cons column columns ih =>
      rw [sumColumns]
      cases hcount : lagNumber? column with
      | none => simp [List.forall₂_cons_left_iff, hcount]
      | some m =>
          constructor
          · intro hsum
            cases hrest : sumColumns columns with
            | error raw =>
                rw [hrest] at hsum
                cases hsum
            | ok rest =>
                rw [hrest] at hsum
                cases hsum
                obtain ⟨counts, numbers, rfl⟩ := ih.1 hrest
                exact ⟨m :: counts, .cons hcount numbers, sum_cons_wraps m counts⟩
          · rintro ⟨_, numbers, rfl⟩
            obtain ⟨m', counts, hcount', rest, rfl⟩ := List.forall₂_cons_left_iff.1 numbers
            cases hcount.symm.trans hcount'
            have hrest : sumColumns columns = .ok (counts.sum % 2 ^ 64) :=
              ih.2 ⟨counts, rest, rfl⟩
            simp only [hrest, sum_cons_wraps]
            rfl

/-- The first column that writes no number is what is wrong with a sum. -/
theorem sumColumns_of_first {before after : List (List Char)} {column : List Char}
    (numbers : ∀ c ∈ before, ∃ n, lagNumber? c = some n) (none : lagNumber? column = none) :
    sumColumns (before ++ column :: after) = .error column := by
  induction before with
  | nil =>
      rw [List.nil_append, sumColumns]
      simp only [none]
  | cons c before ih =>
      obtain ⟨n, hcount⟩ := numbers c List.mem_cons_self
      rw [List.cons_append, sumColumns, ih fun c' h => numbers c' (List.mem_cons_of_mem _ h)]
      simp only [hcount]
      rfl

/-! ### What is read -/

theorem readLag_of_laidOut (laid : LaidOut rows text) (blank : Blank stderr)
    (group tenant : String) :
    readLag ⟨text, stderr⟩ group tenant =
      if rows.filter (·.mentions tenant) = [] then .error (.lagNotNumeric tenant (Text.trim text))
      else ((sumColumns ((rows.filter (·.mentions tenant)).map WideRow.lag)).mapError
        fun raw => .lagNotNumeric tenant (String.ofList raw)).map Reading.lag := by
  rw [readLag_of_blank blank, tableLag, tenantColumns_of_laidOut laid]
  simp only [List.isEmpty_iff, List.map_eq_nil_iff]
  split
  · rfl
  · rfl

/-- A lag is read when there are rows that mention the tenant and all of them count. -/
theorem readLag_eq_lag_iff (laid : LaidOut rows text) (blank : Blank stderr) {n : Nat} :
    readLag ⟨text, stderr⟩ group tenant = .ok (.lag n) ↔
      rows.filter (·.mentions tenant) ≠ [] ∧
        ∃ counts, List.Forall₂ WideRow.Counts (rows.filter (·.mentions tenant)) counts ∧
          counts.sum % 2 ^ 64 = n := by
  rw [readLag_of_laidOut laid blank]
  generalize rows.filter (·.mentions tenant) = own
  have sums : sumColumns (own.map WideRow.lag) = .ok n ↔
      ∃ counts, List.Forall₂ WideRow.Counts own counts ∧ counts.sum % 2 ^ 64 = n := by
    simp only [sumColumns_eq_ok_iff, List.forall₂_map_left_iff, WideRow.lagNumber?_eq_some_iff]
  by_cases none : own = []
  · rw [if_pos none]
    exact iff_of_false nofun fun h => h.1 none
  · rw [if_neg none, ← sums]
    cases hsum : sumColumns (own.map WideRow.lag) with
    | error raw => exact iff_of_false nofun nofun
    | ok m => simp [Except.mapError, Except.map, none]

/-- The first row that mentions the tenant and does not count is what is wrong with a table. -/
theorem readLag_of_first (laid : LaidOut rows text) (blank : Blank stderr)
    {before after : List WideRow} {row : WideRow}
    (own : rows.filter (·.mentions tenant) = before ++ row :: after)
    (numbers : ∀ r ∈ before, ∃ n, r.Counts n) (none : ¬ ∃ n, row.Counts n) :
    readLag ⟨text, stderr⟩ group tenant =
      .error (.lagNotNumeric tenant (String.ofList row.lag)) := by
  have some : before ++ row :: after ≠ [] := by simp
  have first : sumColumns ((before ++ row :: after).map WideRow.lag) = .error row.lag := by
    rw [List.map_append, List.map_cons]
    apply sumColumns_of_first
    · intro column hmem
      obtain ⟨r, hr, rfl⟩ := List.mem_map.1 hmem
      obtain ⟨n, hn⟩ := numbers r hr
      exact ⟨n, WideRow.lagNumber?_eq_some_iff.2 hn⟩
    · apply Option.eq_none_iff_forall_not_mem.2
      intro n hn
      exact none ⟨n, WideRow.lagNumber?_eq_some_iff.1 hn⟩
  rw [readLag_of_laidOut laid blank, own, if_neg some, first]
  rfl

/-- A lag that is read from a table is read from every table of the same rows. -/
theorem readLag_of_perm (laid : LaidOut rows text) (blank : Blank stderr) {n : Nat}
    (read : readLag ⟨text, stderr⟩ group tenant = .ok (.lag n)) {stderr' : String}
    (perm : rows'.Perm rows) (laid' : LaidOut rows' text') (blank' : Blank stderr') :
    readLag ⟨text', stderr'⟩ group tenant = .ok (.lag n) := by
  obtain ⟨some, counts, count, rfl⟩ := (readLag_eq_lag_iff laid blank).1 read
  have permOwn := perm.filter (·.mentions tenant)
  obtain ⟨counts', count', permCounts⟩ := List.perm_comp_forall₂ permOwn count
  have some' : rows'.filter (·.mentions tenant) ≠ [] := by
    intro none
    exact some (none ▸ permOwn).symm.eq_nil
  refine (readLag_eq_lag_iff laid' blank').2 ⟨some', counts', count', ?_⟩
  rw [permCounts.sum_eq]

/-- The lags that are read from two tables add up in a table of the rows of both. -/
theorem readLag_of_append (laid : LaidOut rows text) (blank : Blank stderr) {n : Nat}
    (read : readLag ⟨text, stderr⟩ group tenant = .ok (.lag n)) {stderr' : String}
    (laid' : LaidOut rows' text') (blank' : Blank stderr') {n' : Nat}
    (read' : readLag ⟨text', stderr'⟩ group tenant = .ok (.lag n')) {both : String}
    (laidBoth : LaidOut (rows ++ rows') both) :
    readLag ⟨both, stderr⟩ group tenant = .ok (.lag ((n + n') % 2 ^ 64)) := by
  obtain ⟨some, counts, count, rfl⟩ := (readLag_eq_lag_iff laid blank).1 read
  obtain ⟨-, counts', count', rfl⟩ := (readLag_eq_lag_iff laid' blank').1 read'
  apply (readLag_eq_lag_iff laidBoth blank).2
  rw [List.filter_append]
  refine ⟨List.append_ne_nil_of_left_ne_nil some _, counts ++ counts', ?_, ?_⟩
  · exact List.rel_append count count'
  · rw [List.sum_append, Nat.add_mod]

/-- The table of some rows, with nothing but blanks to complain of, is read for a tenant by the rows
that mention it. If there is none, the table itself is reported; if all of them count, the sum is
read, up to a multiple of 2⁶⁴; and else the lag column of the first of them that does not is
reported. What is read is read from every table of the same rows, in whatever order, and what is
read from two tables adds up in a table of the rows of both, such as they are with a line feed
between them. -/
theorem readLag_laidOut (group tenant : String) (laid : LaidOut rows text) (blank : Blank stderr) :
    let own := rows.filter (·.mentions tenant)
    let reading := readLag ⟨text, stderr⟩ group tenant
    (own = [] → reading = .error (.lagNotNumeric tenant (Text.trim text))) ∧
    (∀ counts, own ≠ [] → List.Forall₂ WideRow.Counts own counts →
      reading = .ok (.lag (counts.sum % 2 ^ 64))) ∧
    (∀ before row after, own = before ++ row :: after → (∀ r ∈ before, ∃ n, r.Counts n) →
      (¬ ∃ n, row.Counts n) →
      reading = .error (.lagNotNumeric tenant (String.ofList row.lag))) ∧
    (∀ n, reading = .ok (.lag n) → ∀ rows' text' stderr', rows'.Perm rows → LaidOut rows' text' →
      Blank stderr' → readLag ⟨text', stderr'⟩ group tenant = .ok (.lag n)) ∧
    ∀ n, reading = .ok (.lag n) → ∀ rows' text' stderr' n', LaidOut rows' text' → Blank stderr' →
      readLag ⟨text', stderr'⟩ group tenant = .ok (.lag n') →
      LaidOut (rows ++ rows') (text ++ "\n" ++ text') ∧
      ∀ both, LaidOut (rows ++ rows') both →
        readLag ⟨both, stderr⟩ group tenant = .ok (.lag ((n + n') % 2 ^ 64)) := by
  intro own reading
  refine ⟨?_, ?_, ?_, ?_, ?_⟩
  · intro none
    exact (readLag_of_laidOut laid blank group tenant).trans (if_pos none)
  · intro counts some count
    exact (readLag_eq_lag_iff laid blank).2 ⟨some, counts, count, rfl⟩
  · intro before row after hown
    exact readLag_of_first laid blank hown
  · intro n read rows' text' stderr'
    exact readLag_of_perm laid blank read
  · intro n read rows' text' stderr' n' laid' blank' read'
    refine ⟨laid.append laid', ?_⟩
    intro both laidBoth
    exact readLag_of_append laid blank read laid' blank' read' laidBoth

def partitionRow (tenant lag : String) : WideRow :=
  ⟨["group", "folio." ++ tenant ++ ".capability", "0", "10", "15", lag].map String.toList,
    Nat.le_refl 6⟩

/-- Two rows that count, one of them with a sign, and one that does not. -/
def mixedRows : List WideRow :=
  [partitionRow "north" "+3", partitionRow "south" "x", partitionRow "north" "4"]

def plainRows (rows : List WideRow) : String :=
  String.ofList (Text.plainText (rows.map WideRow.columns))

/-- A sum is read for one tenant, another has a column that is no number, and a third has no rows;
the sum is read from the rows in reverse too, and is twice as much in the table twice over. -/
theorem readLag_laidOut_mixed :
    (LaidOut mixedRows (plainRows mixedRows) ∧ Blank " \n") ∧
      readLag ⟨plainRows mixedRows, " \n"⟩ "group" "north" = .ok (.lag 7) ∧
      readLag ⟨plainRows mixedRows, " \n"⟩ "group" "south" = .error (.lagNotNumeric "south" "x") ∧
      readLag ⟨plainRows mixedRows, " \n"⟩ "group" "west" =
        .error (.lagNotNumeric "west" (Text.trim (plainRows mixedRows))) ∧
      readLag ⟨plainRows mixedRows.reverse, ""⟩ "group" "north" = .ok (.lag 7) ∧
      readLag ⟨plainRows mixedRows ++ "\n" ++ plainRows mixedRows, " \n"⟩ "group" "north" =
        .ok (.lag 14) := by
  have laid : LaidOut mixedRows (plainRows mixedRows) := laidOut_plainText (by decide +kernel)
  have reversed : LaidOut mixedRows.reverse (plainRows mixedRows.reverse) :=
    laidOut_plainText (by decide +kernel)
  have blank : Blank " \n" := by decide
  have north : mixedRows.filter (·.mentions "north") =
      [partitionRow "north" "+3", partitionRow "north" "4"] := by decide +kernel
  have south : mixedRows.filter (·.mentions "south") = [partitionRow "south" "x"] := by
    decide +kernel
  have west : mixedRows.filter (·.mentions "west") = [] := by decide +kernel
  have three : (partitionRow "north" "+3").Counts 3 :=
    WideRow.lagNumber?_eq_some_iff.1 (by decide +kernel)
  have four : (partitionRow "north" "4").Counts 4 :=
    WideRow.lagNumber?_eq_some_iff.1 (by decide +kernel)
  have wrong : ¬ ∃ n, (partitionRow "south" "x").Counts n := by
    rintro ⟨n, count⟩
    cases WideRow.lagNumber?_eq_some_iff.2 count
  obtain ⟨-, sums, -, reorders, adds⟩ := readLag_laidOut "group" "north" laid blank
  obtain ⟨-, -, fails, -⟩ := readLag_laidOut "group" "south" laid blank
  obtain ⟨misses, -⟩ := readLag_laidOut "group" "west" laid blank
  have read := sums [3, 4] (by simp [north]) (north ▸ .cons three (.cons four .nil))
  obtain ⟨joined, both⟩ := adds 7 read mixedRows _ _ 7 laid blank read
  exact ⟨⟨laid, blank⟩, read, fails [] _ [] south nofun wrong, misses west,
    reorders 7 read _ _ _ (List.reverse_perm _) reversed nofun, both _ joined⟩

end Rollout.Lag
