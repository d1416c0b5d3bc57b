import Mathlib.Data.Rat.Defs
import OpenStock.Foundations.Capped
import OpenStock.Foundations.Text

namespace OpenStock.Providers.Ohlcv

inductive Numeric where
  | opening
  | high
  | low
  | close
  | volume
  deriving DecidableEq

inductive Column where
  | time
  | numeric (column : Numeric)
  deriving DecidableEq

-- A cell as `pd.to_numeric(.., errors="coerce")` reads it: null and unread
-- values both become NaN, but only the null one `isna` finds in the raw column.
inductive Cell where
  | null
  | unread
  | finite (value : Rat)
  | positiveInfinity
  | negativeInfinity
  deriving DecidableEq

namespace Cell

-- Comparisons with NaN are false.
def below : Cell → Cell → Bool
  | finite left,finite right => decide (left < right)
  | negativeInfinity,finite _ => true
  | negativeInfinity,positiveInfinity => true
  | finite _,positiveInfinity => true
  | _,_ => false

def isna : Cell → Bool
  | null => true
  | unread => true
  | _ => false

def isinf : Cell → Bool
  | positiveInfinity => true
  | negativeInfinity => true
  | _ => false

def negative (cell : Cell) : Bool := cell.below (finite 0)

end Cell

-- A parsed time: what the clock of its own zone shows, and the instant.
structure Moment where
  wall : Int
  utc : Int

structure TimeCell where
  raw : Option Text
  parsed : Option Moment
  absent : raw = none → parsed = none

def TimeCell.failed (cell : TimeCell) : Bool := cell.raw.isSome && cell.parsed.isNone

-- `label` is the row's entry in the index, which need not be unique.
structure Row (ι : Type) where
  label : ι
  time : TimeCell
  number : Numeric → Cell

-- `uniform` tells that parsing the time column gives a datetime column.
structure Table (ι : Type) where
  columns : List Column
  rows : List (Row ι)
  uniform : Bool

inductive Severity where
  | error
  | warning
  | info
  deriving DecidableEq

structure QualityIssue where
  code : Text
  severity : Severity
  column : Option Column
  rowIndex : Option Nat

inductive Raised where
  | typeError
  | attributeError
  deriving DecidableEq

variable {ι : Type} [DecidableEq ι]

namespace Table

def has (table : Table ι) (column : Column) : Bool := decide (column ∈ table.columns)

-- The first position of a label, also when it is repeated.
def safePositionalIndex (table : Table ι) (label : ι) : Option Nat := table.rows.findIdx? (fun row => row.label = label)

-- `df.index[mask]` for a mask computed row by row.
def index (table : Table ι) (mask : Row ι → Bool) : List ι := (table.rows.filter mask).map Row.label

def repeated (table : Table ι) (label : ι) : Bool := decide (2 ≤ (table.rows.filter (fun row => row.label = label)).length)

def issue (table : Table ι) (code : Text) (severity : Severity) (column : Column) (label : ι) : QualityIssue where
  code := code
  severity := severity
  column := some column
  rowIndex := table.safePositionalIndex label

end Table

open Table

/- Schema. -/

def requiredColumns : List Column :=
  [.time,.numeric .opening,.numeric .high,.numeric .low,.numeric .close,.numeric .volume]

def priceColumns : List Numeric := [.opening,.high,.low,.close]
def volumeColumns : List Numeric := [.volume]
def numericColumns : List Numeric := [.opening,.high,.low,.close,.volume]

def checkRequiredColumns (table : Table ι) (required : List Column) : List QualityIssue :=
  (required.filter (fun column => !table.has column)).map (fun column =>
    {code:="SCHEMA_MISSING_COLUMN".toList,severity:=.error,column:=some column,rowIndex:=none})

def checkEmptyDataframe (table : Table ι) : List QualityIssue :=
  if table.rows.isEmpty then
    [{code:="SCHEMA_EMPTY_DATAFRAME".toList,severity:=.error,column:=none,rowIndex:=none}]
  else []

def Row.isna (row : Row ι) : Column → Bool
  | .time => row.time.raw.isNone
  | .numeric column => decide (row.number column = .null)

def nullColumns (table : Table ι) (maxExamples : Nat) (found : List QualityIssue) : List Column → List QualityIssue
  | [] => found
  | column :: columns =>
    let issues := if table.rows.all (fun row => row.isna column) then
      found ++ [{code:="SCHEMA_COLUMN_ALL_NULL".toList,severity:=.warning,column:=some column,rowIndex:=none}] else found
    if maxExamples ≤ issues.length then issues else nullColumns table maxExamples issues columns

def checkAllNullColumns (table : Table ι) (columns : List Column) (maxExamples : Nat) : List QualityIssue :=
  nullColumns table maxExamples [] (columns.filter table.has)

/- Numeric. -/

def checkNegative (code : Text) (table : Table ι) (columns : List Numeric) (maxExamples : Nat) : List QualityIssue :=
  Capped.scan maxExamples [] ((columns.filter (fun column => table.has (.numeric column))).map (fun column =>
    (table.index (fun row => (row.number column).negative)).map (table.issue code .error (.numeric column))))

def checkNegativePrices (table : Table ι) (columns : List Numeric) (maxExamples : Nat) : List QualityIssue :=
  checkNegative "NUMERIC_NEGATIVE_PRICE".toList table columns maxExamples

def checkNegativeVolumes (table : Table ι) (columns : List Numeric) (maxExamples : Nat) : List QualityIssue :=
  checkNegative "NUMERIC_NEGATIVE_VOLUME".toList table columns maxExamples

def nullIssues (table : Table ι) (column : Numeric) : List QualityIssue :=
  (table.index (fun row => (row.number column).isna)).map
    (table.issue "NUMERIC_NULL_VALUE".toList .warning (.numeric column))

def infIssues (table : Table ι) (column : Numeric) : List QualityIssue :=
  (table.index (fun row => (row.number column).isinf)).map
    (table.issue "NUMERIC_INF_VALUE".toList .error (.numeric column))

-- Null and infinite values count against one limit, over all columns.
def checkNullNanInf (table : Table ι) (columns : List Numeric) (maxExamples : Nat) : List QualityIssue :=
  Capped.scan maxExamples [] ((columns.filter (fun column => table.has (.numeric column))).flatMap (fun column =>
    [nullIssues table column,infIssues table column]))

def priceScaleMin : Rat := 100
def priceScaleMax : Rat := 200000000

def suspicious (cell : Cell) : Bool :=
  (Cell.finite 0).below cell && (cell.below (.finite priceScaleMin) || (Cell.finite priceScaleMax).below cell)

-- `series.at[idx]` of a repeated label is a Series, which `float` refuses.
def scaleIssue (table : Table ι) (found : Numeric × ι) : Except Raised QualityIssue :=
  if table.repeated found.2 then .error .typeError
  else .ok (table.issue "OHLC_PRICE_SCALE_SUSPICIOUS".toList .warning (.numeric found.1) found.2)

def suspects (table : Table ι) (columns : List Numeric) : List (List (Numeric × ι)) :=
  (columns.filter (fun column => table.has (.numeric column))).map (fun column =>
    (table.index (fun row => suspicious (row.number column))).map (fun label => (column,label)))

def checkPriceScale (table : Table ι) (columns : List Numeric) (maxExamples : Nat) : Except Raised (List QualityIssue) :=
  Capped.scanEach maxExamples (scaleIssue table) [] (suspects table columns)

/- Consistency of the four prices. -/

structure Check where
  column : Numeric
  code : Text
  inconsistent : (Numeric → Cell) → Bool

def consistencyChecks : List Check :=
  [{column:=.high,code:="OHLC_HIGH_BELOW_LOW".toList,inconsistent:=fun row => (row .high).below (row .low)},
   {column:=.high,code:="OHLC_HIGH_BELOW_OPEN".toList,inconsistent:=fun row => (row .high).below (row .opening)},
   {column:=.high,code:="OHLC_HIGH_BELOW_CLOSE".toList,inconsistent:=fun row => (row .high).below (row .close)},
   {column:=.low,code:="OHLC_LOW_ABOVE_OPEN".toList,inconsistent:=fun row => (row .opening).below (row .low)},
   {column:=.low,code:="OHLC_LOW_ABOVE_CLOSE".toList,inconsistent:=fun row => (row .close).below (row .low)}]

def checkOhlcConsistency (table : Table ι) (maxExamples : Nat) : List QualityIssue :=
  if priceColumns.all (fun column => table.has (.numeric column)) then
    Capped.scan maxExamples [] (consistencyChecks.map (fun check =>
      (table.index (fun row => check.inconsistent row.number)).map (table.issue check.code .error (.numeric check.column))))
  else []

/- Temporal. -/

def missingTimes (table : Table ι) : List QualityIssue :=
  (table.index (fun row => row.time.raw.isNone)).map (table.issue "TIME_MISSING".toList .warning .time)

def invalidTimes (table : Table ι) : List QualityIssue :=
  (table.index (fun row => row.time.failed)).map (table.issue "TIME_INVALID".toList .error .time)

def checkDatetimeParse (table : Table ι) (maxExamples : Nat) : List QualityIssue :=
  if table.has .time then
    ((missingTimes table).take maxExamples ++ (invalidTimes table).take maxExamples).take maxExamples
  else []

-- The rows that repeat an earlier one, under the raw value of the time column.
def duplicated (seen : List (Option Text)) : List (Row ι) → List (Row ι)
  | [] => []
  | row :: rows =>
    if row.time.raw ∈ seen then row :: duplicated seen rows else duplicated (row.time.raw :: seen) rows

def checkDuplicateTimes (table : Table ι) (maxExamples : Nat) : List QualityIssue :=
  if table.has .time then
    (((duplicated [] table.rows).map Row.label).take maxExamples).map (table.issue "TIME_DUPLICATED".toList .warning .time)
  else []

-- The labels and moments of the rows whose time was parsed.
def parsedTimes (table : Table ι) : List (ι × Moment) :=
  table.rows.filterMap (fun row => row.time.parsed.map (fun moment => (row.label,moment)))

def steps (times : List (ι × Moment)) : List ((ι × Moment) × (ι × Moment)) := times.zip times.tail

def isMonotonicIncreasing (times : List (ι × Moment)) : Bool :=
  (steps times).all (fun step => decide (step.1.2.utc ≤ step.2.2.utc))

def checkMonotonicTime (table : Table ι) (maxExamples : Nat) : List QualityIssue :=
  if !table.has .time || table.rows.length < 2 then [] else
  if isMonotonicIncreasing (parsedTimes table) then [] else
    ((((steps (parsedTimes table)).filter (fun step => decide (step.2.2.utc ≤ step.1.2.utc))).map (fun step => step.2.1)).take
      maxExamples).map (table.issue "TIME_NOT_MONOTONIC".toList .warning .time)

-- `now` is the local clock; times with a zone are compared by what theirs shows.
def checkFutureTimes (table : Table ι) (now : Int) (maxExamples : Nat) : Except Raised (List QualityIssue) :=
  if table.has .time then
    if table.uniform then
      .ok (((table.index (fun row => row.time.parsed.any (fun moment => decide (now < moment.wall)))).take maxExamples).map
        (table.issue "TIME_FUTURE_VALUE".toList .warning .time))
    else .error .attributeError
  else .ok []

/- Freshness. -/

def latestTime (table : Table ι) : Option Int :=
  if table.has .time then ((parsedTimes table).map (fun time => time.2.utc)).max? else none

def microsecondsPerHour : Int := 3600000000

def checkStaleDailyOhlcv (table : Table ι) (now : Int) (thresholdHours : Int) : List QualityIssue :=
  match latestTime table with
  | none => [{code:="FRESHNESS_LATEST_TIME_MISSING".toList,severity:=.warning,column:=none,rowIndex:=none}]
  | some latest =>
    if thresholdHours * microsecondsPerHour < now - latest then
      [{code:="FRESHNESS_STALE".toList,severity:=.warning,column:=none,rowIndex:=none}]
    else []

/- What the rules find. -/

def Erring (issues : List QualityIssue) : Prop := ∃ issue ∈ issues, issue.severity = .error

def Harmless (issues : List QualityIssue) : Prop := ∀ issue ∈ issues, issue.severity ≠ .error

variable {table : Table ι}

omit [DecidableEq ι] in
theorem index_some : table.index mask ≠ [] ↔ ∃ row ∈ table.rows, mask row = true := by
  simp [Table.index,List.filter_eq_nil_iff]

variable {issues : List QualityIssue}

theorem harmless_iff : Harmless issues ↔ ¬ Erring issues := by
  unfold Harmless Erring
  push Not
  rfl

theorem erring_append {issues more : List QualityIssue} : Erring (issues ++ more) ↔ Erring issues ∨ Erring more := by
  simp [Erring,or_and_right,exists_or]

theorem issued_harmless (mild : severity ≠ .error)
    (labels : List ι) : Harmless (labels.map (table.issue code severity column)) := by
  intro issue member
  obtain ⟨label,_,rfl⟩ := List.mem_map.mp member
  exact mild

variable {limit : Nat}

omit [DecidableEq ι] in
theorem nullColumns_harmless (columns : List Column)
    (harmless : Harmless found) : Harmless (nullColumns table limit found columns) := by
  induction columns generalizing found with
  | nil => exact harmless
  | cons column columns ih =>
    have more : Harmless (if table.rows.all (fun row => row.isna column) then
        found ++ [{code:="SCHEMA_COLUMN_ALL_NULL".toList,severity:=.warning,column:=some column,rowIndex:=none}]
        else found) := by
      split
      · intro issue member
        rcases List.mem_append.mp member with old | new
        · exact harmless issue old
        · cases List.mem_singleton.mp new
          intro wrong
          cases wrong
      · exact harmless
    rw [nullColumns]
    generalize (if table.rows.all (fun row => row.isna column) then
        found ++ [{code:="SCHEMA_COLUMN_ALL_NULL".toList,severity:=.warning,column:=some column,rowIndex:=none}]
        else found : List QualityIssue) = issues at more ⊢
    by_cases full : limit ≤ issues.length
    · rw [if_pos full]
      exact more
    · rw [if_neg full]
      exact ih more

-- A rule whose findings are all errors finds one wherever there is one.
theorem scan_erring (room : 0 < limit) (errors : ∀ group ∈ groups, ∀ issue ∈ group, issue.severity = .error) :
    Erring (Capped.scan limit [] groups) ↔ ∃ group ∈ groups, group ≠ [] := by
  rw [← Capped.scan_nonempty room]
  constructor
  · intro erring
    obtain ⟨issue,member,_⟩ := erring
    exact List.ne_nil_of_mem member
  · intro some
    obtain ⟨issue,member⟩ := List.exists_mem_of_ne_nil _ some
    refine ⟨issue,member,?_⟩
    rw [Capped.scan_take room,List.nil_append] at member
    obtain ⟨group,listed,inside⟩ := List.mem_flatten.mp (List.mem_of_mem_take member)
    exact errors group listed issue inside

section complete
variable {table : Table ι} {limit : Nat} (complete : ∀ column, table.has column = true)

include complete in
omit [DecidableEq ι] in
theorem columns_present (columns : List Numeric) : columns.filter (fun column => table.has (.numeric column)) = columns :=
  List.filter_eq_self.mpr (fun column _ => complete (.numeric column))

include complete in
omit [DecidableEq ι] in
theorem required_present : checkRequiredColumns table requiredColumns = [] := by
  simp [checkRequiredColumns,requiredColumns,complete]

include complete in
theorem negative_found (code : Text) (columns : List Numeric) (room : 0 < limit) :
    Erring (checkNegative code table columns limit) ↔
      ∃ row ∈ table.rows, ∃ column ∈ columns, (row.number column).negative = true := by
  unfold checkNegative
  rw [columns_present complete,scan_erring room]
  · constructor
    · intro some
      obtain ⟨group,listed,filled⟩ := some
      obtain ⟨column,within,rfl⟩ := List.mem_map.mp listed
      rw [Ne,List.map_eq_nil_iff] at filled
      obtain ⟨row,member,negative⟩ := index_some.mp filled
      exact ⟨row,member,column,within,negative⟩
    · intro some
      obtain ⟨row,member,column,within,negative⟩ := some
      refine ⟨_,List.mem_map.mpr ⟨column,within,rfl⟩,?_⟩
      rw [Ne,List.map_eq_nil_iff]
      exact index_some.mpr ⟨row,member,negative⟩
  · intro group listed issue inside
    obtain ⟨column,_,rfl⟩ := List.mem_map.mp listed
    obtain ⟨label,_,rfl⟩ := List.mem_map.mp inside
    rfl

include complete in
theorem inconsistent_found (room : 0 < limit) : Erring (checkOhlcConsistency table limit) ↔
      ∃ row ∈ table.rows, ∃ check ∈ consistencyChecks, check.inconsistent row.number = true := by
  unfold checkOhlcConsistency
  rw [if_pos (List.all_eq_true.mpr (fun column _ => complete (.numeric column))),scan_erring room]
  · constructor
    · intro some
      obtain ⟨group,listed,filled⟩ := some
      obtain ⟨check,within,rfl⟩ := List.mem_map.mp listed
      rw [Ne,List.map_eq_nil_iff] at filled
      obtain ⟨row,member,wrong⟩ := index_some.mp filled
      exact ⟨row,member,check,within,wrong⟩
    · intro some
      obtain ⟨row,member,check,within,wrong⟩ := some
      refine ⟨_,List.mem_map.mpr ⟨check,within,rfl⟩,?_⟩
      rw [Ne,List.map_eq_nil_iff]
      exact index_some.mpr ⟨row,member,wrong⟩
  · intro group listed issue inside
    obtain ⟨check,_,rfl⟩ := List.mem_map.mp listed
    obtain ⟨label,_,rfl⟩ := List.mem_map.mp inside
    rfl

-- How many cells of these columns are null or unread.
def nullCount (table : Table ι) (columns : List Numeric) : Nat :=
  (columns.map (fun column => (table.rows.filter (fun row => (row.number column).isna)).length)).sum

-- An infinite value is found while the nulls up to its own column leave room.
def InfiniteSeen (table : Table ι) (columns : List Numeric) (limit : Nat) : Prop :=
  ∃ front column back, columns = front ++ column :: back ∧ (∃ row ∈ table.rows, (row.number column).isinf = true) ∧
    nullCount table (front ++ [column]) < limit

include complete in
theorem infinite_found (columns : List Numeric) (room : 0 < limit) :
    Erring (checkNullNanInf table columns limit) ↔ InfiniteSeen table columns limit := by
  have flat : ((columns.flatMap (fun column => [nullIssues table column,infIssues table column])).flatten : List QualityIssue) =
      columns.flatMap (fun column => nullIssues table column ++ infIssues table column) := by
    rw [List.flatten_eq_flatMap,List.flatMap_assoc]
    simp
  have clean : ∀ column, ∀ issue ∈ nullIssues table column, decide (issue.severity = .error) = false := by
    intro column issue member
    obtain ⟨label,_,rfl⟩ := List.mem_map.mp member
    rfl
  have faulty : ∀ column, ∀ issue ∈ infIssues table column, decide (issue.severity = .error) = true := by
    intro column issue member
    obtain ⟨label,_,rfl⟩ := List.mem_map.mp member
    rfl
  have seen := @Capped.faults_seen _ _ columns (nullIssues table) (infIssues table)
    (fun issue => decide (issue.severity = .error)) clean faulty limit
  simp only [decide_eq_true_eq] at seen
  unfold checkNullNanInf Erring InfiniteSeen
  rw [columns_present complete,Capped.scan_take room,List.nil_append,flat,seen]
  have counted : ∀ columns : List Numeric, nullCount table columns = (columns.map (fun column => (nullIssues table column).length)).sum := by
    intro columns
    simp [nullCount,nullIssues,Table.index]
  simp only [counted,infIssues,Ne,List.map_eq_nil_iff]
  simp only [← Ne.eq_def,index_some]

-- An unparseable time is found while the null times leave room.
def InvalidSeen (table : Table ι) (limit : Nat) : Prop :=
  (∃ row ∈ table.rows, row.time.failed = true) ∧ (table.rows.filter (fun row => row.time.raw.isNone)).length < limit

include complete in
theorem invalid_found (room : 0 < limit) : Erring (checkDatetimeParse table limit) ↔ InvalidSeen table limit := by
  have clean : ∀ issue ∈ missingTimes table, issue.severity ≠ .error := issued_harmless (by decide) _
  unfold checkDatetimeParse InvalidSeen
  rw [if_pos (complete .time)]
  have count : (missingTimes table).length = (table.rows.filter (fun row => row.time.raw.isNone)).length := by
    simp [missingTimes,Table.index]
  rw [← count]
  constructor
  · intro erring
    obtain ⟨issue,member,wrong⟩ := erring
    have places := List.mem_append.mp (List.mem_of_mem_take member)
    rcases places with missing | invalid
    · exact absurd wrong (clean issue (List.mem_of_mem_take missing))
    · refine ⟨?_,?_⟩
      · apply index_some.mp
        intro none
        rw [invalidTimes,none] at invalid
        simp at invalid
      · by_contra crowded
        have full : ((missingTimes table).take limit).length = limit := by
          rw [List.length_take]
          omega
        rw [List.take_append_of_le_length (Nat.le_of_eq full.symm)] at member
        exact clean issue (List.mem_of_mem_take (List.mem_of_mem_take member)) wrong
  · intro seen
    obtain ⟨failed,space⟩ := seen
    obtain ⟨label,within⟩ := List.exists_mem_of_ne_nil _ (index_some.mpr failed)
    have some : (invalidTimes table) ≠ [] := List.ne_nil_of_mem (List.mem_map_of_mem within)
    cases listed : invalidTimes table with
    | nil => exact absurd listed some
    | cons first rest =>
      have wrong : first.severity = .error := by
        have member : first ∈ invalidTimes table := by
          rw [listed]
          exact List.mem_cons_self
        obtain ⟨label,_,rfl⟩ := List.mem_map.mp member
        rfl
      refine ⟨first,?_,wrong⟩
      obtain ⟨more,left⟩ : ∃ more, limit - (missingTimes table).length = more + 1 := ⟨limit - (missingTimes table).length - 1,by omega⟩
      obtain ⟨all,positive⟩ : ∃ all, limit = all + 1 := ⟨limit - 1,by omega⟩
      rw [List.take_of_length_le (Nat.le_of_lt space),List.take_append,left]
      apply List.mem_append_right
      rw [positive,List.take_succ_cons,List.take_succ_cons]
      exact List.mem_cons_self

end complete

theorem duplicate_harmless (table : Table ι) (limit : Nat) : Harmless (checkDuplicateTimes table limit) := by
  unfold checkDuplicateTimes
  split
  · exact issued_harmless (by decide) _
  · simp [Harmless]

theorem monotonic_harmless (table : Table ι) (limit : Nat) : Harmless (checkMonotonicTime table limit) := by
  unfold checkMonotonicTime
  split
  · simp [Harmless]
  · split
    · simp [Harmless]
    · exact issued_harmless (by decide) _

omit [DecidableEq ι] in
theorem stale_harmless (table : Table ι) (now threshold : Int) : Harmless (checkStaleDailyOhlcv table now threshold) := by
  unfold checkStaleDailyOhlcv
  split
  · simp [Harmless]
  · split
    · simp [Harmless]
    · simp [Harmless]

theorem future_checked (timed : table.has .time = true) (now : Int) (limit : Nat) :
    (∃ issues, checkFutureTimes table now limit = .ok issues) ↔ table.uniform = true := by
  unfold checkFutureTimes
  rw [if_pos timed]
  by_cases one : table.uniform = true
  · simp [one]
  · simp [one]

theorem future_harmless (checked : checkFutureTimes table now limit = .ok issues) : Harmless issues := by
  unfold checkFutureTimes at checked
  split at checked
  · split at checked
    · cases checked
      exact issued_harmless (by decide) _
    · cases checked
  · cases checked
    simp [Harmless]

-- The suspicious prices the scale rule comes to have labels of one row each.
def ScaleReadable (table : Table ι) (columns : List Numeric) (limit : Nat) : Prop :=
  ∀ found ∈ (suspects table columns).flatten.take limit, table.repeated found.2 = false

theorem scale_checked (columns : List Numeric) (room : 0 < limit) :
    (∃ issues, checkPriceScale table columns limit = .ok issues) ↔ ScaleReadable table columns limit := by
  have readable : ∀ found, (∃ issue, scaleIssue table found = .ok issue) ↔ table.repeated found.2 = false := by
    intro found
    unfold scaleIssue
    cases table.repeated found.2 <;> simp
  unfold checkPriceScale ScaleReadable
  rw [Capped.scanEach_take room,List.length_nil,Nat.sub_zero]
  simp only [← readable,← Rows.each_accepted]
  cases (List.take limit (suspects table columns).flatten).mapM (scaleIssue table) <;> simp [Except.map]

theorem scale_harmless {columns : List Numeric} (room : 0 < limit)
    (checked : checkPriceScale table columns limit = .ok issues) : Harmless issues := by
  unfold checkPriceScale at checked
  rw [Capped.scanEach_take room] at checked
  cases each : ((suspects table columns).flatten.take (limit - ([] : List QualityIssue).length)).mapM (scaleIssue table) with
  | error refused =>
    rw [each] at checked
    cases checked
  | ok found =>
    rw [each] at checked
    cases checked
    intro issue member
    obtain ⟨suspect,_,written⟩ := Rows.each_from each issue member
    unfold scaleIssue at written
    split at written
    · cases written
    · cases written
      intro wrong
      cases wrong

end OpenStock.Providers.Ohlcv
