import OpenStock.Foundations.Validation
import OpenStock.Providers.QualityRules

namespace OpenStock.Providers.Ohlcv

structure QualityConfig where
  maxErrorExamples : Nat
  staleDailyOhlcvHours : Int
  checkOhlcConsistency : Bool
  checkPriceScale : Bool

structure Clock where
  wall : Int
  utc : Int

inductive FreshnessStatus where
  | fresh
  | stale
  | unknown

structure ValidationReport where
  valid : Bool
  provider : Option Text
  symbol : Option Text
  interval : Option Text
  rowCount : Nat
  latestTime : Option Int
  freshnessStatus : FreshnessStatus
  errors : List QualityIssue
  warnings : List QualityIssue
  infos : List QualityIssue

def classify (severity : Severity) (issues : List QualityIssue) : List QualityIssue :=
  issues.filter (fun issue => issue.severity = severity)

section rules
variable {ι : Type} [DecidableEq ι]

def scaleRule (cfg : QualityConfig) (table : Table ι) : Except Raised (List QualityIssue) :=
  if cfg.checkPriceScale then checkPriceScale table priceColumns cfg.maxErrorExamples else .ok []

-- The rules for a table with rows, in the order the validator runs them.
def rowRules (cfg : QualityConfig) (clock : Clock) (table : Table ι) : Except Raised (List QualityIssue) := do
  let scale ← scaleRule cfg table
  let future ← checkFutureTimes table clock.wall cfg.maxErrorExamples
  .ok (checkAllNullColumns table requiredColumns cfg.maxErrorExamples ++
    checkNegativePrices table priceColumns cfg.maxErrorExamples ++
    checkNegativeVolumes table volumeColumns cfg.maxErrorExamples ++
    checkNullNanInf table numericColumns cfg.maxErrorExamples ++ scale ++
    (if cfg.checkOhlcConsistency then checkOhlcConsistency table cfg.maxErrorExamples else []) ++
    checkDatetimeParse table cfg.maxErrorExamples ++ checkDuplicateTimes table cfg.maxErrorExamples ++
    checkMonotonicTime table cfg.maxErrorExamples ++ future)

def freshnessOf (table : Table ι) (warnings : List QualityIssue) : FreshnessStatus :=
  if (latestTime table).isNone then .unknown else
  if warnings.any (fun issue => issue.code = "FRESHNESS_STALE".toList) then .stale else .fresh

def reportOf (table : Table ι) (provider symbol interval : Option Text) (issues : List QualityIssue) : ValidationReport where
  valid := (classify .error issues).isEmpty
  provider := provider
  symbol := symbol
  interval := interval
  rowCount := table.rows.length
  latestTime := latestTime table
  freshnessStatus := freshnessOf table (classify .warning issues)
  errors := classify .error issues
  warnings := classify .warning issues
  infos := classify .info issues

def validate (cfg : QualityConfig) (clock : Clock) (table : Table ι) (provider symbol interval : Option Text) :
    Except Raised ValidationReport := do
  let found ← if table.rows.isEmpty then .ok [] else rowRules cfg clock table
  .ok (reportOf table provider symbol interval (checkRequiredColumns table requiredColumns ++ checkEmptyDataframe table ++
    found ++ checkStaleDailyOhlcv table clock.utc cfg.staleDailyOhlcvHours))

/- What makes a row unfit, and which of it the capped rules come to see. -/

def Inconsistent (number : Numeric → Cell) : Prop :=
  (number .high).below (number .low) = true ∨ (number .high).below (number .opening) = true ∨
    (number .high).below (number .close) = true ∨ (number .opening).below (number .low) = true ∨
    (number .close).below (number .low) = true

structure Sound (row : Row ι) : Prop where
  nonnegative : ∀ column, (row.number column).negative = false
  bounded : ∀ column, (row.number column).isinf = false
  readable : row.time.failed = false
  consistent : ¬ Inconsistent row.number

def Noticed (table : Table ι) (limit : Nat) : Prop :=
  (∃ row ∈ table.rows, (∃ column, (row.number column).negative = true) ∨ Inconsistent row.number) ∨
    InfiniteSeen table numericColumns limit ∨ InvalidSeen table limit

omit [DecidableEq ι] in
theorem inconsistent_iff (row : Row ι) : (∃ check ∈ consistencyChecks, check.inconsistent row.number = true) ↔ Inconsistent row.number := by
  simp [consistencyChecks,Inconsistent]

theorem columns_covered {p : Numeric → Prop} : (∃ column ∈ priceColumns, p column) ∨ (∃ column ∈ volumeColumns, p column) ↔ ∃ column, p column := by
  constructor
  · intro some
    rcases some with price | volume
    · obtain ⟨column,_,holds⟩ := price
      exact ⟨column,holds⟩
    · obtain ⟨column,_,holds⟩ := volume
      exact ⟨column,holds⟩
  · intro some
    obtain ⟨column,holds⟩ := some
    cases column with
    | volume => exact .inr ⟨.volume,by simp [volumeColumns],holds⟩
    | opening => exact .inl ⟨.opening,by simp [priceColumns],holds⟩
    | high => exact .inl ⟨.high,by simp [priceColumns],holds⟩
    | low => exact .inl ⟨.low,by simp [priceColumns],holds⟩
    | close => exact .inl ⟨.close,by simp [priceColumns],holds⟩

variable {table : Table ι}

omit [DecidableEq ι] in
theorem noticed_unsound (noticed : Noticed table limit) : ∃ row ∈ table.rows, ¬ Sound row := by
  rcases noticed with plain | infinite | invalid
  · obtain ⟨row,member,wrong⟩ := plain
    refine ⟨row,member,?_⟩
    intro sound
    rcases wrong with negative | inconsistent
    · obtain ⟨column,negative⟩ := negative
      rw [sound.nonnegative column] at negative
      cases negative
    · exact sound.consistent inconsistent
  · obtain ⟨_,column,_,_,⟨row,member,infinite⟩,_⟩ := infinite
    refine ⟨row,member,?_⟩
    intro sound
    rw [sound.bounded column] at infinite
    cases infinite
  · obtain ⟨⟨row,member,failed⟩,_⟩ := invalid
    refine ⟨row,member,?_⟩
    intro sound
    rw [sound.readable] at failed
    cases failed

variable {issues : List QualityIssue}

omit [DecidableEq ι] in
theorem report_valid : (reportOf table provider symbol interval issues).valid = true ↔ ¬ Erring issues := by
  simp [reportOf,classify,Erring,List.filter_eq_nil_iff]

section complete
variable {table : Table ι} {cfg : QualityConfig} (complete : ∀ column, table.has column = true) (room : 0 < cfg.maxErrorExamples)
variable (consistency : cfg.checkOhlcConsistency = true)

include complete room

-- The rules run to their end exactly on a readable table, and then find an error exactly as noticed.
theorem rules_ran (clock : Clock) : (∃ issues, rowRules cfg clock table = .ok issues) ↔
      table.uniform = true ∧ (cfg.checkPriceScale = true → ScaleReadable table priceColumns cfg.maxErrorExamples) := by
  rw [← future_checked (complete .time) clock.wall cfg.maxErrorExamples,← scale_checked priceColumns room]
  unfold rowRules scaleRule
  cases wanted : cfg.checkPriceScale with
  | false =>
    simp only [Bool.false_eq_true,if_false,false_implies,and_true]
    cases checkFutureTimes table clock.wall cfg.maxErrorExamples <;> simp [bind,Except.bind]
  | true =>
    simp only [if_true,true_implies]
    cases checkPriceScale table priceColumns cfg.maxErrorExamples <;>
      cases checkFutureTimes table clock.wall cfg.maxErrorExamples <;> simp [bind,Except.bind]

include consistency in
theorem rules_erring {clock : Clock} (ran : rowRules cfg clock table = .ok issues) :
    Erring issues ↔ Noticed table cfg.maxErrorExamples := by
  unfold rowRules at ran
  obtain ⟨scale,scaled,ran⟩ := bind_ok ran
  obtain ⟨future,timed,ran⟩ := bind_ok ran
  obtain rfl := Except.ok.inj ran
  have quietScale : ¬ Erring scale := by
    apply harmless_iff.mp
    unfold scaleRule at scaled
    split at scaled
    · exact scale_harmless room scaled
    · cases scaled
      simp [Harmless]
  have quietNulls : ¬ Erring (checkAllNullColumns table requiredColumns cfg.maxErrorExamples) :=
    harmless_iff.mp (nullColumns_harmless _ (by simp [Harmless]))
  have quietTimes := harmless_iff.mp (duplicate_harmless table cfg.maxErrorExamples)
  have quietSteps := harmless_iff.mp (monotonic_harmless table cfg.maxErrorExamples)
  have quietFuture := harmless_iff.mp (future_harmless timed)
  have negatives : Erring (checkNegativePrices table priceColumns cfg.maxErrorExamples) ∨
      Erring (checkNegativeVolumes table volumeColumns cfg.maxErrorExamples) ↔
        ∃ row ∈ table.rows, ∃ column, (row.number column).negative = true := by
    unfold checkNegativePrices checkNegativeVolumes
    rw [negative_found complete _ _ room,negative_found complete _ _ room,← exists_or]
    apply exists_congr
    intro row
    rw [← and_or_left,columns_covered]
  have consistent : Erring (checkOhlcConsistency table cfg.maxErrorExamples) ↔ ∃ row ∈ table.rows, Inconsistent row.number := by
    rw [inconsistent_found complete room]
    simp only [inconsistent_iff]
  have plain : (∃ row ∈ table.rows, (∃ column, (row.number column).negative = true) ∨ Inconsistent row.number) ↔
      (∃ row ∈ table.rows, ∃ column, (row.number column).negative = true) ∨ ∃ row ∈ table.rows, Inconsistent row.number := by
    rw [← exists_or]
    simp only [and_or_left]
  rw [if_pos consistency]
  simp only [erring_append,quietNulls,quietScale,quietTimes,quietSteps,quietFuture,false_or,or_false]
  rw [negatives,consistent,infinite_found complete numericColumns room,invalid_found complete room,Noticed,plain]
  exact (or_congr_left or_right_comm).trans or_assoc

end complete

omit [DecidableEq ι] in
theorem empty_refused (empty : table.rows = []) : Erring (checkEmptyDataframe table) := by
  simp [checkEmptyDataframe,empty,Erring]

-- Whether a report comes out and speaks of validity as the rows do.
def Upheld (cfg : QualityConfig) (clock : Clock) (table : Table ι) (provider symbol interval : Option Text) : Prop :=
  ∃ report, validate cfg clock table provider symbol interval = .ok report ∧
    (report.valid = true ↔ ∀ row ∈ table.rows, Sound row)

theorem validity_exactly (cfg : QualityConfig) (clock : Clock) (table : Table ι) (provider symbol interval : Option Text)
    (complete : ∀ column, table.has column = true) (room : 0 < cfg.maxErrorExamples)
    (consistency : cfg.checkOhlcConsistency = true) : Upheld cfg clock table provider symbol interval ↔
      table.rows ≠ [] ∧ table.uniform = true ∧
        (cfg.checkPriceScale = true → ScaleReadable table priceColumns cfg.maxErrorExamples) ∧
        ((∃ row ∈ table.rows, ¬ Sound row) → Noticed table cfg.maxErrorExamples) := by
  unfold Upheld validate
  by_cases empty : table.rows = []
  · have refused : Erring (checkEmptyDataframe table) := empty_refused empty
    constructor
    · intro upheld
      obtain ⟨report,ran,exactly⟩ := upheld
      rw [if_pos (by rw [empty]; rfl)] at ran
      cases ran
      rw [report_valid] at exactly
      have sound : ∀ row ∈ table.rows, Sound row := by simp [empty]
      exact absurd (erring_append.mpr (.inl (erring_append.mpr (.inl (erring_append.mpr (.inr refused)))))) (exactly.mpr sound)
    · intro condition
      exact absurd empty condition.1
  · have filled : ¬ table.rows.isEmpty = true := by simpa using empty
    have accepted : checkEmptyDataframe table = [] := by
      unfold checkEmptyDataframe
      rw [if_neg filled]
    have quiet := harmless_iff.mp (stale_harmless table clock.utc cfg.staleDailyOhlcvHours)
    rw [if_neg filled,required_present complete,accepted]
    have runs := rules_ran complete room clock
    cases ran : rowRules cfg clock table with
    | error refused =>
      rw [ran] at runs
      constructor
      · intro upheld
        obtain ⟨report,wrong,_⟩ := upheld
        cases wrong
      · intro condition
        obtain ⟨issues,wrong⟩ := runs.mpr ⟨condition.2.1,condition.2.2.1⟩
        cases wrong
    | ok issues =>
      rw [ran] at runs
      have readable := runs.mp ⟨issues,rfl⟩
      have erring := rules_erring complete room consistency ran
      have verdict : (∀ row ∈ table.rows, Sound row) ↔ ¬ ∃ row ∈ table.rows, ¬ Sound row := by
        push Not
        rfl
      constructor
      · intro upheld
        obtain ⟨report,wrote,exactly⟩ := upheld
        cases wrote
        rw [report_valid,verdict] at exactly
        simp only [erring_append,quiet,or_false,List.nil_append,erring] at exactly
        refine ⟨empty,readable.1,readable.2,?_⟩
        intro unsound
        by_contra unnoticed
        exact exactly.mp unnoticed unsound
      · intro condition
        obtain ⟨_,_,_,complete⟩ := condition
        refine ⟨_,rfl,?_⟩
        rw [report_valid,verdict]
        simp only [erring_append,quiet,or_false,List.nil_append,erring]
        exact not_congr ⟨noticed_unsound,complete⟩

end rules

def usual : QualityConfig where
  maxErrorExamples := 20
  staleDailyOhlcvHours := 36
  checkOhlcConsistency := true
  checkPriceScale := true

def sampleClock : Clock := ⟨1000,1000⟩

def sampleTime : TimeCell := ⟨some "2026-01-05".toList,some ⟨0,0⟩,by simp⟩

def sampleRow (label : Nat) (opening volume : Cell) : Row Nat where
  label := label
  time := sampleTime
  number column := match column with
    | .opening => opening
    | .high => .finite 12000
    | .low => .finite 9000
    | .close => .finite 10000
    | .volume => volume

def sampleTable (rows : List (Row Nat)) : Table Nat := ⟨requiredColumns,rows,true⟩

-- Two rows of one label, one with a negative volume.
def repeatedTable : Table Nat := sampleTable [sampleRow 0 (.finite 10000) (.finite 5),sampleRow 0 (.finite 10000) (.finite (-5))]

theorem sampleTable_complete (rows : List (Row Nat)) (column : Column) : (sampleTable rows).has column = true := by
  cases column with
  | time => rfl
  | numeric column => cases column <;> rfl

theorem validity_exactly_sample : Upheld usual sampleClock repeatedTable none none none := by
  apply (validity_exactly usual sampleClock repeatedTable none none none (sampleTable_complete _) (by decide) rfl).mpr
  refine ⟨by simp [repeatedTable,sampleTable],rfl,?_,?_⟩
  · intro _
    have quiet : (suspects repeatedTable priceColumns).flatten = [] := by decide +kernel
    simp [ScaleReadable,quiet]
  · intro _
    left
    exact ⟨sampleRow 0 (.finite 10000) (.finite (-5)),by simp [repeatedTable,sampleTable],.inl ⟨.volume,by decide +kernel⟩⟩

-- Twenty missing opening prices before an infinite volume.
def crowdedTable : Table Nat :=
  sampleTable ((List.range 20).map (fun label => sampleRow label .null (.finite 5)) ++ [sampleRow 20 (.finite 10000) .positiveInfinity])

theorem crowded_valid : ((validate usual sampleClock crowdedTable none none none).map ValidationReport.valid) = .ok true ∧
    ¬ Upheld usual sampleClock crowdedTable none none none := by
  have valid : ((validate usual sampleClock crowdedTable none none none).map ValidationReport.valid) = .ok true := by decide +kernel
  refine ⟨valid,?_⟩
  intro upheld
  obtain ⟨report,ran,exactly⟩ := upheld
  rw [ran] at valid
  have sound := exactly.mp (Except.ok.inj valid) (sampleRow 20 (.finite 10000) .positiveInfinity) (by simp [crowdedTable,sampleTable])
  cases sound.bounded .volume

end OpenStock.Providers.Ohlcv
