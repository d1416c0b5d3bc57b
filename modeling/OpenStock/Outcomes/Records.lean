import Mathlib.Data.Rat.Floor
import OpenStock.Foundations.Calendar
import OpenStock.Foundations.Rows

namespace OpenStock.Outcomes
open Text Calendar

/- The tables outcome evaluation reads and writes. DOUBLE columns hold exact
rationals; JSON columns are held decoded. -/

-- A row of `canonical_ohlcv` with `interval = '1D'`.
structure CanonicalBar where
  symbol : Text
  time : DateTime
  open_ : Option ℚ
  high : Option ℚ
  low : Option ℚ
  close : Option ℚ
  volume : Option ℚ
  priceBasis : Option Text
  selectedProvider : Option Text
  ingestionRunId : Option Text

structure WatchlistRow where
  date : Date
  rank : Int
  symbol : Text
  score : Option ℚ
  setupType : Option Text
  riskFlags : Option (List Text)
  scoringPolicyHash : Option Text

inductive OutcomeStatus where
  | complete
  | pending
  | partial_
  | missingData
  | error
  | invalid
deriving DecidableEq

-- `invalidation_reason`, decoded.
inductive InvalidationReason where
  | noSymbolBars
  | unknownBasis (symbol : Text) (basis : Option Text)
  | mixedBasis (symbol : Text) (bases : List Text)
  | actionOverlap
  | evidenceRevised

-- The texts the column holds; a basis is shown as its `repr`, here without escapes.
def InvalidationReason.text : InvalidationReason → Text
  | .noSymbolBars => "NO_SYMBOL_BARS".toList
  | .unknownBasis symbol none => "unknown price basis for ".toList ++ symbol
  | .unknownBasis symbol (some basis) => "unknown price basis for ".toList ++ symbol ++ ": ".toList ++ basis
  | .mixedBasis symbol bases => "mixed price basis for ".toList ++ symbol ++ ": [".toList ++
      ", ".toList.intercalate (bases.map (fun basis => '\'' :: basis ++ ['\''])) ++ [']']
  | .actionOverlap => "RAW_SERIES_CORPORATE_ACTION_OVERLAP".toList
  | .evidenceRevised => "CORPORATE_ACTION_EVIDENCE_REVISED".toList

inductive ActionOverlapStatus where
  | notEvaluated
  | clear
  | invalid
deriving DecidableEq

-- Column defaults are those of `CandidateOutcomeRecord`.
structure CandidateOutcome where
  symbol : Text
  watchlistDate : Date
  horizonSessions : Int
  rank : Option Int := none
  score : Option ℚ := none
  setupType : Option Text := none
  riskFlags : Option (List Text) := none
  observationStartDate : Option Date := none
  observationEndDate : Option Date := none
  entryClose : Option ℚ := none
  exitClose : Option ℚ := none
  benchmarkEntryClose : Option ℚ := none
  benchmarkExitClose : Option ℚ := none
  forwardReturn : Option ℚ := none
  benchmarkReturn : Option ℚ := none
  excessReturnVsVnindex : Option ℚ := none
  maxGain : Option ℚ := none
  maxDrawdown : Option ℚ := none
  hit : Option Bool := none
  failure : Option Bool := none
  outcomeStatus : OutcomeStatus := .pending
  barsAvailable : Option Nat := none
  requiredBars : Option Int := none
  error : Option String := none
  evaluationRunId : Option Text := none
  metricPolicyVersion : Option String := none
  symbolBarCount : Option Nat := none
  benchmarkBarCount : Option Nat := none
  priceBasis : Text := "UNKNOWN".toList
  benchmarkPriceBasis : Text := "UNKNOWN".toList
  adjustmentMethodology : String := "UNKNOWN"
  adjustmentVersion : String := "UNKNOWN"
  actionOverlapStatus : ActionOverlapStatus := .notEvaluated
  invalidationReason : Option InvalidationReason := none
  corporateActionLineage : List Text := []
  scoringPolicyHash : Option Text := none

-- PRIMARY KEY (symbol, watchlist_date, horizon_sessions)
structure OutcomeKey where
  symbol : Text
  watchlistDate : Date
  horizonSessions : Int
deriving DecidableEq

def CandidateOutcome.key (row : CandidateOutcome) : OutcomeKey :=
  ⟨row.symbol,row.watchlistDate,row.horizonSessions⟩

/- Aggregates. A row carries the keys of the outcomes it was computed from,
which no column records. -/

structure WatchlistOutcome where
  watchlistDate : Date
  horizonSessions : Int
  candidateCount : Nat
  completeCount : Nat
  pendingCount : Nat
  missingDataCount : Nat
  invalidCount : Nat
  avgForwardReturn : Option ℚ
  medianForwardReturn : Option ℚ
  avgExcessReturn : Option ℚ
  medianExcessReturn : Option ℚ
  avgMaxGain : Option ℚ
  avgMaxDrawdown : Option ℚ
  hitRate : Option ℚ
  failureRate : Option ℚ
  population : List OutcomeKey
  populated : ∀ key ∈ population, key.watchlistDate = watchlistDate ∧ key.horizonSessions = horizonSessions

-- A row of `score_bucket_performance`, `setup_type_performance` or
-- `risk_flag_performance`: cumulative up to `as_of_date`, one per label.
structure Performance where
  asOfDate : Date
  horizonSessions : Int
  label : Text
  candidateCount : Nat
  avgForwardReturn : Option ℚ
  medianForwardReturn : Option ℚ
  avgExcessReturn : Option ℚ
  hitRate : Option ℚ
  failureRate : Option ℚ
  avgMaxDrawdown : Option ℚ
  population : List OutcomeKey
  populated : ∀ key ∈ population, key.watchlistDate ≤ asOfDate ∧ key.horizonSessions = horizonSessions

inductive EvaluationRunStatus where
  | running
  | complete
  | partial_
  | failed

structure EvaluationRun where
  evaluationRunId : Text
  watchlistDate : Date
  status : EvaluationRunStatus
  actionOverlapStatus : ActionOverlapStatus
  error : Option InvalidationReason

structure OutcomeTables where
  candidateOutcomes : List CandidateOutcome
  watchlistOutcomes : List WatchlistOutcome
  scoreBuckets : List Performance
  setupTypes : List Performance
  riskFlags : List Performance
  evaluationRuns : List EvaluationRun

namespace OutcomeTables

def cumulative (tables : OutcomeTables) : List Performance :=
  tables.scoreBuckets ++ (tables.setupTypes ++ tables.riskFlags)

-- The populations of the aggregates in the four tables.
def populations (tables : OutcomeTables) : List (List OutcomeKey) :=
  tables.watchlistOutcomes.map WatchlistOutcome.population ++ tables.cumulative.map Performance.population

end OutcomeTables
end OpenStock.Outcomes
