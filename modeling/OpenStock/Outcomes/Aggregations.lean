import OpenStock.Outcomes.Evaluator

namespace OpenStock.Outcomes
open Text Calendar CorporateActions

/- `aggregations.py`. -/

def safeMean (values : List ℚ) : Option ℚ := if values = [] then none else some (values.sum / values.length)

def safeMedian (values : List ℚ) : Option ℚ :=
  let sorted := values.insertionSort (· ≤ ·)
  let middle := sorted.length / 2
  if sorted.length % 2 = 1 then sorted[middle]?
  else do
    let below ← sorted[middle - 1]?
    let above ← sorted[middle]?
    some ((below + above) / 2)

def safeRate (count total : Nat) : Option ℚ := if total = 0 then none else some (count / total)

def trueRate (flags : List Bool) : Option ℚ := safeRate (flags.count true) flags.length

def assignScoreBucket (score : Option ℚ) : Text :=
  match score with
  | none => "0.00-0.40".toList
  | some score =>
    if 9 / 10 ≤ score then "0.90-1.00".toList
    else if 8 / 10 ≤ score then "0.80-0.90".toList
    else if 7 / 10 ≤ score then "0.70-0.80".toList
    else if 6 / 10 ≤ score then "0.60-0.70".toList
    else if 5 / 10 ≤ score then "0.50-0.60".toList
    else if 4 / 10 ≤ score then "0.40-0.50".toList
    else "0.00-0.40".toList

-- A complete outcome on unadjusted prices that no action overlaps.
def eligible (row : CandidateOutcome) : Bool :=
  row.outcomeStatus = .complete && row.priceBasis = rawUnadjusted && row.adjustmentMethodology = "NONE" &&
    row.actionOverlapStatus = .clear

def dateOutcomes (outcomes : List CandidateOutcome) (watchlistDate : Date) (horizon : Int) : List CandidateOutcome :=
  outcomes.filter (fun row => row.watchlistDate = watchlistDate ∧ row.horizonSessions = horizon)

def aggregateWatchlistOutcome (outcomes : List CandidateOutcome) (watchlistDate : Date) (horizon : Int) : WatchlistOutcome :=
  let rows := dateOutcomes outcomes watchlistDate horizon
  let scored := fun row : CandidateOutcome => eligible row && row.scoringPolicyHash.any (fun hash => hash ≠ [])
  let complete := rows.filter scored
  { watchlistDate:=watchlistDate
    horizonSessions:=horizon
    candidateCount:=rows.length
    completeCount:=complete.length
    pendingCount:=rows.countP (fun row => row.outcomeStatus = .pending)
    missingDataCount:=rows.countP (fun row =>
      row.outcomeStatus = .missingData || row.outcomeStatus = .partial_ || row.outcomeStatus = .error)
    invalidCount:=rows.countP (fun row =>
      row.outcomeStatus = .invalid || (row.outcomeStatus = .complete && !scored row))
    avgForwardReturn:=safeMean (complete.filterMap CandidateOutcome.forwardReturn)
    medianForwardReturn:=safeMedian (complete.filterMap CandidateOutcome.forwardReturn)
    avgExcessReturn:=safeMean (complete.filterMap CandidateOutcome.excessReturnVsVnindex)
    medianExcessReturn:=safeMedian (complete.filterMap CandidateOutcome.excessReturnVsVnindex)
    avgMaxGain:=safeMean (complete.filterMap CandidateOutcome.maxGain)
    avgMaxDrawdown:=safeMean (complete.filterMap CandidateOutcome.maxDrawdown)
    hitRate:=trueRate (complete.filterMap CandidateOutcome.hit)
    failureRate:=trueRate (complete.filterMap CandidateOutcome.failure)
    population:=rows.map CandidateOutcome.key
    populated:=by
      intro key counted
      obtain ⟨row,inside,rfl⟩ := List.mem_map.mp counted
      exact of_decide_eq_true (List.mem_filter.mp inside).2 }

-- The rows one cumulative aggregation reads.
def cumulativeOutcomes (outcomes : List CandidateOutcome) (asOfDate : Date) (horizon : Int) : List CandidateOutcome :=
  outcomes.filter (fun row => (eligible row && row.scoringPolicyHash.isSome) = true ∧
    row.watchlistDate ≤ asOfDate ∧ row.horizonSessions = horizon)

def labelled (labels : CandidateOutcome → List Text) (rows : List CandidateOutcome) : List (Text × CandidateOutcome) :=
  rows.flatMap (fun row => (labels row).map (fun label => (label,row)))

def labelRows (labels : CandidateOutcome → List Text) (rows : List CandidateOutcome) (label : Text) : List CandidateOutcome :=
  ((labelled labels rows).filter (fun entry => entry.1 = label)).map Prod.snd

theorem mem_labelRows (inside : row ∈ labelRows labels rows label) : row ∈ rows := by
  obtain ⟨entry,selected,rfl⟩ := List.mem_map.mp inside
  obtain ⟨source,present,mapped⟩ := List.mem_flatMap.mp (List.mem_filter.mp selected).1
  obtain ⟨name,_,rfl⟩ := List.mem_map.mp mapped
  exact present

def performance (labels : CandidateOutcome → List Text) (outcomes : List CandidateOutcome) (asOfDate : Date) (horizon : Int)
    (label : Text) : Performance :=
  let data := labelRows labels (cumulativeOutcomes outcomes asOfDate horizon) label
  { asOfDate:=asOfDate
    horizonSessions:=horizon
    label:=label
    candidateCount:=data.length
    avgForwardReturn:=safeMean (data.filterMap CandidateOutcome.forwardReturn)
    medianForwardReturn:=safeMedian (data.filterMap CandidateOutcome.forwardReturn)
    avgExcessReturn:=safeMean (data.filterMap CandidateOutcome.excessReturnVsVnindex)
    hitRate:=trueRate (data.filterMap CandidateOutcome.hit)
    failureRate:=trueRate (data.filterMap CandidateOutcome.failure)
    avgMaxDrawdown:=safeMean (data.filterMap CandidateOutcome.maxDrawdown)
    population:=data.map CandidateOutcome.key
    populated:=by
      intro key counted
      obtain ⟨row,inside,rfl⟩ := List.mem_map.mp counted
      exact (of_decide_eq_true (List.mem_filter.mp (mem_labelRows inside)).2).2 }

def aggregatePerformance (labels : CandidateOutcome → List Text) (outcomes : List CandidateOutcome) (asOfDate : Date)
    (horizon : Int) : List Performance :=
  let names := ((labelled labels (cumulativeOutcomes outcomes asOfDate horizon)).map Prod.fst).dedup.insertionSort (· ≤ ·)
  names.map (performance labels outcomes asOfDate horizon)

def scoreBucketLabels (row : CandidateOutcome) : List Text := [assignScoreBucket row.score]

def setupTypeLabels (row : CandidateOutcome) : List Text := row.setupType.toList

def riskFlagLabels (row : CandidateOutcome) : List Text := row.riskFlags.getD []

def aggregateScoreBucketPerformance : List CandidateOutcome → Date → Int → List Performance :=
  aggregatePerformance scoreBucketLabels

def aggregateSetupTypePerformance : List CandidateOutcome → Date → Int → List Performance :=
  aggregatePerformance setupTypeLabels

def aggregateRiskFlagPerformance : List CandidateOutcome → Date → Int → List Performance :=
  aggregatePerformance riskFlagLabels

def Performance.key (row : Performance) : Date × Int × Text := (row.asOfDate,row.horizonSessions,row.label)

def WatchlistOutcome.key (row : WatchlistOutcome) : Date × Int := (row.watchlistDate,row.horizonSessions)

def aggregateAll (tables : OutcomeTables) (watchlistDate : Date) (horizon : Int) : OutcomeTables :=
  let outcomes := tables.candidateOutcomes
  {tables with
    watchlistOutcomes:=Rows.upsert WatchlistOutcome.key tables.watchlistOutcomes
      (aggregateWatchlistOutcome outcomes watchlistDate horizon)
    scoreBuckets:=(aggregateScoreBucketPerformance outcomes watchlistDate horizon).foldl (Rows.upsert Performance.key)
      tables.scoreBuckets
    setupTypes:=(aggregateSetupTypePerformance outcomes watchlistDate horizon).foldl (Rows.upsert Performance.key)
      tables.setupTypes
    riskFlags:=(aggregateRiskFlagPerformance outcomes watchlistDate horizon).foldl (Rows.upsert Performance.key)
      tables.riskFlags}

/- `evaluate_watchlist_date`. -/

structure Evaluation where
  watchlistDate : Date
  horizons : List Int
  metricPolicy : String
  evaluationRunId : Text

-- The record written for a candidate and horizon: its evaluation, else the error.
def evaluated (warehouse : ResearchWarehouse) (call : Evaluation) (candidate : WatchlistRow) (horizon : Int) :
    CandidateOutcome × Bool :=
  match evaluateSingleCandidate warehouse candidate horizon (getOhlcvBars warehouse.canonicalOhlcv candidate.symbol)
      (getOhlcvBars warehouse.canonicalOhlcv benchmarkSymbol) (some call.evaluationRunId) call.metricPolicy with
  | .ok record => (record,true)
  | .error message =>
    ({ symbol:=candidate.symbol
       watchlistDate:=call.watchlistDate
       horizonSessions:=horizon
       outcomeStatus:=.error
       error:=some message
       evaluationRunId:=some call.evaluationRunId
       metricPolicyVersion:=some call.metricPolicy
       scoringPolicyHash:=candidate.scoringPolicyHash },false)

def evaluateWatchlistDate (warehouse : ResearchWarehouse) (watchlist : List WatchlistRow) (call : Evaluation) :
    ResearchWarehouse :=
  let candidates := getWatchlistRows watchlist call.watchlistDate
  if candidates = [] then warehouse else
  let results := candidates.flatMap (fun candidate => call.horizons.map (evaluated warehouse call candidate))
  let records := results.map Prod.fst
  let started := warehouse.outcomes.evaluationRuns ++ [⟨call.evaluationRunId,call.watchlistDate,.running,.notEvaluated,none⟩]
  let persisted := {warehouse.outcomes with
    candidateOutcomes:=records.foldl (Rows.upsert CandidateOutcome.key) warehouse.outcomes.candidateOutcomes}
  let aggregated := call.horizons.foldl (fun tables horizon => aggregateAll tables call.watchlistDate horizon) persisted
  let completeRun := !records.isEmpty && records.all (fun record => record.outcomeStatus = .complete)
  let status := if results.any (fun result => !result.2) then EvaluationRunStatus.failed
    else if completeRun then .complete else .partial_
  {warehouse with outcomes:={aggregated with
    evaluationRuns:=Rows.updateWhere (fun run => run.evaluationRunId = call.evaluationRunId)
      (fun run => {run with
        status:=status
        actionOverlapStatus:=if completeRun then .clear else .notEvaluated
        error:=none}) started}}

end OpenStock.Outcomes
