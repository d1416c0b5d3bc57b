import OpenStock.CorporateActions.Records
import OpenStock.Outcomes.Horizons

namespace OpenStock.Outcomes
open Text Calendar CorporateActions

/- `basis.py` and `evaluator.py`. -/

structure ObservationLineage where
  priceBasis : Text
  adjustmentMethodology : String
  adjustmentVersion : String
  actionOverlapStatus : ActionOverlapStatus
  invalidationReason : Option InvalidationReason
  overlappingActionTypes : List Text
  corporateActionLineage : List Text

-- A row of the two selects: action_type, action_id, revision_id, canonical_status.
structure OverlappingAction where
  actionType : Text
  actionId : Text
  revisionId : Text
  status : Text
deriving DecidableEq

def actionOverlaps (symbol : Text) (start finish : Date) (row : CorporateAction) : Bool :=
  row.symbol = symbol && row.canonicalStatus ≠ .superseded &&
    row.observedDate.any (fun day => start ≤ day && day ≤ finish)

def rangeOverlaps (symbol : Text) (start finish : Date) (range : AffectedRange) : Bool :=
  range.symbol = symbol && range.affectedFromDate ≤ finish &&
    start ≤ range.affectedToDate.getD range.affectedFromDate

def overlappingActions (tables : ActionTables) (symbol : Text) (start finish : Date) : List OverlappingAction :=
  let direct := (tables.corporateActions.filter (actionOverlaps symbol start finish)).map
    (fun row => ⟨row.actionType,row.actionId,row.revisionId,row.canonicalStatus.value.toList⟩)
  let ranged := (tables.affectedRanges.filter (rangeOverlaps symbol start finish)).map (fun range =>
    let joined := tables.corporateActions.find? (fun row => row.revisionId = range.revisionId)
    ⟨joined.elim "AFFECTED_RANGE".toList CorporateAction.actionType,range.actionId,range.revisionId,
      joined.elim "AFFECTED_RANGE".toList (fun row => row.canonicalStatus.value.toList)⟩)
  (direct ++ ranged).dedup

def OverlappingAction.lineage (action : OverlappingAction) : Text :=
  action.actionId ++ ':' :: (action.revisionId ++ ':' :: action.status)

def rawUnadjusted : Text := "RAW_UNADJUSTED".toList

def assessObservationLineage (warehouse : ResearchWarehouse) (symbol : Text) (start finish : Date) :
    Except InvalidationReason ObservationLineage :=
  let bases := ((warehouse.canonicalOhlcv.filter (fun bar =>
    bar.symbol = symbol && (start ≤ bar.time.date && bar.time.date ≤ finish))).map CanonicalBar.priceBasis).dedup
  if bases = [] ∨ none ∈ bases ∨ some [] ∈ bases then .error (.unknownBasis symbol none) else
  match bases with
  | [some basis] =>
    if upper basis ≠ rawUnadjusted then .error (.unknownBasis symbol (some (upper basis))) else
    let actions := overlappingActions warehouse.actions symbol start finish
    let lineage : ObservationLineage := {
      priceBasis:=upper basis
      adjustmentMethodology:="NONE"
      adjustmentVersion:="raw-unadjusted-v1"
      actionOverlapStatus:=.clear
      invalidationReason:=none
      overlappingActionTypes:=[]
      corporateActionLineage:=[]}
    if actions = [] then .ok lineage
    else .ok {lineage with
      actionOverlapStatus:=.invalid
      invalidationReason:=some .actionOverlap
      overlappingActionTypes:=((actions.map OverlappingAction.actionType).dedup).insertionSort (· ≤ ·)
      corporateActionLineage:=(actions.map OverlappingAction.lineage).insertionSort (· ≤ ·)}
  | _ => .error (.mixedBasis symbol ((bases.filterMap id).insertionSort (· ≤ ·)))

def unknown : Text := "UNKNOWN".toList

-- The returns and the metrics of the chosen policy.
def measure (record : CandidateOutcome) (metricPolicy : String) (entryClose : ℚ) (window : List Bar)
    (status : OutcomeStatus) : CandidateOutcome :=
  let forward := forwardReturn record.entryClose record.exitClose
  let benchmark := forwardReturn record.benchmarkEntryClose record.benchmarkExitClose
  let excess := excessReturnVsVnindex forward benchmark
  let highs := if metricPolicy = ohlcHighLowV1 then window.filterMap Bar.high else window.map Bar.close
  let lows := if metricPolicy = ohlcHighLowV1 then window.filterMap Bar.low else window.map Bar.close
  {record with
    forwardReturn:=forward
    benchmarkReturn:=benchmark
    excessReturnVsVnindex:=excess
    maxGain:=maxGain highs entryClose
    maxDrawdown:=maxDrawdown lows entryClose
    hit:=(classifyHitFailure forward excess).1
    failure:=(classifyHitFailure forward excess).2
    outcomeStatus:=status}

-- What follows once no action overlaps the symbol's window.
def evaluateReturns (warehouse : ResearchWarehouse) (record : CandidateOutcome) (horizon : Int) (entryClose : ℚ)
    (future benchmarkBars : List Bar) (metricPolicy : String) : Except String CandidateOutcome :=
  let opened := {record with entryClose:=some entryClose,barsAvailable:=some future.length}
  if isComplete future horizon = false then .ok {opened with outcomeStatus:=.pending} else do
  let exitClose ← selectExitClose future horizon
  let benchFuture := futureBars benchmarkBars record.watchlistDate
  let benchEntry := selectEntryClose benchmarkBars record.watchlistDate
  let benchExit ← selectExitClose benchFuture horizon
  let closed := {opened with exitClose:=exitClose,benchmarkEntryClose:=benchEntry,benchmarkExitClose:=benchExit}
  let window := getForwardWindow future horizon
  match benchEntry,benchExit,benchFuture.head?,item benchFuture (horizon - 1) with
  | some _,some _,some first,some last =>
    match assessObservationLineage warehouse benchmarkSymbol first.time last.time with
    | .error reason => .ok {closed with
        benchmarkPriceBasis:=unknown
        actionOverlapStatus:=.invalid
        invalidationReason:=some reason
        outcomeStatus:=.invalid}
    | .ok lineage =>
      if lineage.actionOverlapStatus = .invalid then .ok {closed with
        benchmarkPriceBasis:=lineage.priceBasis
        actionOverlapStatus:=.invalid
        invalidationReason:=lineage.invalidationReason
        outcomeStatus:=.invalid}
      else .ok (measure {closed with benchmarkPriceBasis:=lineage.priceBasis} metricPolicy entryClose window .complete)
  | _,_,_,_ => .ok (measure {closed with benchmarkPriceBasis:=unknown} metricPolicy entryClose window .partial_)

def newOutcome (candidate : WatchlistRow) (horizon : Int) (symbolBars benchmarkBars : List Bar)
    (evaluationRunId : Option Text) (metricPolicy : String) : CandidateOutcome :=
  { symbol:=candidate.symbol
    watchlistDate:=candidate.date
    horizonSessions:=horizon
    rank:=some candidate.rank
    score:=candidate.score
    setupType:=candidate.setupType
    riskFlags:=candidate.riskFlags
    requiredBars:=some horizon
    evaluationRunId:=evaluationRunId
    metricPolicyVersion:=some metricPolicy
    symbolBarCount:=some symbolBars.length
    benchmarkBarCount:=some benchmarkBars.length
    scoringPolicyHash:=candidate.scoringPolicyHash }

def evaluateSingleCandidate (warehouse : ResearchWarehouse) (candidate : WatchlistRow) (horizon : Int)
    (symbolBars benchmarkBars : List Bar) (evaluationRunId : Option Text) (metricPolicy : String) :
    Except String CandidateOutcome :=
  let record := newOutcome candidate horizon symbolBars benchmarkBars evaluationRunId metricPolicy
  let future := futureBars symbolBars candidate.date
  match selectEntryClose symbolBars candidate.date,future.head? with
  | some entryClose,some first =>
    match item future (min horizon future.length - 1) with
    | none => .error "list index out of range"
    | some last =>
      let windowed := {record with observationStartDate:=some first.time,observationEndDate:=some last.time}
      match assessObservationLineage warehouse candidate.symbol first.time last.time with
      | .error reason => .ok {windowed with
          actionOverlapStatus:=.invalid
          invalidationReason:=some reason
          outcomeStatus:=.invalid}
      | .ok lineage =>
        let assessed := {windowed with
          priceBasis:=lineage.priceBasis
          adjustmentMethodology:=lineage.adjustmentMethodology
          adjustmentVersion:=lineage.adjustmentVersion
          actionOverlapStatus:=lineage.actionOverlapStatus
          invalidationReason:=lineage.invalidationReason
          corporateActionLineage:=lineage.corporateActionLineage}
        if lineage.actionOverlapStatus = .invalid then .ok {assessed with outcomeStatus:=.invalid}
        else evaluateReturns warehouse assessed horizon entryClose future benchmarkBars metricPolicy
  | _,_ => .ok {record with invalidationReason:=some .noSymbolBars,outcomeStatus:=.missingData}

def getWatchlistRows (watchlist : List WatchlistRow) (watchlistDate : Date) : List WatchlistRow :=
  (watchlist.filter (fun row => row.date = watchlistDate)).insertionSort (fun left right => left.rank ≤ right.rank)

end OpenStock.Outcomes
