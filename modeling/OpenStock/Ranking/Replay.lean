import OpenStock.Foundations.Validation
import OpenStock.Ranking.Manifests

namespace OpenStock.Ranking
open Text Calendar Warehouse

/- `run_replay`: the selections of one policy over the ranking dates of a range. -/

structure ReplaySpec where
  startDate : Text
  endDate : Text
  horizonSessions : Int
  topN : Int
  benchmarkSymbol : Text
  costBps : ℚ
  priceBasis : Text
  adjustmentVersion : Option Text
  scoringPolicyHash : Option Text
  evaluationManifestIds : List Text
  rebalanceFrequency : Text
  holdingPolicy : Text
  liquidityPolicyVersion : Text

inductive ReplayError where
  | notPositive
  | startAfterEnd
  | unreadableDate
  | benchmark (symbol : Text)
  | incompleteRows (date : Text) (count : Nat) (horizon : Int)
  | identity (label : String) (observed : List Text)
  | otherPolicy
  | otherBasis (basis expected : Text)
  | otherAdjustment
  | mixedPolicies
  | mixedAdjustments
  | ambiguous (date : Text) (symbols : List Text)
  | outside (date : Text) (symbols : List Text)
  | missingReturns (date : Text)

structure UniversePayload where
  date : Text
  resolverVersion : String
  candidateSymbols : List Text
  classifications : List (Text × Option Text × Text × Text)

structure SourceItem where
  symbol : Text
  rank : Option Int
  excessReturn : Option ℚ
  computedAt : Text
  policyHash : Option Text
  basis : Text
  adjustmentVersion : Text

structure DatasetPart (δ : Type) where
  rankingRunRef : Text
  universeHash : δ
  sourceHash : δ
  selectedSymbols : List Text

structure ReplayDataset (δ : Type) where
  specHash : δ
  policyHash : Option Text
  adjustmentVersion : Option Text
  resolverVersion : String
  periods : List (DatasetPart δ)
  evaluationManifestIds : List Text

-- The date of a period is held as a date; it is written as its ISO text.
structure ReplayPeriod (δ : Type) where
  periodIndex : Nat
  watchlistDate : Date
  rankingRunRef : Text
  eligibleUniverseHash : δ
  selectedSymbols : List Text
  periodExcessReturn : ℚ
  equityValue : ℚ
  drawdown : ℚ
  turnover : Option ℚ
  sectorConcentration : Option ℚ
  sourceOutcomeHash : δ

structure Rebalance where
  watchlistDate : Text
  selectedSymbols : List Text
  enteredSymbols : List Text
  turnover : Option ℚ
  costBps : ℚ

structure ReplayOutcome (δ : Type) where
  specHash : δ
  datasetHash : δ
  policyHash : Option Text
  rankingRunRefs : List Text
  periods : List (ReplayPeriod δ)
  totalReturn : Option ℚ
  maxDrawdown : Option ℚ
  eventLedger : List Rebalance

-- `sha256` of the payloads; nothing is asked of it here.
class ReplayHash where
  Digest : Type
  spec : ReplaySpec → Digest
  universe_ : UniversePayload → Digest
  source : List SourceItem → Digest
  dataset : ReplayDataset Digest → Digest
  result : ReplayOutcome Digest → Digest

-- `WHERE horizon_sessions = ?`, with the policy only where the spec names one.
def ReplaySpec.namesPolicy (spec : ReplaySpec) : Bool := spec.scoringPolicyHash.any (fun hash => !hash.isEmpty)

def ReplaySpec.selects (spec : ReplaySpec) (row : OutcomeRow) : Bool :=
  row.horizonSessions == spec.horizonSessions && (!spec.namesPolicy || row.scoringPolicyHash == spec.scoringPolicyHash)

def replayDates (warehouse : RankingWarehouse) (spec : ReplaySpec) (start finish : Date) : List Date :=
  sortBy id (((warehouse.outcomes.filter (fun row =>
    decide (start ≤ row.watchlistDate) && decide (row.watchlistDate ≤ finish) && spec.selects row)).map
      OutcomeRow.watchlistDate).dedup)

def periodRows (warehouse : RankingWarehouse) (spec : ReplaySpec) (date : Date) : List OutcomeRow :=
  sortBy (fun row => toLex (row.rank.isNone,toLex (row.rank.getD 0,row.symbol)))
    (warehouse.outcomes.filter (fun row => row.watchlistDate == date && spec.selects row))

def one (values : List Text) (label : String) : Except ReplayError Text := (exactlyOne values).mapError (.identity label)

section
variable [ReplayHash]

structure ReplayScan where
  periods : List (ReplayPeriod ReplayHash.Digest)
  exclusions : List Text
  eventLedger : List Rebalance
  datasetParts : List (DatasetPart ReplayHash.Digest)
  previousSelected : Option (List Text)
  observedPolicyHash : Option Text
  observedAdjustmentVersion : Option Text
  equity : ℚ
  peak : ℚ
  maxDrawdown : ℚ

structure ReplayResult where
  replayId : ReplayHash.Digest
  specHash : ReplayHash.Digest
  datasetHash : ReplayHash.Digest
  resultHash : ReplayHash.Digest
  scoringPolicyHash : Option Text
  rankingRunRefs : List Text
  eligibleUniverseHashes : List ReplayHash.Digest
  periodCount : Nat
  totalReturn : Option ℚ
  meanPeriodExcess : Option ℚ
  maxDrawdown : Option ℚ
  meanTurnover : Option ℚ
  meanSectorConcentration : Option ℚ
  periods : List (ReplayPeriod ReplayHash.Digest)
  eventLedger : List Rebalance
  exclusions : List Text
  caveats : List String

-- The policy and the adjustment version of a period, against the spec and the earlier periods.
def periodIdentity (spec : ReplaySpec) (scan : ReplayScan) (date : Date) (rows : List OutcomeRow) :
    Except ReplayError (Text × Text) := do
  let incomplete := rows.filter (fun row => row.outcomeStatus != "COMPLETE".toList)
  if incomplete ≠ [] then .error (.incompleteRows date.isoformat incomplete.length spec.horizonSessions) else
  let policyHash ← one (rows.map (fun row => row.scoringPolicyHash.getD [])) "policy hash"
  let basis ← one (rows.map (fun row => orDefault (some row.priceBasis) "UNKNOWN".toList)) "price basis"
  let adjustmentVersion ← one (rows.map (fun row => orDefault (some row.adjustmentVersion) "UNKNOWN".toList)) "adjustment version"
  if otherThan spec.scoringPolicyHash policyHash then .error .otherPolicy
  else if basis ≠ spec.priceBasis then .error (.otherBasis basis spec.priceBasis)
  else if otherThan spec.adjustmentVersion adjustmentVersion then .error .otherAdjustment
  else if scan.observedPolicyHash.any (fun observed => policyHash != observed) then .error .mixedPolicies
  else if scan.observedAdjustmentVersion.any (fun observed => adjustmentVersion != observed) then .error .mixedAdjustments
  else .ok (policyHash,adjustmentVersion)

def periodUniverse (zone : SessionZone) (warehouse : RankingWarehouse) (date : Date) (rows : List OutcomeRow) :
    Except ReplayError PointInTimeUniverse :=
  let resolved := resolveUniverse zone warehouse.history (.date date)
  if resolved.ambiguousSymbols ≠ [] then .error (.ambiguous date.isoformat resolved.ambiguousSymbols) else
  let missing := sortBy id ((rows.map OutcomeRow.symbol).filter (fun symbol => decide (symbol ∉ resolved.symbols)))
  if missing ≠ [] then .error (.outside date.isoformat missing) else .ok resolved

-- Shares of all selected symbols, also of those without a sector.
def selectedConcentration (resolved : PointInTimeUniverse) (selected : List Text) : Option ℚ :=
  let sectors := (selected.filterMap (fun symbol => (resolved.get symbol).bind SymbolClassification.sectorCode)).filter
    (fun sector => !sector.isEmpty)
  if sectors = [] then none
  else some ((sectors.dedup.map (fun sector => ((sectors.count sector : ℚ) / selected.length) ^ 2)).sum)

def universePayload (date : Date) (resolved : PointInTimeUniverse) (rows : List OutcomeRow) : UniversePayload :=
  let symbols := sortBy id (rows.map OutcomeRow.symbol)
  ⟨date.isoformat,resolved.resolverVersion,symbols,symbols.filterMap (fun symbol => (resolved.get symbol).map
    (fun found => (symbol,found.sectorCode,found.taxonomyVersion,found.sourceSnapshotId)))⟩

def sourceItem (row : OutcomeRow) : SourceItem :=
  ⟨row.symbol,row.rank,row.excessReturn,row.computedAt.getD "None".toList,row.scoringPolicyHash,row.priceBasis,row.adjustmentVersion⟩

def ReplayScan.observe (scan : ReplayScan) (identity : Text × Text) : ReplayScan :=
  {scan with observedPolicyHash := some identity.1,observedAdjustmentVersion := some identity.2}

-- The selection of a period joins the equity curve.
def ReplayScan.append (scan : ReplayScan) (spec : ReplaySpec) (index : Nat) (date : Date) (policyHash : Text)
    (resolved : PointInTimeUniverse) (rows selected : List OutcomeRow) (returns : List ℚ) : ReplayScan :=
  let symbols := selected.map OutcomeRow.symbol
  let gross := returns.sum / returns.length
  let turnover := turnover symbols scan.previousSelected
  let net := gross - spec.costBps / 10000 * turnover.getD 1
  let equity := scan.equity * (1 + net)
  let peak := max scan.peak equity
  let drawdown := equity / peak - 1
  let rankingRunRef := date.isoformat ++ ':' :: policyHash
  let universeHash := ReplayHash.universe_ (universePayload date resolved rows)
  let sourceHash := ReplayHash.source (rows.map sourceItem)
  let entered := match scan.periods.getLast?, scan.previousSelected with
    | some last,some _ => symbols.filter (fun symbol => decide (symbol ∉ last.selectedSymbols))
    | _,_ => symbols
  let period : ReplayPeriod ReplayHash.Digest :=
    {periodIndex := index,watchlistDate := date,rankingRunRef := rankingRunRef,eligibleUniverseHash := universeHash,
     selectedSymbols := symbols,periodExcessReturn := net,equityValue := equity,drawdown := drawdown,turnover := turnover,
     sectorConcentration := selectedConcentration resolved symbols,sourceOutcomeHash := sourceHash}
  {scan with
    periods := scan.periods ++ [period],
    eventLedger := scan.eventLedger ++ [⟨date.isoformat,symbols,sortBy id entered,turnover,spec.costBps⟩],
    datasetParts := scan.datasetParts ++ [⟨rankingRunRef,universeHash,sourceHash,symbols⟩],
    previousSelected := some symbols,equity := equity,peak := peak,maxDrawdown := min scan.maxDrawdown drawdown}

def ReplayScan.step (zone : SessionZone) (warehouse : RankingWarehouse) (spec : ReplaySpec) (scan : ReplayScan)
    (entry : Date × Nat) : Except ReplayError ReplayScan := do
  let date := entry.1
  let rows := periodRows warehouse spec date
  if rows = [] then .ok {scan with exclusions := scan.exclusions ++ [date.isoformat ++ ":no_rows".toList]} else
  let identity ← periodIdentity spec scan date rows
  let resolved ← periodUniverse zone warehouse date rows
  let selected := rows.take spec.topN.toNat
  if selected = [] then
    .ok {scan.observe identity with exclusions := scan.exclusions ++ [date.isoformat ++ ":no_candidates".toList]} else
  let returns := selected.filterMap OutcomeRow.excessReturn
  if returns.length ≠ selected.length then .error (.missingReturns date.isoformat) else
  .ok ((scan.observe identity).append spec entry.2 date identity.1 resolved rows selected returns)

def replayed (spec : ReplaySpec) (scan : ReplayScan) : ReplayResult :=
  let specHash := ReplayHash.spec spec
  let datasetHash := ReplayHash.dataset ⟨specHash,scan.observedPolicyHash,scan.observedAdjustmentVersion,
    "pit-classification-v1",scan.datasetParts,spec.evaluationManifestIds⟩
  let refs := scan.periods.map ReplayPeriod.rankingRunRef
  let totalReturn := if scan.periods = [] then none else some (scan.equity - 1)
  let maxDrawdown := if scan.periods = [] then none else some scan.maxDrawdown
  let resultHash := ReplayHash.result
    ⟨specHash,datasetHash,scan.observedPolicyHash,refs,scan.periods,totalReturn,maxDrawdown,scan.eventLedger⟩
  {replayId := resultHash,specHash := specHash,datasetHash := datasetHash,resultHash := resultHash,
   scoringPolicyHash := scan.observedPolicyHash,rankingRunRefs := refs,
   eligibleUniverseHashes := scan.periods.map ReplayPeriod.eligibleUniverseHash,periodCount := scan.periods.length,
   totalReturn := totalReturn,meanPeriodExcess := mean (scan.periods.map ReplayPeriod.periodExcessReturn),
   maxDrawdown := maxDrawdown,meanTurnover := mean (scan.periods.filterMap ReplayPeriod.turnover),
   meanSectorConcentration := mean (scan.periods.filterMap ReplayPeriod.sectorConcentration),
   periods := scan.periods,eventLedger := scan.eventLedger,exclusions := scan.exclusions,
   caveats := if scan.periods = [] then ["no_replayable_periods"] else []}

def runReplay [SqlCasts] (zone : SessionZone) (warehouse : RankingWarehouse) (spec : ReplaySpec) :
    Except ReplayError ReplayResult := do
  if spec.topN < 1 ∨ spec.horizonSessions < 1 then .error .notPositive
  else if spec.endDate < spec.startDate then .error .startAfterEnd
  else if upper spec.benchmarkSymbol ≠ "VNINDEX".toList then .error (.benchmark spec.benchmarkSymbol) else
  match SqlCasts.date spec.startDate, SqlCasts.date spec.endDate with
  | some start,some finish => do
    let scan ← (replayDates warehouse spec start finish).zipIdx.foldlM (ReplayScan.step zone warehouse spec)
      ⟨[],[],[],[],none,none,spec.adjustmentVersion,1,1,0⟩
    return replayed spec scan
  | _,_ => .error .unreadableDate

end
end OpenStock.Ranking
