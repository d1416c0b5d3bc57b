import OpenStock.Ranking.Metrics
import OpenStock.Warehouse.SymbolLifecycle

namespace OpenStock.Ranking
open Text Calendar Warehouse

/- `evaluate_ranking_run`: the complete outcomes of one date, horizon and policy
against simple baselines, persisted under the hash of what they hold. -/

-- The columns of `candidate_outcome` that evaluation and replay read. DOUBLE
-- columns hold exact rationals; `computed_at` is held as its `str`.
structure OutcomeRow where
  symbol : Text
  watchlistDate : Date
  horizonSessions : Int
  rank : Option Int
  excessReturn : Option ℚ
  maxGain : Option ℚ
  maxDrawdown : Option ℚ
  outcomeStatus : Text
  computedAt : Option Text
  priceBasis : Text
  adjustmentVersion : Text
  scoringPolicyId : Option Text
  scoringPolicyVersion : Option Text
  scoringPolicyHash : Option Text

-- PRIMARY KEY (symbol, watchlist_date, horizon_sessions)
def OutcomeRow.key (row : OutcomeRow) : Text × Date × Int := (row.symbol,row.watchlistDate,row.horizonSessions)

structure FeatureRow where
  symbol : Text
  date : Date
  return20d : Option ℚ

-- The six component scores, in the order they are read.
structure ScoreRow where
  symbol : Text
  date : Date
  components : List (Option ℚ)

-- `market_regime_snapshot`; the other table that is looked for has no regime column.
structure RegimeRow where
  asOfDate : Date
  regime : Text

structure RankingWarehouse where
  outcomes : List OutcomeRow
  distinct : Rows.Distinct OutcomeRow.key outcomes
  features : List FeatureRow
  scores : List ScoreRow
  history : ClassificationHistory
  regimes : List RegimeRow

structure Candidate where
  symbol : Text
  rank : Int
  excessReturn : Option ℚ
  maxGain : Option ℚ
  maxDrawdown : Option ℚ
  momentum : Option ℚ
  equalComponentScore : Option ℚ
  sector : Option Text
  computedAt : Option Text
  outcomeStatus : Text
  priceBasis : Text
  adjustmentVersion : Text
  scoringPolicyId : Text
  scoringPolicyVersion : Text
  scoringPolicyHash : Text

inductive IdentityLabel where
  | scoringPolicyHash
  | scoringPolicyId
  | scoringPolicyVersion
  | priceBasis
  | adjustmentVersion

-- A date text the database or `fromisoformat` cannot read, or a refused evaluation.
inductive EvaluationError where
  | topN
  | unreadableDate
  | noOutcomes
  | identity (label : IdentityLabel) (observed : List Text)
  | otherPolicyHash
  | otherPolicyId
  | otherPolicyVersion

-- `str(value or default)`
def orDefault (value : Option Text) (default : Text) : Text :=
  match value with
  | none | some [] => default
  | some text => text

section
variable [SqlCasts] (zone : SessionZone)

def candidateOf (warehouse : RankingWarehouse) (watchlistDate : Text) (row : OutcomeRow) : Except EvaluationError Candidate :=
  match resolveSymbolClassification zone warehouse.history row.symbol (.text watchlistDate) with
  | none => .error .unreadableDate
  | some classification =>
    let joined := fun (symbol : Text) (date : Date) => symbol == row.symbol && date == row.watchlistDate
    let feature := warehouse.features.find? (fun feature => joined feature.symbol feature.date)
    let score := warehouse.scores.find? (fun score => joined score.symbol score.date)
    .ok {symbol := row.symbol,rank := row.rank.getD 999999,excessReturn := row.excessReturn,
         maxGain := row.maxGain,maxDrawdown := row.maxDrawdown,momentum := feature.bind FeatureRow.return20d,
         equalComponentScore := mean (((score.map ScoreRow.components).getD []).reduceOption),
         sector := classification.bind SymbolClassification.sectorCode,computedAt := row.computedAt,
         outcomeStatus := row.outcomeStatus,priceBasis := orDefault (some row.priceBasis) "UNKNOWN".toList,
         adjustmentVersion := orDefault (some row.adjustmentVersion) "UNKNOWN".toList,
         scoringPolicyId := row.scoringPolicyId.getD [],scoringPolicyVersion := row.scoringPolicyVersion.getD [],
         scoringPolicyHash := row.scoringPolicyHash.getD []}

-- `WHERE watchlist_date = ? AND horizon_sessions = ? ORDER BY rank NULLS LAST, symbol`
def runRows (warehouse : RankingWarehouse) (day : Date) (horizon : Int) : List OutcomeRow :=
  sortBy (fun row => toLex (row.rank.isNone,toLex (row.rank.getD 0,row.symbol)))
    (warehouse.outcomes.filter (fun row => row.watchlistDate == day && row.horizonSessions == horizon))

def loadRows (warehouse : RankingWarehouse) (watchlistDate : Text) (horizon : Int) : Except EvaluationError (List Candidate) :=
  match SqlCasts.date watchlistDate with
  | none => .error .unreadableDate
  | some day => (runRows warehouse day horizon).mapM (candidateOf zone warehouse watchlistDate)

end

-- The one nonblank value of a set, or the values observed instead.
def exactlyOne (values : List Text) : Except (List Text) Text :=
  match (values.filter (fun value => !value.isEmpty)).dedup with
  | [only] => .ok only
  | observed => .error (sortBy id observed)

theorem exactlyOne_ok (one : exactlyOne values = .ok only) : only ≠ [] ∧ ∀ value ∈ values, value = [] ∨ value = only := by
  unfold exactlyOne at one
  split at one
  · rename_i single found
    cases one
    have members : ∀ value, value ∈ values ∧ value ≠ [] ↔ value = only := by
      intro value
      have listed : value ∈ (values.filter (fun value => !value.isEmpty)).dedup ↔ value = only := by simp [found]
      simpa using listed
    refine ⟨((members only).mpr rfl).2,?_⟩
    intro value inside
    by_cases blank : value = []
    · exact .inl blank
    · exact .inr ((members value).mp ⟨inside,blank⟩)
  · cases one

def oneIdentity (values : List Text) (label : IdentityLabel) : Except EvaluationError Text :=
  (exactlyOne values).mapError (.identity label)

inductive Strategy where
  | packaged
  | momentumOnly
  | equalComponent
  | unfiltered
deriving DecidableEq

def Strategy.name : Strategy → String
  | .packaged => "packaged"
  | .momentumOnly => "momentum_only"
  | .equalComponent => "equal_component"
  | .unfiltered => "unfiltered"

-- Missing values last, then the larger first.
def descending (value : Option ℚ) : Bool ×ₗ ℚ := toLex (value.isNone,-(value.getD 0))

def selectStrategy (candidates : List Candidate) (topN : Nat) : Strategy → List Candidate
  | .packaged => (sortBy (fun item => toLex (item.rank,item.symbol)) candidates).take topN
  | .momentumOnly => (sortBy (fun item => toLex (descending item.momentum,item.symbol)) candidates).take topN
  | .equalComponent => (sortBy (fun item => toLex (descending item.equalComponentScore,item.symbol)) candidates).take topN
  | .unfiltered => sortBy Candidate.symbol candidates

structure StrategyMetrics where
  strategy : Strategy
  selectedSymbols : List Text
  sampleCount : Nat
  coverage : Option ℚ
  hitRate : Option ℚ
  meanExcessReturn : Option ℚ
  medianExcessReturn : Option ℚ
  meanMaxFavorable : Option ℚ
  meanMaxAdverse : Option ℚ
  rankCorrelation : Option ℚ
  turnover : Option ℚ
  sectorConcentration : Option ℚ
  marketRegime : Option Text

def metrics (strategy : Strategy) (selected : List Candidate) (total : Nat) (previous : Option (List Text))
    (marketRegime : Option Text) : StrategyMetrics :=
  let excess := selected.filterMap Candidate.excessReturn
  let symbols := selected.map Candidate.symbol
  {strategy := strategy,selectedSymbols := symbols,sampleCount := selected.length,
   coverage := if total = 0 then none else some ((selected.length : ℚ) / total),
   hitRate := Ranking.hitRate excess,meanExcessReturn := mean excess,medianExcessReturn := medianOrNone excess,
   meanMaxFavorable := mean (selected.filterMap Candidate.maxGain),
   meanMaxAdverse := mean (selected.filterMap Candidate.maxDrawdown),
   rankCorrelation := spearmanRankCorrelation ((List.range selected.length).map (fun index => (index : ℚ) + 1)) excess,
   turnover := Ranking.turnover symbols previous,
   sectorConcentration := Ranking.sectorConcentration
     ((selected.filterMap Candidate.sector).filter (fun sector => !sector.isEmpty)),
   marketRegime := marketRegime}

structure PopulationItem where
  symbol : Text
  rank : Int
  momentum : Option ℚ
  equalComponentScore : Option ℚ
  sector : Option Text
deriving DecidableEq

structure OutcomeItem where
  symbol : Text
  excessReturn : Option ℚ
  maxGain : Option ℚ
  maxDrawdown : Option ℚ
  computedAt : Option Text
  basis : Text
  adjustmentVersion : Text
deriving DecidableEq

-- The fixed assumptions are part of every payload.
structure DatasetPayload (δ : Type) where
  rankingRunRef : Text
  populationHash : δ
  outcomeHash : δ
  horizon : Int
  topN : Int

-- `sha256` of a canonical JSON text, taken to be injective, also where an id keeps
-- its first digits only, and the text of a digest.
class ContentHash where
  Digest : Type
  decidable : DecidableEq Digest
  population : List PopulationItem → Digest
  outcome : List OutcomeItem → Digest
  dataset : DatasetPayload Digest → Digest
  text : Digest → Text
  populationInjective : Function.Injective population
  outcomeInjective : Function.Injective outcome
  datasetInjective : Function.Injective dataset

instance [ContentHash] : DecidableEq ContentHash.Digest := ContentHash.decidable

def assumptionsHash : Text := "d861c687df90caaf8969782a73c4277c7689d7bd91831bdc0bcbfdb629561667".toList

structure EvaluationRequest where
  watchlistDate : Text
  horizon : Int
  topN : Int
  scoringPolicyId : Option Text
  scoringPolicyVersion : Option Text
  scoringPolicyHash : Option Text
  persist : Bool

inductive Sufficiency where
  | partial_
  | insufficient
  | sufficient
deriving DecidableEq

def minSufficientSample : Nat := 10

def sufficiency (incomplete complete : Nat) : Sufficiency :=
  if incomplete ≠ 0 then .partial_ else if complete < minSufficientSample then .insufficient else .sufficient

def partialReason (incomplete complete : Nat) : Option String :=
  match sufficiency incomplete complete with
  | .partial_ => some (toString incomplete ++ " outcome rows are not COMPLETE")
  | .insufficient => some ("only " ++ toString complete ++ " complete outcomes (< " ++ toString minSufficientSample ++ ")")
  | .sufficient => none

structure RankingEvaluationResult [ContentHash] where
  manifestId : ContentHash.Digest
  watchlistDate : Text
  horizonSessions : Int
  topN : Int
  eligiblePopulation : Nat
  completePopulation : Nat
  incompletePopulation : Nat
  sufficiencyStatus : Sufficiency
  partialReason : Option String
  scoringPolicyHash : Text
  rankingRunRef : Text
  priceBasis : Text
  adjustmentVersion : Text
  eligiblePopulationHash : ContentHash.Digest
  outcomeRowsHash : ContentHash.Digest
  datasetHash : ContentHash.Digest
  marketRegime : Option Text
  strategies : List StrategyMetrics

def isComplete (row : Candidate) : Bool := row.outcomeStatus == "COMPLETE".toList && row.excessReturn.isSome

def populationPayload (complete : List Candidate) : List PopulationItem :=
  (sortBy Candidate.symbol complete).map (fun row => ⟨row.symbol,row.rank,row.momentum,row.equalComponentScore,row.sector⟩)

def outcomePayload (complete : List Candidate) : List OutcomeItem :=
  (sortBy Candidate.symbol complete).map (fun row =>
    ⟨row.symbol,row.excessReturn,row.maxGain,row.maxDrawdown,row.computedAt,row.priceBasis,row.adjustmentVersion⟩)

-- `if requested and requested != observed`
def otherThan (requested : Option Text) (observed : Text) : Bool :=
  requested.any (fun requested => !requested.isEmpty && requested != observed)

-- The basis and the version shared by all complete rows.
def sharedBasis (complete : List Candidate) : Except EvaluationError (Text × Text) :=
  if complete = [] then .ok ("UNKNOWN".toList,"UNKNOWN".toList) else do
  let priceBasis ← oneIdentity (complete.map Candidate.priceBasis) .priceBasis
  let adjustmentVersion ← oneIdentity (complete.map Candidate.adjustmentVersion) .adjustmentVersion
  return (priceBasis,adjustmentVersion)

structure PolicyIdentity where
  hash : Text
  id : Text
  version : Text

def observedPolicy (request : EvaluationRequest) (rows : List Candidate) : Except EvaluationError PolicyIdentity := do
  let hash ← oneIdentity (rows.map Candidate.scoringPolicyHash) .scoringPolicyHash
  let id ← oneIdentity (rows.map Candidate.scoringPolicyId) .scoringPolicyId
  let version ← oneIdentity (rows.map Candidate.scoringPolicyVersion) .scoringPolicyVersion
  if otherThan request.scoringPolicyHash hash then .error .otherPolicyHash
  else if otherThan request.scoringPolicyId id then .error .otherPolicyId
  else if otherThan request.scoringPolicyVersion version then .error .otherPolicyVersion
  else .ok ⟨hash,id,version⟩

def strategies : List Strategy := [.packaged,.momentumOnly,.equalComponent,.unfiltered]

section
variable [SqlCasts] (zone : SessionZone)

-- The selections of the latest earlier run of the policy.
def previousStrategySymbols (warehouse : RankingWarehouse) (watchlistDate : Text) (horizon : Int) (topN : Nat)
    (policyHash : Text) : Except EvaluationError (Option (Strategy → List Text)) :=
  match SqlCasts.date watchlistDate with
  | none => .error .unreadableDate
  | some day =>
    let earlier := warehouse.outcomes.filter (fun row => decide (row.watchlistDate < day) &&
      row.horizonSessions == horizon && row.scoringPolicyHash == some policyHash)
    match (earlier.map OutcomeRow.watchlistDate).max? with
    | none => .ok none
    | some previous => do
      let rows ← loadRows zone warehouse previous.isoformat horizon
      let complete := rows.filter (fun row => isComplete row && row.scoringPolicyHash == policyHash)
      return some (fun strategy => (selectStrategy complete topN strategy).map Candidate.symbol)

def marketRegime (warehouse : RankingWarehouse) (watchlistDate : Text) : Option Text := do
  let day ← SqlCasts.date watchlistDate
  let row ← warehouse.regimes.find? (fun row => row.asOfDate == day)
  return row.regime

-- What one call reads and checks before anything is hashed or counted.
structure Gathered where
  rows : List Candidate
  policy : PolicyIdentity
  basis : Text × Text
  previous : Option (Strategy → List Text)
  regime : Option Text

def Gathered.complete (gathered : Gathered) : List Candidate := gathered.rows.filter isComplete

def Gathered.incomplete (gathered : Gathered) : Nat := gathered.rows.length - gathered.complete.length

def gather (warehouse : RankingWarehouse) (request : EvaluationRequest) : Except EvaluationError Gathered := do
  if request.topN < 1 then .error .topN else
  let rows ← loadRows zone warehouse request.watchlistDate request.horizon
  if rows = [] then .error .noOutcomes else
  let policy ← observedPolicy request rows
  let basis ← sharedBasis (rows.filter isComplete)
  let previous ← previousStrategySymbols zone warehouse request.watchlistDate request.horizon request.topN.toNat policy.hash
  return ⟨rows,policy,basis,previous,marketRegime warehouse request.watchlistDate⟩

end

section
variable [ContentHash]

def rankingRunRef (request : EvaluationRequest) (policy : PolicyIdentity) : Text := request.watchlistDate ++ ':' :: policy.hash

def datasetPayload (request : EvaluationRequest) (gathered : Gathered) : DatasetPayload ContentHash.Digest :=
  ⟨rankingRunRef request gathered.policy,ContentHash.population (populationPayload gathered.complete),
   ContentHash.outcome (outcomePayload gathered.complete),request.horizon,request.topN⟩

def strategyMetrics (request : EvaluationRequest) (gathered : Gathered) (strategy : Strategy) : StrategyMetrics :=
  metrics strategy (selectStrategy gathered.complete request.topN.toNat strategy) gathered.complete.length
    (gathered.previous.map (fun selections => selections strategy)) gathered.regime

def evaluated (request : EvaluationRequest) (gathered : Gathered) : RankingEvaluationResult :=
  let dataset := datasetPayload request gathered
  {manifestId := ContentHash.dataset dataset,watchlistDate := request.watchlistDate,
   horizonSessions := request.horizon,topN := request.topN,
   eligiblePopulation := gathered.rows.length,completePopulation := gathered.complete.length,
   incompletePopulation := gathered.incomplete,
   sufficiencyStatus := sufficiency gathered.incomplete gathered.complete.length,
   partialReason := partialReason gathered.incomplete gathered.complete.length,
   scoringPolicyHash := gathered.policy.hash,rankingRunRef := dataset.rankingRunRef,
   priceBasis := gathered.basis.1,adjustmentVersion := gathered.basis.2,
   eligiblePopulationHash := dataset.populationHash,outcomeRowsHash := dataset.outcomeHash,
   datasetHash := ContentHash.dataset dataset,
   marketRegime := gathered.regime,strategies := strategies.map (strategyMetrics request gathered)}

/- The manifest tables, read and written by id. -/

-- `watchlist_date` is a DATE column, `assumptions_hash` a constant; the strategy rows are kept with their manifest.
structure ManifestRow where
  date : Date
  result : RankingEvaluationResult
  policy : PolicyIdentity

def ManifestRow.id (row : ManifestRow) : ContentHash.Digest := row.result.manifestId

-- An id that is stored is never written again.
def persistEvaluation (store : List ManifestRow) (row : ManifestRow) : List ManifestRow :=
  Rows.insertNew ManifestRow.id store row

-- The date reads back in ISO form, the strategies in the order of their names.
def ManifestRow.read (row : ManifestRow) : RankingEvaluationResult :=
  {row.result with
    watchlistDate := row.date.isoformat,
    strategies := sortBy (fun metrics => metrics.strategy.name.toList) row.result.strategies}

def getRankingEvaluation (store : List ManifestRow) (manifestId : ContentHash.Digest) : Option RankingEvaluationResult :=
  (store.find? (fun stored => stored.id = manifestId)).map ManifestRow.read

variable [SqlCasts] (zone : SessionZone)

def evaluateRankingRun (warehouse : RankingWarehouse) (store : List ManifestRow) (request : EvaluationRequest) :
    List ManifestRow × Except EvaluationError RankingEvaluationResult :=
  match gather zone warehouse request with
  | .error refused => (store,.error refused)
  | .ok gathered =>
    let result := evaluated request gathered
    if request.persist then
      match SqlCasts.date request.watchlistDate with
      | none => (store,.error .unreadableDate)
      | some date => (persistEvaluation store ⟨date,result,gathered.policy⟩,.ok result)
    else (store,.ok result)

end
end OpenStock.Ranking
