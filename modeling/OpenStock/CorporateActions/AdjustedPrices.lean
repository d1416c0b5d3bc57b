import OpenStock.Outcomes.Evaluator

namespace OpenStock.CorporateActions
open Text Calendar Outcomes Queue

/- `adjustment_factors.py` and `adjusted_prices.py`. A Decimal is the exact
rational it stands for. -/

inductive AdjustmentType where
  | split
  | reverseSplit
  | stockDividend
  | bonusShares
  | rightsIssue
  | cashDividend
deriving DecidableEq

def AdjustmentType.value : AdjustmentType → Text
  | .split => "SPLIT".toList
  | .reverseSplit => "REVERSE_SPLIT".toList
  | .stockDividend => "STOCK_DIVIDEND".toList
  | .bonusShares => "BONUS_SHARES".toList
  | .rightsIssue => "RIGHTS_ISSUE".toList
  | .cashDividend => "CASH_DIVIDEND".toList

def adjustmentFactorVersion : Text := "adjustment-price-multiplier-v2".toList

-- `numerator` and `denominator` are None in every factor derived here.
structure AdjustmentFactor where
  symbol : Text
  actionDate : Date
  adjustmentType : AdjustmentType
  priceMultiplier : ℚ
  volumeMultiplier : ℚ
  numerator : Option Int := none
  denominator : Option Int := none
  version : Text := adjustmentFactorVersion

-- `str` of a Decimal.
class DecimalText where
  str : ℚ → Text

def AdjustmentFactor.payload [DecimalText] (factor : AdjustmentFactor) : Json :=
  .obj [("symbol".toList,.str factor.symbol),("action_date".toList,.str factor.actionDate.isoformat),
    ("adjustment_type".toList,.str factor.adjustmentType.value),
    ("price_multiplier".toList,.str (DecimalText.str factor.priceMultiplier)),
    ("volume_multiplier".toList,.str (DecimalText.str factor.volumeMultiplier)),
    ("numerator".toList,factor.numerator.elim .null .int),("denominator".toList,factor.denominator.elim .null .int),
    ("version".toList,.str factor.version)]

def AdjustmentFactor.contentHash [Platform] [DecimalText] (factor : AdjustmentFactor) : Text :=
  Platform.hexdigest factor.payload.dumps

-- The ValueErrors, then the primary key an INSERT broke.
inductive AdjustmentError where
  | unknownRevision
  | noCurrentRevision
  | noEffectiveDate
  | splitRatio
  | consolidationRatio
  | distributionRatio
  | cashAmounts
  | cashReference
  | rightsRatio
  | rightsPrices
  | rightsPositive
  | unsupportedAction (actionType : Text)
  | immutableRevision
  | duplicateFactor

def positiveRatio (ratio : Option ℚ) (refused : AdjustmentError) : Except AdjustmentError ℚ :=
  match ratio with
  | some value => if value ≤ 0 then .error refused else .ok value
  | none => .error refused

-- The type and price multiplier of an action.
def adjustment (row : CorporateAction) : Except AdjustmentError (AdjustmentType × ℚ) := do
  let actionType := upper row.actionType
  if actionType = "SPLIT".toList then
    let ratio ← positiveRatio row.ratio .splitRatio
    return (.split,1 / ratio)
  else if actionType = "CONSOLIDATION".toList then
    let ratio ← positiveRatio row.ratio .consolidationRatio
    return (.reverseSplit,1 / ratio)
  else if actionType = "STOCK_DIVIDEND".toList ∨ actionType = "STOCK_BONUS".toList then
    let ratio ← positiveRatio row.ratio .distributionRatio
    return (if actionType = "STOCK_DIVIDEND".toList then .stockDividend else .bonusShares,1 / (1 + ratio))
  else if actionType = "CASH_DIVIDEND".toList then
    match row.cashAmount,row.referencePrice with
    | some cash,some reference =>
      if reference ≤ 0 ∨ cash < 0 ∨ reference ≤ cash then .error .cashReference
      else return (.cashDividend,(reference - cash) / reference)
    | _,_ => .error .cashAmounts
  else if actionType = "RIGHTS_ISSUE".toList then
    let ratio ← positiveRatio row.ratio .rightsRatio
    match row.subscriptionPrice,row.referencePrice with
    | some subscription,some reference =>
      if subscription ≤ 0 ∨ reference ≤ 0 then .error .rightsPositive
      else return (.rightsIssue,(reference + ratio * subscription) / (1 + ratio) / reference)
    | _,_ => .error .rightsPrices
  else .error (.unsupportedAction actionType)

-- `COALESCE(ex_date, effective_date, record_date)`
def CorporateAction.effectiveOn (row : CorporateAction) : Option Date := (row.exDate.or row.effectiveDate).or row.recordDate

-- What `derive_factor_for_revision` makes of the row it has read.
def factorOf (row : CorporateAction) : Except AdjustmentError AdjustmentFactor := do
  match row.effectiveOn with
  | none => .error .noEffectiveDate
  | some effectiveDate =>
    let (adjustmentType,priceMultiplier) ← adjustment row
    return {
      symbol:=upper row.symbol
      actionDate:=effectiveDate
      adjustmentType:=adjustmentType
      priceMultiplier:=priceMultiplier
      volumeMultiplier:=if adjustmentType = .cashDividend then 1 else 1 / priceMultiplier}

def deriveFactorForRevision (rows : List CorporateAction) (revisionId : Text) : Except AdjustmentError AdjustmentFactor :=
  match rows.find? (fun row => row.revisionId = revisionId && row.canonicalStatus = .current) with
  | none => .error .noCurrentRevision
  | some row => factorOf row

inductive FactorStatus where
  | current
  | superseded
deriving DecidableEq

-- A row of `adjustment_factor`.
structure StoredFactor where
  factorId : Text
  symbol : Text
  actionId : Text
  actionRevisionId : Text
  actionType : Text
  effectiveDate : Date
  priceMultiplier : ℚ
  volumeMultiplier : ℚ
  methodologyVersion : Text
  contentHash : Text
  canonicalStatus : FactorStatus
  supersedesFactorId : Option Text
  supersededByFactorId : Option Text
  createdAt : Int
deriving DecidableEq

def adjustedPriceBasis : Text := "BACKWARD_ADJUSTED".toList

def adjustedPriceVersion : Text := "backward-adjusted-v1".toList

-- A row of `adjusted_ohlcv` with `interval = '1D'`.
structure AdjustedBar where
  symbol : Text
  time : DateTime
  open_ : Option ℚ
  high : Option ℚ
  low : Option ℚ
  close : Option ℚ
  volume : Option ℚ
  priceBasis : Text
  adjustmentVersion : Text
  factorChainHash : Text
  sourceIngestionRunId : Option Text
  sourceProvider : Option Text

structure AdjustedWarehouse where
  research : ResearchWarehouse
  factors : List StoredFactor
  adjustedOhlcv : List AdjustedBar

def factorId [Platform] [DecimalText] (factor : AdjustmentFactor) : Text := "adjf_".toList ++ factor.contentHash.take 20

def storedFactor [Platform] [DecimalText] (now : Int) (actionId actionRevisionId : Text) (factor : AdjustmentFactor)
    (supersedes : Option Text) : StoredFactor :=
  { factorId:=factorId factor
    symbol:=factor.symbol
    actionId:=actionId
    actionRevisionId:=actionRevisionId
    actionType:=factor.adjustmentType.value
    effectiveDate:=factor.actionDate
    priceMultiplier:=factor.priceMultiplier
    volumeMultiplier:=factor.volumeMultiplier
    methodologyVersion:=factor.version
    contentHash:=factor.contentHash
    canonicalStatus:=.current
    supersedesFactorId:=supersedes
    supersededByFactorId:=none
    createdAt:=now }

def existingFactor (factors : List StoredFactor) (actionRevisionId version : Text) : Option StoredFactor :=
  factors.find? (fun row => row.actionRevisionId = actionRevisionId && row.methodologyVersion = version)

-- `ORDER BY created_at DESC LIMIT 1`
def priorFactor (factors : List StoredFactor) (actionId : Text) : Option StoredFactor :=
  Rows.firstBy (fun left right => right.createdAt < left.createdAt)
    (factors.filter (fun row => row.actionId = actionId && row.canonicalStatus = .current))

def supersedeFactor (factorId replacement : Text) (factors : List StoredFactor) : List StoredFactor :=
  Rows.updateWhere (fun row => row.factorId = factorId)
    (fun row => {row with canonicalStatus:=.superseded,supersededByFactorId:=some replacement}) factors

def persistAdjustmentFactor [Platform] [DecimalText] (now : Int) (actionId actionRevisionId : Text)
    (factor : AdjustmentFactor) (factors : List StoredFactor) : Except AdjustmentError (List StoredFactor × Text) :=
  match existingFactor factors actionRevisionId factor.version with
  | some existing =>
    if existing.contentHash ≠ factor.contentHash then .error .immutableRevision else .ok (factors,existing.factorId)
  | none =>
    let prior := priorFactor factors actionId
    let row := storedFactor now actionId actionRevisionId factor (prior.map StoredFactor.factorId)
    if factors.any (fun other => other.factorId = row.factorId) then .error .duplicateFactor
    else
      let inserted := factors ++ [row]
      .ok (prior.elim inserted (fun earlier => supersedeFactor earlier.factorId row.factorId inserted),row.factorId)

def deriveAndPersistFactor [Platform] [DecimalText] (now : Int) (revisionId : Text) (rows : List CorporateAction)
    (factors : List StoredFactor) : Except AdjustmentError (List StoredFactor × Text) :=
  match rows.find? (fun row => row.revisionId = revisionId) with
  | none => .error .unknownRevision
  | some identity => do
    let factor ← deriveFactorForRevision rows revisionId
    persistAdjustmentFactor now identity.actionId revisionId factor factors

/- `build_adjusted_ohlcv`. -/

-- `from_date` and `to_date`, each unbounded when None.
structure Bounds where
  fromDate : Option Date
  toDate : Option Date

def Bounds.contains (bounds : Bounds) (day : Date) : Bool :=
  bounds.fromDate.all (fun start => start ≤ day) && bounds.toDate.all (fun finish => day ≤ finish)

def unbounded : Bounds := ⟨none,none⟩

-- `ORDER BY effective_date, factor_id`
def factorBefore (left right : StoredFactor) : Prop :=
  left.effectiveDate < right.effectiveDate ∨ (left.effectiveDate = right.effectiveDate ∧ left.factorId ≤ right.factorId)

instance : DecidableRel factorBefore := fun left right =>
  inferInstanceAs (Decidable (left.effectiveDate < right.effectiveDate ∨
    (left.effectiveDate = right.effectiveDate ∧ left.factorId ≤ right.factorId)))

def currentFactors (factors : List StoredFactor) (symbol : Text) : List StoredFactor :=
  (factors.filter (fun row => row.symbol = symbol && row.canonicalStatus = .current)).insertionSort factorBefore

def unadjustedBar (symbol : Text) (bar : CanonicalBar) : Bool := bar.symbol = symbol && bar.priceBasis = some rawUnadjusted

-- The factors a bar is multiplied by: those effective after its day.
def applicable (factors : List StoredFactor) (day : Date) : List StoredFactor :=
  factors.filter (fun factor => day < factor.effectiveDate)

def adjustedBar [Platform] (factors : List StoredFactor) (symbol adjustmentVersion : Text) (bar : CanonicalBar) : AdjustedBar :=
  let chain := applicable factors bar.time.date
  let priceMultiplier := (chain.map StoredFactor.priceMultiplier).prod
  { symbol:=symbol
    time:=bar.time
    open_:=bar.open_.map (· * priceMultiplier)
    high:=bar.high.map (· * priceMultiplier)
    low:=bar.low.map (· * priceMultiplier)
    close:=bar.close.map (· * priceMultiplier)
    volume:=bar.volume.map (· * (chain.map StoredFactor.volumeMultiplier).prod)
    priceBasis:=adjustedPriceBasis
    adjustmentVersion:=adjustmentVersion
    factorChainHash:=Platform.hexdigest (['|'].intercalate (chain.map StoredFactor.contentHash))
    sourceIngestionRunId:=bar.ingestionRunId
    sourceProvider:=bar.selectedProvider }

structure BuildResult where
  symbol : Text
  rowsWritten : Nat
  factorsUsed : Nat
  fromDate : Option Date
  toDate : Option Date
  adjustmentVersion : Text

-- The rows of the series a build of the symbol replaces.
def replacedBar (symbol adjustmentVersion : Text) (bounds : Bounds) (row : AdjustedBar) : Bool :=
  row.symbol = symbol && row.priceBasis = adjustedPriceBasis && row.adjustmentVersion = adjustmentVersion &&
    bounds.contains row.time.date

-- The primary key of `canonical_ohlcv` keeps the inserted rows apart.
def buildAdjustedOhlcv [Platform] (requested : Text) (bounds : Bounds) (adjustmentVersion : Text)
    (warehouse : AdjustedWarehouse) : AdjustedWarehouse × BuildResult :=
  let symbol := upper (strip requested)
  let factors := currentFactors warehouse.factors symbol
  let bars := (warehouse.research.canonicalOhlcv.filter (fun bar =>
    unadjustedBar symbol bar && bounds.contains bar.time.date)).insertionSort
      (fun left right => instant left.time ≤ instant right.time)
  let kept := warehouse.adjustedOhlcv.filter (fun row => !replacedBar symbol adjustmentVersion bounds row)
  ({warehouse with adjustedOhlcv:=kept ++ bars.map (adjustedBar factors symbol adjustmentVersion)},
    ⟨symbol,bars.length,factors.length,bounds.fromDate,bounds.toDate,adjustmentVersion⟩)

/- `rebuild_pending_adjusted_ranges`. Every statement commits by itself: what a
signal wrote stays when a later one raises. -/

def AdjustedWarehouse.pending (warehouse : AdjustedWarehouse) (limit : Nat) : List AffectedRange :=
  ((warehouse.research.actions.affectedRanges.filter (fun range => range.resolvedAt.isNone)).insertionSort
    (fun left right => left.createdAt ≤ right.createdAt)).take limit

def resolveRange (signalId resolutionRef : Text) (now : Int) (ranges : List AffectedRange) : List AffectedRange :=
  Rows.updateWhere (fun range => range.signalId = signalId)
    (fun range => {range with resolvedAt:=some now,resolutionRef:=some resolutionRef}) ranges

section
variable [Platform] [DecimalText]

def rebuildSignal (now : Int) (signal : AffectedRange) (warehouse : AdjustedWarehouse) :
    Except AdjustmentError (AdjustedWarehouse × BuildResult) := do
  let (factors,factorId) ← deriveAndPersistFactor now signal.revisionId warehouse.research.actions.corporateActions
    warehouse.factors
  let (built,result) := buildAdjustedOhlcv signal.symbol ⟨some signal.affectedFromDate,signal.affectedToDate⟩
    adjustedPriceVersion {warehouse with factors:=factors}
  let resolved := resolveRange signal.signalId (factorId ++ ':' :: result.adjustmentVersion) now
    built.research.actions.affectedRanges
  let actions := {built.research.actions with affectedRanges:=resolved}
  return ({built with research:={built.research with actions:=actions}},result)

def rebuildSignals (now : Int) (warehouse : AdjustedWarehouse) :
    List AffectedRange → AdjustedWarehouse × Except AdjustmentError (List BuildResult)
  | [] => (warehouse,.ok [])
  | signal :: rest =>
    match rebuildSignal now signal warehouse with
    | .error refused => (warehouse,.error refused)
    | .ok (after,result) =>
      let (final,results) := rebuildSignals now after rest
      (final,results.map (fun results => result :: results))

def rebuildPendingAdjustedRanges (now : Int) (limit : Nat) (warehouse : AdjustedWarehouse) :
    AdjustedWarehouse × Except AdjustmentError (List BuildResult) :=
  rebuildSignals now warehouse (warehouse.pending limit)

end
end OpenStock.CorporateActions
