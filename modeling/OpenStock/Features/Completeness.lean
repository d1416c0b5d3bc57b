import OpenStock.Features.Columns

namespace OpenStock.Features
open Series Calendar

/- How complete a symbol's features are on a date. -/

inductive FeatureCompletenessProfile where
  | minimal20
  | standard120
  | full252

inductive CompletenessStatus where
  | complete
  | incomplete
  | legacyUnknown

inductive FreshnessIssue where
  | staleDate

structure FeatureCompletenessInput where
  observedBarCount : Nat
  exactDate : Bool
  values : List (Column × Option ℚ)

structure FeatureCompleteness where
  profile : FeatureCompletenessProfile
  neutralStatus : CompletenessStatus
  relativeStrengthStatus : CompletenessStatus
  requiredBarCount : Nat
  observedBarCount : Nat
  missingNeutralFields : List Column
  missingRelativeStrengthFields : List Column
  ruleVersion : String
  freshnessIssue : Option FreshnessIssue

structure ProfileRule where
  requiredBarCount : Nat
  neutralFields : List Column
  relativeStrengthFields : List Column

def ruleVersion : String := "feature-completeness-v1"

def minimalNeutralFields : List Column := [.close,.ma20,.ma50,.return20d]

def standardNeutralFields : List Column :=
  minimalNeutralFields ++ [.ma100,.ma20Slope,.ma50Slope,.volumeMa20,.volumeRatio,.atr14,.return60d,.distanceToMa20,.baseRange30d,
    .closeStrength,.volatility20d]

def fullNeutralFields : List Column := standardNeutralFields ++ [.distanceTo52wHigh]

def profileRules : FeatureCompletenessProfile → ProfileRule
  | .minimal20 => ⟨20,minimalNeutralFields,[.rs20d]⟩
  | .standard120 => ⟨120,standardNeutralFields,[.rs20d,.rs60d]⟩
  | .full252 => ⟨252,fullNeutralFields,[.rs20d,.rs60d]⟩

def profileForHistory (observedBarCount : Nat) : FeatureCompletenessProfile :=
  if 252 ≤ observedBarCount then .full252
  else if 120 ≤ observedBarCount then .standard120
  else .minimal20

def missingFields (values : List (Column × Option ℚ)) (requiredFields : List Column) : List Column :=
  requiredFields.filter (fun field => ((values.lookup field).join).isNone)

def neutralStatus (observedBarCount requiredBarCount : Nat) (missingFields : List Column) (freshnessIssue : Option FreshnessIssue) :
    CompletenessStatus :=
  if observedBarCount < requiredBarCount then .incomplete
  else if missingFields ≠ [] then .incomplete
  else if freshnessIssue ≠ none then .incomplete
  else .complete

def relativeStrengthStatus (missingFields : List Column) : CompletenessStatus := if missingFields ≠ [] then .incomplete else .complete

def evaluateFeatureCompleteness (featureInput : FeatureCompletenessInput) : FeatureCompleteness :=
  let profile := profileForHistory featureInput.observedBarCount
  let rule := profileRules profile
  let missingNeutralFields := missingFields featureInput.values rule.neutralFields
  let freshnessIssue := if featureInput.exactDate then none else some FreshnessIssue.staleDate
  let missingRelativeStrengthFields := missingFields featureInput.values rule.relativeStrengthFields
  {
    profile:=profile
    neutralStatus:=neutralStatus featureInput.observedBarCount rule.requiredBarCount missingNeutralFields freshnessIssue
    relativeStrengthStatus:=relativeStrengthStatus missingRelativeStrengthFields
    requiredBarCount:=rule.requiredBarCount
    observedBarCount:=featureInput.observedBarCount
    missingNeutralFields:=missingNeutralFields
    missingRelativeStrengthFields:=missingRelativeStrengthFields
    ruleVersion:=ruleVersion
    freshnessIssue:=freshnessIssue
  }

def featureColumns : List Column :=
  [.close,.ma20,.ma50,.ma100,.ma20Slope,.ma50Slope,.volumeMa20,.volumeRatio,.atr14,.return20d,.return60d,.rs20dVsVnindex,.rs60dVsVnindex,
    .distanceToMa20,.distanceTo52wHigh,.baseRange30d,.closeStrength,.volatility20d]

-- The last row on or before the date.
def lastRow (features : Frame) (targetDate : Date) : Option Nat :=
  ((List.range features.index.length).filter (fun row => features.index[row]?.any (fun date => decide (date ≤ targetDate)))).getLast?

-- What `build_features` evaluates for a symbol, unless it skips it.
def snapshotCompleteness (elementary : Elementary) (bars benchmark : List Bar) (benchmarkSymbol : String) (targetDate : Date) :
    Option FeatureCompleteness := do
  let df := frameOf bars
  let benchmarkDf := frameOf benchmark
  let features ← buildFeaturesForSymbol elementary df (if benchmark = [] then none else some benchmarkDf) benchmarkSymbol
  let row ← lastRow features targetDate
  let asOfBarDate ← features.index[row]?
  some (evaluateFeatureCompleteness {
    observedBarCount:=bars.length
    exactDate:=decide (asOfBarDate = targetDate)
    values:=(featureColumns ++ [Column.rs20d,Column.rs60d]).map (fun column => (column,features.get column row))
  })

end OpenStock.Features
