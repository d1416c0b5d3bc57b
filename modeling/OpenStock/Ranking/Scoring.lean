import Mathlib.Algebra.Order.Field.Rat
import Mathlib.Tactic.NormNum
import OpenStock.Foundations.Blend
import OpenStock.Foundations.HalfEven
import OpenStock.Ranking.ScoringPolicy

namespace OpenStock.Ranking
open Text Blend

/- `scoring/rules.py`, `scoring/risk_flags.py` and `scoring/score.py` over exact
numbers. A field of the mapping that is missing or null reads as `none`. -/

structure Features where
  close : Option ℚ
  ma20 : Option ℚ
  ma50 : Option ℚ
  ma100 : Option ℚ
  ma20Slope : Option ℚ
  volumeMa20 : Option ℚ
  volumeRatio : Option ℚ
  atr14 : Option ℚ
  rs20dVsVnindex : Option ℚ
  rs60dVsVnindex : Option ℚ
  distanceToMa20 : Option ℚ
  distanceTo52wHigh : Option ℚ
  baseRange30d : Option ℚ
  closeStrength : Option ℚ

-- One side of every rule: both values are there and the first exceeds the second.
def above (first second : Option ℚ) : Bool :=
  match first,second with
  | some first,some second => second < first
  | _,_ => false

section rules
variable (features : Features)

def rulePriceAboveMa20 : Bool := above features.close features.ma20
def rulePriceAboveMa50 : Bool := above features.close features.ma50
def ruleMa20AboveMa50 : Bool := above features.ma20 features.ma50
def ruleMa50AboveMa100 : Bool := above features.ma50 features.ma100
def rulePositiveMa20Slope : Bool := above features.ma20Slope (some 0)
def ruleVolumeExpansion (threshold : ℚ) : Bool := above features.volumeRatio (some threshold)
def ruleCloseNearHigh (threshold : ℚ) : Bool := above features.closeStrength (some threshold)
def ruleBaseCompression (maxRange : ℚ) : Bool := above (some maxRange) features.baseRange30d
def ruleNear52wHigh (threshold : ℚ) : Bool := above features.distanceTo52wHigh (some threshold)

def detectThinVolume : Bool := above (some 100000) features.volumeMa20

def detectHighAtr : Bool :=
  match features.atr14,features.close with
  | some atr,some close => if close = 0 then false else 5 / 100 < atr / close
  | _,_ => false

def detectOverbought : Bool := above features.distanceToMa20 (some (20 / 100))
def detectExtendedFromMa : Bool := above (features.distanceToMa20.map abs) (some (12 / 100))
def detectNearResistance : Bool := above features.distanceTo52wHigh (some (-(2 / 100)))

inductive RiskFlag where
  | thinVolume
  | highAtr
  | overbought
  | extendedFromMa
  | nearResistance

def computeRiskFlags : List RiskFlag :=
  (if detectThinVolume features then [.thinVolume] else []) ++
  (if detectHighAtr features then [.highAtr] else []) ++
  (if detectOverbought features then [.overbought] else []) ++
  (if detectExtendedFromMa features then [.extendedFromMa] else []) ++
  (if detectNearResistance features then [.nearResistance] else [])

end rules

/- The components. A rule that holds counts as one. -/

def weighted (rules : List (ℚ × Bool)) : ℚ := blend (rules.map (fun rule => (rule.1,(rule.2.toNat : ℚ))))

section components
variable (policy : ScoringPolicy) (features : Features)

def computeTrendScore : ℚ :=
  let weights := policy.payload.trendRuleWeights
  weighted [(weights.priceAboveMa20,rulePriceAboveMa20 features),(weights.priceAboveMa50,rulePriceAboveMa50 features),
    (weights.ma20AboveMa50,ruleMa20AboveMa50 features),(weights.ma50AboveMa100,ruleMa50AboveMa100 features),
    (weights.positiveMa20Slope,rulePositiveMa20Slope features)]

def normalizedStrength (strength : ℚ) : ℚ :=
  clamp ((strength - policy.payload.normalization.relativeStrengthFloor) / policy.payload.normalization.relativeStrengthRange)

def computeRelativeStrengthScore : ℚ :=
  policy.payload.relativeStrengthWeights.rs20 * normalizedStrength policy (features.rs20dVsVnindex.getD 0) +
    policy.payload.relativeStrengthWeights.rs60 * normalizedStrength policy (features.rs60dVsVnindex.getD 0)

def computeVolumeScore : ℚ := clamp (features.volumeRatio.getD 1 / policy.payload.normalization.volumeDivisor)

def computeBaseScore : ℚ := clamp (1 - features.baseRange30d.getD (15 / 100) / policy.payload.normalization.baseRange)

def computeBreakoutScore : ℚ :=
  let weights := policy.payload.breakoutRuleWeights
  let thresholds := policy.payload.breakoutThresholds
  weighted [(weights.near52wHigh,ruleNear52wHigh features thresholds.near52wHigh),
    (weights.closeStrength,ruleCloseNearHigh features thresholds.closeStrength),
    (weights.volumeExpansion,ruleVolumeExpansion features thresholds.volumeExpansion),
    (weights.baseCompression,ruleBaseCompression features thresholds.baseCompression)]

def computeRiskQualityScore : ℚ := max 0 (1 - (computeRiskFlags features).length * policy.payload.flagPenalty)

-- `score`, before it is rounded.
def weightedScore : ℚ :=
  let weights := policy.payload.weights
  blend [(weights.trend,computeTrendScore policy features),
    (weights.relativeStrength,computeRelativeStrengthScore policy features),
    (weights.volume,computeVolumeScore policy features),(weights.base,computeBaseScore policy features),
    (weights.breakout,computeBreakoutScore policy features),(weights.riskQuality,computeRiskQualityScore policy features)]

end components

inductive CandidateClass where
  | strong
  | watch
  | weak
  | ignore
deriving DecidableEq

def classifyCandidate (score : ℚ) (policy : ScoringPolicy) : CandidateClass :=
  if policy.payload.candidateThresholds.strong ≤ score then .strong
  else if policy.payload.candidateThresholds.watch ≤ score then .watch
  else if policy.payload.candidateThresholds.weak ≤ score then .weak
  else .ignore

inductive SetupType where
  | accumulationBase
  | breakoutAttempt
  | momentumContinuation
  | pullbackToTrend
  | meanReversion
  | unclassified

def detectSetup (features : Features) (policy : ScoringPolicy) : SetupType :=
  let thresholds := policy.payload.setupThresholds
  if ruleBaseCompression features thresholds.baseCompression && ruleNear52wHigh features thresholds.near52wHigh then
    if ruleVolumeExpansion features thresholds.breakoutVolume then .breakoutAttempt else .accumulationBase
  else if rulePositiveMa20Slope features && rulePriceAboveMa20 features then
    if |features.distanceToMa20.getD 0| < thresholds.pullbackDistance then .pullbackToTrend else .momentumContinuation
  else if !rulePriceAboveMa20 features && ruleVolumeExpansion features thresholds.breakoutVolume then .meanReversion
  else .unclassified

structure ScoredCandidate where
  score : ℚ
  candidateClass : CandidateClass
  setupType : SetupType
  trendScore : ℚ
  relativeStrengthScore : ℚ
  volumeScore : ℚ
  baseScore : ℚ
  breakoutScore : ℚ
  riskQualityScore : ℚ
  riskFlags : List RiskFlag
  scoringPolicyId : Text
  scoringPolicyVersion : Text
  scoringPolicyHash : Text
  scoringPolicyStatus : Text

def computeCompositeScore [PolicyHash] (features : Features) (policy : ScoringPolicy) : ScoredCandidate :=
  let score := weightedScore policy features
  {score := HalfEven.roundTo 4 score
   candidateClass := classifyCandidate score policy
   setupType := detectSetup features policy
   trendScore := HalfEven.roundTo 4 (computeTrendScore policy features)
   relativeStrengthScore := HalfEven.roundTo 4 (computeRelativeStrengthScore policy features)
   volumeScore := HalfEven.roundTo 4 (computeVolumeScore policy features)
   baseScore := HalfEven.roundTo 4 (computeBaseScore policy features)
   breakoutScore := HalfEven.roundTo 4 (computeBreakoutScore policy features)
   riskQualityScore := HalfEven.roundTo 4 (computeRiskQualityScore policy features)
   riskFlags := computeRiskFlags features
   scoringPolicyId := policy.policyId
   scoringPolicyVersion := policy.version
   scoringPolicyHash := policy.payloadHash
   scoringPolicyStatus := policy.lifecycleStatus.value}

/- A policy whose weights are shares of one whole. -/

structure ScoringPolicy.Balanced (policy : ScoringPolicy) : Prop where
  weights : Shares [policy.payload.weights.trend,policy.payload.weights.relativeStrength,policy.payload.weights.volume,
    policy.payload.weights.base,policy.payload.weights.breakout,policy.payload.weights.riskQuality]
  trendRules : Shares [policy.payload.trendRuleWeights.priceAboveMa20,policy.payload.trendRuleWeights.priceAboveMa50,
    policy.payload.trendRuleWeights.ma20AboveMa50,policy.payload.trendRuleWeights.ma50AboveMa100,
    policy.payload.trendRuleWeights.positiveMa20Slope]
  relativeStrength : Shares [policy.payload.relativeStrengthWeights.rs20,policy.payload.relativeStrengthWeights.rs60]
  breakoutRules : Shares [policy.payload.breakoutRuleWeights.near52wHigh,policy.payload.breakoutRuleWeights.closeStrength,
    policy.payload.breakoutRuleWeights.volumeExpansion,policy.payload.breakoutRuleWeights.baseCompression]
  strengthRange : 0 < policy.payload.normalization.relativeStrengthRange
  baseRange : 0 < policy.payload.normalization.baseRange
  penalty : 0 ≤ policy.payload.flagPenalty

theorem baseline_balanced : baselineScoringPolicy.Balanced := by
  constructor <;> decide +kernel

theorem weighted_unit (shares : Shares (rules.map Prod.fst)) : weighted rules ∈ Set.Icc 0 1 := by
  apply blend_unit
  · simpa [List.map_map,Function.comp_def] using shares
  · intro part present
    obtain ⟨rule,_,rfl⟩ := List.mem_map.mp present
    cases rule.2 <;> simp

section bounds
variable {policy : ScoringPolicy} (balanced : policy.Balanced) (features : Features)
include balanced

theorem trend_unit : computeTrendScore policy features ∈ Set.Icc 0 1 := weighted_unit balanced.trendRules

theorem relativeStrength_unit : computeRelativeStrengthScore policy features ∈ Set.Icc 0 1 := by
  have blended : blend [(policy.payload.relativeStrengthWeights.rs20,normalizedStrength policy (features.rs20dVsVnindex.getD 0)),
      (policy.payload.relativeStrengthWeights.rs60,normalizedStrength policy (features.rs60dVsVnindex.getD 0))] ∈ Set.Icc 0 1 := by
    apply blend_unit
    · exact balanced.relativeStrength
    · intro part present
      simp only [List.mem_cons,List.not_mem_nil,or_false] at present
      rcases present with rfl | rfl <;> exact clamp_unit _
  simpa [blend,computeRelativeStrengthScore] using blended

theorem breakout_unit : computeBreakoutScore policy features ∈ Set.Icc 0 1 := weighted_unit balanced.breakoutRules

theorem riskQuality_unit : computeRiskQualityScore policy features ∈ Set.Icc 0 1 := by
  have penalty : 0 ≤ ((computeRiskFlags features).length : ℚ) * policy.payload.flagPenalty :=
    mul_nonneg (Nat.cast_nonneg _) balanced.penalty
  exact ⟨le_max_left _ _,max_le zero_le_one (by linarith)⟩

theorem score_unit : weightedScore policy features ∈ Set.Icc 0 1 := by
  apply blend_unit
  · exact balanced.weights
  · intro part present
    simp only [List.mem_cons,List.not_mem_nil,or_false] at present
    rcases present with rfl | rfl | rfl | rfl | rfl | rfl
    · exact trend_unit balanced features
    · exact relativeStrength_unit balanced features
    · exact clamp_unit _
    · exact clamp_unit _
    · exact breakout_unit balanced features
    · exact riskQuality_unit balanced features

end bounds

end OpenStock.Ranking
