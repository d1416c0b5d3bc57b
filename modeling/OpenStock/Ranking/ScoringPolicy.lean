import Mathlib.Data.Rat.Defs
import OpenStock.Foundations.Calendar

namespace OpenStock.Ranking
open Text Calendar

/- `scoring/policy.py`: versioned policies and their registry. -/

inductive PolicyLifecycleStatus where
  | experimental
  | accepted
  | rejected
  | retired

def PolicyLifecycleStatus.value : PolicyLifecycleStatus → Text
  | .experimental => "EXPERIMENTAL".toList
  | .accepted => "ACCEPTED".toList
  | .rejected => "REJECTED".toList
  | .retired => "RETIRED".toList

structure PolicyWeights where
  trend : ℚ
  relativeStrength : ℚ
  volume : ℚ
  base : ℚ
  breakout : ℚ
  riskQuality : ℚ

structure TrendRuleWeights where
  priceAboveMa20 : ℚ
  priceAboveMa50 : ℚ
  ma20AboveMa50 : ℚ
  ma50AboveMa100 : ℚ
  positiveMa20Slope : ℚ

structure RelativeStrengthWeights where
  rs20 : ℚ
  rs60 : ℚ

-- The keys of the breakout rules, for their weights and for their thresholds.
structure BreakoutRules where
  near52wHigh : ℚ
  closeStrength : ℚ
  volumeExpansion : ℚ
  baseCompression : ℚ

structure Normalization where
  relativeStrengthFloor : ℚ
  relativeStrengthRange : ℚ
  volumeDivisor : ℚ
  baseRange : ℚ

structure CandidateThresholds where
  strong : ℚ
  watch : ℚ
  weak : ℚ

structure SetupThresholds where
  baseCompression : ℚ
  near52wHigh : ℚ
  breakoutVolume : ℚ
  pullbackDistance : ℚ

structure PolicyPayload where
  weights : PolicyWeights
  trendRuleWeights : TrendRuleWeights
  relativeStrengthWeights : RelativeStrengthWeights
  breakoutRuleWeights : BreakoutRules
  normalization : Normalization
  flagPenalty : ℚ
  candidateThresholds : CandidateThresholds
  setupThresholds : SetupThresholds
  breakoutThresholds : BreakoutRules

structure ScoringPolicy where
  policyId : Text
  version : Text
  lifecycleStatus : PolicyLifecycleStatus
  effectiveFrom : Date
  effectiveTo : Option Date
  payload : PolicyPayload

-- `sha256` of the canonical JSON of a payload; nothing is asked of it here.
class PolicyHash where
  hexdigest : PolicyPayload → Text

abbrev samplePolicyHash : PolicyHash := ⟨fun _ => "h".toList⟩

def ScoringPolicy.payloadHash [PolicyHash] (policy : ScoringPolicy) : Text := PolicyHash.hexdigest policy.payload

def baselinePayload : PolicyPayload where
  weights := ⟨30/100,25/100,15/100,10/100,10/100,10/100⟩
  trendRuleWeights := ⟨20/100,20/100,20/100,20/100,20/100⟩
  relativeStrengthWeights := ⟨50/100,50/100⟩
  breakoutRuleWeights := ⟨25/100,25/100,25/100,25/100⟩
  normalization := ⟨-5/100,10/100,2,15/100⟩
  flagPenalty := 20/100
  candidateThresholds := ⟨70/100,50/100,30/100⟩
  setupThresholds := ⟨8/100,-5/100,150/100,3/100⟩
  breakoutThresholds := ⟨-5/100,70/100,120/100,8/100⟩

def baselineScoringPolicy : ScoringPolicy where
  policyId := "openstock-candidate-score".toList
  version := "v1.0".toList
  lifecycleStatus := .experimental
  effectiveFrom := .of 2024 1 1
  effectiveTo := none
  payload := baselinePayload

@[simp] theorem baseline_payload : baselineScoringPolicy.payload = baselinePayload := rfl

inductive PolicyError where
  | unknown (policyId version : Text)
  | notEffective (policyId version : Text) (date : Date)
  | unreadableDate

def ScoringPolicy.requireEffective (policy : ScoringPolicy) (asOfDate : Date) : Except PolicyError Unit :=
  if asOfDate < policy.effectiveFrom ∨ policy.effectiveTo.any (fun last => last < asOfDate) then
    .error (.notEffective policy.policyId policy.version asOfDate)
  else .ok ()

-- The decision that the pointer of the policy context names.
structure ScoringPolicyDecision where
  policyId : Text
  policyVersion : Text
  effectiveDate : Date
  decisionCutoffDate : Option Date

def isDefaultSelector (policyId version : Text) : Bool :=
  policyId == baselineScoringPolicy.policyId && version == baselineScoringPolicy.version

def activePolicyFromDecision (decision : Option ScoringPolicyDecision) (asOfDate : Date) : Option (Text × Text) :=
  match decision with
  | none => none
  | some decision =>
    if asOfDate < decision.effectiveDate then none
    else if decision.decisionCutoffDate.any (fun cutoff => cutoff < asOfDate) then none
    else some (decision.policyId,decision.policyVersion)

-- `_POLICIES` holds the baseline alone.
def resolveScoringPolicy (policyId version : Text) (asOfDate : Text) (active : Option ScoringPolicyDecision)
    (useActiveDefault : Bool) : Except PolicyError ScoringPolicy :=
  let selected := if useActiveDefault && isDefaultSelector policyId version then
      (fromIsoformat asOfDate).bind (activePolicyFromDecision active) |>.getD (policyId,version)
    else (policyId,version)
  if isDefaultSelector selected.1 selected.2 then
    match fromIsoformat asOfDate with
    | none => .error .unreadableDate
    | some date => do
      baselineScoringPolicy.requireEffective date
      return baselineScoringPolicy
  else .error (.unknown policyId version)

end OpenStock.Ranking
