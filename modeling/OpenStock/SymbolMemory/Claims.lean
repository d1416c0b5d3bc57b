import Mathlib.Data.Rat.Defs
import Mathlib.Algebra.Order.Ring.Rat
import OpenStock.Foundations.Instants
import OpenStock.Foundations.Json

namespace OpenStock.SymbolMemory
open Text Calendar

inductive ClaimStatus where
  | active
  | superseded
  | expired
  | rejected
  | conflicted
deriving DecidableEq

inductive ClaimOrigin where
  | validatedEvidence
  | userNote
  | userCorrection
deriving DecidableEq

inductive MemoryEntityType where
  | symbol
  | market
  | sector
  | industry
  | assetClass
deriving DecidableEq

-- An entity with its canonical identity.
structure MemoryEntity where
  entityType : MemoryEntityType
  entityId : Text
deriving DecidableEq

structure MemoryEvent where
  eventId : Text
  entity : MemoryEntity
  eventType : Text
  evidenceRef : Option Text
  contentHash : Text
  observedAt : Option DateTime
  asOfDate : Option Date
  origin : ClaimOrigin
  correlationId : Text
  createdAt : DateTime

-- Instants are kept in UTC.
structure MemoryClaim where
  claimId : Text
  entity : MemoryEntity
  claimType : Text
  predicate : Text
  value : List (Text × Json)
  status : ClaimStatus
  pinned : Bool
  confidence : Option ℚ
  observedAt : Option DateTime
  asOfDate : Option Date
  validFrom : Option Date
  validUntil : Option Date
  origin : ClaimOrigin
  sourceRefs : List Text
  correlationId : Text
  createdAt : DateTime
  supersedesClaimId : Option Text
  lifecycleReason : Option Text
  sourcePublishedAt : Option Date
deriving DecidableEq

-- `_EXPIRY_DAYS.get(claim_type, 30)`
def expiryDays (claimType : Text) : Option Nat :=
  if claimType = "candidate_score".toList then some 1
  else if claimType = "candidate_state".toList then some 7
  else if claimType = "technical_observation".toList then some 5
  else if claimType = "market_or_sector_context".toList then some 7
  else if claimType = "market_context".toList then some 7
  else if claimType = "group_context".toList then some 7
  else if claimType = "periodic_fact".toList then some 90
  else if claimType = "durable_fact".toList then none
  else if claimType = "hypothesis".toList then some 30
  else if claimType = "rejected_hypothesis".toList then none
  else if claimType = "risk_or_caveat".toList then some 30
  else if claimType = "data_quality_caveat".toList then some 7
  else if claimType = "user_note".toList then none
  else if claimType = "open_question".toList then some 30
  else some 30

-- `_SOURCE_AUTHORITY_BY_CLAIM_TYPE`
def sourceAuthority : List (Text × List (Text × Nat)) :=
  [("candidate_score".toList,[("candidate_score".toList,90),("feature_snapshot".toList,80)]),
   ("candidate_state".toList,[("candidate_score".toList,90)]),
   ("technical_observation".toList,
    [("research_symbol_level_snapshot".toList,90),("research_setup_analysis".toList,85)]),
   ("market_or_sector_context".toList,[("research_market_regime_snapshot".toList,90)]),
   ("market_context".toList,[("market_regime_snapshot".toList,95)]),
   ("group_context".toList,[("group_context_snapshot".toList,95)]),
   ("research_automation_artifact".toList,[("research_automation".toList,80)])]

-- `source_refs[0].partition(":")[0] if source_refs else ""`
def sourceKind (sourceRefs : List Text) : Text :=
  match sourceRefs with
  | [] => []
  | first :: _ => first.takeWhile (· != ':')

def claimAuthority (claim : MemoryClaim) : Nat :=
  match claim.origin with
  | .userCorrection => 100
  | .validatedEvidence =>
    ((((sourceAuthority.lookup claim.claimType).getD []).lookup (sourceKind claim.sourceRefs)).getD 70)
  | .userNote => 20

def canonicalValue (claim : MemoryClaim) : Text := Json.dumps (.obj claim.value)

def equivalent (left right : MemoryClaim) : Bool :=
  left.entity == right.entity && left.claimType == right.claimType && left.predicate == right.predicate &&
    left.asOfDate == right.asOfDate && canonicalValue left == canonicalValue right

def sameEffectiveDate (left right : MemoryClaim) : Bool := left.asOfDate == right.asOfDate

def isNewer (left right : MemoryClaim) : Bool :=
  match left.asOfDate with
  | none => false
  | some date =>
    match right.asOfDate with
    | none => true
    | some other => other < date

-- What the services raise.
inductive MemoryError where
  | validation (message : Text)
  | keyTaken
  | unknownClaim (claimId : Text)
  | reasonRequired
  | notRecorded (message : Text)
  | dateOverflow
  | ingestion (message : Text)
  | compaction

-- An expiry past MAXYEAR raises.
def expiryDate (claim : MemoryClaim) : Except MemoryError (Option Date) :=
  match claim.validUntil with
  | some date => .ok (some date)
  | none =>
    match expiryDays claim.claimType, claim.asOfDate with
    | some days,some date =>
      match date.plusDays days with
      | some expiry => .ok (some expiry)
      | none => .error .dateOverflow
    | _,_ => .ok none

-- The claims that stand for one thing.
def sameKey (left right : MemoryClaim) : Prop :=
  left.entity = right.entity ∧ left.claimType = right.claimType ∧ left.predicate = right.predicate

instance : DecidableRel sameKey := fun left right =>
  inferInstanceAs (Decidable (left.entity = right.entity ∧ left.claimType = right.claimType ∧
    left.predicate = right.predicate))

/- `_is_newer` is the order of the dates, an undated claim before all others. -/

def effective (claim : MemoryClaim) : WithBot Date := claim.asOfDate.elim ⊥ WithBot.some

variable (left right : MemoryClaim)

theorem isNewer_iff : isNewer left right = true ↔ effective right < effective left := by
  unfold isNewer effective
  cases left.asOfDate with
  | none => simp
  | some date =>
    cases right.asOfDate with
    | none => simp [WithBot.bot_lt_coe]
    | some other => simp

theorem effective_inj {left right : MemoryClaim} : effective left = effective right ↔ left.asOfDate = right.asOfDate := by
  unfold effective
  cases left.asOfDate <;> cases right.asOfDate <;> simp

theorem sameEffectiveDate_iff : sameEffectiveDate left right = true ↔ effective left = effective right := by
  simp [sameEffectiveDate,effective_inj]

theorem equivalent_iff : equivalent left right = true ↔
      sameKey left right ∧ effective left = effective right ∧ canonicalValue left = canonicalValue right := by
  simp [equivalent,sameKey,effective_inj,and_assoc]

theorem sameKey_symm {left right : MemoryClaim} (same : sameKey left right) : sameKey right left :=
  ⟨same.1.symm,same.2.1.symm,same.2.2.symm⟩

theorem sameKey_trans (left : sameKey first second) (right : sameKey second third) : sameKey first third :=
  ⟨left.1.trans right.1,left.2.1.trans right.2.1,left.2.2.trans right.2.2⟩

-- A note of a user on one day of March.
def marchNote (claimId : Text) (day : Nat) (bounded : 1 ≤ day ∧ day ≤ 31) (value : Int) : MemoryClaim :=
  ⟨claimId,⟨.symbol,"FPT".toList⟩,"user_note".toList,"outlook".toList,[("value".toList,.int value)],.active,false,none,none,
    some ⟨2024,3,day,Calendar.in_2024,Calendar.in_march,bounded⟩,none,none,.userNote,[],"run".toList,
    ⟨.of 2024 4 1,.midnight⟩,none,none,none⟩

theorem fifth : 1 ≤ 5 ∧ 5 ≤ 31 := by decide

theorem eighth : 1 ≤ 8 ∧ 8 ≤ 31 := by decide

end OpenStock.SymbolMemory
