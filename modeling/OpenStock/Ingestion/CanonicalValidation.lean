import OpenStock.Foundations.Calendar
import Mathlib.Data.Rat.Defs
import Mathlib.Algebra.Order.Field.Rat

namespace OpenStock.Ingestion
open Text Calendar

/- `ingestion/index_provider_policy.py` and `ingestion/canonical_validation.py`. -/

inductive IndexProviderPreference where
  | vci
  | kbs
  | ssi

def IndexProviderPreference.value : IndexProviderPreference → Text
  | .vci => "vci".toList
  | .kbs => "kbs".toList
  | .ssi => "ssi".toList

inductive IndexFamily where
  | hose
  | hnx
  | upcom

def policyByFamily : IndexFamily → List IndexProviderPreference
  | .hose => [.vci,.kbs,.ssi]
  | .hnx => []
  | .upcom => []

def indexFamily (symbol : Text) : Option IndexFamily :=
  let name := upper (strip symbol)
  if name = "VNINDEX".toList ∨ name = "VN30".toList then some .hose
  else if name = "HNXINDEX".toList ∨ name = "HNX30".toList then some .hnx
  else if name = "UPCOM".toList ∨ name = "UPCOMINDEX".toList then some .upcom
  else none

def isIndexSymbol (symbol : Text) : Bool := (indexFamily symbol).isSome

-- The version of the policy and the rationale are texts fixed by the rest.
structure IndexConflictResolution where
  selectedProvider : IndexProviderPreference
  rejectedProviders : List Text
  policyFamily : IndexFamily

-- `provider.strip().lower() == preferred`
def names (provider : Text) (preferred : IndexProviderPreference) : Bool := lower (strip provider) == preferred.value

def resolveIndexProviderConflict (symbol : Text) (providerCandidates : List Text) : Option IndexConflictResolution := do
  let family ← indexFamily symbol
  let present := providerCandidates.filter (fun provider => !provider.isEmpty)
  let preferred ← (policyByFamily family).find? (fun preferred => present.any (fun provider => names provider preferred))
  return ⟨preferred,present.filter (fun provider => !names provider preferred),family⟩

inductive CanonicalValidationRule where
  | closePositive
  | highBound
  | lowBound
  | volumeNonnegative
  | intervalPresent
  | priceBasisRawUnadjusted
  | upstreamQualityFailed
  | upstreamQualityUnverified
  | providerConsistency

structure CanonicalCandidate where
  symbol : Text
  timestamp : DateTime
  interval : Text
  opening : Option ℚ
  high : Option ℚ
  low : Option ℚ
  close : Option ℚ
  volume : Option ℚ
  provider : Option Text
  priceBasis : Option Text
  qualityStatus : Option Text
  ingestionRunId : Text
deriving DecidableEq

def rawUnadjusted : Text := "RAW_UNADJUSTED".toList

def rule (broken : Bool) (name : CanonicalValidationRule) : List CanonicalValidationRule := if broken then [name] else []

-- `high < max(observed_highs)`: some observed value is above it.
def highBroken (candidate : CanonicalCandidate) : Bool :=
  candidate.high.any (fun high =>
    [candidate.opening,candidate.close,candidate.low].any (fun value => value.any (fun value => decide (high < value))))

def lowBroken (candidate : CanonicalCandidate) : Bool :=
  candidate.low.any (fun low =>
    [candidate.opening,candidate.close,candidate.high].any (fun value => value.any (fun value => decide (value < low))))

def qualityRules (qualityStatus : Option Text) : List CanonicalValidationRule :=
  let status := upper (strip (qualityStatus.getD []))
  if status ∈ ["ERROR".toList,"FAIL".toList,"FAILED".toList,"INVALID".toList] then [.upstreamQualityFailed]
  else if status ∉ ["PASS".toList,"SUCCESS".toList] then [.upstreamQualityUnverified]
  else []

def baseValidationRules (candidate : CanonicalCandidate) : List CanonicalValidationRule :=
  rule (candidate.close.all (fun close => decide (close ≤ 0))) .closePositive ++
  rule (highBroken candidate) .highBound ++
  rule (lowBroken candidate) .lowBound ++
  rule (candidate.volume.any (fun volume => decide (volume < 0))) .volumeNonnegative ++
  rule (strip candidate.interval).isEmpty .intervalPresent ++
  rule (candidate.priceBasis != some rawUnadjusted) .priceBasisRawUnadjusted ++
  qualityRules candidate.qualityStatus

def isIndependentlyValidPassingObservation (candidate : CanonicalCandidate) : Bool :=
  candidate.qualityStatus.any (fun status => lower (strip status) ∈ ["pass".toList,"success".toList]) &&
    (baseValidationRules candidate).isEmpty

def ohlcvValues (candidate : CanonicalCandidate) : List (Option ℚ) :=
  [candidate.opening,candidate.high,candidate.low,candidate.close,candidate.volume]

-- An index conflict is left to the precedence of its family.
def conflictRules (candidate : CanonicalCandidate) (conflictingPeers : List CanonicalCandidate) : List CanonicalValidationRule :=
  if isIndexSymbol candidate.symbol then
    let providers := (candidate :: conflictingPeers).filterMap CanonicalCandidate.provider
    match resolveIndexProviderConflict candidate.symbol providers with
    | none => [.providerConsistency]
    | some resolution =>
      match candidate.provider with
      | none => []
      | some provider =>
        if provider.isEmpty then []
        else if names provider resolution.selectedProvider then []
        else rule (resolution.rejectedProviders.any (fun rejected => lower (strip provider) == lower (strip rejected)))
          .providerConsistency
  else [.providerConsistency]

def validateCandidate (candidate : CanonicalCandidate) (peerCandidates : List CanonicalCandidate) :
    List CanonicalValidationRule :=
  let conflictingPeers := peerCandidates.filter (fun peer =>
    isIndependentlyValidPassingObservation peer && peer.provider != candidate.provider &&
      ohlcvValues peer != ohlcvValues candidate)
  baseValidationRules candidate ++ (if conflictingPeers = [] then [] else conflictRules candidate conflictingPeers)

/- A candidate that triggers no rule. -/

-- What holds of every canonical bar.
structure SoundPrices (opening high low close volume : Option ℚ) (priceBasis : Option Text) : Prop where
  closePositive : ∃ price, close = some price ∧ 0 < price
  lowBound : ∀ bottom, low = some bottom → ∀ price, opening = some price ∨ close = some price → bottom ≤ price
  highBound : ∀ top, high = some top → ∀ price, opening = some price ∨ close = some price → price ≤ top
  ordered : ∀ bottom top, low = some bottom → high = some top → bottom ≤ top
  volumeNonnegative : ∀ amount, volume = some amount → 0 ≤ amount
  basis : priceBasis = some rawUnadjusted

theorem rule_nil (none : rule broken name = []) : broken = false := by
  cases broken with
  | false => rfl
  | true => cases none

variable {candidate : CanonicalCandidate}

theorem high_kept (kept : highBroken candidate = false) (high : candidate.high = some top)
    (observed : candidate.opening = some price ∨ candidate.close = some price ∨ candidate.low = some price) : price ≤ top := by
  rw [highBroken,high] at kept
  have none := List.any_eq_false.mp kept (some price) (by
    rcases observed with same | same | same <;> simp [same])
  simpa using none

theorem low_kept (kept : lowBroken candidate = false) (low : candidate.low = some bottom)
    (observed : candidate.opening = some price ∨ candidate.close = some price ∨ candidate.high = some price) : bottom ≤ price := by
  rw [lowBroken,low] at kept
  have none := List.any_eq_false.mp kept (some price) (by
    rcases observed with same | same | same <;> simp [same])
  simpa using none

theorem base_sound (none : baseValidationRules candidate = []) :
    SoundPrices candidate.opening candidate.high candidate.low candidate.close candidate.volume candidate.priceBasis := by
  simp only [baseValidationRules,List.append_eq_nil_iff,and_assoc] at none
  obtain ⟨close,high,low,volume,_,basis,_⟩ := none
  refine ⟨?_,?_,?_,?_,?_,?_⟩
  · have positive := rule_nil close
    cases price : candidate.close with
    | none => simp [price] at positive
    | some price_ => exact ⟨price_,rfl,by simpa [price] using positive⟩
  · intro bottom present price observed
    exact low_kept (rule_nil low) present (observed.imp_right .inl)
  · intro top present price observed
    exact high_kept (rule_nil high) present (observed.imp_right .inl)
  · intro bottom top below above
    exact high_kept (rule_nil high) above (.inr (.inr below))
  · intro amount present
    have kept := rule_nil volume
    simpa [present] using kept
  · simpa using rule_nil basis

theorem valid_sound (none : validateCandidate candidate peers = []) :
    SoundPrices candidate.opening candidate.high candidate.low candidate.close candidate.volume candidate.priceBasis :=
  base_sound (List.append_eq_nil_iff.mp none).1

end OpenStock.Ingestion
