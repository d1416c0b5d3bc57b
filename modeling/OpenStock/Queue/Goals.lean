import OpenStock.Foundations.Calendar
import OpenStock.Foundations.JsonRoundTrip
import OpenStock.Foundations.Validation

namespace OpenStock.Queue
open Text Calendar Json

inductive ReadinessCapability where
  | priceAnalysis
  | candidateRanking
deriving DecidableEq

inductive GoalType where
  | ensureCurrentSymbol
  | syncDatasetRange
  | finalizeMarketSession
deriving DecidableEq

inductive GoalEnrichment where
  | companyContext
  | sessionContext
  | fundamentalContext
  | officialEventContext
  | shareCountContext
  | flowContext
  | valuationContext
deriving DecidableEq

inductive RefreshMode where
  | cacheFirst
  | forceRefresh
deriving DecidableEq

inductive QueueDataset where
  | indexOhlcv
deriving DecidableEq

inductive QueueEntityType where
  | index
deriving DecidableEq

-- The wire text of every enumeration; reading is by value.
def ReadinessCapability.value : ReadinessCapability → Text
  | .priceAnalysis => "PRICE_ANALYSIS".toList
  | .candidateRanking => "CANDIDATE_RANKING".toList

def GoalType.value : GoalType → Text
  | .ensureCurrentSymbol => "ENSURE_CURRENT_SYMBOL".toList
  | .syncDatasetRange => "SYNC_DATASET_RANGE".toList
  | .finalizeMarketSession => "FINALIZE_MARKET_SESSION".toList

def GoalEnrichment.value : GoalEnrichment → Text
  | .companyContext => "COMPANY_CONTEXT".toList
  | .sessionContext => "SESSION_CONTEXT".toList
  | .fundamentalContext => "FUNDAMENTAL_CONTEXT".toList
  | .officialEventContext => "OFFICIAL_EVENT_CONTEXT".toList
  | .shareCountContext => "SHARE_COUNT_CONTEXT".toList
  | .flowContext => "FLOW_CONTEXT".toList
  | .valuationContext => "VALUATION_CONTEXT".toList

def RefreshMode.value : RefreshMode → Text
  | .cacheFirst => "CACHE_FIRST".toList
  | .forceRefresh => "FORCE_REFRESH".toList

def QueueDataset.value : QueueDataset → Text
  | .indexOhlcv => "index.ohlcv".toList

def QueueEntityType.value : QueueEntityType → Text
  | .index => "index".toList

def byValue (members : List α) (value : α → Text) (text : Text) : Option α :=
  members.find? (fun member => value member == text)

def ReadinessCapability.ofValue : Text → Option ReadinessCapability :=
  byValue [.priceAnalysis,.candidateRanking] value
def GoalEnrichment.ofValue : Text → Option GoalEnrichment :=
  byValue [.companyContext,.sessionContext,.fundamentalContext,.officialEventContext,
    .shareCountContext,.flowContext,.valuationContext] value
def RefreshMode.ofValue : Text → Option RefreshMode := byValue [.cacheFirst,.forceRefresh] value
def QueueDataset.ofValue : Text → Option QueueDataset := byValue [.indexOhlcv] value
def QueueEntityType.ofValue : Text → Option QueueEntityType := byValue [.index] value

def currentGoalSchemaVersion : Int := 1
def maxGoalPayloadBytes : Nat := 4096
def maxDatasetRangeDays : Nat := 366
def supportedSourcePolicyVersion : Text := "policy-v1".toList

def supportedContractVersions : GoalType → Text
  | .ensureCurrentSymbol => "current-symbol-v1".toList
  | .syncDatasetRange => "dataset-range-v1".toList
  | .finalizeMarketSession => "finalization-v1".toList

/- Field validators. Each strips first and answers its own message. -/

def versionTail (c : Char) : Bool := c.isAlphanum || c == '.' || c == '_' || c == '-'
def symbolTail (c : Char) : Bool := c.isUpper || c.isDigit

def versionPattern : Text → Bool := identifier Char.isAlphanum versionTail 63
def symbolPattern : Text → Bool := identifier Char.isUpper symbolTail 9
def entityIdPattern : Text → Bool := identifier Char.isAlphanum versionTail 63

def normalizeVersion (fieldName : String) (value : Text) : Except String Text :=
  let normalized := strip value
  if versionPattern normalized then .ok normalized
  else .error (fieldName ++ " must be a bounded version identifier")

def pinnedTo (supported : Text) (fieldName : String) (normalized : Text) : Except String Text :=
  if normalized = supported then .ok normalized else .error (fieldName ++ " is unsupported")

def normalizeSourcePolicyVersion (value : Text) : Except String Text := do
  let normalized ← normalizeVersion "source_policy_version" value
  pinnedTo supportedSourcePolicyVersion "source_policy_version" normalized

def supportedContractVersion (goalType : GoalType) (fieldName : String) (value : Text) : Except String Text := do
  let normalized ← normalizeVersion fieldName value
  pinnedTo (supportedContractVersions goalType) fieldName normalized

def normalizeSymbol (value : Text) : Except String Text :=
  let normalized := upper (strip value)
  if symbolPattern normalized then .ok normalized
  else .error "symbol must be a valid exchange symbol"

def normalizeEntityId (value : Text) : Except String Text :=
  let normalized := strip value
  if entityIdPattern normalized then .ok normalized
  else .error "entity_id must be a bounded identifier"

def enrichmentBefore (left right : GoalEnrichment) : Prop := left.value ≤ right.value

instance : DecidableRel enrichmentBefore := fun left right => inferInstanceAs (Decidable (left.value ≤ right.value))

-- `tuple(sorted(set(value), key=value))`
def normalizeEnrichments (value : List GoalEnrichment) : Except String (List GoalEnrichment) :=
  .ok (value.dedup.insertionSort enrichmentBefore)

theorem version_clean (matched : versionPattern text = true) : ∀ c ∈ text, isSpace c = false := by
  intro c member
  have allowed : c.isAlphanum = true ∨ versionTail c = true := identifier_members matched c member
  have kinds : c.isAlphanum = true ∨ c = '.' ∨ c = '_' ∨ c = '-' := by
    simp only [versionTail,Bool.or_eq_true,beq_iff_eq] at allowed
    tauto
  rcases kinds with letter | rfl | rfl | rfl
  · exact alphanum_clean letter
  all_goals decide

theorem version_settled (accepted : normalizeVersion name raw = .ok value) : normalizeVersion name value = .ok value := by
  unfold normalizeVersion at accepted
  dsimp only at accepted
  split at accepted
  · rename_i matched
    cases accepted
    have clean := strip_clean (version_clean matched)
    simp [normalizeVersion,clean,matched]
  · cases accepted

theorem pinned_settled {check : Text → Except String Text}
    (settled : ∀ {raw value}, check raw = .ok value → check value = .ok value)
    (accepted : (check raw >>= pinnedTo supported name) = .ok value) :
    (check value >>= pinnedTo supported name) = .ok value := by
  cases checked : check raw with
  | error refused =>
    rw [checked] at accepted
    cases accepted
  | ok normalized =>
    have pinned : pinnedTo supported name normalized = .ok value := by rwa [checked] at accepted
    have same : normalized = value := by
      unfold pinnedTo at pinned
      split at pinned
      · exact Except.ok.inj pinned
      · cases pinned
    subst same
    rw [settled checked]
    exact pinned

theorem symbol_settled (accepted : normalizeSymbol raw = .ok value) : normalizeSymbol value = .ok value := by
  unfold normalizeSymbol at accepted
  dsimp only at accepted
  split at accepted
  · rename_i matched
    cases accepted
    have plain : ∀ c ∈ upper (strip raw), c.isUpper = true ∨ c.isDigit = true := by
      intro c member
      have allowed : c.isUpper = true ∨ symbolTail c = true := identifier_members matched c member
      simp only [symbolTail,Bool.or_eq_true] at allowed
      tauto
    have clean : ∀ c ∈ upper (strip raw), isSpace c = false := by
      intro c member
      apply alphanum_clean
      rcases plain c member with letter | digit
      · exact alphanum_cases.mpr (.inl (.inl letter))
      · exact alphanum_cases.mpr (.inr digit)
    have kept := upper_fixed (fun c member => upperChar_fixed (plain c member))
    simp [normalizeSymbol,strip_clean clean,kept,matched]
  · cases accepted

theorem entityId_settled (accepted : normalizeEntityId raw = .ok value) : normalizeEntityId value = .ok value := by
  unfold normalizeEntityId at accepted
  dsimp only at accepted
  split at accepted
  · rename_i matched
    cases accepted
    have clean := strip_clean (version_clean matched)
    simp [normalizeEntityId,clean,matched]
  · cases accepted

instance : IsTrans GoalEnrichment enrichmentBefore := ⟨fun _ _ _ first second => le_trans (α := Text) first second⟩
instance : Std.Total enrichmentBefore := ⟨fun left right => le_total (α := Text) left.value right.value⟩

theorem enrichments_settled (accepted : normalizeEnrichments raw = .ok value) : normalizeEnrichments value = .ok value := by
  cases accepted
  have sorted := List.pairwise_insertionSort enrichmentBefore raw.dedup
  have distinct : (raw.dedup.insertionSort enrichmentBefore).Nodup :=
    (List.perm_insertionSort enrichmentBefore raw.dedup).nodup_iff.mpr raw.nodup_dedup
  rw [normalizeEnrichments,distinct.dedup,sorted.insertionSort_eq]

def sourcePolicyField : Normalizer Text :=
  ⟨normalizeSourcePolicyVersion,pinned_settled version_settled⟩
def contractField (goalType : GoalType) (fieldName : String) : Normalizer Text :=
  ⟨supportedContractVersion goalType fieldName,pinned_settled version_settled⟩
def symbolField : Normalizer Text := ⟨normalizeSymbol,symbol_settled⟩
def entityIdField : Normalizer Text := ⟨normalizeEntityId,entityId_settled⟩
def requiredTextField : Normalizer Text := ⟨normalizeVersion "goal identity field",version_settled⟩
def enrichmentsField : Normalizer (List GoalEnrichment) := ⟨normalizeEnrichments,enrichments_settled⟩

/- The three goal models. A value holds only validated fields. -/

-- `allowed_fallback` must be a lower readiness capability.
def fallbackAllowed (desired : ReadinessCapability) : Option ReadinessCapability → Bool
  | none => true
  | some fallback => desired == .candidateRanking && fallback == .priceAnalysis

structure EnsureCurrentSymbolGoal where
  sourcePolicyVersion : sourcePolicyField.Admitted
  symbol : symbolField.Admitted
  effectiveDate : Date
  desiredCapability : ReadinessCapability
  allowedFallback : Option ReadinessCapability
  requestedEnrichments : enrichmentsField.Admitted
  refreshMode : RefreshMode
  contractVersion : (contractField .ensureCurrentSymbol "contract_version").Admitted
  fallback : fallbackAllowed desiredCapability allowedFallback = true
deriving DecidableEq

def dateRangeError (startDate endDate : Date) : Option String :=
  if startDate.after endDate then some "start_date must not be after end_date"
  else if endDate.toOrdinal - startDate.toOrdinal > maxDatasetRangeDays then
    some "dataset range exceeds the maximum allowed duration"
  else none

structure SyncDatasetRangeGoal where
  sourcePolicyVersion : sourcePolicyField.Admitted
  dataset : QueueDataset
  entityType : QueueEntityType
  entityId : entityIdField.Admitted
  startDate : Date
  endDate : Date
  refreshMode : RefreshMode
  contractVersion : (contractField .syncDatasetRange "contract_version").Admitted
  range : dateRangeError startDate endDate = none
deriving DecidableEq

structure FinalizeMarketSessionGoal where
  sourcePolicyVersion : sourcePolicyField.Admitted
  maintenanceRunId : requiredTextField.Admitted
  resolvedSession : Date
  frozenUniverseHash : requiredTextField.Admitted
  finalizationContractVersion : (contractField .finalizeMarketSession "finalization_contract_version").Admitted
deriving DecidableEq

inductive ProvisioningGoal where
  | ensureCurrentSymbol (goal : EnsureCurrentSymbolGoal)
  | syncDatasetRange (goal : SyncDatasetRangeGoal)
  | finalizeMarketSession (goal : FinalizeMarketSessionGoal)
deriving DecidableEq

-- The model constructors. Pydantic reports every failing field; the first
-- message stands for the whole report here.
def mkEnsureCurrentSymbolGoal (sourcePolicyVersion symbol : Text) (effectiveDate : Date)
    (desiredCapability : ReadinessCapability) (allowedFallback : Option ReadinessCapability)
    (requestedEnrichments : List GoalEnrichment) (refreshMode : RefreshMode) (contractVersion : Text) :
    Except String EnsureCurrentSymbolGoal := do
  let sourcePolicyVersion ← sourcePolicyField.validate sourcePolicyVersion
  let symbol ← symbolField.validate symbol
  let requestedEnrichments ← enrichmentsField.validate requestedEnrichments
  let contractVersion ← (contractField .ensureCurrentSymbol "contract_version").validate contractVersion
  if fallback : fallbackAllowed desiredCapability allowedFallback = true then
    .ok ⟨sourcePolicyVersion,symbol,effectiveDate,desiredCapability,allowedFallback,
      requestedEnrichments,refreshMode,contractVersion,fallback⟩
  else .error "allowed_fallback must be a lower readiness capability"

def mkSyncDatasetRangeGoal (sourcePolicyVersion : Text) (dataset : QueueDataset)
    (entityType : QueueEntityType) (entityId : Text) (startDate endDate : Date)
    (refreshMode : RefreshMode) (contractVersion : Text) : Except String SyncDatasetRangeGoal := do
  let sourcePolicyVersion ← sourcePolicyField.validate sourcePolicyVersion
  let entityId ← entityIdField.validate entityId
  let contractVersion ← (contractField .syncDatasetRange "contract_version").validate contractVersion
  match range : dateRangeError startDate endDate with
  | some message => .error message
  | none => .ok ⟨sourcePolicyVersion,dataset,entityType,entityId,startDate,endDate,refreshMode,contractVersion,range⟩

def mkFinalizeMarketSessionGoal (sourcePolicyVersion maintenanceRunId : Text) (resolvedSession : Date)
    (frozenUniverseHash finalizationContractVersion : Text) : Except String FinalizeMarketSessionGoal := do
  let sourcePolicyVersion ← sourcePolicyField.validate sourcePolicyVersion
  let maintenanceRunId ← requiredTextField.validate maintenanceRunId
  let frozenUniverseHash ← requiredTextField.validate frozenUniverseHash
  let finalizationContractVersion ←
    (contractField .finalizeMarketSession "finalization_contract_version").validate finalizationContractVersion
  .ok ⟨sourcePolicyVersion,maintenanceRunId,resolvedSession,frozenUniverseHash,finalizationContractVersion⟩

def goalType : ProvisioningGoal → GoalType
  | .ensureCurrentSymbol _ => .ensureCurrentSymbol
  | .syncDatasetRange _ => .syncDatasetRange
  | .finalizeMarketSession _ => .finalizeMarketSession

/- Encoding. -/

def member (name : String) (value : Json) : Text × Json := (name.toList,value)

def fallbackJson : Option ReadinessCapability → Json
  | none => .null
  | some fallback => .str fallback.value

-- `model_dump(mode="json")`, inherited fields first.
def EnsureCurrentSymbolGoal.modelDump (goal : EnsureCurrentSymbolGoal) : List (Text × Json) :=
  [member "source_policy_version" (.str goal.sourcePolicyVersion.val),
    member "goal_type" (.str GoalType.ensureCurrentSymbol.value),
    member "schema_version" (.int currentGoalSchemaVersion),
    member "symbol" (.str goal.symbol.val),
    member "effective_date" (.str goal.effectiveDate.isoformat),
    member "desired_capability" (.str goal.desiredCapability.value),
    member "allowed_fallback" (fallbackJson goal.allowedFallback),
    member "requested_enrichments" (.arr (goal.requestedEnrichments.val.map (fun enrichment => .str enrichment.value))),
    member "refresh_mode" (.str goal.refreshMode.value),
    member "contract_version" (.str goal.contractVersion.val)]

def SyncDatasetRangeGoal.modelDump (goal : SyncDatasetRangeGoal) : List (Text × Json) :=
  [member "source_policy_version" (.str goal.sourcePolicyVersion.val),
    member "goal_type" (.str GoalType.syncDatasetRange.value),
    member "schema_version" (.int currentGoalSchemaVersion),
    member "dataset" (.str goal.dataset.value),
    member "entity_type" (.str goal.entityType.value),
    member "entity_id" (.str goal.entityId.val),
    member "start_date" (.str goal.startDate.isoformat),
    member "end_date" (.str goal.endDate.isoformat),
    member "refresh_mode" (.str goal.refreshMode.value),
    member "contract_version" (.str goal.contractVersion.val)]

def FinalizeMarketSessionGoal.modelDump (goal : FinalizeMarketSessionGoal) : List (Text × Json) :=
  [member "source_policy_version" (.str goal.sourcePolicyVersion.val),
    member "goal_type" (.str GoalType.finalizeMarketSession.value),
    member "schema_version" (.int currentGoalSchemaVersion),
    member "maintenance_run_id" (.str goal.maintenanceRunId.val),
    member "resolved_session" (.str goal.resolvedSession.isoformat),
    member "frozen_universe_hash" (.str goal.frozenUniverseHash.val),
    member "finalization_contract_version" (.str goal.finalizationContractVersion.val)]

def ProvisioningGoal.modelDump : ProvisioningGoal → List (Text × Json)
  | .ensureCurrentSymbol goal => goal.modelDump
  | .syncDatasetRange goal => goal.modelDump
  | .finalizeMarketSession goal => goal.modelDump

def ProvisioningGoal.payloadJson (goal : ProvisioningGoal) : Text := dumps (.obj goal.modelDump)

-- What the queue uses of hashlib and of Pydantic: `sha256(...).hexdigest()` of a
-- payload text, of which nothing is assumed, and the reading of a date text. The
-- latter accepts more than the calendar form (a Unix timestamp, say); that form
-- is all the queue itself writes.
class Platform where
  hexdigest : Text → Text
  readDate : Text → Option Date
  readDate_isoformat : ∀ date : Date, readDate date.isoformat = some date

def goalIdentity [Platform] (goal : ProvisioningGoal) : Text := Platform.hexdigest goal.payloadJson

/- Decoding. -/

structure InvalidProvisioningGoalError where
  reason : String

def rejectDuplicateKeys (pairs : List (Text × Json)) : Option (List (Text × Json)) :=
  pairs.foldlM (fun result pair =>
    if result.any (fun earlier => earlier.1 == pair.1) then none else some (result ++ [pair])) []

-- Pydantic's strict readers for the field types of the three models.
def strictStr : Json → Option Text
  | .str value => some value
  | _ => none

def strictDate [Platform] (value : Json) : Option Date := (strictStr value).bind Platform.readDate

def strictEnum (ofValue : Text → Option α) (value : Json) : Option α := (strictStr value).bind ofValue

def nullable (read : Json → Option α) : Json → Option (Option α)
  | .null => some none
  | value => (read value).map some

def tupleOf (read : Json → Option α) : Json → Option (List α)
  | .arr items => items.mapM read
  | _ => none

def required (members : List (Text × Json)) (name : String) (read : Json → Option α) : Option α :=
  (lookup members name.toList).bind read

def defaulted (members : List (Text × Json)) (name : String) (default : α) (read : Json → Option α) : Option α :=
  match lookup members name.toList with
  | none => some default
  | some value => read value

def literalSchemaVersion : Json → Option Unit
  | .int version => if version = currentGoalSchemaVersion then some () else none
  | _ => none

-- `extra="forbid"`
def forbidExtra (members : List (Text × Json)) (names : List String) : Option Unit :=
  if members.all (fun member => names.any (fun name => name.toList == member.1)) then some () else none

def ensureCurrentSymbolFields : List String :=
  ["source_policy_version","goal_type","schema_version","symbol","effective_date","desired_capability",
    "allowed_fallback","requested_enrichments","refresh_mode","contract_version"]

def syncDatasetRangeFields : List String :=
  ["source_policy_version","goal_type","schema_version","dataset","entity_type","entity_id","start_date",
    "end_date","refresh_mode","contract_version"]

def finalizeMarketSessionFields : List String :=
  ["source_policy_version","goal_type","schema_version","maintenance_run_id","resolved_session",
    "frozen_universe_hash","finalization_contract_version"]

def readEnsureCurrentSymbol [Platform] (members : List (Text × Json)) : Option EnsureCurrentSymbolGoal := do
  forbidExtra members ensureCurrentSymbolFields
  let sourcePolicyVersion ← required members "source_policy_version" strictStr
  defaulted members "schema_version" () literalSchemaVersion
  let symbol ← required members "symbol" strictStr
  let effectiveDate ← required members "effective_date" strictDate
  let desiredCapability ← required members "desired_capability" (strictEnum ReadinessCapability.ofValue)
  let allowedFallback ← defaulted members "allowed_fallback" none (nullable (strictEnum ReadinessCapability.ofValue))
  let requestedEnrichments ← defaulted members "requested_enrichments" [] (tupleOf (strictEnum GoalEnrichment.ofValue))
  let refreshMode ← defaulted members "refresh_mode" .cacheFirst (strictEnum RefreshMode.ofValue)
  let contractVersion ← required members "contract_version" strictStr
  (mkEnsureCurrentSymbolGoal sourcePolicyVersion symbol effectiveDate desiredCapability allowedFallback
    requestedEnrichments refreshMode contractVersion).toOption

def readSyncDatasetRange [Platform] (members : List (Text × Json)) : Option SyncDatasetRangeGoal := do
  forbidExtra members syncDatasetRangeFields
  let sourcePolicyVersion ← required members "source_policy_version" strictStr
  defaulted members "schema_version" () literalSchemaVersion
  let dataset ← required members "dataset" (strictEnum QueueDataset.ofValue)
  let entityType ← required members "entity_type" (strictEnum QueueEntityType.ofValue)
  let entityId ← required members "entity_id" strictStr
  let startDate ← required members "start_date" strictDate
  let endDate ← required members "end_date" strictDate
  let refreshMode ← defaulted members "refresh_mode" .cacheFirst (strictEnum RefreshMode.ofValue)
  let contractVersion ← required members "contract_version" strictStr
  (mkSyncDatasetRangeGoal sourcePolicyVersion dataset entityType entityId startDate endDate
    refreshMode contractVersion).toOption

def readFinalizeMarketSession [Platform] (members : List (Text × Json)) : Option FinalizeMarketSessionGoal := do
  forbidExtra members finalizeMarketSessionFields
  let sourcePolicyVersion ← required members "source_policy_version" strictStr
  defaulted members "schema_version" () literalSchemaVersion
  let maintenanceRunId ← required members "maintenance_run_id" strictStr
  let resolvedSession ← required members "resolved_session" strictDate
  let frozenUniverseHash ← required members "frozen_universe_hash" strictStr
  let finalizationContractVersion ← required members "finalization_contract_version" strictStr
  (mkFinalizeMarketSessionGoal sourcePolicyVersion maintenanceRunId resolvedSession frozenUniverseHash
    finalizationContractVersion).toOption

-- `TypeAdapter.validate_json(..., strict=True)` of the union discriminated by
-- `goal_type`. The text has no duplicate member here, so Pydantic's own decoder
-- reads the value `json.loads` read.
def validateJson [Platform] (members : List (Text × Json)) : Option ProvisioningGoal := do
  let discriminator ← required members "goal_type" strictStr
  if discriminator = GoalType.ensureCurrentSymbol.value then
    (readEnsureCurrentSymbol members).map .ensureCurrentSymbol
  else if discriminator = GoalType.syncDatasetRange.value then
    (readSyncDatasetRange members).map .syncDatasetRange
  else if discriminator = GoalType.finalizeMarketSession.value then
    (readFinalizeMarketSession members).map .finalizeMarketSession
  else none

-- The schema version is required and must be the integer itself: `true` and
-- `1.0` equal it in Python and are refused by their type.
def schemaVersionSupported (members : List (Text × Json)) : Option Unit :=
  required members "schema_version" literalSchemaVersion

def parseGoalPayload [Platform] (payloadJson : Text) : Except InvalidProvisioningGoalError ProvisioningGoal :=
  let parsed : Option ProvisioningGoal :=
    if encodedLength payloadJson > maxGoalPayloadBytes then none
    else match loads rejectDuplicateKeys payloadJson with
      | some (.obj members) => (schemaVersionSupported members).bind (fun _ => validateJson members)
      | _ => none
  match parsed with
  | some goal => .ok goal
  | none => .error ⟨"invalid provisioning goal payload"⟩

end OpenStock.Queue
