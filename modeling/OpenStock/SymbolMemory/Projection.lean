import OpenStock.SymbolMemory.Ingestion

namespace OpenStock.SymbolMemory
open Text Calendar

/- `SelectiveSymbolMemoryProjector`: the claims of a symbol follow what the
warehouse yields for it. -/

inductive EvidenceFamily where
  | taxonomyIdentity
  | candidateState
  | fundamentalState
  | valuationState
  | verifiedEvent
  | observedOutcome
deriving DecidableEq

namespace EvidenceFamily

def claimType : EvidenceFamily → Text
  | taxonomyIdentity => "symbol_identity".toList
  | candidateState => "candidate_state".toList
  | fundamentalState => "fundamental_state".toList
  | valuationState => "valuation_state".toList
  | verifiedEvent => "verified_event".toList
  | observedOutcome => "observed_outcome".toList

def predicate : EvidenceFamily → Text
  | taxonomyIdentity => "taxonomy_identity".toList
  | candidateState => "candidate_classification".toList
  | fundamentalState => "latest_published_fundamentals".toList
  | valuationState => "latest_valuation_context".toList
  | verifiedEvent => "latest_material_official_event".toList
  | observedOutcome => "latest_t20_candidate_outcome".toList

def sourceKind : EvidenceFamily → Text
  | taxonomyIdentity => "symbol_identity".toList
  | candidateState => "candidate_score".toList
  | fundamentalState => "fundamental_fact".toList
  | valuationState => "valuation_snapshot".toList
  | verifiedEvent => "symbol_event".toList
  | observedOutcome => "candidate_outcome".toList

def all : List EvidenceFamily :=
  [taxonomyIdentity,candidateState,fundamentalState,valuationState,verifiedEvent,observedOutcome]

def confidence : EvidenceFamily → Option ℚ
  | taxonomyIdentity => none
  | candidateState => none
  | _ => some 1

theorem claimType_injective {left right : EvidenceFamily} (same : left.claimType = right.claimType) : left = right := by
  revert same
  cases left <;> cases right <;> first | exact fun _ => rfl | (intro same; revert same; decide)

end EvidenceFamily

-- The row that one family of evidence finds: its identifier in the reference,
-- its value and its publication date.
structure Finding where
  identifier : Text
  value : List (Text × Json)
  publishedAt : Option Date

-- What the projector reads: the latest row of each family for a symbol and a
-- date, and the readers that confirm a claim.
structure Warehouse where
  latest : EvidenceFamily → Text → Date → Option Finding
  persisted : PersistedEvidence

def familyEvidence (family : EvidenceFamily) (symbol : Text) (asOfDate : Date) (correlationId : Text) (now : DateTime)
    (finding : Finding) : MemoryEvidence :=
  ⟨symbol,family.claimType,family.predicate,finding.value,family.sourceKind ++ ':' :: finding.identifier,now,asOfDate,
    family.confidence,correlationId,finding.publishedAt⟩

def validatedEvidences (warehouse : Warehouse) (symbol : Text) (asOfDate : Date) (correlationId : Text) (now : DateTime) :
    List MemoryEvidence :=
  EvidenceFamily.all.filterMap (fun family =>
    (warehouse.latest family symbol asOfDate).map (familyEvidence family symbol asOfDate correlationId now))

def invalidSourceRefs (warehouse : Warehouse) (symbol : Text) (claims : List MemoryClaim) : List Text :=
  claims.flatMap (fun claim =>
    match claim.status,claim.asOfDate with
    | .active,some asOfDate => claim.sourceRefs.filter (fun sourceRef =>
        !persistedAnywhere warehouse.persisted (sourceRef.takeWhile (· != ':')) sourceRef symbol asOfDate claim.claimType
          claim.predicate claim.value)
    | _,_ => [])

def semanticallyCurrent (claims : List MemoryClaim) (evidence : MemoryEvidence) : Bool :=
  claims.any (fun claim => claim.status == .active && claim.claimType == evidence.claimType &&
    claim.predicate == evidence.predicate && canonicalValue claim == Json.dumps (.obj evidence.value))

section projection
variable [Digest]

def invalidationReason : Text := "Persisted source evidence is no longer valid.".toList

def invalidationEvent (claim : MemoryClaim) (now : DateTime) : MemoryEvent :=
  ⟨"memory-invalidation-".toList ++ Memory.eventIdentity claim invalidationReason,claim.entity,"SOURCE_INVALIDATED".toList,
    some claim.claimId,"sha256:".toList ++ Memory.eventIdentity claim invalidationReason,some now,some now.date,
    .validatedEvidence,claim.correlationId,now⟩

def invalidateEach (invalid : List Text) (now : DateTime) : List MemoryClaim → Memory → Except MemoryError Memory
  | [],memory => .ok memory
  | claim :: rest,memory =>
    if !claim.sourceRefs.isEmpty && claim.sourceRefs.all (fun sourceRef => invalid.contains sourceRef) then do
      let moved := memory.transition claim.claimId .rejected invalidationReason
      let (noted,_) ← moved.appendEvent (invalidationEvent claim now)
      invalidateEach invalid now rest noted
    else invalidateEach invalid now rest memory

-- What is no longer supported is rejected, what is due expires. The claims of a
-- symbol are those of its entity.
def maintain (warehouse : Warehouse) (symbol : Text) (asOfDate : Date) (now : DateTime) (memory : Memory) : Except MemoryError Memory := do
  let before := memory.listEntityClaims (symbolEntity symbol) [] 1000
  let cleaned ← invalidateEach (invalidSourceRefs warehouse symbol before) now
    (memory.listEntityClaims (symbolEntity symbol) [.active] 100) memory
  match cleaned.expireDueEntityClaims (symbolEntity symbol) asOfDate with
  | (expired,.ok _) => return expired
  | (_,.error refusal) => throw refusal

def ingestEach (warehouse : Warehouse) : List MemoryEvidence → List MemoryClaim → Memory → Except MemoryError Memory
  | [],_,memory => .ok memory
  | evidence :: rest,active,memory =>
    if semanticallyCurrent active evidence then ingestEach warehouse rest active memory
    else do
      let (after,claim) ← ingestEvidence warehouse.persisted memory evidence
      ingestEach warehouse rest (active ++ claim.toList) after

-- One symbol of a run: the symbol as requested, the time, and whether the card
-- was locked, rendered and written.
structure Turn where
  symbol : Text
  now : DateTime
  compacted : Bool

def isUpper (c : Char) : Bool := 'A' ≤ c && c ≤ 'Z'

def normalizeSymbol (value : Text) : Option Text :=
  let symbol := upper (strip value)
  if ["CON".toList,"PRN".toList,"AUX".toList,"NUL".toList].contains symbol ||
      !identifier isUpper (fun c => isUpper c || c.isDigit) 15 symbol ||
      value.any (fun c => c == '/' || c == '\\' || c == ':') then none
  else some symbol

-- One transaction with the writing of the card.
def projectSymbol (warehouse : Warehouse) (symbol : Text) (asOfDate : Date) (correlationId : Text) (turn : Turn) (memory : Memory) :
    Except MemoryError Memory := do
  let evidences := validatedEvidences warehouse symbol asOfDate correlationId turn.now
  if evidences.isEmpty && (memory.listEntityClaims (symbolEntity symbol) [] 1000).isEmpty then return memory
  let maintained ← maintain warehouse symbol asOfDate turn.now memory
  let settled ← ingestEach warehouse evidences (maintained.listEntityClaims (symbolEntity symbol) [.active] 1000) maintained
  if turn.compacted then return settled else throw .compaction

structure ProjectionResult where
  memory : Memory
  processedSymbols : List Text
  failedSymbols : List Text

def projectOne (warehouse : Warehouse) (asOfDate : Date) (correlationId : Text) (result : ProjectionResult) (turn : Turn) : ProjectionResult :=
  match normalizeSymbol turn.symbol with
  | none => {result with failedSymbols:=result.failedSymbols ++ ["INVALID_SYMBOL".toList]}
  | some symbol =>
    match projectSymbol warehouse symbol asOfDate correlationId turn result.memory with
    | .ok memory => {result with memory:=memory,processedSymbols:=result.processedSymbols ++ [symbol]}
    | .error _ => {result with failedSymbols:=result.failedSymbols ++ [symbol]}

def project (warehouse : Warehouse) (asOfDate : Date) (correlationId : Text) (memory : Memory) (turns : List Turn) : ProjectionResult :=
  turns.foldl (projectOne warehouse asOfDate correlationId) ⟨memory,[],[]⟩

end projection

-- For each item of evidence an active claim of its type and predicate says the same.
def Followed (memory : Memory) (warehouse : Warehouse) (symbol : Text) (asOfDate : Date) : Prop :=
  ∀ family finding, warehouse.latest family symbol asOfDate = some finding →
    ∃ claim ∈ memory.claims, claim.status = .active ∧ claim.entity = symbolEntity symbol ∧ claim.claimType = family.claimType ∧
      claim.predicate = family.predicate ∧ canonicalValue claim = Json.dumps (.obj finding.value)

end OpenStock.SymbolMemory
