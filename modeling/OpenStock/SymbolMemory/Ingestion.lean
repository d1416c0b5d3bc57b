import OpenStock.SymbolMemory.CurrentClaims

namespace OpenStock.SymbolMemory
open Text Calendar

structure MemoryEvidence where
  symbol : Text
  claimType : Text
  predicate : Text
  value : List (Text × Json)
  sourceRef : Text
  observedAt : DateTime
  asOfDate : Date
  confidence : Option ℚ
  correlationId : Text
  sourcePublishedAt : Option Date

def symbolEntity (symbol : Text) : MemoryEntity := ⟨.symbol,symbol⟩

-- The two readers that confirm a claim against the warehouse: of a source
-- reference, a symbol, a date, a claim type, a predicate and a value.
structure PersistedEvidence where
  hasPersistedEvidence : Text → Text → Date → Text → Text → List (Text × Json) → Bool
  matchesPersistedResearchEvidence : Text → Text → Date → Text → Text → List (Text × Json) → Bool

def researchSourceKinds : List Text :=
  ["fundamental_fact".toList,"valuation_snapshot".toList,"symbol_event".toList,"candidate_outcome".toList]

def trustedEvidenceSourceKinds : List Text :=
  ["candidate_score".toList,"feature_snapshot".toList,"canonical_ohlcv".toList,"fundamental_fact".toList,
   "valuation_snapshot".toList,"symbol_event".toList,"candidate_outcome".toList,
   "research_market_regime_snapshot".toList,"research_symbol_level_snapshot".toList,"research_setup_analysis".toList,
   "research_automation".toList,"symbol_identity".toList]

def untrustedSourceTokens : List Text := ["assistant".toList,"chat".toList,"llm".toList,"model".toList]

-- `re.split(r"[^a-z0-9]+", text)` without the empty pieces.
def sourceTokens (text : Text) : List Text :=
  (text.splitOnP (fun c => !(('a' ≤ c && c ≤ 'z') || ('0' ≤ c && c ≤ '9')))).filter (fun token => !token.isEmpty)

mutual
def containsNumber : Json → Bool
  | .int _ => true
  | .float _ => true
  | .arr items => anyNumber items
  | .obj members => anyMember members
  | _ => false
def anyNumber : List Json → Bool
  | [] => false
  | item :: items => containsNumber item || anyNumber items
def anyMember : List (Text × Json) → Bool
  | [] => false
  | (_,value) :: members => containsNumber value || anyMember members
end

def isString : Option Json → Bool
  | some (.str _) => true
  | _ => false

-- A claim that evidence leads to, under its identity.
def evidenceClaim (evidence : MemoryEvidence) (claimId : Text) : MemoryClaim :=
  { claimId:=claimId
    entity:=symbolEntity evidence.symbol
    claimType:=evidence.claimType
    predicate:=evidence.predicate
    value:=evidence.value
    status:=.active
    pinned:=false
    confidence:=evidence.confidence
    observedAt:=some evidence.observedAt
    asOfDate:=some evidence.asOfDate
    validFrom:=some evidence.asOfDate
    validUntil:=none
    origin:=.validatedEvidence
    sourceRefs:=[evidence.sourceRef]
    correlationId:=evidence.correlationId
    createdAt:=evidence.observedAt
    supersedesClaimId:=none
    lifecycleReason:=none
    sourcePublishedAt:=evidence.sourcePublishedAt }

def persistedAnywhere (readers : PersistedEvidence) (kind sourceRef symbol : Text) (asOfDate : Date) (claimType predicate : Text)
    (value : List (Text × Json)) : Bool :=
  readers.hasPersistedEvidence sourceRef symbol asOfDate claimType predicate value ||
    (researchSourceKinds.contains kind &&
      readers.matchesPersistedResearchEvidence sourceRef symbol asOfDate claimType predicate value)

def validateEvidence (readers : PersistedEvidence) (evidence : MemoryEvidence) : Except MemoryError Unit :=
  let kind := lower (strip (evidence.sourceRef.takeWhile (· != ':')))
  let separated := evidence.sourceRef.contains ':'
  let rest := (evidence.sourceRef.dropWhile (· != ':')).drop 1
  if strip evidence.sourceRef = [] then
    .error (.ingestion "Validated memory evidence requires a source reference.".toList)
  else if (sourceTokens (lower evidence.sourceRef)).any (fun token => untrustedSourceTokens.contains token) then
    .error (.ingestion "Raw assistant or chat content cannot become factual memory evidence.".toList)
  else if !separated || strip rest = [] || !trustedEvidenceSourceKinds.contains kind then
    .error (.ingestion "Memory evidence requires a trusted persisted source kind.".toList)
  else if anyMember evidence.value && (!isString (Json.lookup evidence.value "unit".toList) ||
      !isString (Json.lookup evidence.value "meaning".toList)) then
    .error (.ingestion "Numeric memory evidence requires unit and semantic meaning.".toList)
  else if !persistedAnywhere readers kind evidence.sourceRef evidence.symbol evidence.asOfDate evidence.claimType
      evidence.predicate evidence.value then
    .error (.ingestion "Memory evidence does not match a persisted validated artifact.".toList)
  else if evidence.claimType = [] ∨ evidence.predicate = [] then
    .error (.ingestion "Memory evidence requires a claim type and predicate.".toList)
  else match validateClaim (evidenceClaim evidence "memory-validation".toList) with
  | .error (.validation message) => .error (.ingestion message)
  | .error refusal => .error refusal
  | .ok () => .ok ()

section ingestion
variable [digest : Digest]

def identity (evidence : MemoryEvidence) : Text :=
  digest.hexdigest (Json.dumps (.obj
    [("symbol".toList,.str evidence.symbol),("claim_type".toList,.str evidence.claimType),
     ("predicate".toList,.str evidence.predicate),("value".toList,.obj evidence.value),
     ("source_ref".toList,.str evidence.sourceRef),("as_of_date".toList,.str evidence.asOfDate.isoformat)]))

def evidenceEvent (evidence : MemoryEvidence) : MemoryEvent :=
  ⟨"memory-event-".toList ++ identity evidence,symbolEntity evidence.symbol,"EVIDENCE_OBSERVED".toList,
    some evidence.sourceRef,"sha256:".toList ++ identity evidence,some evidence.observedAt,some evidence.asOfDate,
    .validatedEvidence,evidence.correlationId,evidence.observedAt⟩

def claimOf (evidence : MemoryEvidence) : MemoryClaim := evidenceClaim evidence ("memory-claim-".toList ++ identity evidence)

-- One transaction. Evidence whose event is recorded already leads to no claim.
def ingestEvidence (readers : PersistedEvidence) (memory : Memory) (evidence : MemoryEvidence) :
    Except MemoryError (Memory × Option MemoryClaim) := do
  validateEvidence readers evidence
  match ← memory.appendEvent (evidenceEvent evidence) with
  | (_,false) => return (memory,none)
  | (noted,true) =>
    match noted.accept (claimOf evidence) with
    | (after,.ok accepted) => return (after,some accepted)
    | (_,.error refusal) => throw refusal

end ingestion

/- What an acceptance leaves of other keys, and when the arriving claim becomes active. -/

variable {memory : Memory}

theorem transition_other {row : MemoryClaim} (present : row ∈ memory.claims)
    (differs : row.claimId ≠ claimId) (status : ClaimStatus) (reason : Text) :
    row ∈ (memory.transition claimId status reason).claims :=
  List.mem_map.mpr ⟨row,present,by simp [differs]⟩

variable {claim row : MemoryClaim} {state : Memory × MemoryClaim}

theorem weigh_other (present : row ∈ state.1.claims) (differs : row.claimId ≠ existing.claimId) :
    row ∈ (weigh claim state existing).1.claims := by
  unfold weigh
  dsimp only
  repeat' split
  all_goals first | exact present | exact transition_other present differs _ _

variable {listed : List MemoryClaim}

theorem settled_other (present : row ∈ state.1.claims) (differs : ∀ existing ∈ listed, row.claimId ≠ existing.claimId) :
    row ∈ (listed.foldl (weigh claim) state).1.claims := by
  induction listed generalizing state with
  | nil => exact present
  | cons existing listed ih =>
    exact ih (weigh_other present (differs existing List.mem_cons_self))
      (fun other inside => differs other (List.mem_cons_of_mem _ inside))

-- A row of another key stays as it is.
theorem accept_other (present : row ∈ memory.claims) (other : ¬ sameKey row claim) : row ∈ (memory.accept claim).1.claims := by
  have differs : ∀ existing ∈ memory.matching claim, row.claimId ≠ existing.claimId := by
    intro existing inside same
    obtain ⟨there,_,key⟩ := matching_active inside
    rw [Rows.same_row memory.keyed present there same] at other
    exact other key
  have settled : row ∈ ((memory.matching claim).foldl (weigh claim) (memory,claim)).1.claims := settled_other present differs
  unfold Memory.accept
  split
  · exact present
  · dsimp only
    split
    · rename_i stored made
      rw [(createClaim_ok.mp made).2.2.1]
      exact List.mem_append.mpr (.inl settled)
    · exact settled

theorem settled_value (claim : MemoryClaim) (listed : List MemoryClaim) (state : Memory × MemoryClaim) :
    (listed.foldl (weigh claim) state).2.value = state.2.value := by
  induction listed generalizing state with
  | nil => rfl
  | cons existing listed ih =>
    rw [List.foldl_cons,ih]
    unfold weigh
    dsimp only
    repeat' split
    all_goals rfl

theorem weigh_status {claim existing : MemoryClaim} (prevails : Prevails existing claim) (state : Memory × MemoryClaim) :
    (weigh claim state existing).2.status = state.2.status := by
  unfold weigh
  simp only [Bool.and_eq_true,decide_eq_true_eq,sameEffectiveDate_iff,isNewer_iff]
  split
  · rfl
  · split
    · rename_i equal
      exact absurd equal prevails.2
    · split
      · rfl
      · rw [if_neg (Nat.not_lt.mpr prevails.1)]

theorem settled_status {claim : MemoryClaim} (prevails : ∀ existing ∈ listed, Prevails existing claim)
    (state : Memory × MemoryClaim) : (listed.foldl (weigh claim) state).2.status = state.2.status := by
  induction listed generalizing state with
  | nil => rfl
  | cons existing listed ih =>
    rw [List.foldl_cons,ih (fun other inside => prevails other (List.mem_cons_of_mem _ inside)),
      weigh_status (prevails existing List.mem_cons_self)]

-- An active claim of the same key says the same.
def Held (memory : Memory) (claim : MemoryClaim) : Prop :=
  ∃ row ∈ memory.claims, row.status = .active ∧ sameKey row claim ∧ canonicalValue row = canonicalValue claim

variable {memory after : Memory}

theorem accepted_held {claim stands : MemoryClaim} (arriving : claim.status = .active)
    (accepted : memory.accept claim = (after,.ok stands))
    (prevails : ∀ existing ∈ memory.matching claim, equivalent existing claim = true ∨ Prevails existing claim) :
    Held after claim := by
  unfold Memory.accept at accepted
  cases found : (memory.matching claim).find? (fun existing => equivalent existing claim) with
  | some existing =>
    rw [found] at accepted
    cases accepted
    obtain ⟨there,active,key⟩ := matching_active (List.mem_of_find?_eq_some found)
    have same : equivalent stands claim = true := by simpa using List.find?_some found
    exact ⟨stands,there,active,key,((equivalent_iff _ _).mp same).2.2⟩
  | none =>
    rw [found] at accepted
    dsimp only at accepted
    have wins : ∀ existing ∈ memory.matching claim, Prevails existing claim := by
      intro existing inside
      rcases prevails existing inside with same | wins
      · exact absurd same (List.find?_eq_none.mp found existing inside)
      · exact wins
    have status := settled_status wins (memory,claim)
    have value := settled_value claim (memory.matching claim) (memory,claim)
    have version : Version ((memory.matching claim).foldl (weigh claim) (memory,claim)).2 claim := settled_kept claim _ (memory,claim)
    split at accepted
    · rename_i stored made
      cases accepted
      refine ⟨_,?_,status.trans arriving,version.key,?_⟩
      · rw [(createClaim_ok.mp made).2.2.1]
        exact List.mem_append.mpr (.inr List.mem_cons_self)
      · unfold canonicalValue
        rw [value]
    · cases accepted

theorem accept_key {claim stands : MemoryClaim} (accepted : memory.accept claim = (after,.ok stands)) :
    sameKey stands claim := by
  unfold Memory.accept at accepted
  split at accepted
  · rename_i existing found
    cases accepted
    exact (matching_active (List.mem_of_find?_eq_some found)).2.2
  · dsimp only at accepted
    split at accepted
    · cases accepted
      exact (settled_kept claim _ (memory,claim)).key
    · cases accepted

end OpenStock.SymbolMemory
