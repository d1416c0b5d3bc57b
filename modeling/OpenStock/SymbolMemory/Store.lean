import OpenStock.Foundations.Apart
import OpenStock.SymbolMemory.Claims

namespace OpenStock.SymbolMemory
open Text Calendar

-- The tables `memory_claim`, with its primary key, and `memory_event`.
structure Memory where
  claims : List MemoryClaim
  events : List MemoryEvent
  keyed : Rows.Distinct MemoryClaim.claimId claims

def Memory.empty : Memory := ⟨[],[],List.nodup_nil⟩

-- `_limit`
def limited (limit : Int) : Nat := (max 1 (min limit 500)).toNat

-- `ORDER BY created_at, claim_id`
def created (claim : MemoryClaim) : DateTime ×ₗ Text := toLex (claim.createdAt,claim.claimId)

def createdBefore (left right : MemoryClaim) : Prop := created left ≤ created right

instance : DecidableRel createdBefore := fun left right => inferInstanceAs (Decidable (created left ≤ created right))

def validateClaim (claim : MemoryClaim) : Except MemoryError Unit :=
  if claim.claimId = [] ∨ claim.claimType = [] ∨ claim.predicate = [] then
    .error (.validation "Claim identity fields are required.".toList)
  else if claim.origin = .validatedEvidence ∧ claim.sourceRefs = [] then
    .error (.validation "Validated claims require source references.".toList)
  else if claim.origin = .validatedEvidence ∧ (claim.asOfDate = none ∨ claim.observedAt = none) then
    .error (.validation "Validated claims require observed_at and as_of_date.".toList)
  else if claim.confidence.any (fun confidence => decide (confidence < 0 ∨ 1 < confidence)) then
    .error (.validation "confidence must be between zero and one.".toList)
  else .ok ()

def MemoryClaim.moved (claim : MemoryClaim) (status : ClaimStatus) (reason : Text) : MemoryClaim :=
  {claim with status:=status,lifecycleReason:=some reason}

namespace Memory

-- No statuses stand for all of them.
def entityClaims (memory : Memory) (entity : MemoryEntity) (statuses : List ClaimStatus) : List MemoryClaim :=
  memory.claims.filter (fun claim => claim.entity == entity && (statuses.isEmpty || statuses.contains claim.status))

def listEntityClaims (memory : Memory) (entity : MemoryEntity) (statuses : List ClaimStatus) (limit : Int) : List MemoryClaim :=
  ((memory.entityClaims entity statuses).insertionSort createdBefore).take (limited limit)

def getClaim (memory : Memory) (claimId : Text) : Option MemoryClaim :=
  memory.claims.find? (fun claim => claim.claimId == claimId)

def createClaim (memory : Memory) (claim : MemoryClaim) : Except MemoryError Memory :=
  match validateClaim claim with
  | .error refusal => .error refusal
  | .ok () =>
    if fresh : ∀ row ∈ memory.claims, row.claimId ≠ claim.claimId then
      .ok ⟨memory.claims ++ [claim],memory.events,Rows.append_distinct memory.keyed fresh⟩
    else .error .keyTaken

def transition (memory : Memory) (claimId : Text) (status : ClaimStatus) (reason : Text) : Memory :=
  ⟨Rows.updateWhere (fun row => row.claimId == claimId) (fun row => row.moved status reason) memory.claims,memory.events,
    Rows.updateWhere_distinct (fun _ => rfl) memory.keyed⟩

-- The UPDATE reports how many rows it changed, zero among them: an unknown id
-- raises nothing here.
def transitionClaim (memory : Memory) (claimId : Text) (status : ClaimStatus) (reason : Text) : Except MemoryError Memory :=
  if strip reason = [] then .error .reasonRequired else .ok (memory.transition claimId status reason)

def duplicated (memory : Memory) (event : MemoryEvent) : Bool :=
  memory.events.any (fun row => row.entity == event.entity && row.evidenceRef == event.evidenceRef &&
    row.contentHash == event.contentHash)

-- Whether the event was inserted.
def appendEvent (memory : Memory) (event : MemoryEvent) : Except MemoryError (Memory × Bool) :=
  if memory.duplicated event then .ok (memory,false)
  else if memory.events.any (fun row => row.eventId == event.eventId) then .error .keyTaken
  else .ok (⟨memory.claims,memory.events ++ [event],memory.keyed⟩,true)

end Memory

/- What the statements do to the rows. -/

variable {memory : Memory} {claim : MemoryClaim} {statuses : List ClaimStatus} {entity : MemoryEntity}

theorem mem_entityClaims : claim ∈ memory.entityClaims entity statuses ↔
      claim ∈ memory.claims ∧ claim.entity = entity ∧ (statuses = [] ∨ claim.status ∈ statuses) := by
  simp [Memory.entityClaims]

theorem listed_entity
    (listed : claim ∈ memory.listEntityClaims entity statuses limit) : claim ∈ memory.entityClaims entity statuses := by
  have sorted := List.mem_of_mem_take listed
  exact (List.perm_insertionSort createdBefore _).mem_iff.mp sorted

theorem listed_nodup (memory : Memory) (entity : MemoryEntity) (statuses : List ClaimStatus) (limit : Int) :
    ((memory.listEntityClaims entity statuses limit).map MemoryClaim.claimId).Nodup := by
  have kept : ((memory.entityClaims entity statuses).map MemoryClaim.claimId).Nodup :=
    (List.Sublist.map _ List.filter_sublist).nodup memory.keyed
  have sorted := ((List.perm_insertionSort createdBefore (memory.entityClaims entity statuses)).map MemoryClaim.claimId).nodup_iff.mpr kept
  exact (List.Sublist.map _ (List.take_sublist _ _)).nodup sorted

theorem limited_default : limited 100 = 100 := by decide

-- What is listed when all of it fits, and how much when it does not.
theorem listed_all (few : (memory.entityClaims entity statuses).length ≤ 100) :
    (memory.listEntityClaims entity statuses 100).Perm (memory.entityClaims entity statuses) := by
  unfold Memory.listEntityClaims
  rw [limited_default,List.take_of_length_le (by rw [List.length_insertionSort]; exact few)]
  exact List.perm_insertionSort createdBefore _

theorem listed_length (memory : Memory) (entity : MemoryEntity) (statuses : List ClaimStatus) :
    (memory.listEntityClaims entity statuses 100).length = min 100 (memory.entityClaims entity statuses).length := by
  unfold Memory.listEntityClaims
  rw [List.length_take,List.length_insertionSort,limited_default]

theorem createClaim_ok {memory after : Memory} : memory.createClaim claim = .ok after ↔
      validateClaim claim = .ok () ∧ (∀ row ∈ memory.claims, row.claimId ≠ claim.claimId) ∧
        after.claims = memory.claims ++ [claim] ∧ after.events = memory.events := by
  unfold Memory.createClaim
  cases valid : validateClaim claim with
  | error refusal => simp
  | ok checked =>
    by_cases fresh : ∀ row ∈ memory.claims, row.claimId ≠ claim.claimId
    · simp only [dif_pos fresh,Except.ok.injEq,true_and]
      constructor
      · intro made
        subst made
        exact ⟨fresh,rfl,rfl⟩
      · intro ⟨_,claims,events⟩
        cases after
        simp only at claims events
        subst claims events
        rfl
    · simp [fresh]

theorem mem_transition (present : old ∈ memory.claims) (status : ClaimStatus) (reason : Text) :
    row ∈ (memory.transition old.claimId status reason).claims ↔
      (row ∈ memory.claims ∧ row.claimId ≠ old.claimId) ∨ row = old.moved status reason :=
  Rows.mem_updateKey memory.keyed present

theorem transition_apart (present : old ∈ memory.claims) (status : ClaimStatus) (reason : Text) :
    Rows.Apart MemoryClaim.claimId relates (memory.transition old.claimId status reason).claims ↔
      (∀ left ∈ memory.claims, ∀ right ∈ memory.claims, left.claimId ≠ old.claimId → right.claimId ≠ old.claimId →
        left.claimId ≠ right.claimId → relates left right) ∧ ∀ row ∈ memory.claims, row.claimId ≠ old.claimId →
        relates (old.moved status reason) row ∧ relates row (old.moved status reason) :=
  Rows.apart_update (fun _ => rfl) memory.keyed present

theorem getClaim_some (found : memory.getClaim claimId = some claim) : claim ∈ memory.claims ∧ claim.claimId = claimId :=
  ⟨List.mem_of_find?_eq_some found,by simpa using List.find?_some found⟩

theorem appendEvent_ok {memory after : Memory} (appended : memory.appendEvent event = .ok (after,added)) :
    after.claims = memory.claims := by
  unfold Memory.appendEvent at appended
  split at appended
  · cases appended
    rfl
  · split at appended
    · cases appended
    · cases appended
      rfl

end OpenStock.SymbolMemory
