import OpenStock.SymbolMemory.Store

namespace OpenStock.SymbolMemory
open Text Calendar

-- `hashlib.sha256(text.encode("utf-8")).hexdigest()`
class Digest where
  hexdigest : Text → Text

-- What an existing active claim does to an arriving one, and it to that: the
-- store so far and the claim as it will be inserted. The reasons are not blank.
def weigh (claim : MemoryClaim) (state : Memory × MemoryClaim) (existing : MemoryClaim) : Memory × MemoryClaim :=
  let memory := state.1
  let accepted := state.2
  if sameEffectiveDate existing claim && decide (claimAuthority existing < claimAuthority claim) then
    (memory.transition existing.claimId .superseded
        ("Superseded by higher-authority claim ".toList ++ claim.claimId ++ ".".toList),
      {accepted with supersedesClaimId:=some existing.claimId})
  else if sameEffectiveDate existing claim && decide (claimAuthority existing = claimAuthority claim) then
    (memory.transition existing.claimId .conflicted
        "Equivalent-authority sources disagree for the same effective date.".toList,
      {accepted with status:=.conflicted,
                     lifecycleReason:=some "Equivalent-authority conflict requires resolution.".toList})
  else if isNewer claim existing && decide (claimAuthority existing ≤ claimAuthority claim) then
    (memory.transition existing.claimId .superseded
        ("Superseded by newer claim ".toList ++ claim.claimId ++ ".".toList),
      {accepted with supersedesClaimId:=some existing.claimId})
  else if claimAuthority claim < claimAuthority existing then
    (memory,{accepted with status:=.superseded,
                           lifecycleReason:=some ("Higher-authority active claim ".toList ++ existing.claimId ++
                             " remains current.".toList)})
  else (memory,accepted)

namespace Memory

def matching (memory : Memory) (claim : MemoryClaim) : List MemoryClaim :=
  (memory.listEntityClaims claim.entity [.active] 100).filter
    (fun existing => existing.predicate == claim.predicate && existing.claimType == claim.claimType)

-- The claim that now stands for the arriving one. No transaction: what was
-- written before a refusal stays.
def accept (memory : Memory) (claim : MemoryClaim) : Memory × Except MemoryError MemoryClaim :=
  match (memory.matching claim).find? (fun existing => equivalent existing claim) with
  | some existing => (memory,.ok existing)
  | none =>
    let settled := (memory.matching claim).foldl (weigh claim) (memory,claim)
    match settled.1.createClaim settled.2 with
    | .ok stored => (stored,.ok settled.2)
    | .error refusal => (settled.1,.error refusal)

-- The others of its key and date that still wait for a resolution.
def unresolved (memory : Memory) (claim : MemoryClaim) : List MemoryClaim :=
  (memory.listEntityClaims claim.entity [.conflicted] 100).filter (fun candidate =>
    candidate.claimId != claim.claimId && candidate.claimType == claim.claimType &&
      candidate.predicate == claim.predicate && candidate.asOfDate == claim.asOfDate)

section correction
variable [digest : Digest]

def eventIdentity (claim : MemoryClaim) (reason : Text) : Text := digest.hexdigest (claim.claimId ++ '|' :: reason)

def correctionEvent (claim : MemoryClaim) (reason : Text) (now : DateTime) : MemoryEvent :=
  ⟨"memory-correction-".toList ++ eventIdentity claim reason,claim.entity,"USER_CORRECTION_RECORDED".toList,
    some claim.claimId,"sha256:".toList ++ eventIdentity claim reason,some now,some now.date,.userCorrection,
    claim.correlationId,now⟩

def resolutionEvent (claim resolved : MemoryClaim) (reason : Text) (now : DateTime) : MemoryEvent :=
  ⟨"memory-conflict-resolution-".toList ++ eventIdentity claim reason,claim.entity,"MEMORY_CONFLICT_RESOLVED".toList,
    some resolved.claimId,"sha256:".toList ++ eventIdentity claim reason,some now,some now.date,.userCorrection,
    claim.correlationId,now⟩

-- `append_event`, where an event already recorded raises.
def record (memory : Memory) (event : MemoryEvent) (refusal : Text) : Except MemoryError Memory :=
  match memory.appendEvent event with
  | .error error => .error error
  | .ok (_,false) => .error (.notRecorded refusal)
  | .ok (after,true) => .ok after

def resolve (memory : Memory) (claim : MemoryClaim) (reason : Text) (now : DateTime) : Except MemoryError Memory :=
  match memory.unresolved claim with
  | [resolved] => do
    let settled ← memory.transitionClaim resolved.claimId .active
      ("Conflict resolved after correction of ".toList ++ claim.claimId ++ ".".toList)
    settled.record (resolutionEvent claim resolved reason now)
      "Memory conflict-resolution audit event was not recorded.".toList
  | _ => .ok memory

-- The body of the transaction.
def corrected (memory : Memory) (claim : MemoryClaim) (reason : Text) (now : DateTime) : Except MemoryError Memory := do
  let rejected ← memory.transitionClaim claim.claimId .rejected reason
  let noted ← rejected.record (correctionEvent claim reason now) "Memory correction audit event was not recorded.".toList
  noted.resolve claim reason now

def correct (memory : Memory) (claimId reason : Text) (now : DateTime) : Memory × Except MemoryError Unit :=
  match memory.getClaim claimId with
  | none => (memory,.error (.unknownClaim claimId))
  | some claim =>
    match memory.corrected claim reason now with
    | .ok after => (after,.ok ())
    | .error refusal => (memory,.error refusal)

end correction

def expireEach (asOfDate : Date) : List MemoryClaim → Memory → List Text → Memory × Except MemoryError (List Text)
  | [],memory,expired => (memory,.ok expired)
  | claim :: rest,memory,expired =>
    match expiryDate claim with
    | .error refusal => (memory,.error refusal)
    | .ok none => expireEach asOfDate rest memory expired
    | .ok (some expiry) =>
      if asOfDate ≤ expiry then expireEach asOfDate rest memory expired
      else expireEach asOfDate rest
        (memory.transition claim.claimId .expired
          ("Expired after ".toList ++ expiry.isoformat ++ " under ".toList ++ claim.claimType ++ " policy.".toList))
        (expired ++ [claim.claimId])

def expireDueEntityClaims (memory : Memory) (entity : MemoryEntity) (asOfDate : Date) : Memory × Except MemoryError (List Text) :=
  expireEach asOfDate (memory.listEntityClaims entity [.active] 100) memory []

end Memory

/- An arriving claim keeps all but its status, its reason and what it supersedes. -/

-- Two versions of one claim.
structure Version (left right : MemoryClaim) : Prop where
  claimId : left.claimId = right.claimId
  key : sameKey left right
  asOfDate : left.asOfDate = right.asOfDate
  authority : claimAuthority left = claimAuthority right
  valid : validateClaim left = validateClaim right

variable (claim : MemoryClaim)

theorem version_refl : Version claim claim := ⟨rfl,⟨rfl,rfl,rfl⟩,rfl,rfl,rfl⟩

theorem version_trans (left : Version first second) (right : Version second third) : Version first third :=
  ⟨left.claimId.trans right.claimId,sameKey_trans left.key right.key,left.asOfDate.trans right.asOfDate,
    left.authority.trans right.authority,left.valid.trans right.valid⟩

theorem weigh_version (state : Memory × MemoryClaim) (existing : MemoryClaim) :
    Version (weigh claim state existing).2 state.2 := by
  unfold weigh
  dsimp only
  repeat' split
  all_goals exact ⟨rfl,⟨rfl,rfl,rfl⟩,rfl,rfl,rfl⟩

theorem settled_kept (listed : List MemoryClaim) (state : Memory × MemoryClaim) :
    Version (listed.foldl (weigh claim) state).2 state.2 := by
  induction listed generalizing state with
  | nil => exact version_refl _
  | cons existing listed ih =>
    exact version_trans (ih (weigh claim state existing)) (weigh_version claim state existing)

end OpenStock.SymbolMemory
