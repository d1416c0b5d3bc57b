import OpenStock.CorporateActions.Ingested

namespace OpenStock.CorporateActions
open Text Calendar Outcomes Queue

/- `sync_corporate_actions`: one symbol's records from one provider, reconciled in
one transaction. -/

-- The ValueErrors of a response, and their texts.
inductive RefusedResponse where
  | unapprovedSource
  | unexpectedDataset
  | emptyProvider
  | providerMismatch
  | providerQuality
deriving DecidableEq

inductive SyncError where
  | refused (reason : RefusedResponse)
  | rejected (reason : IngestError)

-- `VnstockHTTPError`, or any other `VnstockClientError`.
inductive ClientFailure where
  | http (statusCode : Nat) (body : Text)
  | other

-- Each record with what its processing takes from outside.
structure ProviderResponse where
  dataset : Text
  provider : Text
  qualityStatus : Option Text
  data : List (IngestContext × ActionRecord)

structure SyncRequest where
  symbol : Text
  source : Option Text

inductive SyncStatus where
  | empty
  | complete
  | partial_
  | unsupported
  | failed

structure SyncCounts where
  observed : Nat := 0
  rawInserted : Nat := 0
  canonicalInserted : Nat := 0
  unchanged : Nat := 0
  revised : Nat := 0
  conflicts : Nat := 0
  quarantined : Nat := 0
  affectedRanges : Nat := 0

-- The result of a call; `error` is its text when the provider failed.
structure SyncReport where
  status : SyncStatus
  counts : SyncCounts
  error : Option String := none

def approvedPersistenceSources : List Text :=
  ["KBS".toList,"VCI".toList,"MSN".toList,"DNSE".toList,"TCBS".toList,"FMARKET".toList,"FMP".toList,"FIINQUANTX".toList]

def validatePersistenceSource : Option Text → Except RefusedResponse (Option Text)
  | none => .ok none
  | some source =>
    let normalized := upper (strip source)
    if normalized = [] then .ok none
    else if normalized ∈ approvedPersistenceSources then .ok (some normalized)
    else .error .unapprovedSource

-- The provider a response may be persisted under.
def acceptedProvider (request : SyncRequest) (response : ProviderResponse) : Except RefusedResponse Text := do
  if response.dataset ≠ "reference.corporate_actions".toList then .error .unexpectedDataset
  match ← validatePersistenceSource (some response.provider) with
  | none => .error .emptyProvider
  | some provider =>
    let requestedSource ← validatePersistenceSource request.source
    if requestedSource.any (fun source => provider ≠ source) then .error .providerMismatch
    if upper (strip (orText response.qualityStatus [])) ∉ ["PASS".toList,"SUCCESS".toList] then .error .providerQuality
    return provider

def SyncCounts.count (counts : SyncCounts) (record : RecordOutcome) : SyncCounts :=
  let counted := {counts with
    observed:=counts.observed + 1
    rawInserted:=counts.rawInserted + record.rawInserted.toNat
    conflicts:=counts.conflicts + record.conflict.toNat
    affectedRanges:=counts.affectedRanges + record.affected.toNat}
  match record.outcome with
  | .quarantined => {counted with quarantined:=counts.quarantined + 1}
  | .unchanged => {counted with unchanged:=counts.unchanged + 1}
  | .revised => {counted with revised:=counts.revised + 1}
  | .canonicalInserted => {counted with canonicalInserted:=counts.canonicalInserted + 1}

def SyncCounts.status (counts : SyncCounts) : SyncStatus :=
  if counts.observed = 0 then .empty
  else if counts.quarantined = 0 ∧ counts.conflicts = 0 then .complete
  else .partial_

def lowerChar (c : Char) : Char := if c.isUpper then Char.ofNat (c.toNat + 32) else c

-- `"unsupported" in body.lower()`
def namesUnsupported (body : Text) : Bool := "unsupported".toList <:+: body.map lowerChar

section
variable [Platform]

def ingestBatch (provider symbol : Text) (counts : SyncCounts) (warehouse : ResearchWarehouse) :
    List (IngestContext × ActionRecord) → Except IngestError (ResearchWarehouse × SyncCounts)
  | [] => .ok (warehouse,counts)
  | (context,record) :: rest => do
    let (after,outcome) ← ingestRecord ⟨context,provider,symbol,record⟩ warehouse
    ingestBatch provider symbol (counts.count outcome) after rest

-- A provider failure is reported, anything else raised; both leave the tables alone.
def syncCorporateActions (request : SyncRequest) (response : Except ClientFailure ProviderResponse)
    (warehouse : ResearchWarehouse) : ResearchWarehouse × Except SyncError SyncReport :=
  let symbol := upper (strip request.symbol)
  match response with
  | .error (.http statusCode body) =>
    if statusCode = 404 ∧ namesUnsupported body = true then
      (warehouse,.ok {status:=.unsupported,counts:={},error:=some "Provider does not support corporate actions."})
    else (warehouse,.ok {status:=.failed,counts:={},error:=some "Corporate-action provider request failed."})
  | .error .other => (warehouse,.ok {status:=.failed,counts:={},error:=some "Corporate-action provider request failed."})
  | .ok response =>
    match acceptedProvider request response with
    | .error refused => (warehouse,.error (.refused refused))
    | .ok provider =>
      match ingestBatch provider symbol {} warehouse response.data with
      | .error refused => (warehouse,.error (.rejected refused))
      | .ok (after,counts) => (after,.ok {status:=counts.status,counts:=counts})

/- What every record keeps, a synchronization keeps. -/

variable {holds : ResearchWarehouse → Prop}

theorem batch_preserves
    (preserved : ∀ {call before after outcome}, ingestRecord call before = .ok (after,outcome) → holds before → holds after)
    (initial : holds before) (ran : ingestBatch provider symbol counts before records = .ok (after,total)) : holds after := by
  induction records generalizing before counts with
  | nil =>
    cases ran
    exact initial
  | cons record records ih =>
    obtain ⟨context,record⟩ := record
    obtain ⟨⟨next,outcome⟩,ingested,rest⟩ := bind_ok ran
    exact ih (preserved ingested initial) rest

theorem sync_preserves
    (preserved : ∀ {call before after outcome}, ingestRecord call before = .ok (after,outcome) → holds before → holds after)
    (initial : holds before) (request : SyncRequest) (response : Except ClientFailure ProviderResponse) :
    holds (syncCorporateActions request response before).1 := by
  simp only [syncCorporateActions]
  split
  · split <;> exact initial
  · exact initial
  · split
    · exact initial
    · split
      · exact initial
      · rename_i ran
        exact batch_preserves preserved initial ran

end
end OpenStock.CorporateActions
