import OpenStock.Outcomes.Records
import OpenStock.Queue.Goals

namespace OpenStock.CorporateActions
open Text Calendar Outcomes

/- Provider records and the evidence tables of `corporate_action_schema.py`. -/

-- A JSON number: what `json.dumps` writes back for it, and its value.
structure Amount where
  lexeme : Text
  value : ℚ

-- A record of the provider contract; a missing member reads as None.
structure ActionRecord where
  providerEventId : Option Text
  symbol : Option Text
  actionType : Option Text
  announcedAt : Option Date
  exDate : Option Date
  recordDate : Option Date
  effectiveDate : Option Date
  cashAmount : Option Amount
  ratio : Option Amount
  ratioText : Option Text
  subscriptionPrice : Option Amount
  referencePrice : Option Amount
  currency : Option Text
  sourceReference : Option Text
  sourceVersion : Option Text
  contentHash : Option Text

structure RawEvidence where
  rawEvidenceId : Text
  provider : Text
  providerEventId : Text
  symbol : Text
  contentHash : Text
  observedAt : Int

-- `canonical_status`. Ingestion writes the first three; the adjusted-price
-- builder asks for the last.
inductive CanonicalStatus where
  | active
  | conflict
  | superseded
  | current
deriving DecidableEq

def CanonicalStatus.value : CanonicalStatus → String
  | .active => "ACTIVE"
  | .conflict => "CONFLICT"
  | .superseded => "SUPERSEDED"
  | .current => "CURRENT"

structure CorporateAction where
  revisionId : Text
  actionId : Text
  revisionNumber : Nat
  symbol : Text
  actionType : Text
  announcedAt : Option Date
  exDate : Option Date
  recordDate : Option Date
  effectiveDate : Option Date
  cashAmount : Option ℚ
  ratio : Option ℚ
  subscriptionPrice : Option ℚ
  referencePrice : Option ℚ
  revisionHash : Text
  canonicalStatus : CanonicalStatus
  supersedesRevisionId : Option Text
  supersededByRevisionId : Option Text
  affectedFromDate : Option Date
deriving DecidableEq

-- PRIMARY KEY (provider, provider_event_id, raw_evidence_id)
structure SourceLink where
  provider : Text
  providerEventId : Text
  rawEvidenceId : Text
  actionId : Text
  revisionId : Text

structure Quarantine where
  quarantineId : Text
  provider : Text
  providerEventId : Option Text
  symbol : Option Text
  ruleIds : List String
  rawEvidenceId : Text

structure AffectedRange where
  signalId : Text
  actionId : Text
  revisionId : Text
  symbol : Text
  affectedFromDate : Date
  affectedToDate : Option Date
  reason : String
  createdAt : Int
  resolvedAt : Option Int
  resolutionRef : Option Text
deriving DecidableEq

-- `knownSymbols` is `symbol_master` and `symbol_classification_history` together.
structure ActionTables where
  knownSymbols : List Text
  rawEvidence : List RawEvidence
  corporateActions : List CorporateAction
  sourceLinks : List SourceLink
  quarantine : List Quarantine
  affectedRanges : List AffectedRange

structure ResearchWarehouse where
  actions : ActionTables
  outcomes : OutcomeTables
  canonicalOhlcv : List CanonicalBar

-- `COALESCE(ex_date, effective_date, record_date, affected_from_date)`
def CorporateAction.observedDate (row : CorporateAction) : Option Date :=
  (row.exDate.or row.effectiveDate).or (row.recordDate.or row.affectedFromDate)

end OpenStock.CorporateActions
