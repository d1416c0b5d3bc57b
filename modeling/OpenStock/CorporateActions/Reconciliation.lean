import OpenStock.CorporateActions.Records

namespace OpenStock.CorporateActions
open Text Calendar Outcomes Queue

/- `corporate_action_reconciliation.py`. A call either returns or raises; a raise
rolls the caller's transaction back. -/

-- What a call takes from outside: `current_timestamp` of its transaction and `uuid.uuid4`.
structure IngestContext where
  now : Int
  uuid : Text

structure IngestCall where
  context : IngestContext
  provider : Text
  requestedSymbol : Text
  record : ActionRecord

inductive IngestOutcome where
  | quarantined
  | unchanged
  | revised
  | canonicalInserted

structure RecordOutcome where
  outcome : IngestOutcome
  rawInserted : Bool
  conflict : Bool := false
  affected : Bool := false

-- The constraint an INSERT broke.
inductive IngestError where
  | quarantineId
  | revisionId
  | revisionNumber
  | signalId
deriving DecidableEq

def supportedActionTypes : List Text :=
  ["CASH_DIVIDEND".toList,"STOCK_DIVIDEND".toList,"STOCK_BONUS".toList,"SPLIT".toList,"CONSOLIDATION".toList,
    "RIGHTS_ISSUE".toList,"REFERENCE_PRICE_ADJUSTMENT".toList,"ADDITIONAL_LISTING".toList,"SYMBOL_CHANGE".toList,
    "DELISTING".toList]

def ratioActions : List Text :=
  ["STOCK_DIVIDEND".toList,"STOCK_BONUS".toList,"SPLIT".toList,"CONSOLIDATION".toList,"RIGHTS_ISSUE".toList]

-- `value or fallback`.
def orText : Option Text → Text → Text
  | some (c :: rest),_ => c :: rest
  | _,fallback => fallback

def given (value : Option Text) : Bool := orText value [] ≠ []

-- `_sha256`
def sha256 [Platform] (parts : List Text) : Text := Platform.hexdigest (['|'].intercalate parts)

-- `_positive`
def positive (value : Option Amount) : Bool := value.any (fun amount => decide (0 < amount.value))

-- `_anchor_date`
def anchorDate (record : ActionRecord) : Option Date :=
  ((record.exDate.or record.effectiveDate).or record.recordDate).or record.announcedAt

def revisionPayload (record : ActionRecord) : Json :=
  let text := fun value : Option Text => value.elim Json.null Json.str
  let day := fun value : Option Date => value.elim Json.null (fun date => .str date.isoformat)
  let amount := fun value : Option Amount => value.elim Json.null (fun amount => .float amount.lexeme)
  .obj [("symbol".toList,text record.symbol),("action_type".toList,text record.actionType),
    ("ex_date".toList,day record.exDate),("record_date".toList,day record.recordDate),
    ("effective_date".toList,day record.effectiveDate),("cash_amount".toList,amount record.cashAmount),
    ("ratio".toList,amount record.ratio),("ratio_text".toList,text record.ratioText),
    ("subscription_price".toList,amount record.subscriptionPrice),
    ("reference_price".toList,amount record.referencePrice),("currency".toList,text record.currency)]

-- `_revision_hash`
def revisionHash [Platform] (record : ActionRecord) : Text := Platform.hexdigest (revisionPayload record).dumps

def rule (broken : Bool) (ruleId : String) : List String := if broken then [ruleId] else []

-- `_validation_rules`
def validationRules (tables : ActionTables) (record : ActionRecord) (requestedSymbol : Text) : List String :=
  let symbol := upper (strip (orText record.symbol requestedSymbol))
  let actionType := orText record.actionType []
  rule (!given record.providerEventId) "MISSING_PROVIDER_EVENT_ID" ++
  rule (!given record.contentHash) "MISSING_CONTENT_HASH" ++
  rule (!given record.sourceReference) "MISSING_SOURCE_REFERENCE" ++
  rule (!given record.sourceVersion) "MISSING_SOURCE_VERSION" ++
  rule (symbol ≠ upper (strip requestedSymbol)) "SYMBOL_MISMATCH" ++
  rule (actionType ∉ supportedActionTypes) "UNSUPPORTED_ACTION_TYPE" ++
  rule (anchorDate record).isNone "MISSING_ACTION_DATE" ++
  rule (actionType = "CASH_DIVIDEND".toList && !positive record.cashAmount) "INVALID_CASH_AMOUNT" ++
  rule (actionType ∈ ratioActions && !positive record.ratio) "INVALID_RATIO" ++
  rule (record.subscriptionPrice.any (fun amount => decide (amount.value < 0))) "INVALID_SUBSCRIPTION_PRICE" ++
  rule (symbol ∉ tables.knownSymbols) "UNKNOWN_SYMBOL_IDENTITY"

namespace IngestCall

def providerEventId (call : IngestCall) : Text := strip (orText call.record.providerEventId [])
def contentHash (call : IngestCall) : Text := strip (orText call.record.contentHash [])
def symbol (call : IngestCall) : Text := upper (orText call.record.symbol call.requestedSymbol)
def actionType (call : IngestCall) : Text := orText call.record.actionType []

def rawEvidenceId [Platform] (call : IngestCall) : Text :=
  sha256 [call.provider,call.providerEventId,call.contentHash]

def rawEvidence [Platform] (call : IngestCall) : RawEvidence :=
  ⟨call.rawEvidenceId,call.provider,call.providerEventId,call.symbol,call.contentHash,call.context.now⟩

end IngestCall

namespace ActionTables

def stored (tables : ActionTables) (rawEvidenceId : Text) : Bool :=
  tables.rawEvidence.any (fun raw => raw.rawEvidenceId = rawEvidenceId)

def addEvidence (tables : ActionTables) (raw : RawEvidence) : ActionTables :=
  {tables with rawEvidence:=tables.rawEvidence ++ [raw]}

def edit (tables : ActionTables) (selects : CorporateAction → Bool) (change : CorporateAction → CorporateAction) :
    ActionTables :=
  {tables with corporateActions:=Rows.updateWhere selects change tables.corporateActions}

def setStatus (tables : ActionTables) (selects : CorporateAction → Bool) (status : CanonicalStatus) : ActionTables :=
  tables.edit selects (fun row => {row with canonicalStatus:=status})

-- `_link_source`: INSERT OR IGNORE.
def linkSource (tables : ActionTables) (link : SourceLink) : ActionTables :=
  if tables.sourceLinks.any (fun other => other.provider = link.provider &&
      other.providerEventId = link.providerEventId && other.rawEvidenceId = link.rawEvidenceId) then tables
  else {tables with sourceLinks:=tables.sourceLinks ++ [link]}

-- The links of one source joined with their evidence.
def linkedEvidence (tables : ActionTables) (provider providerEventId : Text) : List (SourceLink × RawEvidence) :=
  (tables.sourceLinks.filter (fun link => link.provider = provider ∧ link.providerEventId = providerEventId)).flatMap
    (fun link => (tables.rawEvidence.filter (fun raw => raw.rawEvidenceId = link.rawEvidenceId)).map (fun raw => (link,raw)))

end ActionTables

-- `ORDER BY raw.observed_at DESC, link.raw_evidence_id DESC`
def observedLater (left right : SourceLink × RawEvidence) : Bool :=
  right.2.observedAt < left.2.observedAt ||
    (right.2.observedAt = left.2.observedAt && right.1.rawEvidenceId < left.1.rawEvidenceId)

def ActionTables.priorLink (tables : ActionTables) (provider providerEventId : Text) : Option SourceLink :=
  (Rows.firstBy observedLater (tables.linkedEvidence provider providerEventId)).map Prod.fst

-- `canonical_status IN ('ACTIVE', 'CONFLICT')`
def CorporateAction.listed (row : CorporateAction) : Bool :=
  row.canonicalStatus = .active || row.canonicalStatus = .conflict

def ActionTables.active (tables : ActionTables) (actionId : Text) : List CorporateAction :=
  tables.corporateActions.filter (fun row => row.actionId = actionId && row.listed)

-- `_supersede_source_revision`
def supersedeSourceRevision (tables : ActionTables) (priorRevisionId replacementRevisionId : Text) : ActionTables :=
  tables.edit (fun row => row.revisionId = priorRevisionId)
    (fun row => {row with canonicalStatus:=.superseded,supersededByRevisionId:=some replacementRevisionId})

-- `_refresh_current_revision_statuses`
def refreshCurrentRevisionStatuses (tables : ActionTables) (actionId preferredRevisionId : Text) : ActionTables × Bool :=
  let conflict := (tables.active actionId).any (fun row => row.revisionId ≠ preferredRevisionId)
  let preferred := tables.setStatus (fun row => row.revisionId = preferredRevisionId) (if conflict then .conflict else .active)
  (if conflict then
    preferred.setStatus (fun row => row.actionId = actionId && row.revisionId ≠ preferredRevisionId && row.listed) .conflict
  else preferred,conflict)

/- `_insert_affected_range`. -/

-- The outcome rows whose observation window contains the date.
def spans (symbol : Text) (affectedFrom : Date) (row : CandidateOutcome) : Bool :=
  row.symbol = symbol && row.outcomeStatus = .complete &&
    row.observationStartDate.any (fun start => start ≤ affectedFrom) &&
    row.observationEndDate.any (fun finish => affectedFrom ≤ finish)

def invalidated (row : CandidateOutcome) : CandidateOutcome :=
  {row with
    outcomeStatus:=.invalid
    forwardReturn:=none
    benchmarkReturn:=none
    excessReturnVsVnindex:=none
    maxGain:=none
    maxDrawdown:=none
    hit:=none
    failure:=none
    actionOverlapStatus:=.invalid
    invalidationReason:=some .evidenceRevised}

def invalidatedRun (run : EvaluationRun) : EvaluationRun :=
  {run with
    status:=.partial_
    actionOverlapStatus:=.invalid
    error:=some .evidenceRevised}

-- The dates and horizons of the affected rows: the keys aggregates are deleted by.
def aggregateKeys (symbol : Text) (affectedFrom : Date) (tables : OutcomeTables) : List (Date × Int) :=
  (tables.candidateOutcomes.filter (spans symbol affectedFrom)).map
    (fun row => (row.watchlistDate,row.horizonSessions))

def invalidateOutcomes (symbol : Text) (affectedFrom : Date) (tables : OutcomeTables) : OutcomeTables :=
  let keys := aggregateKeys symbol affectedFrom tables
  let evaluationRunIds := (tables.candidateOutcomes.filter (spans symbol affectedFrom)).filterMap
    (fun row => row.evaluationRunId.filter (fun runId => runId ≠ []))
  let kept := fun row : Performance => (row.asOfDate,row.horizonSessions) ∉ keys
  { candidateOutcomes:=Rows.updateWhere (spans symbol affectedFrom) invalidated tables.candidateOutcomes
    watchlistOutcomes:=tables.watchlistOutcomes.filter (fun row => (row.watchlistDate,row.horizonSessions) ∉ keys)
    scoreBuckets:=tables.scoreBuckets.filter kept
    setupTypes:=tables.setupTypes.filter kept
    riskFlags:=tables.riskFlags.filter kept
    evaluationRuns:=Rows.updateWhere (fun run => run.evaluationRunId ∈ evaluationRunIds) invalidatedRun tables.evaluationRuns }

def affectedRange (call : IngestCall) (actionId revisionId : Text) (affectedFrom : Date) (reason : String) : AffectedRange :=
  ⟨call.context.uuid,actionId,revisionId,call.symbol,affectedFrom,none,reason,call.context.now,none,none⟩

def ResearchWarehouse.signalled (warehouse : ResearchWarehouse) (signal : AffectedRange) : ResearchWarehouse :=
  {warehouse with
    actions:={warehouse.actions with affectedRanges:=warehouse.actions.affectedRanges ++ [signal]}
    outcomes:=invalidateOutcomes signal.symbol signal.affectedFromDate warehouse.outcomes}

def insertAffectedRange (signal : AffectedRange) (warehouse : ResearchWarehouse) : Except IngestError ResearchWarehouse :=
  if warehouse.actions.affectedRanges.any (fun other => other.signalId = signal.signalId) then .error .signalId
  else .ok (warehouse.signalled signal)

/- `_ingest_record`. -/

def revisionIdOf [Platform] (actionId revisionHash : Text) : Text := (sha256 [actionId,revisionHash]).take 40

-- The source's action, else one identified by symbol, type and anchor date.
def actionIdOf [Platform] (call : IngestCall) (anchor : Date) (prior : Option Text) : Text :=
  prior.getD ((sha256 [call.symbol,call.actionType,anchor.isoformat]).take 32)

def sourceLink [Platform] (call : IngestCall) (actionId revisionId : Text) : SourceLink :=
  ⟨call.provider,call.providerEventId,call.rawEvidenceId,actionId,revisionId⟩

def quarantine [Platform] (call : IngestCall) (rules : List String) (warehouse : ResearchWarehouse) :
    Except IngestError (ResearchWarehouse × RecordOutcome) :=
  if warehouse.actions.quarantine.any (fun other => other.quarantineId = call.context.uuid) then .error .quarantineId
  else
    let row : Quarantine :=
      ⟨call.context.uuid,call.provider,call.record.providerEventId,call.record.symbol,rules.mergeSort,call.rawEvidenceId⟩
    .ok ({warehouse with actions:={warehouse.actions with quarantine:=warehouse.actions.quarantine ++ [row]}},
      {outcome:=.quarantined,rawInserted:=true})

-- The record repeats a revision the action already has.
def reassert [Platform] (call : IngestCall) (anchor : Date) (prior : Option SourceLink) (actionId : Text)
    (existing : CorporateAction) (warehouse : ResearchWarehouse) : Except IngestError (ResearchWarehouse × RecordOutcome) :=
  let link := sourceLink call actionId existing.revisionId
  match prior with
  | some earlier =>
    if earlier.revisionId ≠ existing.revisionId then do
      let replaced := (supersedeSourceRevision warehouse.actions earlier.revisionId existing.revisionId).linkSource link
      let (refreshed,conflict) := refreshCurrentRevisionStatuses replaced actionId existing.revisionId
      let after ← insertAffectedRange (affectedRange call actionId existing.revisionId anchor "REVISED_ACTION")
        {warehouse with actions:=refreshed}
      return (after,{outcome:=.revised,rawInserted:=true,conflict:=conflict,affected:=true})
    else .ok ({warehouse with actions:=warehouse.actions.linkSource link},{outcome:=.unchanged,rawInserted:=true})
  | none => .ok ({warehouse with actions:=warehouse.actions.linkSource link},{outcome:=.unchanged,rawInserted:=true})

def newRevision [Platform] (call : IngestCall) (anchor : Date) (actionId : Text) (revisionNumber : Nat)
    (status : CanonicalStatus) (supersedes : Option Text) : CorporateAction :=
  { revisionId:=revisionIdOf actionId (revisionHash call.record)
    actionId:=actionId
    revisionNumber:=revisionNumber
    symbol:=call.symbol
    actionType:=call.actionType
    announcedAt:=call.record.announcedAt
    exDate:=call.record.exDate
    recordDate:=call.record.recordDate
    effectiveDate:=call.record.effectiveDate
    cashAmount:=call.record.cashAmount.map Amount.value
    ratio:=call.record.ratio.map Amount.value
    subscriptionPrice:=call.record.subscriptionPrice.map Amount.value
    referencePrice:=call.record.referencePrice.map Amount.value
    revisionHash:=revisionHash call.record
    canonicalStatus:=status
    supersedesRevisionId:=supersedes
    supersededByRevisionId:=none
    affectedFromDate:=some anchor }

def insertAction (row : CorporateAction) (tables : ActionTables) : Except IngestError ActionTables :=
  if tables.corporateActions.any (fun other => other.revisionId = row.revisionId) then .error .revisionId
  else if tables.corporateActions.any (fun other =>
      other.actionId = row.actionId && other.revisionNumber = row.revisionNumber) then .error .revisionNumber
  else .ok {tables with corporateActions:=tables.corporateActions ++ [row]}

-- The current revisions of the action that the source does not leave.
def ActionTables.remaining (tables : ActionTables) (actionId : Text) (supersedes : Option Text) : List CorporateAction :=
  (tables.active actionId).filter (fun row => some row.revisionId ≠ supersedes)

-- The record asserts content the action has not had. The three branches of the
-- source (known source, other source, no current revision) differ in what
-- `supersedes` and `active` hold.
def insertRevision [Platform] (call : IngestCall) (anchor : Date) (prior : Option SourceLink) (actionId : Text)
    (warehouse : ResearchWarehouse) : Except IngestError (ResearchWarehouse × RecordOutcome) := do
  let active := warehouse.actions.active actionId
  let supersedes := prior.map SourceLink.revisionId
  let remaining := warehouse.actions.remaining actionId supersedes
  let latest := (active.map CorporateAction.revisionNumber).foldl max 0
  let status := if remaining.isEmpty then CanonicalStatus.active else .conflict
  let outcome := if prior.isSome then IngestOutcome.revised else .canonicalInserted
  let reason := if prior.isSome then "REVISED_ACTION" else if active.isEmpty then "NEW_ACTION" else "CONFLICT"
  let settled := (warehouse.actions.setStatus (fun row => some row.revisionId = supersedes) .superseded).setStatus
    (fun row => row.revisionId ∈ remaining.map CorporateAction.revisionId) .conflict
  let row := newRevision call anchor actionId (latest + 1) status supersedes
  let inserted ← insertAction row settled
  let replaced := inserted.edit (fun other => some other.revisionId = supersedes)
    (fun other => {other with supersededByRevisionId:=some row.revisionId})
  let after ← insertAffectedRange (affectedRange call actionId row.revisionId anchor reason)
    {warehouse with actions:=replaced.linkSource (sourceLink call actionId row.revisionId)}
  return (after,{outcome:=outcome,rawInserted:=true,conflict:=decide (status = .conflict),affected:=true})

def reconcile [Platform] (call : IngestCall) (anchor : Date) (warehouse : ResearchWarehouse) :
    Except IngestError (ResearchWarehouse × RecordOutcome) :=
  let prior := warehouse.actions.priorLink call.provider call.providerEventId
  let actionId := actionIdOf call anchor (prior.map SourceLink.actionId)
  match warehouse.actions.corporateActions.find?
      (fun row => row.actionId = actionId && row.revisionHash = revisionHash call.record) with
  | some existing => reassert call anchor prior actionId existing warehouse
  | none => insertRevision call anchor prior actionId warehouse

def ingestRecord [Platform] (call : IngestCall) (warehouse : ResearchWarehouse) :
    Except IngestError (ResearchWarehouse × RecordOutcome) :=
  if warehouse.actions.stored call.rawEvidenceId then
    if warehouse.actions.quarantine.any (fun row => row.rawEvidenceId = call.rawEvidenceId) then
      .ok (warehouse,{outcome:=.quarantined,rawInserted:=false})
    else .ok (warehouse,{outcome:=.unchanged,rawInserted:=false})
  else
    let observed := {warehouse with actions:=warehouse.actions.addEvidence call.rawEvidence}
    -- No anchor breaks a rule.
    match validationRules warehouse.actions call.record call.requestedSymbol,anchorDate call.record with
    | [],some anchor => reconcile call anchor observed
    | rules,_ => quarantine call rules observed

end OpenStock.CorporateActions
