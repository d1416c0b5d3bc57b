import OpenStock.CorporateActions.Reconciliation

namespace OpenStock.CorporateActions
open Text Calendar Outcomes Queue

section
variable [Platform]

/- What a call that returns has done. -/

def IngestCall.prior (call : IngestCall) (tables : ActionTables) : Option SourceLink :=
  tables.priorLink call.provider call.providerEventId

def IngestCall.actionId (call : IngestCall) (anchor : Date) (tables : ActionTables) : Text :=
  actionIdOf call anchor ((call.prior tables).map SourceLink.actionId)

def IngestCall.existing (call : IngestCall) (anchor : Date) (tables : ActionTables) : Option CorporateAction :=
  tables.corporateActions.find?
    (fun row => row.actionId = call.actionId anchor tables && row.revisionHash = revisionHash call.record)

def ResearchWarehouse.observed (warehouse : ResearchWarehouse) (call : IngestCall) : ResearchWarehouse :=
  {warehouse with actions:=warehouse.actions.addEvidence call.rawEvidence}

-- No rule rejects the record, which then has an anchor date.
structure Accepted (call : IngestCall) (anchor : Date) (before : ResearchWarehouse) : Prop where
  fresh : before.actions.stored call.rawEvidenceId = false
  valid : validationRules before.actions call.record call.requestedSymbol = []
  anchored : anchorDate call.record = some anchor

-- The tables once the source has left its earlier revision for one the action has.
def returned (call : IngestCall) (actionId earlier revisionId : Text) (tables : ActionTables) : ActionTables :=
  (refreshCurrentRevisionStatuses
    ((supersedeSourceRevision tables earlier revisionId).linkSource (sourceLink call actionId revisionId))
    actionId revisionId).1

-- The tables once a new revision stands beside those that remain.
def settled (tables : ActionTables) (actionId : Text) (supersedes : Option Text) : ActionTables :=
  (tables.setStatus (fun row => some row.revisionId = supersedes) .superseded).setStatus
    (fun row => row.revisionId ∈ (tables.remaining actionId supersedes).map CorporateAction.revisionId) .conflict

def revised (call : IngestCall) (row : CorporateAction) (supersedes : Option Text) (tables : ActionTables) : ActionTables :=
  ({settled tables row.actionId supersedes with
      corporateActions:=(settled tables row.actionId supersedes).corporateActions ++ [row]}.edit
    (fun other => some other.revisionId = supersedes)
    (fun other => {other with supersededByRevisionId:=some row.revisionId})).linkSource
      (sourceLink call row.actionId row.revisionId)

inductive Ingested (call : IngestCall) (before : ResearchWarehouse) : ResearchWarehouse → Prop where
  | seen (stored : before.actions.stored call.rawEvidenceId = true) : Ingested call before before
  | quarantined (rows : List Quarantine) (fresh : before.actions.stored call.rawEvidenceId = false)
      (rejected : validationRules before.actions call.record call.requestedSymbol ≠ []) :
      Ingested call before
        {before.observed call with actions:={(before.observed call).actions with quarantine:=rows}}
  | repeated (accepted : Accepted call anchor before)
      (found : call.existing anchor (before.observed call).actions = some existing)
      (same : ∀ link, call.prior (before.observed call).actions = some link → link.revisionId = existing.revisionId) :
      Ingested call before
        {before.observed call with
          actions:=(before.observed call).actions.linkSource (sourceLink call
            (call.actionId anchor (before.observed call).actions) existing.revisionId)}
  | returned (accepted : Accepted call anchor before)
      (found : call.existing anchor (before.observed call).actions = some existing)
      (prior : call.prior (before.observed call).actions = some link)
      (left : link.revisionId ≠ existing.revisionId) (reason : String) :
      Ingested call before
        ({before.observed call with
          actions:=returned call (call.actionId anchor (before.observed call).actions) link.revisionId
            existing.revisionId (before.observed call).actions}.signalled
          (affectedRange call (call.actionId anchor (before.observed call).actions) existing.revisionId anchor reason))
  | revised (accepted : Accepted call anchor before)
      (absent : call.existing anchor (before.observed call).actions = none)
      (row : CorporateAction)
      (built : row = newRevision call anchor (call.actionId anchor (before.observed call).actions) revisionNumber
        (if ((before.observed call).actions.remaining (call.actionId anchor (before.observed call).actions)
          ((call.prior (before.observed call).actions).map SourceLink.revisionId)).isEmpty then .active else .conflict)
        ((call.prior (before.observed call).actions).map SourceLink.revisionId))
      (fresh : ∀ other ∈ before.actions.corporateActions, other.revisionId ≠ row.revisionId) (reason : String) :
      Ingested call before
        ({before.observed call with
          actions:=revised call row ((call.prior (before.observed call).actions).map SourceLink.revisionId)
            (before.observed call).actions}.signalled
          (affectedRange call row.actionId row.revisionId anchor reason))

end

/- A row once written changes its status and its successor only. -/

def CorporateAction.content (row : CorporateAction) : CorporateAction :=
  {row with canonicalStatus:=.active,supersededByRevisionId:=none}

def ActionTables.contents (tables : ActionTables) : List CorporateAction :=
  tables.corporateActions.map CorporateAction.content

theorem edit_contents {tables : ActionTables} (kept : ∀ row, (change row).content = row.content) :
    (tables.edit selects change).contents = tables.contents := by
  simp only [ActionTables.contents,ActionTables.edit,Rows.updateWhere,List.map_map]
  apply List.map_congr_left
  intro row _
  by_cases met : selects row = true <;> simp [met,kept]

theorem setStatus_contents (tables : ActionTables) (selects : CorporateAction → Bool) (status : CanonicalStatus) :
    (tables.setStatus selects status).contents = tables.contents :=
  edit_contents (fun _ => rfl)

theorem linkSource_contents (tables : ActionTables) (link : SourceLink) : (tables.linkSource link).contents = tables.contents := by
  unfold ActionTables.linkSource
  split <;> rfl

theorem settled_contents (tables : ActionTables) (actionId : Text) (supersedes : Option Text) :
    (settled tables actionId supersedes).contents = tables.contents := by
  unfold settled
  rw [setStatus_contents,setStatus_contents]

theorem refresh_contents (tables : ActionTables) (actionId revisionId : Text) :
    (refreshCurrentRevisionStatuses tables actionId revisionId).1.contents = tables.contents := by
  simp only [refreshCurrentRevisionStatuses]
  split
  · rw [setStatus_contents,setStatus_contents]
  · rw [setStatus_contents]

theorem linkSource_ranges (tables : ActionTables) (link : SourceLink) :
    (tables.linkSource link).affectedRanges = tables.affectedRanges := by
  unfold ActionTables.linkSource
  split <;> rfl

theorem refresh_ranges (tables : ActionTables) (actionId revisionId : Text) :
    (refreshCurrentRevisionStatuses tables actionId revisionId).1.affectedRanges = tables.affectedRanges := by
  simp only [refreshCurrentRevisionStatuses]
  split <;> rfl

theorem supersede_contents (tables : ActionTables) (priorRevisionId replacementRevisionId : Text) :
    (supersedeSourceRevision tables priorRevisionId replacementRevisionId).contents = tables.contents :=
  edit_contents (fun _ => rfl)

theorem contents_ids (tables : ActionTables) :
    tables.contents.map CorporateAction.revisionId = tables.corporateActions.map CorporateAction.revisionId := by
  rw [ActionTables.contents,List.map_map]
  rfl

theorem rule_nil : rule broken ruleId = [] ↔ broken = false := by
  cases broken <;> simp [rule]

theorem insertAffectedRange_ok (ran : insertAffectedRange signal before = .ok after) : after = before.signalled signal := by
  unfold insertAffectedRange at ran
  split at ran
  · cases ran
  · cases ran
    rfl

theorem insertAction_ok (ran : insertAction row tables = .ok result) :
    (∀ other ∈ tables.corporateActions, other.revisionId ≠ row.revisionId) ∧
      result = {tables with corporateActions:=tables.corporateActions ++ [row]} := by
  unfold insertAction at ran
  split at ran
  · cases ran
  · rename_i absent
    split at ran
    · cases ran
    · cases ran
      refine ⟨?_,rfl⟩
      intro other inside same
      exact absent (List.any_eq_true.mpr ⟨other,inside,by simpa using same⟩)

theorem unanchored_rejected {call : IngestCall} {before : ResearchWarehouse} (missing : anchorDate call.record = none) :
    validationRules before.actions call.record call.requestedSymbol ≠ [] := by
  intro valid
  simp only [validationRules,List.append_eq_nil_iff,rule_nil] at valid
  have anchored := valid.1.1.1.1.2
  rw [missing] at anchored
  cases anchored

section
variable [Platform] {call : IngestCall} {before after : ResearchWarehouse} {outcome : RecordOutcome}

-- A source that stays keeps the tables but for its link; one that moves leaves its revision.
theorem reassert_ok (ran : reassert call anchor prior actionId existing before = .ok (after,outcome)) :
    ((∀ link, prior = some link → link.revisionId = existing.revisionId) ∧
      after = {before with actions:=before.actions.linkSource (sourceLink call actionId existing.revisionId)}) ∨
    ∃ link, prior = some link ∧ link.revisionId ≠ existing.revisionId ∧
      after = {before with actions:=returned call actionId link.revisionId existing.revisionId before.actions}.signalled
        (affectedRange call actionId existing.revisionId anchor "REVISED_ACTION") := by
  unfold reassert at ran
  cases prior with
  | none =>
    cases ran
    exact .inl ⟨by simp,rfl⟩
  | some link =>
    simp only at ran
    split at ran
    · rename_i left
      obtain ⟨result,inserted,returns⟩ := bind_ok ran
      cases returns
      exact .inr ⟨link,rfl,left,insertAffectedRange_ok inserted⟩
    · rename_i same
      cases ran
      refine .inl ⟨?_,rfl⟩
      rintro _ ⟨⟩
      simpa using same

theorem insertRevision_ok (ran : insertRevision call anchor prior actionId before = .ok (after,outcome)) :
    ∃ row revisionNumber reason, row = newRevision call anchor actionId revisionNumber
        (if (before.actions.remaining actionId (prior.map SourceLink.revisionId)).isEmpty then .active else .conflict)
        (prior.map SourceLink.revisionId) ∧ (∀ other ∈ before.actions.corporateActions, other.revisionId ≠ row.revisionId) ∧
      after = {before with actions:=revised call row (prior.map SourceLink.revisionId) before.actions}.signalled
        (affectedRange call row.actionId row.revisionId anchor reason) := by
  unfold insertRevision at ran
  obtain ⟨inserted,added,ran⟩ := bind_ok ran
  obtain ⟨result,signal,returns⟩ := bind_ok ran
  cases returns
  obtain ⟨fresh,rfl⟩ := insertAction_ok added
  refine ⟨_,_,_,rfl,?_,insertAffectedRange_ok signal⟩
  intro other inside same
  have listed : other.revisionId ∈ before.actions.corporateActions.map CorporateAction.revisionId :=
    List.mem_map_of_mem inside
  rw [← contents_ids,← settled_contents before.actions actionId (prior.map SourceLink.revisionId),contents_ids] at listed
  obtain ⟨twin,present,equal⟩ := List.mem_map.mp listed
  exact fresh twin present (equal.trans same)

theorem returned_contents (call : IngestCall) (actionId earlier revisionId : Text) (tables : ActionTables) :
    (returned call actionId earlier revisionId tables).contents = tables.contents := by
  rw [returned,refresh_contents,linkSource_contents,supersede_contents]

theorem revised_contents (call : IngestCall) (row : CorporateAction) (supersedes : Option Text) (tables : ActionTables) :
    (revised call row supersedes tables).contents = tables.contents ++ [row.content] := by
  rw [revised,linkSource_contents,edit_contents (by intro row; rfl),← settled_contents tables row.actionId supersedes]
  simp [ActionTables.contents]

theorem ingest_cases (ran : ingestRecord call before = .ok (after,outcome)) : Ingested call before after := by
  unfold ingestRecord at ran
  split at ran
  · rename_i stored
    split at ran <;> cases ran <;> exact .seen stored
  · rename_i unstored
    have fresh : before.actions.stored call.rawEvidenceId = false := by simpa using unstored
    simp only at ran
    split at ran
    · rename_i anchor valid anchored
      have accepted : Accepted call anchor before := ⟨fresh,valid,anchored⟩
      unfold reconcile at ran
      simp only at ran
      split at ran
      · rename_i existing found
        rcases reassert_ok ran with ⟨same,rfl⟩ | ⟨link,prior,left,rfl⟩
        · exact .repeated accepted found same
        · exact .returned accepted found prior left _
      · rename_i absent
        obtain ⟨row,revisionNumber,reason,built,unused,rfl⟩ := insertRevision_ok ran
        exact .revised accepted absent row built unused reason
    · rename_i rules anchor rejected
      unfold quarantine at ran
      split at ran
      · cases ran
      · cases ran
        refine .quarantined _ fresh ?_
        intro valid
        cases anchored : anchorDate call.record with
        | none => exact unanchored_rejected anchored valid
        | some anchor => exact rejected anchor valid anchored

end
/- A digest of 64 hexadecimal characters, and records to run the model on. -/

def hexPadded : Nat → Nat → Text
  | 0,_ => []
  | width + 1,value => hexPadded width (value / 16) ++ [Nat.digitChar (value % 16)]

def sampleChecksum (text : Text) : Text :=
  hexPadded 64 (text.foldl (fun total c => (total * 1114112 + c.toNat) % (2 ^ 256 - 189)) 1)

@[reducible]
def samplePlatform : Platform := ⟨sampleChecksum,fromIsoformat,fromIsoformat_isoformat⟩

def marchDay (day : Nat) (bounded : 1 ≤ day ∧ day ≤ 31) : Date := ⟨2024,3,day,Calendar.in_2024,Calendar.in_march,bounded⟩

theorem day_1 : 1 ≤ 1 ∧ 1 ≤ 31 := by decide

theorem day_4 : 1 ≤ 4 ∧ 4 ≤ 31 := by decide

theorem day_5 : 1 ≤ 5 ∧ 5 ≤ 31 := by decide

theorem day_6 : 1 ≤ 6 ∧ 6 ≤ 31 := by decide

theorem day_7 : 1 ≤ 7 ∧ 7 ≤ 31 := by decide

theorem day_8 : 1 ≤ 8 ∧ 8 ≤ 31 := by decide

theorem day_15 : 1 ≤ 15 ∧ 15 ≤ 31 := by decide

-- A split of VIC on the given day.
def sampleSplit (event : String) (version : String) (exDate : Date) (ratio : Nat) : ActionRecord :=
  { providerEventId:=some event.toList
    symbol:=some "VIC".toList
    actionType:=some "SPLIT".toList
    announcedAt:=none
    exDate:=some exDate
    recordDate:=none
    effectiveDate:=none
    cashAmount:=none
    ratio:=some ⟨Nat.toDigits 10 ratio,ratio⟩
    ratioText:=none
    subscriptionPrice:=none
    referencePrice:=none
    currency:=none
    sourceReference:=some "vci://company/VIC/events".toList
    sourceVersion:=some "corporate-actions-v1".toList
    contentHash:=some version.toList }

def sampleCall (now : Int) (provider : String) (record : ActionRecord) : IngestCall :=
  ⟨⟨now,Nat.toDigits 10 now.toNat⟩,provider.toList,"VIC".toList,record⟩

def emptyActions (knownSymbols : List Text) : ActionTables := ⟨knownSymbols,[],[],[],[],[]⟩

end OpenStock.CorporateActions
