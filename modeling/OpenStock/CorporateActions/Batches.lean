import OpenStock.CorporateActions.CurrentTruth
import OpenStock.CorporateActions.Synchronization

namespace OpenStock.CorporateActions
open Text Calendar Outcomes Queue

/- Tables that differ in times and identifiers only, and what the same record does
to both. -/

structure Alike (left right : ActionTables) : Prop where
  symbols : left.knownSymbols = right.knownSymbols
  evidence : left.rawEvidence.map RawEvidence.rawEvidenceId = right.rawEvidence.map RawEvidence.rawEvidenceId
  actions : left.corporateActions = right.corporateActions
  links : left.sourceLinks = right.sourceLinks
  quarantined : left.quarantine.map Quarantine.rawEvidenceId = right.quarantine.map Quarantine.rawEvidenceId

theorem Alike.refl (tables : ActionTables) : Alike tables tables := ⟨rfl,rfl,rfl,rfl,rfl⟩

theorem Alike.symm {left right : ActionTables} (alike : Alike left right) : Alike right left :=
  ⟨alike.symbols.symm,alike.evidence.symm,alike.actions.symm,alike.links.symm,alike.quarantined.symm⟩

theorem Alike.trans {left middle right : ActionTables} (first : Alike left middle) (second : Alike middle right) :
    Alike left right :=
  ⟨first.symbols.trans second.symbols,first.evidence.trans second.evidence,first.actions.trans second.actions,
   first.links.trans second.links,first.quarantined.trans second.quarantined⟩

namespace Alike
variable {left right : ActionTables} (alike : Alike left right)

include alike

theorem stored (rawEvidenceId : Text) : left.stored rawEvidenceId = right.stored rawEvidenceId := by
  have named : ∀ tables : ActionTables, tables.stored rawEvidenceId =
      (tables.rawEvidence.map RawEvidence.rawEvidenceId).any (fun other => other = rawEvidenceId) := by
    intro tables
    rw [ActionTables.stored,List.any_map]
    rfl
  rw [named,named,alike.evidence]

theorem withheld (rawEvidenceId : Text) : left.quarantine.any (fun row => row.rawEvidenceId = rawEvidenceId) =
      right.quarantine.any (fun row => row.rawEvidenceId = rawEvidenceId) := by
  have named : ∀ rows : List Quarantine, rows.any (fun row => row.rawEvidenceId = rawEvidenceId) =
      (rows.map Quarantine.rawEvidenceId).any (fun other => other = rawEvidenceId) := by
    intro rows
    rw [List.any_map]
    rfl
  rw [named,named,alike.quarantined]

theorem rules (record : ActionRecord) (requestedSymbol : Text) :
    validationRules left record requestedSymbol = validationRules right record requestedSymbol := by
  simp only [validationRules,alike.symbols]

theorem addEvidence {first second : RawEvidence} (same : first.rawEvidenceId = second.rawEvidenceId) :
    Alike (left.addEvidence first) (right.addEvidence second) :=
  ⟨alike.symbols,by simp [ActionTables.addEvidence,alike.evidence,same],alike.actions,alike.links,alike.quarantined⟩

theorem edit (selects : CorporateAction → Bool) (change : CorporateAction → CorporateAction) :
    Alike (left.edit selects change) (right.edit selects change) :=
  ⟨alike.symbols,alike.evidence,congrArg (Rows.updateWhere selects change) alike.actions,alike.links,alike.quarantined⟩

theorem append (row : CorporateAction) : Alike {left with corporateActions:=left.corporateActions ++ [row]}
      {right with corporateActions:=right.corporateActions ++ [row]} :=
  ⟨alike.symbols,alike.evidence,congrArg (· ++ [row]) alike.actions,alike.links,alike.quarantined⟩

theorem linkSource (link : SourceLink) : Alike (left.linkSource link) (right.linkSource link) := by
  unfold ActionTables.linkSource
  rw [alike.links]
  split
  · exact alike
  · exact ⟨alike.symbols,alike.evidence,alike.actions,rfl,alike.quarantined⟩

theorem active (actionId : Text) : left.active actionId = right.active actionId := by
  rw [ActionTables.active,ActionTables.active,alike.actions]

theorem remaining (actionId : Text) (supersedes : Option Text) :
    left.remaining actionId supersedes = right.remaining actionId supersedes := by
  rw [ActionTables.remaining,ActionTables.remaining,alike.active]

theorem refreshed (actionId revisionId : Text) : Alike (refreshCurrentRevisionStatuses left actionId revisionId).1
      (refreshCurrentRevisionStatuses right actionId revisionId).1 := by
  simp only [refreshCurrentRevisionStatuses,alike.active]
  split
  · exact (alike.edit _ _).edit _ _
  · exact alike.edit _ _

theorem settled (actionId : Text) (supersedes : Option Text) :
    Alike (settled left actionId supersedes) (settled right actionId supersedes) := by
  unfold CorporateActions.settled
  rw [alike.remaining]
  exact (alike.edit _ _).edit _ _

end Alike

section
variable [Platform]

-- The number a new revision of the action gets.
def ActionTables.nextNumber (tables : ActionTables) (actionId : Text) : Nat :=
  ((tables.active actionId).map CorporateAction.revisionNumber).foldl max 0 + 1

def revisionRow (call : IngestCall) (anchor : Date) (actionId : Text) (supersedes : Option Text) (tables : ActionTables) :
    CorporateAction :=
  newRevision call anchor actionId (tables.nextNumber actionId)
    (if (tables.remaining actionId supersedes).isEmpty then .active else .conflict) supersedes

-- What a record that repeats a revision leaves, by the revision the source leaves.
def reasserted (call : IngestCall) (actionId revisionId : Text) (prior : Option Text) (tables : ActionTables) : ActionTables :=
  match prior.filter (fun earlier => earlier ≠ revisionId) with
  | some earlier => returned call actionId earlier revisionId tables
  | none => tables.linkSource (sourceLink call actionId revisionId)

section exact_
variable {call : IngestCall} {before after : ResearchWarehouse} {outcome : RecordOutcome}

theorem insertRevision_alike (ran : insertRevision call anchor prior actionId before = .ok (after,outcome)) :
    Alike after.actions (revised call (revisionRow call anchor actionId (prior.map SourceLink.revisionId) before.actions)
      (prior.map SourceLink.revisionId) before.actions) := by
  unfold insertRevision at ran
  obtain ⟨inserted,added,ran⟩ := bind_ok ran
  obtain ⟨result,signal,returns⟩ := bind_ok ran
  cases returns
  obtain ⟨_,rfl⟩ := insertAction_ok added
  rw [insertAffectedRange_ok signal]
  exact ⟨rfl,rfl,rfl,rfl,rfl⟩

theorem reassert_alike (ran : reassert call anchor prior actionId existing before = .ok (after,outcome)) :
    Alike after.actions (reasserted call actionId existing.revisionId (prior.map SourceLink.revisionId) before.actions) := by
  unfold reasserted
  rcases reassert_ok ran with ⟨same,rfl⟩ | ⟨link,rfl,left,rfl⟩
  · have stays : (prior.map SourceLink.revisionId).filter (fun earlier => earlier ≠ existing.revisionId) = none := by
      cases prior with
      | none => rfl
      | some link => simp [Option.filter,same link rfl]
    rw [stays]
    exact .refl _
  · have moves : ((some link).map SourceLink.revisionId).filter (fun earlier => earlier ≠ existing.revisionId) =
        some link.revisionId := by
      simp [Option.filter,left]
    rw [moves]
    exact ⟨rfl,rfl,rfl,rfl,rfl⟩

theorem quarantine_exact (ran : quarantine call rules before = .ok (after,outcome)) :
    ∃ row, row.rawEvidenceId = call.rawEvidenceId ∧
      after.actions = {before.actions with quarantine:=before.actions.quarantine ++ [row]} := by
  unfold quarantine at ran
  split at ran
  · cases ran
  · cases ran
    exact ⟨_,rfl,rfl⟩

theorem reconcile_exact (call : IngestCall) (anchor : Date) (before : ResearchWarehouse) : reconcile call anchor before =
      match call.existing anchor before.actions with
      | some existing => reassert call anchor (call.prior before.actions) (call.actionId anchor before.actions) existing before
      | none => insertRevision call anchor (call.prior before.actions) (call.actionId anchor before.actions) before := rfl

end exact_

section same
variable {left right : ActionTables} (alike : Alike left right) (call : IngestCall) (context : IngestContext)

include alike

theorem Alike.reasserted (actionId revisionId : Text) (prior : Option Text) :
    Alike (reasserted call actionId revisionId prior left)
      (reasserted {call with context:=context} actionId revisionId prior right) := by
  unfold CorporateActions.reasserted
  split
  · exact ((alike.edit _ _).linkSource _).refreshed _ _
  · exact alike.linkSource _

theorem Alike.revised (anchor : Date) (actionId : Text) (supersedes : Option Text) :
    Alike (revised call (revisionRow call anchor actionId supersedes left) supersedes left)
      (revised {call with context:=context}
        (revisionRow {call with context:=context} anchor actionId supersedes right) supersedes right) := by
  have row : revisionRow call anchor actionId supersedes left =
      revisionRow {call with context:=context} anchor actionId supersedes right := by
    unfold revisionRow ActionTables.nextNumber
    rw [alike.active,alike.remaining]
    rfl
  rw [row]
  unfold CorporateActions.revised
  exact (((alike.settled _ _).append _).edit _ _).linkSource _

end same

variable {call : IngestCall}

-- One record keeps alike tables alike when its source last asserted the same in both.
theorem ingest_alike {context : IngestContext} {left right after other : ResearchWarehouse}
    {outcome report : RecordOutcome} (alike : Alike left.actions right.actions) (prior : ∀ anchor, Accepted call anchor left →
      (call.prior (left.observed call).actions).map SourceLink.assertion =
        (call.prior (right.observed {call with context:=context}).actions).map SourceLink.assertion)
    (first : ingestRecord call left = .ok (after,outcome))
    (second : ingestRecord {call with context:=context} right = .ok (other,report)) : Alike after.actions other.actions := by
  unfold ingestRecord at first second
  rw [← alike.stored,← alike.withheld] at second
  by_cases stored : left.actions.stored call.rawEvidenceId = true
  · have again : left.actions.stored (IngestCall.rawEvidenceId {call with context:=context}) = true := stored
    rw [if_pos stored] at first
    rw [if_pos again] at second
    split at first <;> cases first <;> split at second <;> cases second <;> exact alike
  · have again : ¬ left.actions.stored (IngestCall.rawEvidenceId {call with context:=context}) = true := stored
    rw [if_neg stored] at first
    rw [if_neg again,← alike.rules] at second
    have seen : Alike (left.observed call).actions (right.observed {call with context:=context}).actions :=
      alike.addEvidence rfl
    have rejected : ∀ {rules : List String}, quarantine call rules (left.observed call) = .ok (after,outcome) →
        quarantine {call with context:=context} rules (right.observed {call with context:=context}) = .ok (other,report) →
        Alike after.actions other.actions := by
      intro rules first second
      obtain ⟨row,named,made⟩ := quarantine_exact first
      obtain ⟨twin,same,built⟩ := quarantine_exact second
      rw [made,built]
      refine ⟨seen.symbols,seen.evidence,seen.actions,seen.links,?_⟩
      rw [List.map_append,List.map_append,seen.quarantined,List.map_singleton,List.map_singleton,named,same]
      rfl
    cases valid : validationRules left.actions call.record call.requestedSymbol with
    | cons rule rules =>
      simp only [valid] at first second
      exact rejected first second
    | nil =>
      cases anchored : anchorDate call.record with
      | none =>
        simp only [valid,anchored] at first second
        exact rejected first second
      | some anchor =>
        simp only [valid,anchored] at first second
        have accepted : Accepted call anchor left := ⟨by simpa using stored,valid,anchored⟩
        have asserted := prior anchor accepted
        have actions := congrArg (Option.map Assertion.actionId) asserted
        rw [Option.map_map,Option.map_map] at actions
        have revisions : (call.prior (left.observed call).actions).map SourceLink.revisionId =
            (IngestCall.prior {call with context:=context} (right.observed {call with context:=context}).actions).map
              SourceLink.revisionId := by
          have both := congrArg (Option.map Assertion.revisionId) asserted
          rw [Option.map_map,Option.map_map] at both
          exact both
        have acts : call.actionId anchor (left.observed call).actions =
            IngestCall.actionId {call with context:=context} anchor (right.observed {call with context:=context}).actions :=
          congrArg (actionIdOf call anchor) actions
        have found : call.existing anchor (left.observed call).actions =
            IngestCall.existing {call with context:=context} anchor (right.observed {call with context:=context}).actions := by
          unfold IngestCall.existing
          rw [acts,seen.actions]
        change reconcile call anchor (left.observed call) = _ at first
        change reconcile {call with context:=context} anchor (right.observed {call with context:=context}) = _ at second
        rw [reconcile_exact] at first second
        rw [← found,← acts] at second
        cases existing : call.existing anchor (left.observed call).actions with
        | some row =>
          simp only [existing] at first second
          have one := reassert_alike first
          have two := reassert_alike second
          rw [← revisions] at two
          exact (one.trans (seen.reasserted call context _ _ _)).trans two.symm
        | none =>
          simp only [existing] at first second
          have one := insertRevision_alike first
          have two := insertRevision_alike second
          rw [← revisions] at two
          exact (one.trans (seen.revised call context _ _ _)).trans two.symm

/- The evidence of the links. -/

def Evidenced (tables : ActionTables) : Prop := ∀ link ∈ tables.sourceLinks, tables.stored link.rawEvidenceId = true

omit [Platform] in
theorem mem_linkSource {tables : ActionTables} (inside : link ∈ (tables.linkSource new).sourceLinks) :
    link ∈ tables.sourceLinks ∨ link = new := by
  unfold ActionTables.linkSource at inside
  split at inside
  · exact .inl inside
  · rcases List.mem_append.mp inside with earlier | latest
    · exact .inl earlier
    · exact .inr (List.mem_singleton.mp latest)

variable {before after : ResearchWarehouse} {outcome : RecordOutcome}

-- A record that is seen for the first time leaves its evidence, and at most a link to it.
theorem ingest_evidence
    (fresh : before.actions.stored call.rawEvidenceId = false) (ran : ingestRecord call before = .ok (after,outcome)) :
    after.actions.rawEvidence = before.actions.rawEvidence ++ [call.rawEvidence] ∧
      ∀ link ∈ after.actions.sourceLinks, link ∈ before.actions.sourceLinks ∨ link.rawEvidenceId = call.rawEvidenceId := by
  have own : ∀ {actionId revisionId : Text} {link : SourceLink},
      link ∈ ((before.observed call).actions.linkSource (sourceLink call actionId revisionId)).sourceLinks →
        link ∈ before.actions.sourceLinks ∨ link.rawEvidenceId = call.rawEvidenceId := by
    intro actionId revisionId link inside
    rcases mem_linkSource inside with earlier | new
    · exact .inl earlier
    · rw [new]
      exact .inr rfl
  cases ingest_cases ran with
  | seen stored =>
    rw [fresh] at stored
    cases stored
  | quarantined rows => exact ⟨rfl,fun link inside => .inl inside⟩
  | repeated accepted found same => exact ⟨linkSource_evidence _ _,fun link inside => own inside⟩
  | returned accepted found prior left reason =>
    obtain ⟨links,evidence⟩ := returned_links call (before.observed call).actions _ _ _
    refine ⟨evidence,fun link inside => own (links ▸ inside)⟩
  | revised accepted absent row built unused reason =>
    obtain ⟨links,evidence⟩ := revised_links call (before.observed call).actions row _
    refine ⟨evidence,fun link inside => own (links ▸ inside)⟩

theorem ingest_stored
    (ran : ingestRecord call before = .ok (after,outcome)) : after.actions.stored call.rawEvidenceId = true := by
  by_cases stored : before.actions.stored call.rawEvidenceId = true
  · unfold ingestRecord at ran
    rw [if_pos stored] at ran
    split at ran <;> cases ran <;> exact stored
  · have evidence := (ingest_evidence (by simpa using stored) ran).1
    rw [ActionTables.stored,evidence,List.any_append,Bool.or_eq_true]
    exact .inr (by simp [IngestCall.rawEvidence])

theorem ingest_evidenced
    (evidenced : Evidenced before.actions) (ran : ingestRecord call before = .ok (after,outcome)) : Evidenced after.actions := by
  by_cases stored : before.actions.stored call.rawEvidenceId = true
  · unfold ingestRecord at ran
    rw [if_pos stored] at ran
    split at ran <;> cases ran <;> exact evidenced
  · obtain ⟨evidence,links⟩ := ingest_evidence (by simpa using stored) ran
    intro link inside
    rcases links link inside with earlier | own
    · rw [ActionTables.stored,evidence,List.any_append,Bool.or_eq_true]
      exact .inl (evidenced link earlier)
    · rw [own]
      exact ingest_stored ran

theorem runs_evidenced (path : Runs (fun _ => Step) (reconciledStart knownSymbols outcomes canonicalOhlcv) history state) :
    Evidenced state.warehouse.actions := by
  induction path with
  | nil =>
    intro link inside
    cases inside
  | step _ step ih =>
    cases step with
    | ingest ran => exact ingest_evidenced ih ran
    | elsewhere => exact ih

/- When a record is refused. -/

structure Unused (tables : ActionTables) (uuid : Text) : Prop where
  quarantine : ∀ row ∈ tables.quarantine, row.quarantineId ≠ uuid
  signal : ∀ signal ∈ tables.affectedRanges, signal.signalId ≠ uuid

-- The new revision's id, or its number within the action, is taken.
def Obstructed (call : IngestCall) (anchor : Date) (tables : ActionTables) : Prop :=
  call.existing anchor tables = none ∧ ∃ row ∈ tables.corporateActions,
    row.revisionId = revisionIdOf (call.actionId anchor tables) (revisionHash call.record) ∨
      row.actionId = call.actionId anchor tables ∧ row.revisionNumber = tables.nextNumber (call.actionId anchor tables)

omit [Platform] in
theorem insertAction_returns {row : CorporateAction} {tables : ActionTables} :
    (∃ result, insertAction row tables = .ok result) ↔ ¬ ∃ other ∈ tables.corporateActions,
      other.revisionId = row.revisionId ∨ other.actionId = row.actionId ∧ other.revisionNumber = row.revisionNumber := by
  unfold insertAction
  constructor
  · intro returned taken
    obtain ⟨result,returned⟩ := returned
    obtain ⟨other,inside,same⟩ := taken
    split at returned
    · cases returned
    · rename_i free
      split at returned
      · cases returned
      · rename_i unnumbered
        rcases same with named | numbered
        · exact free (List.any_eq_true.mpr ⟨other,inside,by simpa using named⟩)
        · exact unnumbered (List.any_eq_true.mpr ⟨other,inside,by simpa using numbered⟩)
  · intro free
    rw [if_neg,if_neg]
    · exact ⟨_,rfl⟩
    · intro numbered
      obtain ⟨other,inside,same⟩ := List.any_eq_true.mp numbered
      exact free ⟨other,inside,.inr (by simpa using same)⟩
    · intro named
      obtain ⟨other,inside,same⟩ := List.any_eq_true.mp named
      exact free ⟨other,inside,.inl (by simpa using same)⟩

omit [Platform] in
theorem insertAffectedRange_returns {before : ResearchWarehouse}
    (unused : ∀ other ∈ before.actions.affectedRanges, other.signalId ≠ signal.signalId) :
    insertAffectedRange signal before = .ok (before.signalled signal) := by
  unfold insertAffectedRange
  rw [if_neg]
  intro taken
  obtain ⟨other,inside,same⟩ := List.any_eq_true.mp taken
  exact unused other inside (by simpa using same)

section refused
variable {call : IngestCall} {anchor : Date} {before : ResearchWarehouse}

theorem reassert_returns (unused : Unused before.actions call.context.uuid) :
    ∃ result, reassert call anchor prior actionId existing before = .ok result := by
  unfold reassert
  cases prior with
  | none => exact ⟨_,rfl⟩
  | some earlier =>
    dsimp only
    split
    · have free : ∀ other ∈ (refreshCurrentRevisionStatuses
          ((supersedeSourceRevision before.actions earlier.revisionId existing.revisionId).linkSource
            (sourceLink call actionId existing.revisionId)) actionId existing.revisionId).1.affectedRanges,
          other.signalId ≠ call.context.uuid := by
        rw [refresh_ranges,linkSource_ranges]
        exact unused.signal
      rw [insertAffectedRange_returns free]
      exact ⟨_,rfl⟩
    · exact ⟨_,rfl⟩

omit [Platform] in
-- A row's id, action and number survive the status updates of the branch.
theorem settled_taken (actionId : Text) (supersedes : Option Text) (tables : ActionTables) (revisionId : Text) (number : Nat) :
    (∃ row ∈ (settled tables actionId supersedes).corporateActions,
        row.revisionId = revisionId ∨ row.actionId = actionId ∧ row.revisionNumber = number) ↔
      ∃ row ∈ tables.corporateActions, row.revisionId = revisionId ∨ row.actionId = actionId ∧ row.revisionNumber = number := by
  have contents : ∀ tables : ActionTables,
      (∃ row ∈ tables.corporateActions, row.revisionId = revisionId ∨ row.actionId = actionId ∧ row.revisionNumber = number) ↔
        ∃ row ∈ tables.contents, row.revisionId = revisionId ∨ row.actionId = actionId ∧ row.revisionNumber = number := by
    intro tables
    simp [ActionTables.contents,CorporateAction.content]
  rw [contents,contents,settled_contents]

theorem insertRevision_returns (unused : Unused before.actions call.context.uuid) :
    (∃ result, insertRevision call anchor prior actionId before = .ok result) ↔
      ¬ ∃ row ∈ before.actions.corporateActions, row.revisionId = revisionIdOf actionId (revisionHash call.record) ∨
        row.actionId = actionId ∧ row.revisionNumber = before.actions.nextNumber actionId := by
  have inserted : (∃ result, insertAction (revisionRow call anchor actionId (prior.map SourceLink.revisionId) before.actions)
        (settled before.actions actionId (prior.map SourceLink.revisionId)) = .ok result) ↔
      ¬ ∃ row ∈ before.actions.corporateActions, row.revisionId = revisionIdOf actionId (revisionHash call.record) ∨
        row.actionId = actionId ∧ row.revisionNumber = before.actions.nextNumber actionId := by
    rw [insertAction_returns]
    exact not_congr (settled_taken actionId _ before.actions _ _)
  rw [← inserted]
  constructor
  · intro returned
    obtain ⟨result,ran⟩ := returned
    unfold insertRevision at ran
    obtain ⟨rows,added,_⟩ := bind_ok ran
    exact ⟨rows,added⟩
  · intro returned
    obtain ⟨rows,added⟩ := returned
    have made := (insertAction_ok added).2
    unfold insertRevision
    change ∃ result, (insertAction (revisionRow call anchor actionId (prior.map SourceLink.revisionId) before.actions)
      (settled before.actions actionId (prior.map SourceLink.revisionId)) >>= _) = .ok result
    rw [added]
    have free : ∀ other ∈ ((rows.edit (fun other => some other.revisionId = prior.map SourceLink.revisionId)
        (fun other => {other with supersededByRevisionId:=some (revisionRow call anchor actionId
          (prior.map SourceLink.revisionId) before.actions).revisionId})).linkSource (sourceLink call actionId
            (revisionRow call anchor actionId (prior.map SourceLink.revisionId) before.actions).revisionId)).affectedRanges,
        other.signalId ≠ call.context.uuid := by
      rw [linkSource_ranges,made]
      exact unused.signal
    simp only [bind,Except.bind]
    rw [insertAffectedRange_returns free]
    exact ⟨_,rfl⟩

theorem reconcile_returns (unused : Unused before.actions call.context.uuid) :
    (∃ result, reconcile call anchor before = .ok result) ↔ ¬ Obstructed call anchor before.actions := by
  rw [reconcile_exact]
  unfold Obstructed
  cases existing : call.existing anchor before.actions with
  | some row => simp [reassert_returns unused]
  | none =>
    rw [insertRevision_returns unused]
    simp

-- A record that no rule rejects is refused exactly when it is obstructed; any other is not refused.
theorem ingest_returns (unused : Unused before.actions call.context.uuid) : (∃ result, ingestRecord call before = .ok result) ↔
      ∀ anchor, Accepted call anchor before → ¬ Obstructed call anchor (before.observed call).actions := by
  have observed : Unused (before.observed call).actions call.context.uuid := ⟨unused.quarantine,unused.signal⟩
  have withheld : ∀ rules, ∃ result, quarantine call rules (before.observed call) = .ok result := by
    intro rules
    unfold quarantine
    rw [if_neg]
    · exact ⟨_,rfl⟩
    · intro taken
      obtain ⟨row,inside,same⟩ := List.any_eq_true.mp taken
      exact unused.quarantine row inside (by simpa using same)
  have reconciled : ∀ {anchor}, Accepted call anchor before →
      ingestRecord call before = reconcile call anchor (before.observed call) := by
    intro anchor accepted
    unfold ingestRecord
    rw [if_neg (by simp [accepted.fresh])]
    simp only [accepted.valid,accepted.anchored]
    rfl
  constructor
  · intro returned anchor accepted
    rw [reconciled accepted] at returned
    exact (reconcile_returns observed).mp returned
  · intro free
    by_cases stored : before.actions.stored call.rawEvidenceId = true
    · unfold ingestRecord
      rw [if_pos stored]
      split <;> exact ⟨_,rfl⟩
    · have fresh : before.actions.stored call.rawEvidenceId = false := by simpa using stored
      cases valid : validationRules before.actions call.record call.requestedSymbol with
      | cons rule rules =>
        unfold ingestRecord
        rw [if_neg stored]
        simp only [valid]
        exact withheld _
      | nil =>
        cases anchored : anchorDate call.record with
        | none => exact absurd valid (unanchored_rejected anchored)
        | some anchor =>
          have accepted : Accepted call anchor before := ⟨fresh,valid,anchored⟩
          rw [reconciled accepted]
          exact (reconcile_returns observed).mpr (free anchor accepted)

end refused

/- Batches of one symbol and provider. -/

abbrev Delivery := List (IngestContext × ActionRecord)

-- The link of the call's source that was written last.
def latestLink (tables : ActionTables) (call : IngestCall) : Option SourceLink :=
  (tables.sourceLinks.filter (fun link => link.provider = call.provider ∧ link.providerEventId = call.providerEventId)).getLast?

-- A fresh uuid and, for a record that no rule rejects: no constraint in its way, and the
-- link that `ORDER BY observed_at DESC, raw_evidence_id DESC` finds asserts what the
-- source's latest link does.
structure Orderly (warehouse : ResearchWarehouse) (call : IngestCall) : Prop where
  unused : Unused warehouse.actions call.context.uuid
  free : ∀ anchor, Accepted call anchor warehouse → ¬ Obstructed call anchor (warehouse.observed call).actions
  latest : ∀ anchor, Accepted call anchor warehouse →
    (call.prior (warehouse.observed call).actions).map SourceLink.assertion =
      (latestLink warehouse.actions call).map SourceLink.assertion

def OrderlyRun (provider symbol : Text) : ResearchWarehouse → Delivery → Prop
  | _,[] => True
  | warehouse,(context,record) :: rest => Orderly warehouse ⟨context,provider,symbol,record⟩ ∧
      ∀ after outcome, ingestRecord ⟨context,provider,symbol,record⟩ warehouse = .ok (after,outcome) →
        OrderlyRun provider symbol after rest

variable {provider symbol : Text} {warehouse : ResearchWarehouse} {delivery : Delivery}

theorem orderly_returns (orderly : OrderlyRun provider symbol warehouse delivery) (counts : SyncCounts) :
    ∃ after total, ingestBatch provider symbol counts warehouse delivery = .ok (after,total) := by
  induction delivery generalizing warehouse counts with
  | nil => exact ⟨_,_,rfl⟩
  | cons entry delivery ih =>
    obtain ⟨context,record⟩ := entry
    obtain ⟨step,rest⟩ := orderly
    obtain ⟨⟨next,outcome⟩,ran⟩ := (ingest_returns step.unused).mpr step.free
    obtain ⟨after,total,later⟩ := ih (rest next outcome ran) (counts.count outcome)
    refine ⟨after,total,?_⟩
    rw [ingestBatch,ran]
    exact later

theorem batch_append (provider symbol : Text) (first second : Delivery) (counts : SyncCounts) (warehouse : ResearchWarehouse) :
    ingestBatch provider symbol counts warehouse (first ++ second) =
      ingestBatch provider symbol counts warehouse first >>= fun middle =>
        ingestBatch provider symbol middle.2 middle.1 second := by
  induction first generalizing counts warehouse with
  | nil => rfl
  | cons entry first ih =>
    obtain ⟨context,record⟩ := entry
    rw [List.cons_append,ingestBatch,ingestBatch,bind_assoc]
    congr 1
    funext result
    exact ih _ _

variable {first second : Delivery}

theorem orderly_append (orderly : OrderlyRun provider symbol warehouse (first ++ second)) :
    OrderlyRun provider symbol warehouse first ∧ ∀ counts after total,
      ingestBatch provider symbol counts warehouse first = .ok (after,total) → OrderlyRun provider symbol after second := by
  induction first generalizing warehouse with
  | nil =>
    refine ⟨trivial,?_⟩
    intro counts after total ran
    cases ran
    exact orderly
  | cons entry first ih =>
    obtain ⟨context,record⟩ := entry
    obtain ⟨step,rest⟩ := orderly
    refine ⟨⟨step,fun next outcome ran => (ih (rest next outcome ran)).1⟩,?_⟩
    intro counts after total ran
    obtain ⟨⟨next,outcome⟩,one,later⟩ := bind_ok ran
    exact (ih (rest next outcome one)).2 _ after total later

-- Two orderly runs of one list of records keep alike tables alike.
theorem batch_alike {left right after other : ResearchWarehouse} (alike : Alike left.actions right.actions)
    (records : first.map Prod.snd = second.map Prod.snd) (one : OrderlyRun provider symbol left first)
    (two : OrderlyRun provider symbol right second) (ran : ingestBatch provider symbol counts left first = .ok (after,total))
    (again : ingestBatch provider symbol start right second = .ok (other,sum)) : Alike after.actions other.actions := by
  induction first generalizing second left right counts start with
  | nil =>
    have empty : second = [] := List.map_eq_nil_iff.mp records.symm
    subst empty
    cases ran
    cases again
    exact alike
  | cons entry first ih =>
    cases second with
    | nil => cases records
    | cons twin second =>
      obtain ⟨context,record⟩ := entry
      obtain ⟨moment,copy⟩ := twin
      obtain ⟨same,rest⟩ := List.cons.inj records
      have equal : copy = record := same.symm
      subst equal
      obtain ⟨⟨next,outcome⟩,step,later⟩ := bind_ok ran
      obtain ⟨⟨twin,report⟩,shadow,latter⟩ := bind_ok again
      apply ih _ rest (one.2 next outcome step) (two.2 twin report shadow) later latter
      apply ingest_alike alike _ step shadow
      intro anchor accepted
      have twinned : Accepted ⟨moment,provider,symbol,copy⟩ anchor right :=
        ⟨by rw [← alike.stored]; exact accepted.fresh,by rw [← alike.rules]; exact accepted.valid,accepted.anchored⟩
      calc (IngestCall.prior ⟨context,provider,symbol,copy⟩ _).map SourceLink.assertion
          = (latestLink left.actions ⟨context,provider,symbol,copy⟩).map SourceLink.assertion := one.1.latest anchor accepted
        _ = (latestLink right.actions ⟨moment,provider,symbol,copy⟩).map SourceLink.assertion := by
          unfold latestLink
          rw [alike.links]
          rfl
        _ = _ := (two.1.latest anchor twinned).symm

/- Cutting a list of records into calls. -/

-- Calls that differ in their records only, one transaction after another.
def syncAll (request : SyncRequest) (response : ProviderResponse) (warehouse : ResearchWarehouse)
    (deliveries : List Delivery) : ResearchWarehouse :=
  deliveries.foldl (fun warehouse delivery =>
    (syncCorporateActions request (.ok {response with data:=delivery}) warehouse).1) warehouse

def ResearchWarehouse.statuses (warehouse : ResearchWarehouse) : List (Text × CanonicalStatus) :=
  warehouse.actions.corporateActions.map (fun row => (row.revisionId,row.canonicalStatus))

variable {response : ProviderResponse} {request : SyncRequest}

theorem sync_refused
    (refused : acceptedProvider request response = .error reason) (warehouse : ResearchWarehouse) (deliveries : List Delivery) :
    syncAll request response warehouse deliveries = warehouse := by
  induction deliveries with
  | nil => rfl
  | cons delivery deliveries ih =>
    have same : acceptedProvider request {response with data:=delivery} = .error reason := refused
    rw [syncAll,List.foldl_cons]
    simp only [syncCorporateActions,same]
    exact ih

theorem batch_counts {warehouse after other : ResearchWarehouse}
    {first second total sum : SyncCounts} (ran : ingestBatch provider symbol first warehouse delivery = .ok (after,total))
    (again : ingestBatch provider symbol second warehouse delivery = .ok (other,sum)) : after = other := by
  induction delivery generalizing warehouse first second with
  | nil =>
    cases ran
    cases again
    rfl
  | cons entry delivery ih =>
    obtain ⟨context,record⟩ := entry
    obtain ⟨result,one,later⟩ := bind_ok ran
    obtain ⟨twin,two,latter⟩ := bind_ok again
    cases one.symm.trans two
    exact ih later latter

theorem sync_batches {provider : Text} (accepted : acceptedProvider request response = .ok provider)
    (orderly : OrderlyRun provider (upper (strip request.symbol)) warehouse deliveries.flatten) (counts : SyncCounts) :
    ∃ total, ingestBatch provider (upper (strip request.symbol)) counts warehouse deliveries.flatten =
      .ok (syncAll request response warehouse deliveries,total) := by
  induction deliveries generalizing warehouse counts with
  | nil => exact ⟨_,rfl⟩
  | cons delivery deliveries ih =>
    have same : acceptedProvider request {response with data:=delivery} = .ok provider := accepted
    obtain ⟨first,later⟩ := orderly_append orderly
    obtain ⟨next,sum,ran⟩ := orderly_returns first {}
    have called : (syncCorporateActions request (.ok {response with data:=delivery}) warehouse).1 = next := by
      simp only [syncCorporateActions,same,ran]
    obtain ⟨after,total,again⟩ := orderly_returns first counts
    have one := batch_counts again ran
    obtain ⟨final,rest⟩ := ih (later _ _ _ ran) total
    refine ⟨final,?_⟩
    rw [List.flatten_cons,batch_append,again,syncAll,List.foldl_cons,called]
    subst one
    exact rest

-- However the records of one symbol and provider are cut into calls, and in whichever
-- transactions, the revisions and statuses are those of one call with all of them, as
-- long as every record of both runs is orderly.
theorem batches_agree (request : SyncRequest) (response : ProviderResponse) (start : ResearchWarehouse) (whole : Delivery)
    (deliveries : List Delivery) (cut : whole.map Prod.snd = deliveries.flatten.map Prod.snd)
    (orderly : ∀ provider, acceptedProvider request response = .ok provider →
      OrderlyRun provider (upper (strip request.symbol)) start whole ∧
        OrderlyRun provider (upper (strip request.symbol)) start deliveries.flatten) :
    (syncAll request response start deliveries).statuses = (syncAll request response start [whole]).statuses := by
  cases accepted : acceptedProvider request response with
  | error reason => rw [sync_refused accepted,sync_refused accepted]
  | ok provider =>
    obtain ⟨one,many⟩ := orderly provider accepted
    have joined : [whole].flatten = whole := by simp
    rw [← joined] at cut one
    obtain ⟨_,ran⟩ := sync_batches accepted one {}
    obtain ⟨_,again⟩ := sync_batches accepted many {}
    have alike := batch_alike (.refl start.actions) cut one many ran again
    rw [ResearchWarehouse.statuses,ResearchWarehouse.statuses,alike.actions]

/- The condition as a test, run on records. -/

def Obstructs (call : IngestCall) (anchor : Date) (tables : ActionTables) : Bool :=
  (call.existing anchor tables).isNone && tables.corporateActions.any (fun row =>
    row.revisionId = revisionIdOf (call.actionId anchor tables) (revisionHash call.record) ||
      (row.actionId = call.actionId anchor tables && row.revisionNumber = tables.nextNumber (call.actionId anchor tables)))

def orderlyStep (warehouse : ResearchWarehouse) (call : IngestCall) : Bool :=
  warehouse.actions.quarantine.all (fun row => row.quarantineId ≠ call.context.uuid) &&
  warehouse.actions.affectedRanges.all (fun signal => signal.signalId ≠ call.context.uuid) &&
  (anchorDate call.record).all (fun anchor => !Obstructs call anchor (warehouse.observed call).actions) &&
  (call.prior (warehouse.observed call).actions).map SourceLink.assertion =
    (latestLink warehouse.actions call).map SourceLink.assertion

def orderlyRun (provider symbol : Text) : ResearchWarehouse → Delivery → Bool
  | _,[] => true
  | warehouse,(context,record) :: rest => orderlyStep warehouse ⟨context,provider,symbol,record⟩ &&
      match ingestRecord ⟨context,provider,symbol,record⟩ warehouse with
      | .ok (after,_) => orderlyRun provider symbol after rest
      | .error _ => true

theorem orderlyStep_sound (passed : orderlyStep warehouse call = true) : Orderly warehouse call := by
  simp only [orderlyStep,Bool.and_eq_true,List.all_eq_true,decide_eq_true_eq] at passed
  obtain ⟨⟨⟨withheld,signalled⟩,free⟩,latest⟩ := passed
  refine ⟨⟨withheld,signalled⟩,?_,fun _ _ => latest⟩
  intro anchor accepted obstructed
  obtain ⟨absent,row,inside,taken⟩ := obstructed
  rw [accepted.anchored,Option.all_some,Bool.not_eq_true'] at free
  have obstructs : Obstructs call anchor (warehouse.observed call).actions = true := by
    simp only [Obstructs,absent,Option.isNone_none,Bool.true_and,List.any_eq_true]
    exact ⟨row,inside,by simpa using taken⟩
  rw [free] at obstructs
  cases obstructs

theorem orderlyRun_sound
    (passed : orderlyRun provider symbol warehouse delivery = true) : OrderlyRun provider symbol warehouse delivery := by
  induction delivery generalizing warehouse with
  | nil => trivial
  | cons entry delivery ih =>
    obtain ⟨context,record⟩ := entry
    rw [orderlyRun,Bool.and_eq_true] at passed
    refine ⟨orderlyStep_sound passed.1,?_⟩
    intro after outcome ran
    apply ih
    rw [ran] at passed
    exact passed.2

end

-- One instant inside a transaction, a later one in the next, and every uuid new.
structure Timed (deliveries : List Delivery) : Prop where
  constant : ∀ delivery ∈ deliveries, ∀ first ∈ delivery, ∀ second ∈ delivery, first.1.now = second.1.now
  increasing : deliveries.Pairwise (fun earlier later => ∀ first ∈ earlier, ∀ second ∈ later, first.1.now < second.1.now)
  uuids : (deliveries.flatten.map (fun entry => entry.1.uuid)).Nodup

section
attribute [local instance] samplePlatform

def splitVersion (now : Int) (uuid version : String) (ratio : Nat) : IngestContext × ActionRecord :=
  (⟨now,uuid.toList⟩,sampleSplit "split-1" version (marchDay 6 day_6) ratio)

def sampleResponse : ProviderResponse := ⟨"reference.corporate_actions".toList,"VCI".toList,some "PASS".toList,[]⟩

def sampleActions : ResearchWarehouse := ⟨emptyActions ["VIC".toList],⟨[],[],[],[],[],[]⟩,[]⟩

-- Three versions of a split whose evidence ids rise in the order of arrival.
def risingVersions : Delivery := [splitVersion 1 "1" "h1" 2,splitVersion 1 "2" "h2" 3,splitVersion 1 "3" "h3" 4]

-- The first version has the largest evidence id.
def fallingVersions : Delivery := [splitVersion 1 "1" "h3" 2,splitVersion 1 "2" "h1" 3,splitVersion 1 "3" "h2" 4]

theorem batches_agree_sample : (syncAll ⟨"VIC".toList,none⟩ sampleResponse sampleActions
        [[splitVersion 1 "1" "h1" 2],[splitVersion 2 "2" "h2" 3],[splitVersion 3 "3" "h3" 4]]).statuses =
      (syncAll ⟨"VIC".toList,none⟩ sampleResponse sampleActions [risingVersions]).statuses := by
  have passed : orderlyRun "VCI".toList "VIC".toList sampleActions risingVersions = true ∧
      orderlyRun "VCI".toList "VIC".toList sampleActions
        [splitVersion 1 "1" "h1" 2,splitVersion 2 "2" "h2" 3,splitVersion 3 "3" "h3" 4] = true := by decide +kernel
  apply batches_agree
  · rfl
  · intro provider accepted
    have named : acceptedProvider ⟨"VIC".toList,none⟩ sampleResponse = .ok "VCI".toList := by decide
    cases named.symm.trans accepted
    exact ⟨orderlyRun_sound passed.1,orderlyRun_sound passed.2⟩

-- In one call the third version replaces the first again, and the second stays in CONFLICT.
theorem batches_differ : ¬ ∀ [Platform] (request : SyncRequest) (response : ProviderResponse) (start : ResearchWarehouse)
    (whole : Delivery) (deliveries : List Delivery), Timed [whole] → Timed deliveries →
    whole.map Prod.snd = deliveries.flatten.map Prod.snd →
    (syncAll request response start deliveries).statuses = (syncAll request response start [whole]).statuses := by
  intro agree
  have same := agree ⟨"VIC".toList,none⟩ sampleResponse sampleActions fallingVersions
    [[splitVersion 1 "1" "h3" 2],[splitVersion 2 "2" "h1" 3],[splitVersion 3 "3" "h2" 4]]
    ⟨by decide,by decide,by decide⟩ ⟨by decide,by decide,by decide⟩ rfl
  have differ : (syncAll ⟨"VIC".toList,none⟩ sampleResponse sampleActions
        [[splitVersion 1 "1" "h3" 2],[splitVersion 2 "2" "h1" 3],[splitVersion 3 "3" "h2" 4]]).statuses ≠
      (syncAll ⟨"VIC".toList,none⟩ sampleResponse sampleActions [fallingVersions]).statuses := by decide +kernel
  exact differ same

end
end OpenStock.CorporateActions
