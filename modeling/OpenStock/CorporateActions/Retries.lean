import OpenStock.CorporateActions.Batches

namespace OpenStock.CorporateActions
open Text Calendar Outcomes Queue

/- A record that waits in quarantine for its symbol, ingested again once the symbol
is known. -/

-- What the sync of a symbol changes of the tables a record is validated against.
def ResearchWarehouse.learns (warehouse : ResearchWarehouse) (symbol : Text) : ResearchWarehouse :=
  {warehouse with actions:={warehouse.actions with knownSymbols:=symbol :: warehouse.actions.knownSymbols}}

-- The symbol that validation looks up.
def IngestCall.identity (call : IngestCall) : Text := upper (strip (orText call.record.symbol call.requestedSymbol))

-- The rules that do not look at the warehouse.
def recordRules (record : ActionRecord) (requestedSymbol : Text) : List String :=
  let symbol := upper (strip (orText record.symbol requestedSymbol))
  let actionType := orText record.actionType []
  rule (!given record.providerEventId) "MISSING_PROVIDER_EVENT_ID" ++
  rule (!given record.contentHash) "MISSING_CONTENT_HASH" ++
  rule (!given record.sourceReference) "MISSING_SOURCE_REFERENCE" ++
  rule (!given record.sourceVersion) "MISSING_SOURCE_VERSION" ++
  rule (symbol ≠ upper (strip requestedSymbol)) "SYMBOL_MISMATCH" ++
  rule (actionType ∉ supportedActionTypes) "UNSUPPORTED_ACTION_TYPE" ++
  rule (anchorDate record).isNone "MISSING_ACTION_DATE" ++
  rule (actionType = "CASH_DIVIDEND".toList && !positive record.cashAmount) "INVALID_CASH_AMOUNT" ++
  rule (actionType ∈ ratioActions && !positive record.ratio) "INVALID_RATIO" ++
  rule (record.subscriptionPrice.any (fun amount => decide (amount.value < 0))) "INVALID_SUBSCRIPTION_PRICE"

theorem rules_split (tables : ActionTables) (record : ActionRecord) (requestedSymbol : Text) :
    validationRules tables record requestedSymbol = recordRules record requestedSymbol ++
      rule (upper (strip (orText record.symbol requestedSymbol)) ∉ tables.knownSymbols) "UNKNOWN_SYMBOL_IDENTITY" := rfl

theorem mem_rule (inside : sought ∈ rule broken ruleId) : sought = ruleId := by
  cases broken
  · cases inside
  · exact List.mem_singleton.mp inside

theorem recordRules_known (record : ActionRecord) (requestedSymbol : Text) :
    "UNKNOWN_SYMBOL_IDENTITY" ∉ recordRules record requestedSymbol := by
  intro inside
  simp only [recordRules,List.mem_append] at inside
  rcases inside with (((((((((met | met) | met) | met) | met) | met) | met) | met) | met) | met)
  all_goals exact absurd (mem_rule met) (by decide)

variable {tables : ActionTables}

-- The symbol is the one thing missing.
theorem only_unknown {call : IngestCall}
    (rejected : validationRules tables call.record call.requestedSymbol = ["UNKNOWN_SYMBOL_IDENTITY"]) :
    recordRules call.record call.requestedSymbol = [] := by
  rw [rules_split] at rejected
  by_contra present
  obtain ⟨first,others,listed⟩ := List.exists_cons_of_ne_nil present
  rw [listed,List.cons_append,List.cons.injEq] at rejected
  exact recordRules_known call.record call.requestedSymbol (by rw [listed,rejected.1]; exact List.mem_cons_self)

section
variable [Platform]

-- The tables after a call; a refused one is rolled back.
def IngestCall.applied (call : IngestCall) (warehouse : ResearchWarehouse) : ResearchWarehouse :=
  match ingestRecord call warehouse with
  | .ok (after,_) => after
  | .error _ => warehouse

-- The action has the record's revision, and moving the source there changes no row.
def Repeats (call : IngestCall) (anchor : Date) (tables : ActionTables) : Prop :=
  ∃ existing, call.existing anchor tables = some existing ∧
    ∀ link, call.prior tables = some link → link.revisionId ≠ existing.revisionId →
      ∀ row ∈ tables.corporateActions,
        returnedRow tables (call.actionId anchor tables) link.revisionId existing.revisionId row = row

variable {call : IngestCall} {before : ResearchWarehouse}

omit [Platform] in
theorem learns_valid (rejected : validationRules before.actions call.record call.requestedSymbol = ["UNKNOWN_SYMBOL_IDENTITY"]) :
    validationRules (before.learns call.identity).actions call.record call.requestedSymbol = [] := by
  rw [rules_split,only_unknown rejected]
  simp [rule,ResearchWarehouse.learns,IngestCall.identity]

-- A stored payload changes nothing.
theorem applied_stored (stored : before.actions.stored call.rawEvidenceId = true) : call.applied before = before := by
  unfold IngestCall.applied ingestRecord
  rw [if_pos stored]
  split
  · rename_i result made
    split at made <;> cases made <;> rfl
  · rfl

theorem applied_quarantined (fresh : before.actions.stored call.rawEvidenceId = false)
    (unused : Unused before.actions call.context.uuid)
    (rejected : validationRules before.actions call.record call.requestedSymbol ≠ []) :
    (call.applied before).actions.corporateActions = before.actions.corporateActions ∧
      (call.applied before).actions.stored call.rawEvidenceId = true := by
  have free : ∀ anchor, Accepted call anchor before → ¬ Obstructed call anchor (before.observed call).actions :=
    fun anchor accepted => absurd accepted.valid rejected
  obtain ⟨⟨after,outcome⟩,ran⟩ := (ingest_returns unused).mpr free
  have done : call.applied before = after := by simp [IngestCall.applied,ran]
  rw [done]
  have own : ∀ rows : List Quarantine, ActionTables.stored {(before.observed call).actions with quarantine:=rows}
      call.rawEvidenceId = true := by
    intro rows
    simp [ActionTables.stored,ResearchWarehouse.observed,ActionTables.addEvidence,IngestCall.rawEvidence]
  cases ingest_cases ran with
  | seen stored =>
    rw [fresh] at stored
    cases stored
  | quarantined rows => exact ⟨rfl,own rows⟩
  | repeated accepted | returned accepted | revised accepted => exact absurd accepted.valid rejected

-- An accepted record leaves the rows as they are exactly when it is obstructed or repeats.
theorem applied_accepted (accepted : Accepted call anchor before) (unused : Unused before.actions call.context.uuid) :
    (call.applied before).actions.corporateActions = before.actions.corporateActions ↔
      Obstructed call anchor (before.observed call).actions ∨ Repeats call anchor (before.observed call).actions := by
  have ingested : ingestRecord call before = reconcile call anchor (before.observed call) := by
    unfold ingestRecord
    rw [if_neg (by simp [accepted.fresh])]
    simp only [accepted.valid,accepted.anchored]
    rfl
  have observed : Unused (before.observed call).actions call.context.uuid := ⟨unused.quarantine,unused.signal⟩
  unfold IngestCall.applied
  rw [ingested]
  cases ran : reconcile call anchor (before.observed call) with
  | error refused =>
    have obstructed : Obstructed call anchor (before.observed call).actions := by
      by_contra free
      obtain ⟨result,returned⟩ := (reconcile_returns observed).mpr free
      rw [ran] at returned
      cases returned
    simp [obstructed]
  | ok result =>
    obtain ⟨after,outcome⟩ := result
    have free := (reconcile_returns observed).mp ⟨_,ran⟩
    rw [or_iff_right free]
    rw [reconcile_exact] at ran
    unfold Repeats
    cases existing : call.existing anchor (before.observed call).actions with
    | none =>
      simp only [existing] at ran
      have rows := (insertRevision_alike ran).actions
      have grown := congrArg List.length (revised_contents call (revisionRow call anchor
        (call.actionId anchor (before.observed call).actions) ((call.prior (before.observed call).actions).map
          SourceLink.revisionId) (before.observed call).actions) ((call.prior (before.observed call).actions).map
            SourceLink.revisionId) (before.observed call).actions)
      simp only [ActionTables.contents,List.length_map,List.length_append,List.length_singleton,← rows] at grown
      constructor
      · intro same
        have sizes : after.actions.corporateActions.length = before.actions.corporateActions.length := congrArg List.length same
        have base : (before.observed call).actions.corporateActions.length = before.actions.corporateActions.length := rfl
        omega
      · intro repeats
        obtain ⟨_,found,_⟩ := repeats
        cases found
    | some row =>
      simp only [existing] at ran
      have rows := (reassert_alike ran).actions
      rw [show after.actions.corporateActions = _ from rows]
      unfold reasserted
      cases prior : call.prior (before.observed call).actions with
      | none => simp [linkSource_actions,ResearchWarehouse.observed,ActionTables.addEvidence]
      | some link =>
        by_cases stays : link.revisionId = row.revisionId
        · simp [Option.filter,stays,linkSource_actions,ResearchWarehouse.observed,ActionTables.addEvidence]
        · have moved : ((some link).map SourceLink.revisionId).filter (fun earlier => earlier ≠ row.revisionId) =
              some link.revisionId := by simp [Option.filter,stays]
          rw [moved]
          dsimp only
          rw [returned_rows call stays]
          constructor
          · intro same
            refine ⟨row,rfl,?_⟩
            intro other found _ each inside
            cases found
            have mapped : (before.observed call).actions.corporateActions.map _ =
                (before.observed call).actions.corporateActions.map id := same.trans (List.map_id _).symm
            exact List.map_inj_left.mp mapped each inside
          · intro repeats
            obtain ⟨existing,found,fixed⟩ := repeats
            cases found
            calc (before.observed call).actions.corporateActions.map _
                = (before.observed call).actions.corporateActions.map id :=
                  List.map_congr_left (fixed link rfl stays)
              _ = before.actions.corporateActions := List.map_id _

-- The instant of the record's own evidence does not matter before it is linked.
theorem observed_again (evidenced : Evidenced before.actions) (first : before.actions.stored call.rawEvidenceId = false)
    (again : IngestContext) (obstructed : Obstructed call anchor (before.observed call).actions) :
    Obstructed {call with context:=again} anchor (before.observed {call with context:=again}).actions := by
  have prior : IngestCall.prior {call with context:=again} (before.observed {call with context:=again}).actions =
      call.prior (before.observed call).actions := by
    have one : (before.actions.addEvidence call.rawEvidence).linkedEvidence call.provider call.providerEventId =
        before.actions.linkedEvidence call.provider call.providerEventId := linkedEvidence_observed first evidenced _ _
    have two : (before.actions.addEvidence (IngestCall.rawEvidence {call with context:=again})).linkedEvidence call.provider
        call.providerEventId = before.actions.linkedEvidence call.provider call.providerEventId :=
      linkedEvidence_observed first evidenced _ _
    exact congrArg (fun pairs => (Rows.firstBy observedLater pairs).map Prod.fst) (two.trans one.symm)
  have acts : IngestCall.actionId {call with context:=again} anchor (before.observed {call with context:=again}).actions =
      call.actionId anchor (before.observed call).actions := by
    unfold IngestCall.actionId
    rw [prior]
    rfl
  unfold Obstructed IngestCall.existing at obstructed ⊢
  rw [acts]
  exact obstructed

theorem applied_again (evidenced : Evidenced before.actions) (first : before.actions.stored call.rawEvidenceId = false)
    (valid : validationRules before.actions call.record call.requestedSymbol = [])
    (unused : Unused before.actions call.context.uuid) (fresh : Unused before.actions again.uuid) :
    (IngestCall.applied {call with context:=again} (call.applied before)).actions.corporateActions =
      (call.applied before).actions.corporateActions := by
  cases ran : ingestRecord call before with
  | ok result =>
    obtain ⟨after,outcome⟩ := result
    have done : call.applied before = after := by simp [IngestCall.applied,ran]
    have stored : after.actions.stored call.rawEvidenceId = true := ingest_stored ran
    have same : IngestCall.applied {call with context:=again} after = after := applied_stored stored
    rw [done,same]
  | error reason =>
    have refused : call.applied before = before := by simp [IngestCall.applied,ran]
    obtain ⟨anchor,accepted,obstructed⟩ : ∃ anchor, Accepted call anchor before ∧
        Obstructed call anchor (before.observed call).actions := by
      by_contra free
      push Not at free
      obtain ⟨result,returned⟩ := (ingest_returns unused).mpr free
      rw [ran] at returned
      cases returned
    have twin : Accepted {call with context:=again} anchor before := ⟨first,valid,accepted.anchored⟩
    rw [refused]
    exact (applied_accepted twin fresh).mpr (.inl (observed_again evidenced first again obstructed))

-- A record waits in quarantine, its symbol is synced, the same record comes again: the
-- rows are those of a warehouse that knew the symbol exactly when that warehouse's rows
-- would not have changed either.
theorem quarantine_released {knownSymbols : List Text} {outcomes : OutcomeTables} {canonicalOhlcv : List CanonicalBar}
    {history : List Event} {state : Reconciled}
    (path : Runs (fun _ => Step) (reconciledStart knownSymbols outcomes canonicalOhlcv) history state)
    (call : IngestCall) (again : IngestContext) (first : state.warehouse.actions.stored call.rawEvidenceId = false)
    (rejected : validationRules state.warehouse.actions call.record call.requestedSymbol = ["UNKNOWN_SYMBOL_IDENTITY"])
    (unused : Unused state.warehouse.actions call.context.uuid) (fresh : Unused state.warehouse.actions again.uuid) :
    (IngestCall.applied {call with context:=again}
          ((call.applied state.warehouse).learns call.identity)).actions.corporateActions =
        (IngestCall.applied {call with context:=again}
          (call.applied (state.warehouse.learns call.identity))).actions.corporateActions ↔
      ∃ anchor, anchorDate call.record = some anchor ∧
        (Obstructed call anchor ((state.warehouse.learns call.identity).observed call).actions ∨
          Repeats call anchor ((state.warehouse.learns call.identity).observed call).actions) := by
  obtain ⟨rows,stored⟩ := applied_quarantined first unused (by rw [rejected]; simp)
  have trapped : (IngestCall.applied {call with context:=again} ((call.applied state.warehouse).learns call.identity)) =
      (call.applied state.warehouse).learns call.identity := applied_stored stored
  have valid := learns_valid rejected
  have known : Unused (state.warehouse.learns call.identity).actions call.context.uuid := ⟨unused.quarantine,unused.signal⟩
  have evidenced : Evidenced (state.warehouse.learns call.identity).actions := runs_evidenced path
  have later : Unused (state.warehouse.learns call.identity).actions again.uuid := ⟨fresh.quarantine,fresh.signal⟩
  have settled := applied_again evidenced first valid known later
  obtain ⟨anchor,anchored⟩ : ∃ anchor, anchorDate call.record = some anchor := by
    cases missing : anchorDate call.record with
    | none => exact absurd valid (unanchored_rejected missing)
    | some anchor => exact ⟨anchor,rfl⟩
  have accepted : Accepted call anchor (state.warehouse.learns call.identity) := ⟨first,valid,anchored⟩
  have unchanged := applied_accepted accepted known
  have same : ((call.applied state.warehouse).learns call.identity).actions.corporateActions =
      (state.warehouse.learns call.identity).actions.corporateActions := rows
  rw [trapped,settled,same,eq_comm,unchanged]
  simp [anchored]

end

theorem unused_empty (withheld : tables.quarantine = []) (quiet : tables.affectedRanges = [])
    (uuid : Text) : Unused tables uuid := by
  constructor
  · simp [withheld]
  · simp [quiet]

section
attribute [local instance] samplePlatform

-- The split of VIC that VCI reported, in a warehouse that has lost the symbol.
def forgottenState : Reconciled :=
  ⟨⟨{(sampleStart.processed agreedCall).warehouse.actions with knownSymbols:=[],quarantine:=[],affectedRanges:=[]},
    ⟨[],[],[],[],[],[]⟩,[]⟩,(sampleStart.processed agreedCall).ledger⟩

-- KBS reports the same terms: whenever its symbol is known, no row changes.
theorem quarantine_released_sample : (IngestCall.applied {repeatedCall with context:=⟨9,"9".toList⟩}
          ((repeatedCall.applied forgottenState.warehouse).learns repeatedCall.identity)).actions.corporateActions =
      (IngestCall.applied {repeatedCall with context:=⟨9,"9".toList⟩}
          (repeatedCall.applied (forgottenState.warehouse.learns repeatedCall.identity))).actions.corporateActions := by
  have first : Step sampleStart (.ingest agreedCall) (sampleStart.processed agreedCall) := processed_step (by decide)
  have path : Runs (fun _ => Step) sampleStart [.elsewhere [] [] [] ⟨[],[],[],[],[],[]⟩ [],.ingest agreedCall] forgottenState :=
    .step (.step .nil first) .elsewhere
  have empty : forgottenState.warehouse.actions.quarantine = [] := rfl
  have quiet : forgottenState.warehouse.actions.affectedRanges = [] := rfl
  have rejected : validationRules forgottenState.warehouse.actions repeatedCall.record repeatedCall.requestedSymbol =
      ["UNKNOWN_SYMBOL_IDENTITY"] := by decide
  have new : forgottenState.warehouse.actions.stored repeatedCall.rawEvidenceId = false := by decide
  have released := quarantine_released path repeatedCall ⟨9,"9".toList⟩ new rejected
    (unused_empty empty quiet _) (unused_empty empty quiet _)
  rw [released]
  refine ⟨marchDay 6 (by decide),rfl,.inr ?_⟩
  have known : (repeatedCall.existing (marchDay 6 (by decide))
      ((forgottenState.warehouse.learns repeatedCall.identity).observed repeatedCall).actions).isSome = true := by decide +kernel
  have silent : repeatedCall.prior ((forgottenState.warehouse.learns repeatedCall.identity).observed repeatedCall).actions =
      none := by decide
  obtain ⟨existing,found⟩ := Option.isSome_iff_exists.mp known
  refine ⟨existing,found,?_⟩
  intro link prior
  rw [silent] at prior
  cases prior

-- A new split stays out of the registry for good.
theorem quarantine_kept : ¬ ∀ [Platform] (knownSymbols : List Text) (outcomes : OutcomeTables)
    (canonicalOhlcv : List CanonicalBar) (history : List Event) (state : Reconciled) (call : IngestCall) (again : IngestContext),
    Runs (fun _ => Step) (reconciledStart knownSymbols outcomes canonicalOhlcv) history state →
    state.warehouse.actions.stored call.rawEvidenceId = false →
    validationRules state.warehouse.actions call.record call.requestedSymbol = ["UNKNOWN_SYMBOL_IDENTITY"] →
    Unused state.warehouse.actions call.context.uuid → Unused state.warehouse.actions again.uuid →
    (IngestCall.applied {call with context:=again}
          ((call.applied state.warehouse).learns call.identity)).actions.corporateActions =
        (IngestCall.applied {call with context:=again}
          (call.applied (state.warehouse.learns call.identity))).actions.corporateActions := by
  intro released
  have same := released [] ⟨[],[],[],[],[],[]⟩ [] [] (reconciledStart [] ⟨[],[],[],[],[],[]⟩ []) agreedCall ⟨9,"9".toList⟩
    .nil (by decide) (by decide)
    (unused_empty rfl rfl _) (unused_empty rfl rfl _)
  have differ : (IngestCall.applied {agreedCall with context:=⟨9,"9".toList⟩} ((agreedCall.applied
        (reconciledStart [] ⟨[],[],[],[],[],[]⟩ []).warehouse).learns agreedCall.identity)).actions.corporateActions ≠
      (IngestCall.applied {agreedCall with context:=⟨9,"9".toList⟩} (agreedCall.applied
        ((reconciledStart [] ⟨[],[],[],[],[],[]⟩ []).warehouse.learns agreedCall.identity))).actions.corporateActions := by
    decide
  exact differ same

end
end OpenStock.CorporateActions
