import OpenStock.CorporateActions.AdjustedPrices
import OpenStock.CorporateActions.ObservationWindows
import OpenStock.CorporateActions.Synchronization

namespace OpenStock.CorporateActions
open Text Calendar Outcomes Queue

/- The rows ingestion leaves, and what the adjusted-price builder asks of them. -/

-- No row has the status the builder derives a factor from.
def Underivable (tables : ActionTables) : Prop := ∀ row ∈ tables.corporateActions, row.canonicalStatus ≠ .current

structure Unsettled (tables : ActionTables) : Prop where
  underivable : Underivable tables
  unresolved : ∀ range ∈ tables.affectedRanges, range.resolvedAt = none

-- The signal's revision is the only one of its action that is not superseded, and
-- a factor can be derived from its type and amounts.
def Adjustable (tables : ActionTables) (signal : AffectedRange) : Prop :=
  ∃ row ∈ tables.corporateActions, row.revisionId = signal.revisionId ∧ row.canonicalStatus ≠ .superseded ∧
    (∀ other ∈ tables.corporateActions, other.actionId = row.actionId → other.canonicalStatus ≠ .superseded → other = row) ∧
    ∃ factor, factorOf row = .ok factor

-- The rebuild returns, the signal is resolved and its revision has a current factor.
def Rebuilt (signal : AffectedRange) (ran : AdjustedWarehouse × Except AdjustmentError (List BuildResult)) : Prop :=
  (∃ results, ran.2 = .ok results) ∧
    (∃ range ∈ ran.1.research.actions.affectedRanges, range.signalId = signal.signalId ∧ range.resolvedAt.isSome = true) ∧
    ∃ factor ∈ ran.1.factors, factor.actionRevisionId = signal.revisionId ∧ factor.canonicalStatus = .current

/- Ingestion. -/

section
variable {tables : ActionTables}

theorem edit_underivable (underivable : Underivable tables)
    (changes : ∀ row, row.canonicalStatus ≠ .current → (change row).canonicalStatus ≠ .current) :
    Underivable (tables.edit selects change) := by
  intro row inside
  obtain ⟨source,present,rfl⟩ := List.mem_map.mp inside
  split
  · exact changes source (underivable source present)
  · exact underivable source present

theorem setStatus_underivable (underivable : Underivable tables) (selects : CorporateAction → Bool)
    (other : status ≠ .current) : Underivable (tables.setStatus selects status) :=
  edit_underivable underivable (fun _ _ => other)

theorem linkSource_underivable (underivable : Underivable tables) (link : SourceLink) : Underivable (tables.linkSource link) := by
  unfold ActionTables.linkSource
  split <;> exact underivable

theorem refresh_underivable (underivable : Underivable tables) (actionId revisionId : Text) :
    Underivable (refreshCurrentRevisionStatuses tables actionId revisionId).1 := by
  simp only [refreshCurrentRevisionStatuses]
  split
  · apply setStatus_underivable
    · exact setStatus_underivable underivable _ (by decide)
    · decide
  · exact setStatus_underivable underivable _ (by decide)

theorem settled_underivable (underivable : Underivable tables) (actionId : Text) (supersedes : Option Text) :
    Underivable (settled tables actionId supersedes) := by
  apply setStatus_underivable
  · exact setStatus_underivable underivable _ (by decide)
  · decide

-- A signal enters unresolved.
theorem signalled_unresolved {signal : AffectedRange}
    (unresolved : ∀ range ∈ ranges, range.resolvedAt = none) (open_ : signal.resolvedAt = none) :
    ∀ range ∈ ranges ++ [signal], range.resolvedAt = none := by
  intro range inside
  rcases List.mem_append.mp inside with earlier | latest
  · exact unresolved range earlier
  · rw [List.mem_singleton.mp latest]
    exact open_

variable [Platform]

theorem returned_underivable (underivable : Underivable tables) (call : IngestCall) (actionId earlier revisionId : Text) :
    Underivable (returned call actionId earlier revisionId tables) := by
  apply refresh_underivable
  apply linkSource_underivable
  apply edit_underivable underivable
  intro row _
  exact (by decide : CanonicalStatus.superseded ≠ .current)

theorem revised_underivable (underivable : Underivable tables) (call : IngestCall) (supersedes : Option Text)
    (new : row.canonicalStatus ≠ .current) : Underivable (revised call row supersedes tables) := by
  apply linkSource_underivable
  apply edit_underivable
  · intro other inside
    rcases List.mem_append.mp inside with earlier | latest
    · exact settled_underivable underivable _ _ other earlier
    · rw [List.mem_singleton.mp latest]
      exact new
  · intro other status
    exact status

theorem ingest_unsettled (ran : ingestRecord call before = .ok (after,outcome)) (unsettled : Unsettled before.actions) :
    Unsettled after.actions := by
  have underivable : Underivable (before.observed call).actions := unsettled.underivable
  have unresolved : ∀ range ∈ (before.observed call).actions.affectedRanges, range.resolvedAt = none := unsettled.unresolved
  cases ingest_cases ran with
  | seen => exact unsettled
  | quarantined => exact ⟨underivable,unresolved⟩
  | repeated =>
    constructor
    · exact linkSource_underivable underivable _
    · rw [linkSource_ranges]
      exact unresolved
  | returned =>
    constructor
    · exact returned_underivable underivable call _ _ _
    · apply signalled_unresolved
      · rw [returned_ranges]
        exact unresolved
      · rfl
  | revised _ _ row built =>
    have status : row.canonicalStatus ≠ .current := by
      rw [built,newRevision]
      split
      · exact (by decide : CanonicalStatus.active ≠ .current)
      · exact (by decide : CanonicalStatus.conflict ≠ .current)
    constructor
    · exact revised_underivable underivable call _ status
    · apply signalled_unresolved
      · rw [revised_ranges]
        exact unresolved
      · rfl

/- Runs from an empty store. -/

inductive SyncEvent where
  | sync (request : SyncRequest) (response : Except ClientFailure ProviderResponse)
  | elsewhere (knownSymbols : List Text) (outcomes : OutcomeTables) (canonicalOhlcv : List CanonicalBar)

-- A synchronization, or anything that leaves the corporate-action tables alone.
inductive SyncStep : ResearchWarehouse → SyncEvent → ResearchWarehouse → Prop where
  | sync : SyncStep before (.sync request response) (syncCorporateActions request response before).1
  | elsewhere : SyncStep before (.elsewhere knownSymbols outcomes canonicalOhlcv)
      ⟨{before.actions with knownSymbols:=knownSymbols},outcomes,canonicalOhlcv⟩

def syncStart (knownSymbols : List Text) (outcomes : OutcomeTables) (canonicalOhlcv : List CanonicalBar) : ResearchWarehouse :=
  ⟨emptyActions knownSymbols,outcomes,canonicalOhlcv⟩

theorem runs_unsettled (path : Runs (fun _ => SyncStep) (syncStart knownSymbols outcomes canonicalOhlcv) history state) :
    Unsettled state.actions := by
  induction path with
  | nil =>
    constructor
    · intro row inside
      cases inside
    · intro range inside
      cases inside
  | step _ step ih =>
    cases step with
    | sync => exact sync_preserves ingest_unsettled ih _ _
    | elsewhere => exact ⟨ih.underivable,ih.unresolved⟩

/- The rebuild. -/

omit [Platform] in
theorem derive_underivable (underivable : Underivable tables) (revisionId : Text) :
    deriveFactorForRevision tables.corporateActions revisionId = .error .noCurrentRevision := by
  have absent : tables.corporateActions.find? (fun row => row.revisionId = revisionId && row.canonicalStatus = .current) = none := by
    rw [List.find?_eq_none]
    intro row inside
    simp [underivable row inside]
  rw [deriveFactorForRevision,absent]

variable [DecimalText] {warehouse : AdjustedWarehouse}

theorem rebuildSignal_underivable (underivable : Underivable warehouse.research.actions) (now : Int) (signal : AffectedRange) :
    ∃ refused, rebuildSignal now signal warehouse = .error refused := by
  unfold rebuildSignal deriveAndPersistFactor
  cases identity : warehouse.research.actions.corporateActions.find? (fun row => row.revisionId = signal.revisionId) with
  | none => exact ⟨.unknownRevision,rfl⟩
  | some row =>
    refine ⟨.noCurrentRevision,?_⟩
    simp only [derive_underivable underivable]
    rfl

-- The first signal stops the rebuild before it has written anything.
theorem rebuild_underivable (underivable : Underivable warehouse.research.actions) (now : Int) (limit : Nat) :
    (rebuildPendingAdjustedRanges now limit warehouse).1 = warehouse ∧
      (warehouse.pending limit ≠ [] → ∃ refused, (rebuildPendingAdjustedRanges now limit warehouse).2 = .error refused) := by
  unfold rebuildPendingAdjustedRanges
  cases pending : warehouse.pending limit with
  | nil => exact ⟨rfl,fun some => absurd rfl some⟩
  | cons signal rest =>
    obtain ⟨refused,failed⟩ := rebuildSignal_underivable underivable now signal
    rw [rebuildSignals,failed]
    exact ⟨rfl,fun _ => ⟨refused,rfl⟩⟩

-- No signal that ingestion leaves is ever resolved, whatever factors and adjusted
-- bars there are.
theorem pending_range_never_rebuilt (path : Runs (fun _ => SyncStep) (syncStart knownSymbols outcomes canonicalOhlcv) history state)
    (factors : List StoredFactor) (adjustedOhlcv : List AdjustedBar) (signal : AffectedRange) (now : Int) (limit : Nat) :
    ¬ Rebuilt signal (rebuildPendingAdjustedRanges now limit ⟨state,factors,adjustedOhlcv⟩) := by
  rintro ⟨_,⟨range,inside,_,resolved⟩,_⟩
  have unsettled := runs_unsettled path
  rw [(rebuild_underivable unsettled.underivable now limit).1] at inside
  rw [unsettled.unresolved range inside] at resolved
  cases resolved

end

/- VCI reports a split of VIC, and its signal waits. -/

def plainFraction (value : ℚ) : Text := Json.renderInt value.num ++ '/' :: Nat.toDigits 10 value.den

@[reducible]
def sampleDecimals : DecimalText := ⟨plainFraction⟩

def splitResponse : ProviderResponse :=
  ⟨"reference.corporate_actions".toList,"VCI".toList,some "PASS".toList,
    [(⟨1,['1']⟩,sampleSplit "split-1" "h1" (marchDay 6 day_6) 2)]⟩

def splitRequest : SyncRequest := ⟨"vic".toList,some "VCI".toList⟩

def pendingStart : ResearchWarehouse := syncStart ["VIC".toList] ⟨[],[],[],[],[],[]⟩ []

def pendingState : ResearchWarehouse := (@syncCorporateActions samplePlatform splitRequest (.ok splitResponse) pendingStart).1

section
attribute [local instance] samplePlatform sampleDecimals

theorem pendingState_reached :
    Runs (fun _ => SyncStep) pendingStart [.sync splitRequest (.ok splitResponse)] pendingState := .step .nil .sync

-- The row and the signal the synchronization leaves.
theorem pendingState_rows : ∃ row signal, pendingState.actions.corporateActions = [row] ∧
    pendingState.actions.affectedRanges = [signal] ∧ signal.resolvedAt = none ∧ row.revisionId = signal.revisionId ∧
      row.canonicalStatus = .active ∧ (factorOf row).toOption.isSome = true := by
  have rows : pendingState.actions.corporateActions.length = 1 := by decide
  have signals : pendingState.actions.affectedRanges.length = 1 := by decide
  obtain ⟨row,written⟩ := List.length_eq_one_iff.mp rows
  obtain ⟨signal,sent⟩ := List.length_eq_one_iff.mp signals
  have same : pendingState.actions.corporateActions.map CorporateAction.revisionId =
      pendingState.actions.affectedRanges.map AffectedRange.revisionId := by decide +kernel
  have open_ : pendingState.actions.affectedRanges.map AffectedRange.resolvedAt = [none] := by decide
  have status : pendingState.actions.corporateActions.map CorporateAction.canonicalStatus = [.active] := by decide
  have derived : pendingState.actions.corporateActions.map (fun row => (factorOf row).toOption.isSome) = [true] := by
    decide
  rw [written] at same status derived
  rw [sent] at same open_
  refine ⟨row,signal,written,sent,?_,?_,?_,?_⟩
  · simpa using open_
  · simpa using same
  · simpa using status
  · simpa using derived

theorem pendingState_adjustable : ∃ signal ∈ pendingState.actions.affectedRanges, signal.resolvedAt = none ∧
    Adjustable pendingState.actions signal := by
  obtain ⟨row,signal,written,sent,open_,same,status,derived⟩ := pendingState_rows
  refine ⟨signal,sent ▸ List.mem_singleton_self signal,open_,row,written ▸ List.mem_singleton_self row,same,?_,?_,?_⟩
  · rw [status]
    decide
  · intro other inside _ _
    rw [written] at inside
    exact List.mem_singleton.mp inside
  · cases made : factorOf row with
    | error refused =>
      rw [made] at derived
      cases derived
    | ok factor => exact ⟨factor,rfl⟩

theorem pending_split_not_rebuilt : ¬ ∀ [Platform] [DecimalText] (knownSymbols : List Text) (outcomes : OutcomeTables)
    (canonicalOhlcv : List CanonicalBar) (history : List SyncEvent) (state : ResearchWarehouse)
    (factors : List StoredFactor) (adjustedOhlcv : List AdjustedBar) (signal : AffectedRange) (now : Int) (limit : Nat),
    Runs (fun _ => SyncStep) (syncStart knownSymbols outcomes canonicalOhlcv) history state →
    signal ∈ state.actions.affectedRanges → signal.resolvedAt = none → Adjustable state.actions signal →
    state.actions.affectedRanges.length ≤ limit →
    Rebuilt signal (rebuildPendingAdjustedRanges now limit ⟨state,factors,adjustedOhlcv⟩) := by
  intro rebuilds
  obtain ⟨signal,inside,open_,adjustable⟩ := pendingState_adjustable
  obtain ⟨_,⟨range,present,_,resolved⟩,_⟩ :=
    rebuilds _ _ _ _ _ [] [] signal 2 _ pendingState_reached inside open_ adjustable le_rfl
  have unsettled := runs_unsettled pendingState_reached
  rw [(rebuild_underivable unsettled.underivable _ _).1] at present
  rw [unsettled.unresolved range present] at resolved
  cases resolved

theorem pending_range_never_rebuilt_sample : ∃ signal ∈ pendingState.actions.affectedRanges, signal.resolvedAt = none ∧
    Adjustable pendingState.actions signal ∧ ¬ Rebuilt signal (rebuildPendingAdjustedRanges 2 100 ⟨pendingState,[],[]⟩) := by
  obtain ⟨signal,inside,open_,adjustable⟩ := pendingState_adjustable
  exact ⟨signal,inside,open_,adjustable,pending_range_never_rebuilt pendingState_reached [] [] signal 2 100⟩

end
end OpenStock.CorporateActions
