import OpenStock.Foundations.Runs
import OpenStock.Outcomes.Windows

namespace OpenStock.CorporateActions
open Text Calendar Outcomes Queue

/- Complete outcomes and the actions inside their windows, under ingestion and
evaluation in any order. -/

-- No complete outcome has a current action of its symbol inside its window.
def Unspanned (warehouse : ResearchWarehouse) : Prop :=
  ∀ outcome ∈ warehouse.outcomes.candidateOutcomes, outcome.outcomeStatus = .complete →
    ∃ start finish, outcome.observationStartDate = some start ∧ outcome.observationEndDate = some finish ∧
      ∀ row ∈ warehouse.actions.corporateActions, row.symbol = outcome.symbol → row.canonicalStatus ≠ .superseded →
        ∀ day, row.observedDate = some day → ¬ (start ≤ day ∧ day ≤ finish)

-- The window contains the date of no signal of the symbol.
def Clear (ranges : List AffectedRange) (outcome : CandidateOutcome) : Prop :=
  ∃ start finish, outcome.observationStartDate = some start ∧ outcome.observationEndDate = some finish ∧
    ∀ range ∈ ranges, range.symbol = outcome.symbol → ¬ (start ≤ range.affectedFromDate ∧ range.affectedFromDate ≤ finish)

-- Every revision has a signal on its date, superseded ones too: the signals stay
-- when a revision returns. The signals are what both writers go by.
structure Guarded (warehouse : ResearchWarehouse) : Prop where
  signalled : ∀ row ∈ warehouse.actions.corporateActions, ∃ range ∈ warehouse.actions.affectedRanges,
    range.symbol = row.symbol ∧ row.observedDate = some range.affectedFromDate
  dated : ∀ range ∈ warehouse.actions.affectedRanges, range.affectedToDate = none
  clear : ∀ outcome ∈ warehouse.outcomes.candidateOutcomes, outcome.outcomeStatus = .complete →
    Clear warehouse.actions.affectedRanges outcome

theorem guarded_unspanned (guarded : Guarded warehouse) : Unspanned warehouse := by
  intro outcome inside complete
  obtain ⟨start,finish,starts,ends,clear⟩ := guarded.clear outcome inside complete
  refine ⟨start,finish,starts,ends,?_⟩
  intro row present same _ day observed within
  obtain ⟨range,signalled,symbol,dated⟩ := guarded.signalled row present
  cases observed.symm.trans dated
  exact clear range signalled (symbol.trans same) within

/- Ingestion. -/

-- Rows of one content have one symbol and one date.
theorem content_reads {left right : CorporateAction} (same : left.content = right.content) :
    left.symbol = right.symbol ∧ left.observedDate = right.observedDate := by
  have symbols : left.content.symbol = right.content.symbol := by rw [same]
  have dates : left.content.observedDate = right.content.observedDate := by rw [same]
  exact ⟨symbols,dates⟩

theorem contents_member {before after : ActionTables} (kept : after.contents = before.contents)
    (inside : row ∈ after.corporateActions) :
    ∃ other ∈ before.corporateActions, other.symbol = row.symbol ∧ other.observedDate = row.observedDate := by
  have listed : row.content ∈ before.contents := kept ▸ List.mem_map_of_mem inside
  obtain ⟨other,present,same⟩ := List.mem_map.mp listed
  exact ⟨other,present,content_reads same⟩

variable {signal : AffectedRange}

-- What is complete after a signal was complete before it and does not span it.
theorem signal_clear (clear : ∀ outcome ∈ outcomes, outcome.outcomeStatus = .complete → Clear ranges outcome)
    (inside : outcome ∈ Rows.updateWhere (spans signal.symbol signal.affectedFromDate) invalidated outcomes)
    (complete : outcome.outcomeStatus = .complete) : Clear (ranges ++ [signal]) outcome := by
  obtain ⟨source,present,rfl⟩ := List.mem_map.mp inside
  by_cases spanned : spans signal.symbol signal.affectedFromDate source = true
  · rw [if_pos spanned] at complete
    cases complete
  · rw [if_neg spanned] at complete ⊢
    obtain ⟨start,finish,starts,ends,apart⟩ := clear source present complete
    refine ⟨start,finish,starts,ends,?_⟩
    intro range listed same within
    rcases List.mem_append.mp listed with earlier | latest
    · exact apart range earlier same within
    · apply spanned
      rw [List.mem_singleton.mp latest] at same within
      simp [spans,same,complete,starts,ends,within]

-- A signal on the date of the rows that are new keeps the guard.
theorem signalled_guarded {before after : ResearchWarehouse} (guarded : Guarded before)
    (outcomes : after.outcomes = before.outcomes) (ranges : after.actions.affectedRanges = before.actions.affectedRanges)
    (unbounded : signal.affectedToDate = none) (rows : ∀ row ∈ after.actions.corporateActions,
      (∃ other ∈ before.actions.corporateActions, other.symbol = row.symbol ∧ other.observedDate = row.observedDate) ∨
        signal.symbol = row.symbol ∧ row.observedDate = some signal.affectedFromDate) : Guarded (after.signalled signal) where
  signalled := by
    intro row inside
    rcases rows row inside with ⟨other,present,symbols,dates⟩ | own
    · obtain ⟨range,listed,symbol,dated⟩ := guarded.signalled other present
      refine ⟨range,?_,symbol.trans symbols,dates.symm.trans dated⟩
      exact List.mem_append_left _ (ranges ▸ listed)
    · exact ⟨signal,List.mem_append_right _ (List.mem_singleton_self signal),own⟩
  dated := by
    intro range listed
    rcases List.mem_append.mp listed with earlier | latest
    · exact guarded.dated range (ranges ▸ earlier)
    · rw [List.mem_singleton.mp latest]
      exact unbounded
  clear := by
    intro outcome inside complete
    have listed : (after.signalled signal).actions.affectedRanges = before.actions.affectedRanges ++ [signal] :=
      congrArg (· ++ [signal]) ranges
    rw [listed]
    apply signal_clear guarded.clear _ complete
    rw [← outcomes]
    exact inside

theorem unsignalled_guarded (guarded : Guarded before)
    (outcomes : after.outcomes = before.outcomes) (ranges : after.actions.affectedRanges = before.actions.affectedRanges)
    (kept : after.actions.contents = before.actions.contents) : Guarded after where
  signalled := by
    intro row inside
    obtain ⟨other,present,symbols,dates⟩ := contents_member kept inside
    obtain ⟨range,listed,symbol,dated⟩ := guarded.signalled other present
    exact ⟨range,ranges ▸ listed,symbol.trans symbols,dates.symm.trans dated⟩
  dated := ranges ▸ guarded.dated
  clear := by
    rw [outcomes,ranges]
    exact guarded.clear

section
variable [Platform]

theorem returned_ranges (call : IngestCall) (actionId earlier revisionId : Text) (tables : ActionTables) :
    (returned call actionId earlier revisionId tables).affectedRanges = tables.affectedRanges := by
  rw [returned,refresh_ranges,linkSource_ranges]
  rfl

theorem revised_ranges (call : IngestCall) (row : CorporateAction) (supersedes : Option Text) (tables : ActionTables) :
    (revised call row supersedes tables).affectedRanges = tables.affectedRanges := by
  rw [revised,linkSource_ranges]
  rfl

-- A new revision is dated by the record's anchor.
theorem newRevision_observed (anchored : anchorDate call.record = some anchor) (actionId : Text)
    (revisionNumber : Nat) (status : CanonicalStatus) (supersedes : Option Text) :
    (newRevision call anchor actionId revisionNumber status supersedes).observedDate = some anchor := by
  unfold anchorDate at anchored
  simp only [CorporateAction.observedDate,newRevision]
  cases ex : call.record.exDate <;> cases effective : call.record.effectiveDate <;> cases noted : call.record.recordDate <;>
    simp_all

theorem ingest_guarded (guarded : Guarded before) (ran : ingestRecord call before = .ok (after,outcome)) : Guarded after := by
  cases ingest_cases ran with
  | seen => exact guarded
  | quarantined =>
    apply unsignalled_guarded guarded
    · rfl
    · rfl
    · rfl
  | repeated =>
    apply unsignalled_guarded guarded
    · rfl
    · exact linkSource_ranges _ _
    · exact linkSource_contents _ _
  | returned =>
    apply signalled_guarded guarded
    · rfl
    · exact returned_ranges _ _ _ _ _
    · rfl
    · intro row inside
      exact .inl (contents_member (returned_contents call _ _ _ (before.observed call).actions) inside)
  | revised accepted _ new built =>
    apply signalled_guarded guarded
    · rfl
    · exact revised_ranges _ _ _ _
    · rfl
    · intro row inside
      have listed : row.content ∈ before.actions.contents ++ [new.content] :=
        (revised_contents call new _ (before.observed call).actions).symm ▸ List.mem_map_of_mem inside
      rcases List.mem_append.mp listed with earlier | latest
      · obtain ⟨other,present,same⟩ := List.mem_map.mp earlier
        exact .inl ⟨other,present,content_reads same⟩
      · obtain ⟨symbols,dates⟩ := content_reads (List.mem_singleton.mp latest)
        rw [built] at symbols dates
        rw [newRevision_observed accepted.anchored] at dates
        exact .inr ⟨symbols.symm,dates⟩

end

/- Evaluation. -/

theorem assess_clear (assessed : assessObservationLineage warehouse symbol start finish = .ok lineage)
    (clear : lineage.actionOverlapStatus ≠ .invalid) : overlappingActions warehouse.actions symbol start finish = [] := by
  unfold assessObservationLineage at assessed
  simp only at assessed
  split at assessed
  · cases assessed
  · split at assessed
    · split at assessed
      · cases assessed
      · split at assessed
        · rename_i none
          exact none
        · cases assessed
          exact absurd rfl clear
    · cases assessed

theorem overlapping_ranges (none : overlappingActions tables symbol start finish = []) (listed : range ∈ tables.affectedRanges) :
    rangeOverlaps symbol start finish range = false := by
  cases overlaps : rangeOverlaps symbol start finish range with
  | false => rfl
  | true =>
    have selected : range ∈ tables.affectedRanges.filter (rangeOverlaps symbol start finish) :=
      List.mem_filter.mpr ⟨listed,overlaps⟩
    simp only [overlappingActions,List.dedup_eq_nil,List.append_eq_nil_iff,List.map_eq_nil_iff] at none
    rw [none.2] at selected
    cases selected

-- A record comes out complete only when no signal is inside its window.
theorem evaluate_clear (dated : ∀ range ∈ warehouse.actions.affectedRanges, range.affectedToDate = none)
    (ran : evaluateSingleCandidate warehouse candidate horizon symbolBars benchmarkBars runId metricPolicy = .ok result)
    (complete : result.outcomeStatus = .complete) : Clear warehouse.actions.affectedRanges result := by
  obtain ⟨entry,last,lineage,assessed,_,_,looked,clear,named,_,starts,ends,evaluated⟩ := evaluate_complete ran complete
  obtain ⟨exit,benchEntry,benchExit,basis,_,_,_,rfl⟩ := evaluateReturns_complete evaluated complete
  refine ⟨entry.time,last.time,starts,ends,?_⟩
  intro range listed same within
  have apart := overlapping_ranges (assess_clear looked clear) listed
  have symbol : range.symbol = candidate.symbol := same.trans named
  simp [rangeOverlaps,symbol,dated range listed] at apart
  exact absurd within.1 (not_le.mpr (apart within.2))

theorem evaluated_clear (dated : ∀ range ∈ warehouse.actions.affectedRanges, range.affectedToDate = none)
    (complete : (evaluated warehouse call candidate horizon).1.outcomeStatus = .complete) :
    Clear warehouse.actions.affectedRanges (evaluated warehouse call candidate horizon).1 := by
  unfold evaluated at complete ⊢
  split at complete
  · rename_i record ran
    exact evaluate_clear dated ran complete
  · cases complete

theorem aggregateAll_outcomes (tables : OutcomeTables) (watchlistDate : Date) (horizons : List Int) :
    (horizons.foldl (fun tables horizon => aggregateAll tables watchlistDate horizon) tables).candidateOutcomes =
      tables.candidateOutcomes := by
  induction horizons generalizing tables with
  | nil => rfl
  | cons horizon horizons ih => exact ih (aggregateAll tables watchlistDate horizon)

theorem evaluate_actions (warehouse : ResearchWarehouse) (watchlist : List WatchlistRow) (call : Evaluation) :
    (evaluateWatchlistDate warehouse watchlist call).actions = warehouse.actions := by
  simp only [evaluateWatchlistDate]
  split <;> rfl

theorem evaluate_outcomes (inside : outcome ∈ (evaluateWatchlistDate warehouse watchlist call).outcomes.candidateOutcomes) :
    outcome ∈ warehouse.outcomes.candidateOutcomes ∨
      ∃ candidate horizon, outcome = (evaluated warehouse call candidate horizon).1 := by
  simp only [evaluateWatchlistDate] at inside
  split at inside
  · exact .inl inside
  · simp only [aggregateAll_outcomes] at inside
    rcases Rows.mem_upserts inside with written | earlier
    · obtain ⟨result,listed,rfl⟩ := List.mem_map.mp written
      obtain ⟨candidate,_,results⟩ := List.mem_flatMap.mp listed
      obtain ⟨horizon,_,rfl⟩ := List.mem_map.mp results
      exact .inr ⟨candidate,horizon,rfl⟩
    · exact .inl earlier

theorem evaluate_guarded (guarded : Guarded before) (watchlist : List WatchlistRow) (call : Evaluation) :
    Guarded (evaluateWatchlistDate before watchlist call) where
  signalled := by
    rw [evaluate_actions]
    exact guarded.signalled
  dated := by
    rw [evaluate_actions]
    exact guarded.dated
  clear := by
    rw [evaluate_actions]
    intro outcome inside complete
    rcases evaluate_outcomes inside with earlier | ⟨candidate,horizon,rfl⟩
    · exact guarded.clear outcome earlier complete
    · exact evaluated_clear guarded.dated complete

/- Runs. -/

def ResearchWarehouse.recorded (warehouse : ResearchWarehouse) (record : CandidateOutcome) : ResearchWarehouse :=
  {warehouse with outcomes:={warehouse.outcomes with
    candidateOutcomes:=Rows.upsert CandidateOutcome.key warehouse.outcomes.candidateOutcomes record}}

inductive ResearchEvent where
  | ingest (call : IngestCall)
  | evaluate (watchlist : List WatchlistRow) (call : Evaluation)
  | record (candidate : WatchlistRow) (horizon : Int)
  | load (knownSymbols : List Text) (canonicalOhlcv : List CanonicalBar)

-- An evaluation runs as a whole, or one of its records is written on its own: each
-- write commits by itself, and an ingestion may come between two of them, when the
-- bars are those read before. Bars and symbols are loaded by others.
inductive ResearchStep [Platform] : ResearchWarehouse → ResearchEvent → ResearchWarehouse → Prop where
  | ingest (ran : ingestRecord call before = .ok (after,outcome)) : ResearchStep before (.ingest call) after
  | evaluate : ResearchStep before (.evaluate watchlist call) (evaluateWatchlistDate before watchlist call)
  | record (ran : evaluateSingleCandidate before candidate horizon symbolBars benchmarkBars runId metricPolicy = .ok result) :
      ResearchStep before (.record candidate horizon) (before.recorded result)
  | load : ResearchStep before (.load knownSymbols canonicalOhlcv)
      {before with actions:={before.actions with knownSymbols:=knownSymbols},canonicalOhlcv:=canonicalOhlcv}

def emptyResearch (knownSymbols : List Text) (canonicalOhlcv : List CanonicalBar) : ResearchWarehouse :=
  ⟨emptyActions knownSymbols,⟨[],[],[],[],[],[]⟩,canonicalOhlcv⟩

theorem empty_guarded (knownSymbols : List Text) (canonicalOhlcv : List CanonicalBar) :
    Guarded (emptyResearch knownSymbols canonicalOhlcv) where
  signalled := by
    intro row inside
    cases inside
  dated := by
    intro range inside
    cases inside
  clear := by
    intro outcome inside
    cases inside

theorem step_guarded [Platform] (guarded : Guarded before) (step : ResearchStep before event after) : Guarded after := by
  cases step with
  | ingest ran => exact ingest_guarded guarded ran
  | evaluate => exact evaluate_guarded guarded _ _
  | record ran =>
    refine ⟨guarded.signalled,guarded.dated,?_⟩
    intro outcome inside complete
    rcases Rows.mem_upsert inside with rfl | earlier
    · exact evaluate_clear guarded.dated ran complete
    · exact guarded.clear outcome earlier complete
  | load => exact ⟨guarded.signalled,guarded.dated,guarded.clear⟩

theorem runs_guarded [Platform]
    (path : Runs (fun _ => ResearchStep) (emptyResearch knownSymbols canonicalOhlcv) history state) : Guarded state := by
  induction path with
  | nil => exact empty_guarded knownSymbols canonicalOhlcv
  | step _ step ih => exact step_guarded ih step

theorem complete_outcomes_unspanned [Platform]
    (path : Runs (fun _ => ResearchStep) (emptyResearch knownSymbols canonicalOhlcv) history state) : Unspanned state :=
  guarded_unspanned (runs_guarded path)

/- VIC is evaluated over the 4th and 5th; then its split of the 6th is ingested. -/

def windowStart : ResearchWarehouse := emptyResearch ["VIC".toList] (sampleBars sampleSessions)

def windowEvaluated : ResearchWarehouse :=
  evaluateWatchlistDate windowStart [sampleCandidate] ⟨marchDay 1 day_1,[2],closeOnlyV1,"run-1".toList⟩

section
attribute [local instance] samplePlatform

theorem complete_outcomes_unspanned_sample : ∃ state history,
    Runs (fun _ => ResearchStep) windowStart history state ∧ Unspanned state ∧
      state.outcomes.candidateOutcomes.map CandidateOutcome.outcomeStatus = [.complete] ∧
      state.actions.corporateActions.map CorporateAction.canonicalStatus = [.active] := by
  let call := sampleCall 1 "VCI" (sampleSplit "split-1" "h1" (marchDay 6 (by decide)) 2)
  have reported : (ingestRecord call windowEvaluated).toOption.map (fun result =>
      (result.1.outcomes.candidateOutcomes.map CandidateOutcome.outcomeStatus,
        result.1.actions.corporateActions.map CorporateAction.canonicalStatus)) = some ([.complete],[.active]) := by
    decide
  cases ran : ingestRecord call windowEvaluated with
  | error refused =>
    rw [ran] at reported
    cases reported
  | ok result =>
    rw [ran] at reported
    obtain ⟨complete,active⟩ := Prod.mk.inj (Option.some.inj reported)
    have path : Runs (fun _ => ResearchStep) windowStart [.ingest call,.evaluate [sampleCandidate] _] result.1 :=
      .step (.step .nil .evaluate) (.ingest ran)
    exact ⟨result.1,_,path,complete_outcomes_unspanned path,complete,active⟩

end
end OpenStock.CorporateActions
