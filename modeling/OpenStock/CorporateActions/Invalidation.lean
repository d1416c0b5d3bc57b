import OpenStock.CorporateActions.Ingested

namespace OpenStock.CorporateActions
open Text Calendar Outcomes Queue

/- What a call leaves of the outcomes and of their aggregates. -/

def NewlyInvalid (before after : OutcomeTables) (key : OutcomeKey) : Prop :=
  (∃ row ∈ before.candidateOutcomes, row.key = key ∧ row.outcomeStatus = .complete) ∧
    ∃ row ∈ after.candidateOutcomes, row.key = key ∧ row.outcomeStatus = .invalid

-- No aggregate left was computed from an outcome that is now INVALID.
def Reached (before after : OutcomeTables) : Prop :=
  ∀ population ∈ after.populations, ∀ key ∈ population, ¬ NewlyInvalid before after key

-- A complete outcome whose observation window contains the record's anchor date.
def Overlapped (call : IngestCall) (tables : OutcomeTables) (key : OutcomeKey) : Prop :=
  ∃ anchor, anchorDate call.record = some anchor ∧
    ∃ row ∈ tables.candidateOutcomes, row.key = key ∧ spans call.symbol anchor row = true

section
variable {tables : OutcomeTables} {symbol : Text} {anchor : Date} {key : OutcomeKey}

theorem spans_complete (spanned : spans symbol anchor row = true) : row.outcomeStatus = .complete := by
  simp only [spans,Bool.and_eq_true,decide_eq_true_eq] at spanned
  exact spanned.1.1.2

theorem mem_aggregateKeys : (date,horizon) ∈ aggregateKeys symbol anchor tables ↔
    ∃ row ∈ tables.candidateOutcomes, spans symbol anchor row = true ∧
      row.watchlistDate = date ∧ row.horizonSessions = horizon := by
  simp [aggregateKeys,and_assoc]

theorem invalidate_newly (keyed : Rows.Distinct CandidateOutcome.key tables.candidateOutcomes) :
    NewlyInvalid tables (invalidateOutcomes symbol anchor tables) key ↔
      ∃ row ∈ tables.candidateOutcomes, row.key = key ∧ spans symbol anchor row = true := by
  constructor
  · rintro ⟨⟨row,inside,named,complete⟩,changed,result,renamed,invalid⟩
    obtain ⟨source,present,rfl⟩ := List.mem_map.mp result
    by_cases spanned : spans symbol anchor source = true
    · rw [if_pos spanned] at renamed
      exact ⟨source,present,renamed,spanned⟩
    · rw [if_neg spanned] at renamed invalid
      have same := Rows.same_row keyed present inside (renamed.trans named.symm)
      rw [same,complete] at invalid
      cases invalid
  · rintro ⟨row,inside,named,spanned⟩
    refine ⟨⟨row,inside,named,spans_complete spanned⟩,invalidated row,?_,named,rfl⟩
    exact List.mem_map.mpr ⟨row,inside,by rw [if_pos spanned]⟩

theorem unchanged_newly (keyed : Rows.Distinct CandidateOutcome.key tables.candidateOutcomes) :
    ¬ NewlyInvalid tables tables key := by
  rintro ⟨⟨row,inside,named,complete⟩,other,present,renamed,invalid⟩
  rw [Rows.same_row keyed present inside (renamed.trans named.symm),complete] at invalid
  cases invalid

theorem mem_cumulative : row ∈ (invalidateOutcomes symbol anchor tables).cumulative ↔
    row ∈ tables.cumulative ∧ (row.asOfDate,row.horizonSessions) ∉ aggregateKeys symbol anchor tables := by
  simp only [OutcomeTables.cumulative,invalidateOutcomes,List.mem_append,List.mem_filter,decide_eq_true_eq]
  tauto

end

theorem ingested_outcomes [Platform] (ingested : Ingested call before after) : after.outcomes = before.outcomes ∨
      ∃ anchor, anchorDate call.record = some anchor ∧
        after.outcomes = invalidateOutcomes call.symbol anchor before.outcomes := by
  cases ingested with
  | seen | quarantined | repeated => exact .inl rfl
  | returned accepted | revised accepted => exact .inr ⟨_,accepted.anchored,rfl⟩

-- The rows a signal turns INVALID are the complete ones whose window it meets.
theorem newly_overlapped (keyed : Rows.Distinct CandidateOutcome.key tables.candidateOutcomes)
    (anchored : anchorDate call.record = some anchor) :
    NewlyInvalid tables (invalidateOutcomes call.symbol anchor tables) key ↔ Overlapped call tables key := by
  rw [invalidate_newly keyed]
  constructor
  · intro spanned
    exact ⟨anchor,anchored,spanned⟩
  · rintro ⟨other,same,spanned⟩
    cases anchored.symm.trans same
    exact spanned

theorem overlapped_keys (anchored : anchorDate call.record = some anchor) :
    (date,horizon) ∈ aggregateKeys call.symbol anchor tables ↔
      ∃ key, Overlapped call tables key ∧ key.watchlistDate = date ∧ key.horizonSessions = horizon := by
  rw [mem_aggregateKeys]
  constructor
  · rintro ⟨row,inside,spanned,dated,sized⟩
    exact ⟨row.key,⟨anchor,anchored,row,inside,rfl,spanned⟩,dated,sized⟩
  · rintro ⟨_,⟨other,same,row,inside,rfl,spanned⟩,dated,sized⟩
    cases anchored.symm.trans same
    exact ⟨row,inside,spanned,dated,sized⟩

-- The aggregates of a watchlist date are always removed; a cumulative one only
-- when it ends on the date of an affected outcome of its horizon.
theorem invalidation_reaches_aggregates [Platform]
    (keyed : Rows.Distinct CandidateOutcome.key before.outcomes.candidateOutcomes)
    (ran : ingestRecord call before = .ok (after,outcome)) (turned : NewlyInvalid before.outcomes after.outcomes turnedKey) :
    Reached before.outcomes after.outcomes ↔
      ∀ row ∈ before.outcomes.cumulative, (∃ key ∈ row.population, Overlapped call before.outcomes key) →
        ∃ key, Overlapped call before.outcomes key ∧
          key.watchlistDate = row.asOfDate ∧ key.horizonSessions = row.horizonSessions := by
  rcases ingested_outcomes (ingest_cases ran) with same | ⟨anchor,anchored,result⟩
  · rw [same] at turned
    exact absurd turned (unchanged_newly keyed)
  rw [result]
  constructor
  · rintro reached row inside ⟨key,counted,overlapped⟩
    rw [← overlapped_keys anchored]
    by_contra kept
    have left : row ∈ (invalidateOutcomes call.symbol anchor before.outcomes).cumulative := mem_cumulative.mpr ⟨inside,kept⟩
    have listed := List.mem_append_right
      ((invalidateOutcomes call.symbol anchor before.outcomes).watchlistOutcomes.map WatchlistOutcome.population)
      (List.mem_map_of_mem (f := Performance.population) left)
    exact reached row.population listed key counted ((newly_overlapped keyed anchored).mpr overlapped)
  · intro covered population inside key counted newly
    have overlapped := (newly_overlapped keyed anchored).mp newly
    rcases List.mem_append.mp inside with dated | cumulative
    · obtain ⟨row,left,rfl⟩ := List.mem_map.mp dated
      have kept : (row.watchlistDate,row.horizonSessions) ∉ aggregateKeys call.symbol anchor before.outcomes := by
        simpa using (List.mem_filter.mp left).2
      obtain ⟨sameDate,sameHorizon⟩ := row.populated key counted
      exact kept ((overlapped_keys anchored).mpr ⟨key,overlapped,sameDate,sameHorizon⟩)
    · obtain ⟨row,left,rfl⟩ := List.mem_map.mp cumulative
      obtain ⟨present,kept⟩ := mem_cumulative.mp left
      exact kept ((overlapped_keys anchored).mpr (covered row present ⟨key,counted,overlapped⟩))

/- A complete outcome of VIC and the score-bucket rows it entered: the one of its
own watchlist date, and one computed later. -/

def sampleOutcome : CandidateOutcome :=
  { symbol:="VIC".toList
    watchlistDate:=marchDay 1 day_1
    horizonSessions:=5
    outcomeStatus:=.complete
    observationStartDate:=some (marchDay 4 day_4)
    observationEndDate:=some (marchDay 8 day_8) }

def sampleBucket (asOfDate : Date) (later : marchDay 1 day_1 ≤ asOfDate) : Performance :=
  ⟨asOfDate,5,"0.90-1.00".toList,1,none,none,none,none,none,none,[sampleOutcome.key],by
    intro key counted
    rw [List.mem_singleton.mp counted]
    exact ⟨later,rfl⟩⟩

def sampleWarehouse (buckets : List Performance) : ResearchWarehouse :=
  ⟨emptyActions ["VIC".toList],⟨[sampleOutcome],[],buckets,[],[],[]⟩,[]⟩

def sampleSplitCall : IngestCall := sampleCall 1 "VCI" (sampleSplit "split-1" "h1" (marchDay 6 day_6) 2)

def ownBucket : Performance := sampleBucket (marchDay 1 day_1) (by decide)

def laterBucket : Performance := sampleBucket (marchDay 15 day_15) (by decide)

theorem sampleWarehouse_keyed (buckets : List Performance) :
    Rows.Distinct CandidateOutcome.key (sampleWarehouse buckets).outcomes.candidateOutcomes :=
  List.nodup_singleton _

-- What the call leaves of the outcome, and the populations of the buckets left.
def sampleReport (buckets : List Performance) : Option (List (OutcomeKey × OutcomeStatus) × List (List OutcomeKey)) :=
  (@ingestRecord samplePlatform sampleSplitCall (sampleWarehouse buckets)).toOption.map
    (fun result => (result.1.outcomes.candidateOutcomes.map (fun row => (row.key,row.outcomeStatus)),
      result.1.outcomes.scoreBuckets.map Performance.population))

theorem report_ingested (reported : sampleReport buckets = some ([(sampleOutcome.key,.invalid)],populations)) :
    ∃ after outcome, @ingestRecord samplePlatform sampleSplitCall (sampleWarehouse buckets) = .ok (after,outcome) ∧
      NewlyInvalid (sampleWarehouse buckets).outcomes after.outcomes sampleOutcome.key ∧
      after.outcomes.scoreBuckets.map Performance.population = populations := by
  unfold sampleReport at reported
  cases ran : @ingestRecord samplePlatform sampleSplitCall (sampleWarehouse buckets) with
  | error refused =>
    rw [ran] at reported
    cases reported
  | ok result =>
    obtain ⟨after,outcome⟩ := result
    rw [ran] at reported
    obtain ⟨left,rfl⟩ := Prod.mk.inj (Option.some.inj reported)
    refine ⟨after,outcome,rfl,⟨⟨sampleOutcome,List.mem_singleton_self _,rfl,rfl⟩,?_⟩,rfl⟩
    have listed : (sampleOutcome.key,OutcomeStatus.invalid) ∈
        after.outcomes.candidateOutcomes.map (fun row => (row.key,row.outcomeStatus)) := left ▸ List.mem_singleton_self _
    obtain ⟨row,inside,same⟩ := List.mem_map.mp listed
    exact ⟨row,inside,(Prod.mk.inj same).1,(Prod.mk.inj same).2⟩

theorem invalidation_misses_later_aggregate : ¬ ∀ [Platform] (call : IngestCall)
    (before after : ResearchWarehouse) (outcome : RecordOutcome),
    Rows.Distinct CandidateOutcome.key before.outcomes.candidateOutcomes →
    ingestRecord call before = .ok (after,outcome) → Reached before.outcomes after.outcomes := by
  intro reaches
  have reported : sampleReport [ownBucket,laterBucket] =
      some ([(sampleOutcome.key,.invalid)],[[sampleOutcome.key]]) := by decide
  obtain ⟨after,outcome,ran,newly,left⟩ := report_ingested reported
  have listed : [sampleOutcome.key] ∈ after.outcomes.populations := by
    obtain ⟨row,inside,same⟩ := List.mem_map.mp (left ▸ List.mem_singleton_self [sampleOutcome.key])
    rw [← same]
    exact List.mem_append_right _ (List.mem_map_of_mem (List.mem_append_left _ inside))
  exact @reaches samplePlatform sampleSplitCall _ after outcome (sampleWarehouse_keyed _) ran _ listed _
    (List.mem_singleton_self _) newly

theorem invalidation_reaches_aggregates_sample :
    ∃ after outcome, @ingestRecord samplePlatform sampleSplitCall (sampleWarehouse [ownBucket]) = .ok (after,outcome) ∧
      Reached (sampleWarehouse [ownBucket]).outcomes after.outcomes := by
  let := samplePlatform
  have reported : sampleReport [ownBucket] = some ([(sampleOutcome.key,.invalid)],[]) := by decide
  obtain ⟨after,outcome,ran,newly,left⟩ := report_ingested reported
  refine ⟨after,outcome,ran,(invalidation_reaches_aggregates (sampleWarehouse_keyed _) ran newly).mpr ?_⟩
  intro row inside _
  have own : row = ownBucket := by simpa [sampleWarehouse,OutcomeTables.cumulative] using inside
  refine ⟨sampleOutcome.key,?_,by rw [own]; rfl,by rw [own]; rfl⟩
  exact ⟨marchDay 6 (by decide),rfl,sampleOutcome,List.mem_singleton_self _,rfl,by decide⟩

end OpenStock.CorporateActions
