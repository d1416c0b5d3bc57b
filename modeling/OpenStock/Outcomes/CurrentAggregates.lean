import OpenStock.Outcomes.Aggregations

namespace OpenStock.Outcomes
open Text Calendar

/- What the aggregate tables hold for a date and a horizon after `aggregate_all`. -/

def rowsAt (rows : List Performance) (asOfDate : Date) (horizon : Int) : List Performance :=
  rows.filter (fun row => row.asOfDate = asOfDate ∧ row.horizonSessions = horizon)

theorem mem_rowsAt : row ∈ rowsAt rows asOfDate horizon ↔
    row ∈ rows ∧ row.asOfDate = asOfDate ∧ row.horizonSessions = horizon := by
  simp [rowsAt]

-- An eligible outcome falls under the label.
def Live (labels : CandidateOutcome → List Text) (outcomes : List CandidateOutcome) (asOfDate : Date) (horizon : Int)
    (label : Text) : Prop :=
  ∃ outcome ∈ cumulativeOutcomes outcomes asOfDate horizon, label ∈ labels outcome

def OnePerLabel (labels : CandidateOutcome → List Text) (outcomes : List CandidateOutcome) (asOfDate : Date) (horizon : Int)
    (rows : List Performance) : Prop :=
  ((rowsAt rows asOfDate horizon).map Performance.label).Nodup ∧
    ∀ label, label ∈ (rowsAt rows asOfDate horizon).map Performance.label ↔ Live labels outcomes asOfDate horizon label

def NoneStale (labels : CandidateOutcome → List Text) (outcomes : List CandidateOutcome) (asOfDate : Date) (horizon : Int)
    (rows : List Performance) : Prop :=
  ∀ row ∈ rowsAt rows asOfDate horizon, Live labels outcomes asOfDate horizon row.label

def totalCount (rows : List Performance) (asOfDate : Date) (horizon : Int) : Nat :=
  ((rowsAt rows asOfDate horizon).map Performance.candidateCount).sum

def WatchlistOutcome.Balanced (row : WatchlistOutcome) : Prop :=
  row.candidateCount = row.completeCount + row.pendingCount + row.missingDataCount + row.invalidCount

structure AggregatesCurrent (tables : OutcomeTables) (asOfDate : Date) (horizon : Int) : Prop where
  buckets : OnePerLabel scoreBucketLabels tables.candidateOutcomes asOfDate horizon tables.scoreBuckets
  bucketTotal : totalCount tables.scoreBuckets asOfDate horizon =
    (cumulativeOutcomes tables.candidateOutcomes asOfDate horizon).length
  setups : OnePerLabel setupTypeLabels tables.candidateOutcomes asOfDate horizon tables.setupTypes
  setupTotal : totalCount tables.setupTypes asOfDate horizon =
    (cumulativeOutcomes tables.candidateOutcomes asOfDate horizon).countP (fun outcome => outcome.setupType.isSome)
  bucketsLive : NoneStale scoreBucketLabels tables.candidateOutcomes asOfDate horizon tables.scoreBuckets
  setupsLive : NoneStale setupTypeLabels tables.candidateOutcomes asOfDate horizon tables.setupTypes
  flagsLive : NoneStale riskFlagLabels tables.candidateOutcomes asOfDate horizon tables.riskFlags
  summary : ∃ row ∈ tables.watchlistOutcomes, row.key = (asOfDate,horizon)
  balanced : ∀ row ∈ tables.watchlistOutcomes, row.key = (asOfDate,horizon) → row.Balanced

/- The rows one aggregation computes. -/

section computed
variable {labels : CandidateOutcome → List Text} {outcomes : List CandidateOutcome} {asOfDate : Date} {horizon : Int}

def names (labels : CandidateOutcome → List Text) (outcomes : List CandidateOutcome) (asOfDate : Date) (horizon : Int) :
    List Text :=
  ((labelled labels (cumulativeOutcomes outcomes asOfDate horizon)).map Prod.fst).dedup.insertionSort (· ≤ ·)

theorem labelled_labels (labels : CandidateOutcome → List Text) (rows : List CandidateOutcome) :
    (labelled labels rows).map Prod.fst = rows.flatMap labels := by
  simp [labelled,List.map_flatMap,Function.comp_def]

theorem mem_names : label ∈ names labels outcomes asOfDate horizon ↔ Live labels outcomes asOfDate horizon label := by
  simp [names,labelled_labels,Live]

theorem names_nodup : (names labels outcomes asOfDate horizon).Nodup :=
  (List.perm_insertionSort _ _).nodup_iff.mpr (List.nodup_dedup _)

theorem computed_labels : (aggregatePerformance labels outcomes asOfDate horizon).map Performance.label =
    names labels outcomes asOfDate horizon := by
  simp [aggregatePerformance,names,Function.comp_def,performance]

theorem computed_at (computed : row ∈ aggregatePerformance labels outcomes asOfDate horizon) :
    row.asOfDate = asOfDate ∧ row.horizonSessions = horizon := by
  obtain ⟨label,_,rfl⟩ := List.mem_map.mp computed
  exact ⟨rfl,rfl⟩

theorem computed_distinct : Rows.Distinct Performance.key (aggregatePerformance labels outcomes asOfDate horizon) := by
  have byLabel : ((aggregatePerformance labels outcomes asOfDate horizon).map Performance.key).map (fun key => key.2.2) =
      names labels outcomes asOfDate horizon := by
    rw [List.map_map,← computed_labels]
    rfl
  exact List.Nodup.of_map _ (byLabel ▸ names_nodup)

theorem key_computed {row : Performance} (dated : row.asOfDate = asOfDate) (sessions : row.horizonSessions = horizon) :
    row.key ∈ (aggregatePerformance labels outcomes asOfDate horizon).map Performance.key ↔
      Live labels outcomes asOfDate horizon row.label := by
  rw [← mem_names,← computed_labels]
  constructor
  · intro keyed
    obtain ⟨computed,member,same⟩ := List.mem_map.mp keyed
    exact List.mem_map.mpr ⟨computed,member,congrArg (fun key => key.2.2) same⟩
  · intro named
    obtain ⟨computed,member,same⟩ := List.mem_map.mp named
    obtain ⟨date,steps⟩ := computed_at member
    refine List.mem_map.mpr ⟨computed,member,?_⟩
    simp [Performance.key,date,steps,dated,sessions,same]

-- Every eligible outcome is counted once for each of its labels.
theorem computed_total : ((aggregatePerformance labels outcomes asOfDate horizon).map Performance.candidateCount).sum =
    ((cumulativeOutcomes outcomes asOfDate horizon).flatMap labels).length := by
  have counted : ∀ label, (performance labels outcomes asOfDate horizon label).candidateCount =
      ((cumulativeOutcomes outcomes asOfDate horizon).flatMap labels).countP (fun other => decide (other = label)) := by
    intro label
    rw [← labelled_labels,List.countP_map,List.countP_eq_length_filter]
    simp [performance,labelRows,Function.comp_def]
  have summed : (aggregatePerformance labels outcomes asOfDate horizon).map Performance.candidateCount =
      (names labels outcomes asOfDate horizon).map (fun label =>
        ((cumulativeOutcomes outcomes asOfDate horizon).flatMap labels).countP (fun other => decide (other = label))) := by
    simp [aggregatePerformance,names,Function.comp_def,counted]
  rw [summed,names,((List.perm_insertionSort _ _).map _).sum_eq,labelled_labels]
  exact List.sum_map_count_dedup_eq_length ((cumulativeOutcomes outcomes asOfDate horizon).flatMap labels)

/- The table after its rows were stored. -/

def stored (labels : CandidateOutcome → List Text) (outcomes : List CandidateOutcome) (asOfDate : Date) (horizon : Int)
    (rows : List Performance) : List Performance :=
  (aggregatePerformance labels outcomes asOfDate horizon).foldl (Rows.upsert Performance.key) rows

theorem mem_stored : row ∈ rowsAt (stored labels outcomes asOfDate horizon rows) asOfDate horizon ↔
    row ∈ aggregatePerformance labels outcomes asOfDate horizon ∨
      row ∈ rowsAt rows asOfDate horizon ∧ ¬ Live labels outcomes asOfDate horizon row.label := by
  rw [mem_rowsAt,stored,Rows.mem_upserts_key computed_distinct,mem_rowsAt]
  constructor
  · rintro ⟨computed | ⟨earlier,other⟩,dated,sessions⟩
    · exact .inl computed
    · exact .inr ⟨⟨earlier,dated,sessions⟩,fun live => other ((key_computed dated sessions).mpr live)⟩
  · rintro (computed | ⟨⟨earlier,dated,sessions⟩,stale⟩)
    · exact ⟨.inl computed,computed_at computed⟩
    · exact ⟨.inr ⟨earlier,fun keyed => stale ((key_computed dated sessions).mp keyed)⟩,dated,sessions⟩

-- Nothing is stale afterwards just when nothing was before.
theorem stored_live : NoneStale labels outcomes asOfDate horizon (stored labels outcomes asOfDate horizon rows) ↔
    NoneStale labels outcomes asOfDate horizon rows := by
  constructor
  · intro live row earlier
    by_contra stale
    exact stale (live row (mem_stored.mpr (.inr ⟨earlier,stale⟩)))
  · intro live row after
    rcases mem_stored.mp after with computed | ⟨earlier,stale⟩
    · rw [← mem_names,← computed_labels]
      exact List.mem_map_of_mem computed
    · exact absurd (live row earlier) stale

-- Without stale rows the table holds the computed rows alone.
theorem stored_perm (distinct : Rows.Distinct Performance.key rows) (live : NoneStale labels outcomes asOfDate horizon rows) :
    (rowsAt (stored labels outcomes asOfDate horizon rows) asOfDate horizon).Perm
      (aggregatePerformance labels outcomes asOfDate horizon) := by
  have kept : (rowsAt (stored labels outcomes asOfDate horizon rows) asOfDate horizon).Nodup :=
    List.Nodup.filter _ (List.Nodup.of_map _ (Rows.upserts_distinct distinct _))
  refine (List.perm_ext_iff_of_nodup kept (List.Nodup.of_map _ computed_distinct)).mpr ?_
  intro row
  rw [mem_stored]
  exact or_iff_left (fun ⟨earlier,stale⟩ => stale (live row earlier))

theorem stored_labels (distinct : Rows.Distinct Performance.key rows) (live : NoneStale labels outcomes asOfDate horizon rows) :
    OnePerLabel labels outcomes asOfDate horizon (stored labels outcomes asOfDate horizon rows) := by
  have same := (stored_perm distinct live).map Performance.label
  rw [computed_labels] at same
  exact ⟨same.nodup_iff.mpr names_nodup,fun label => same.mem_iff.trans mem_names⟩

theorem stored_total (distinct : Rows.Distinct Performance.key rows) (live : NoneStale labels outcomes asOfDate horizon rows) :
    totalCount (stored labels outcomes asOfDate horizon rows) asOfDate horizon =
      ((cumulativeOutcomes outcomes asOfDate horizon).flatMap labels).length := by
  rw [totalCount,((stored_perm distinct live).map _).sum_eq,computed_total]

end computed

variable (rows : List CandidateOutcome)

theorem bucket_labels : (rows.flatMap scoreBucketLabels).length = rows.length := by
  induction rows with
  | nil => rfl
  | cons row rows ih => simp [scoreBucketLabels,ih]

theorem setup_labels : (rows.flatMap setupTypeLabels).length = rows.countP (fun outcome => outcome.setupType.isSome) := by
  induction rows with
  | nil => rfl
  | cons row rows ih => cases typed : row.setupType <;> simp [setupTypeLabels,typed,ih,Nat.add_comm]

-- Every status falls under exactly one of the four counts.
theorem counts_balanced (scored : CandidateOutcome → Bool) (complete : ∀ row, scored row → row.outcomeStatus = .complete)
    (rows : List CandidateOutcome) : rows.length = rows.countP scored + rows.countP (fun row => row.outcomeStatus = .pending) +
      rows.countP (fun row => row.outcomeStatus = .missingData || row.outcomeStatus = .partial_ || row.outcomeStatus = .error) +
      rows.countP (fun row => row.outcomeStatus = .invalid || (row.outcomeStatus = .complete && !scored row)) := by
  induction rows with
  | nil => rfl
  | cons row rows ih =>
    simp only [List.length_cons,List.countP_cons]
    have one : (if scored row then 1 else 0) + (if row.outcomeStatus = .pending then 1 else 0) +
        (if row.outcomeStatus = .missingData ∨ row.outcomeStatus = .partial_ ∨ row.outcomeStatus = .error then 1 else 0) +
        (if row.outcomeStatus = .invalid ∨ (row.outcomeStatus = .complete ∧ scored row = false) then 1 else 0) = 1 := by
      cases accepted : scored row with
      | true => simp [complete row accepted]
      | false => cases row.outcomeStatus <;> simp
    simp only [Bool.or_eq_true,Bool.and_eq_true,decide_eq_true_eq,Bool.not_eq_true',or_assoc] at one ⊢
    omega

theorem aggregate_balanced (outcomes : List CandidateOutcome) (watchlistDate : Date) (horizon : Int) :
    (aggregateWatchlistOutcome outcomes watchlistDate horizon).Balanced := by
  simp only [WatchlistOutcome.Balanced,aggregateWatchlistOutcome,← List.countP_eq_length_filter]
  apply counts_balanced
  intro row scored
  simp only [eligible,Bool.and_eq_true,decide_eq_true_eq] at scored
  exact scored.1.1.1.1

theorem aggregate_summary (tables : OutcomeTables) (watchlistDate : Date) (horizon : Int) :
    row ∈ (aggregateAll tables watchlistDate horizon).watchlistOutcomes ∧ row.key = (watchlistDate,horizon) ↔
      row = aggregateWatchlistOutcome tables.candidateOutcomes watchlistDate horizon := by
  rw [aggregateAll,Rows.mem_upsert_key]
  constructor
  · rintro ⟨rfl | ⟨_,differs⟩,keyed⟩
    · rfl
    · exact absurd keyed differs
  · rintro rfl
    exact ⟨.inl rfl,rfl⟩

theorem aggregates_current_exact (tables : OutcomeTables) (asOfDate : Date) (horizon : Int)
    (buckets : Rows.Distinct Performance.key tables.scoreBuckets) (setups : Rows.Distinct Performance.key tables.setupTypes) :
    AggregatesCurrent (aggregateAll tables asOfDate horizon) asOfDate horizon ↔
      NoneStale scoreBucketLabels tables.candidateOutcomes asOfDate horizon tables.scoreBuckets ∧
      NoneStale setupTypeLabels tables.candidateOutcomes asOfDate horizon tables.setupTypes ∧
      NoneStale riskFlagLabels tables.candidateOutcomes asOfDate horizon tables.riskFlags := by
  constructor
  · intro current
    exact ⟨stored_live.mp current.bucketsLive,stored_live.mp current.setupsLive,stored_live.mp current.flagsLive⟩
  · rintro ⟨bucketsLive,setupsLive,flagsLive⟩
    refine ⟨stored_labels buckets bucketsLive,?_,stored_labels setups setupsLive,?_,stored_live.mpr bucketsLive,
      stored_live.mpr setupsLive,stored_live.mpr flagsLive,?_,?_⟩
    · exact (stored_total buckets bucketsLive).trans (bucket_labels _)
    · exact (stored_total setups setupsLive).trans (setup_labels _)
    · exact ⟨_,(aggregate_summary tables asOfDate horizon).mpr rfl⟩
    · intro row present keyed
      obtain rfl := (aggregate_summary tables asOfDate horizon).mp ⟨present,keyed⟩
      exact aggregate_balanced _ _ _

-- One outcome is aggregated, then evaluated again and found invalid.
def sampleAsOf : Date := .of 2024 5 2

def sampleOutcome (status : OutcomeStatus) : CandidateOutcome :=
  { symbol:="VCI".toList
    watchlistDate:=sampleAsOf
    horizonSessions:=20
    score:=some (3 / 4)
    outcomeStatus:=status
    priceBasis:=rawUnadjusted
    adjustmentMethodology:="NONE"
    actionOverlapStatus:=if status = .complete then .clear else .invalid
    scoringPolicyHash:=some "h1".toList }

def sampleFirst : OutcomeTables := aggregateAll ⟨[sampleOutcome .complete],[],[],[],[],[]⟩ sampleAsOf 20

def sampleReclassified : OutcomeTables := {sampleFirst with candidateOutcomes:=[sampleOutcome .invalid]}

theorem aggregates_current_sample : AggregatesCurrent sampleFirst sampleAsOf 20 := by
  refine (aggregates_current_exact ⟨[sampleOutcome .complete],[],[],[],[],[]⟩ sampleAsOf 20 List.nodup_nil List.nodup_nil).mpr
    ⟨?_,?_,?_⟩
  all_goals
    intro row present
    cases present

theorem stale_bucket_kept : ¬ AggregatesCurrent (aggregateAll sampleReclassified sampleAsOf 20) sampleAsOf 20 := by
  intro current
  have kept : (rowsAt (aggregateAll sampleReclassified sampleAsOf 20).scoreBuckets sampleAsOf 20).map Performance.label =
      ["0.70-0.80".toList] := by decide +kernel
  obtain ⟨outcome,counted,_⟩ := (current.buckets.2 "0.70-0.80".toList).mp (kept ▸ List.mem_cons_self)
  have none_ : cumulativeOutcomes sampleReclassified.candidateOutcomes sampleAsOf 20 = [] := by decide
  rw [show (aggregateAll sampleReclassified sampleAsOf 20).candidateOutcomes = sampleReclassified.candidateOutcomes from rfl,
    none_] at counted
  cases counted

end OpenStock.Outcomes
