import OpenStock.Foundations.Calendar

namespace OpenStock.DataAvailability
open Text Calendar

/- What one look at the warehouse finds for a symbol, and what it takes to make it ready. -/

inductive EnsureDataAction where
  | cacheHit
  | symbolsSynced
  | ohlcvSynced
  | canonicalBuilt
  | benchmarkSynced
  | benchmarkCanonicalBuilt
  | featuresBuilt
  | scored
deriving DecidableEq

def EnsureDataAction.value : EnsureDataAction → Text
  | .cacheHit => "CACHE_HIT".toList
  | .symbolsSynced => "SYMBOLS_SYNCED".toList
  | .ohlcvSynced => "OHLCV_SYNCED".toList
  | .canonicalBuilt => "CANONICAL_BUILT".toList
  | .benchmarkSynced => "BENCHMARK_SYNCED".toList
  | .benchmarkCanonicalBuilt => "BENCHMARK_CANONICAL_BUILT".toList
  | .featuresBuilt => "FEATURES_BUILT".toList
  | .scored => "SCORED".toList

inductive EvidenceIssue where
  | scoreMissing
  | scoreStale
  | featureSnapshotMissing
  | featureSnapshotInvalid
  | featureLineageIncomplete
  | canonicalHistoryInsufficient
  | canonicalGapsUnresolved
  | benchmarkHistoryInsufficient
  | qualityUnacceptable
  | lineageIncomplete
deriving DecidableEq

def EvidenceIssue.value : EvidenceIssue → Text
  | .scoreMissing => "score_missing".toList
  | .scoreStale => "score_stale".toList
  | .featureSnapshotMissing => "feature_snapshot_missing".toList
  | .featureSnapshotInvalid => "feature_snapshot_invalid".toList
  | .featureLineageIncomplete => "feature_lineage_incomplete".toList
  | .canonicalHistoryInsufficient => "canonical_history_insufficient".toList
  | .canonicalGapsUnresolved => "canonical_gaps_unresolved".toList
  | .benchmarkHistoryInsufficient => "benchmark_history_insufficient".toList
  | .qualityUnacceptable => "quality_unacceptable".toList
  | .lineageIncomplete => "lineage_incomplete".toList

-- `lookback_days`, `source` and `base_url` reach the actions only.
structure DataAvailabilityPolicy where
  benchmark : Text
  minRequiredBars : Int
  autoSync : Bool
  staleAfterCalendarDays : Int
  requireBenchmarkHistory : Bool
  acceptableQualityStatuses : List Text
  requiredLineageFields : List Text

structure EnsureDataSnapshot where
  targetDate : Text
  symbolKnown : Bool
  canonicalBars : Int
  benchmarkBars : Int
  featureSnapshotExists : Bool
  candidateScoreExists : Bool
  candidateScoreAsOfDate : Option Text
  qualityStatus : Option Text
  lineageFields : List Text
  unresolvedTrueGapCount : Int
  latestCanonicalBarDate : Option Text
  latestBenchmarkBarDate : Option Text
  featureSnapshotRowExists : Option Bool
  featureProfileAcceptable : Bool
  featureLineageAcceptable : Bool
  rawOhlcvBars : Int
  latestRawBarDate : Option Text

structure CacheEligibility where
  eligible : Bool
  reasons : List Text
  issues : List EvidenceIssue

def scoreIsFresh (snapshot : EnsureDataSnapshot) (policy : DataAvailabilityPolicy) : Bool :=
  if !snapshot.candidateScoreExists then false
  else match snapshot.candidateScoreAsOfDate with
    | none => false
    | some asOf =>
      match fromIsoformat asOf,fromIsoformat snapshot.targetDate with
      | some scoreDate,some targetDate =>
        if scoreDate > targetDate then false
        else if policy.staleAfterCalendarDays ≤ 0 then true
        else decide ((targetDate.toOrdinal : Int) - scoreDate.toOrdinal ≤ policy.staleAfterCalendarDays)
      | _,_ => false

-- `if condition: issues.append(issue)`
def noted (condition : Bool) (issue : EvidenceIssue) : List EvidenceIssue := if condition then [issue] else []

def evaluateCacheEligibility (snapshot : EnsureDataSnapshot) (policy : DataAvailabilityPolicy) : CacheEligibility :=
  let scoreFresh := scoreIsFresh snapshot policy
  let featureRowExists := snapshot.featureSnapshotRowExists.getD snapshot.featureSnapshotExists
  let canonicalHistorySufficient := decide (snapshot.canonicalBars ≥ policy.minRequiredBars)
  let canonicalGapsResolved := decide (snapshot.unresolvedTrueGapCount = 0)
  let benchmarkSufficient := !policy.requireBenchmarkHistory || decide (snapshot.benchmarkBars ≥ policy.minRequiredBars)
  let acceptableQuality := policy.acceptableQualityStatuses.map (fun value => lower (strip value))
  let qualityAcceptable := match snapshot.qualityStatus with
    | none => false
    | some status => acceptableQuality.contains (lower (strip status))
  let lineageAcceptable := policy.requiredLineageFields.all (fun field => snapshot.lineageFields.contains field)
  let scoreIssues :=
    if !snapshot.candidateScoreExists then [EvidenceIssue.scoreMissing]
    else if !scoreFresh then [EvidenceIssue.scoreStale]
    else []
  let featureIssues :=
    if !featureRowExists then [EvidenceIssue.featureSnapshotMissing]
    else if !snapshot.featureProfileAcceptable then [EvidenceIssue.featureSnapshotInvalid]
    else if !snapshot.featureLineageAcceptable then [EvidenceIssue.featureLineageIncomplete]
    else if !snapshot.featureSnapshotExists then [EvidenceIssue.featureSnapshotInvalid]
    else []
  let issues := scoreIssues ++ featureIssues ++ noted (!canonicalHistorySufficient) .canonicalHistoryInsufficient ++
    noted (!canonicalGapsResolved) .canonicalGapsUnresolved ++ noted (!benchmarkSufficient) .benchmarkHistoryInsufficient ++
    noted (!qualityAcceptable) .qualityUnacceptable ++
    noted (snapshot.candidateScoreExists && !lineageAcceptable) .lineageIncomplete
  ⟨issues.isEmpty,issues.map EvidenceIssue.value,issues⟩

def canonicalIsStale (latestBarDate : Option Text) (targetDate : Text) : Bool :=
  match latestBarDate with
  | none => false
  | some latestBarDate =>
    match fromIsoformat latestBarDate,fromIsoformat targetDate with
    | some latest,some target => decide (latest < target)
    | _,_ => false

def canonicalIssues : List EvidenceIssue := [.canonicalHistoryInsufficient,.canonicalGapsUnresolved,.qualityUnacceptable]
def featureIssues : List EvidenceIssue := [.featureSnapshotMissing,.featureSnapshotInvalid,.featureLineageIncomplete]
def scoreIssues : List EvidenceIssue := [.scoreMissing,.scoreStale,.lineageIncomplete]

-- `bool(issues.intersection(kinds))`
def meets (issues kinds : List EvidenceIssue) : Bool := issues.any (fun issue => kinds.contains issue)

def canonicalActions (snapshot : EnsureDataSnapshot) (policy : DataAvailabilityPolicy) (issues : List EvidenceIssue) :
    List EnsureDataAction :=
  if policy.autoSync && (meets issues canonicalIssues || canonicalIsStale snapshot.latestCanonicalBarDate snapshot.targetDate) then
    let rawWindowReady := decide (snapshot.rawOhlcvBars ≥ policy.minRequiredBars) &&
      !canonicalIsStale snapshot.latestRawBarDate snapshot.targetDate
    (if issues.contains .canonicalGapsUnresolved || !rawWindowReady then [.ohlcvSynced] else []) ++ [.canonicalBuilt]
  else []

def benchmarkActions (snapshot : EnsureDataSnapshot) (policy : DataAvailabilityPolicy) : List EnsureDataAction :=
  let benchmarkMissing := policy.requireBenchmarkHistory && decide (snapshot.benchmarkBars < policy.minRequiredBars)
  let benchmarkStale := policy.requireBenchmarkHistory && decide (snapshot.benchmarkBars ≥ policy.minRequiredBars) &&
    canonicalIsStale snapshot.latestBenchmarkBarDate snapshot.targetDate
  if (benchmarkMissing || benchmarkStale) && policy.autoSync then [.benchmarkSynced,.benchmarkCanonicalBuilt] else []

def planDataAvailability (snapshot : EnsureDataSnapshot) (policy : DataAvailabilityPolicy) : List EnsureDataAction :=
  let eligibility := evaluateCacheEligibility snapshot policy
  if eligibility.eligible then []
  else if !snapshot.symbolKnown && policy.autoSync then [.symbolsSynced]
  else
    let actions := canonicalActions snapshot policy eligibility.issues ++ benchmarkActions snapshot policy
    if actions ≠ [] then actions
    else if policy.autoSync && meets eligibility.issues featureIssues then [.featuresBuilt]
    else if policy.autoSync && meets eligibility.issues scoreIssues then [.scored]
    else []

/- Plans. -/

def provisionActions : List EnsureDataAction := [.ohlcvSynced,.canonicalBuilt,.benchmarkSynced,.benchmarkCanonicalBuilt]

variable (snapshot : EnsureDataSnapshot) (policy : DataAvailabilityPolicy)

theorem canonicalActions_cases (issues : List EvidenceIssue) :
    canonicalActions snapshot policy issues = [] ∨ canonicalActions snapshot policy issues = [.canonicalBuilt] ∨
      canonicalActions snapshot policy issues = [.ohlcvSynced,.canonicalBuilt] := by
  unfold canonicalActions
  dsimp only
  split
  · split
    · exact .inr (.inr rfl)
    · exact .inr (.inl rfl)
  · exact .inl rfl

theorem benchmarkActions_cases :
    benchmarkActions snapshot policy = [] ∨ benchmarkActions snapshot policy = [.benchmarkSynced,.benchmarkCanonicalBuilt] := by
  unfold benchmarkActions
  dsimp only
  split
  · exact .inr rfl
  · exact .inl rfl

-- A plan is of one round: symbols, provisioning in its order, features or score.
theorem plan_cases :
    planDataAvailability snapshot policy = [.symbolsSynced] ∨ (planDataAvailability snapshot policy).Sublist provisionActions ∨
      planDataAvailability snapshot policy = [.featuresBuilt] ∨ planDataAvailability snapshot policy = [.scored] := by
  have provisions : (canonicalActions snapshot policy (evaluateCacheEligibility snapshot policy).issues ++
      benchmarkActions snapshot policy).Sublist provisionActions := by
    rcases canonicalActions_cases snapshot policy (evaluateCacheEligibility snapshot policy).issues with own | own | own
    all_goals rcases benchmarkActions_cases snapshot policy with other | other
    all_goals rw [own,other]; decide
  unfold planDataAvailability
  dsimp only
  split
  · exact .inr (.inl (List.nil_sublist _))
  · split
    · exact .inl rfl
    · split
      · exact .inr (.inl provisions)
      · split
        · exact .inr (.inr (.inl rfl))
        · split
          · exact .inr (.inr (.inr rfl))
          · exact .inr (.inl (List.nil_sublist _))

theorem plan_nodup : (planDataAvailability snapshot policy).Nodup := by
  have once : provisionActions.Nodup := by decide
  rcases plan_cases snapshot policy with plan | plan | plan | plan
  · rw [plan]
    exact List.nodup_singleton _
  · exact once.sublist plan
  · rw [plan]
    exact List.nodup_singleton _
  · rw [plan]
    exact List.nodup_singleton _

-- Features or a score are planned only when nothing is left to provision.
theorem plan_provided {snapshot : EnsureDataSnapshot} {policy : DataAvailabilityPolicy}
    (planned : action ∈ planDataAvailability snapshot policy) (beyond : action ∉ provisionActions) :
    planDataAvailability snapshot policy = [action] := by
  rcases plan_cases snapshot policy with plan | plan | plan | plan
  · rw [plan] at planned ⊢
    rw [List.mem_singleton.mp planned]
  · exact absurd (plan.subset planned) beyond
  · rw [plan] at planned ⊢
    rw [List.mem_singleton.mp planned]
  · rw [plan] at planned ⊢
    rw [List.mem_singleton.mp planned]

end OpenStock.DataAvailability
