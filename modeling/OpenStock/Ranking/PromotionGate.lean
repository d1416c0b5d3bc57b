import OpenStock.Ranking.Manifests

namespace OpenStock.Ranking
open Text Calendar Warehouse

/- The promotion gate of a ranking policy, over the manifests that evaluation stored. -/

inductive RankingDecisionStatus where
  | insufficientEvidence
  | researchValidated
  | accepted
  | rejected
  | retired
deriving DecidableEq

def RankingDecisionStatus.activates : RankingDecisionStatus → Bool
  | .accepted => true
  | .insufficientEvidence | .researchValidated | .rejected | .retired => false

structure PromotionRule where
  ruleVersion : String
  minSampleCount : Int
  minPeriodCount : Int
  minCoverage : ℚ

def defaultPromotionRule : PromotionRule := ⟨"ranking-promotion-rule-v2",30,3,1/2⟩

inductive Shortfall where
  | samples (count minimum : Int)
  | periods (count minimum : Int)
  | coverage (value minimum : ℚ)
  | noBaseline
  | evidenceStatus (status : Text)
  | verificationStatus (status : Text)

inductive EvidenceError (δ : Type) where
  | blankReview
  | unknownManifest (manifestId : δ)
  | manifestAfterCutoff (manifestId : δ) (cutoff : Text)
  | manifestOfOtherPolicy (manifestId : δ)
  | manifestOfOtherIdentity (manifestId : δ)
  | unknownReplay (replayId : Text)
  | replayAfterCutoff (replayId cutoff : Text)
  | replayOfOtherPolicy (replayId : Text)
  | unreviewedManifests (replayId : Text)
  | contaminated (replayId : Text)
  | mixedBases (bases : List Text)
  | mixedAdjustments (versions : List Text)
  | mixedAssumptions
  | otherRunRefs
  | insufficient (reasons : List Shortfall)
  | notApplicable
  | unreadableDate

-- A list is no longer than its distinct members only when none repeats.
theorem nodup_of_dedup [DecidableEq α] {list : List α} (covered : list.length ≤ list.dedup.length) : list.Nodup := by
  have whole : list.dedup = list := (List.dedup_sublist list).eq_of_length_le covered
  exact List.dedup_eq_self.mp whole

section
variable [ContentHash]

structure EvidenceSummary where
  policyId : Text
  policyVersion : Text
  policyHash : Text
  evidenceCutoffDate : Text
  sampleCount : Int
  periodCount : Int
  coverage : ℚ
  evaluationManifestIds : List ContentHash.Digest
  replayIds : List Text
  rankingRunRefs : List Text
  assumptionsHashes : List Text
  datasetHashes : List ContentHash.Digest
  evidenceBundleHash : Option Text
  verificationStatus : Text

-- The columns of `ranking_replay_v2` that the gate reads.
structure ReplayRow where
  replayId : Text
  endDate : Date
  scoringPolicyHash : Text
  periodCount : Int
  rankingRunRefs : List Text
  evaluationManifestIds : List ContentHash.Digest
  datasetHash : ContentHash.Digest
  priceBasis : Text
  adjustmentVersion : Text
  membershipResolverVersion : Text
  caveats : List Text

-- The payload whose hash names the evidence.
structure EvidenceBundle where
  policyHash : Text
  cutoff : Text
  manifests : List ManifestRow
  replays : List ReplayRow
  rankingRunRefs : List Text
  assumptionsHashes : List Text
  datasetHashes : List ContentHash.Digest

def assessPromotion (evidence : EvidenceSummary) (rule : PromotionRule) : List Shortfall :=
  (if evidence.sampleCount < rule.minSampleCount then [.samples evidence.sampleCount rule.minSampleCount] else []) ++
  (if evidence.periodCount < rule.minPeriodCount then [.periods evidence.periodCount rule.minPeriodCount] else []) ++
  (if evidence.coverage < rule.minCoverage then [.coverage evidence.coverage rule.minCoverage] else []) ++
  (if evidence.evaluationManifestIds = [] then [.noBaseline] else []) ++
  (if evidence.verificationStatus ∉ ["VERIFIED".toList,"UNVERIFIED".toList] then
    [.evidenceStatus evidence.verificationStatus] else [])

def storedManifest (store : List ManifestRow) (manifestId : ContentHash.Digest) : Option ManifestRow :=
  store.find? (fun stored => stored.id = manifestId)

def reviewManifest (store : List ManifestRow) (evidence : EvidenceSummary) (manifestId : ContentHash.Digest) :
    Except (EvidenceError ContentHash.Digest) ManifestRow :=
  match storedManifest store manifestId with
  | none => .error (.unknownManifest manifestId)
  | some row =>
    if evidence.evidenceCutoffDate < row.date.isoformat then
      .error (.manifestAfterCutoff manifestId evidence.evidenceCutoffDate)
    else if row.result.scoringPolicyHash ≠ evidence.policyHash then .error (.manifestOfOtherPolicy manifestId)
    else if row.policy.id ≠ evidence.policyId ∨ row.policy.version ≠ evidence.policyVersion then
      .error (.manifestOfOtherIdentity manifestId)
    else .ok row

def reviewReplay (replays : List ReplayRow) (evidence : EvidenceSummary) (replayId : Text) :
    Except (EvidenceError ContentHash.Digest) ReplayRow :=
  match replays.find? (fun stored => stored.replayId = replayId) with
  | none => .error (.unknownReplay replayId)
  | some row =>
    if evidence.evidenceCutoffDate < row.endDate.isoformat then
      .error (.replayAfterCutoff replayId evidence.evidenceCutoffDate)
    else if row.scoringPolicyHash ≠ evidence.policyHash then .error (.replayOfOtherPolicy replayId)
    else if ¬ row.evaluationManifestIds ⊆ evidence.evaluationManifestIds then .error (.unreviewedManifests replayId)
    else if "future_data_contamination".toList ∈ row.caveats then .error (.contaminated replayId)
    else .ok row

-- `sorted({...})`
def sortedSet (texts : List Text) : List Text := sortBy id texts.dedup

def verifyEvidence (bundleHash : EvidenceBundle → Text) (store : List ManifestRow) (replays : List ReplayRow)
    (evidence : EvidenceSummary) : Except (EvidenceError ContentHash.Digest) EvidenceSummary := do
  let manifests ← evidence.evaluationManifestIds.mapM (reviewManifest store evidence)
  let replays ← evidence.replayIds.mapM (reviewReplay replays evidence)
  let bases := sortedSet (manifests.map (fun row => row.result.priceBasis) ++ replays.map ReplayRow.priceBasis)
  let versions := sortedSet
    (manifests.map (fun row => row.result.adjustmentVersion) ++ replays.map ReplayRow.adjustmentVersion)
  if 1 < bases.length then .error (.mixedBases bases)
  else if 1 < versions.length then .error (.mixedAdjustments versions) else
  let assumptionsHashes := sortedSet (manifests.map (fun _ => assumptionsHash))
  if 1 < assumptionsHashes.length then .error .mixedAssumptions else
  let datasetHashes := sortBy ContentHash.text
    (((manifests.map (fun row => row.result.datasetHash) ++ replays.map ReplayRow.datasetHash).filter
      (fun hash => !(ContentHash.text hash).isEmpty)).dedup)
  let rankingRefs := sortedSet
    ((manifests.map (fun row => row.result.rankingRunRef)).filter (fun reference => !reference.isEmpty) ++
      replays.flatMap ReplayRow.rankingRunRefs)
  if evidence.rankingRunRefs ≠ [] ∧ ¬ (evidence.rankingRunRefs ⊆ rankingRefs ∧ rankingRefs ⊆ evidence.rankingRunRefs) then
    .error .otherRunRefs else
  let sampleCount : Nat := (manifests.map (fun row => row.result.completePopulation)).sum
  let eligibleCount : Nat := (manifests.map (fun row => row.result.eligiblePopulation)).sum
  let periodDates := (manifests.map (fun row => row.date.isoformat)).dedup
  let verified := manifests ≠ [] ∧ ∀ row ∈ manifests, row.result.sufficiencyStatus = .sufficient
  return {evidence with
    sampleCount := sampleCount,
    periodCount := replays.foldl (fun count row => max count row.periodCount) periodDates.length,
    coverage := if eligibleCount = 0 then 0 else (sampleCount : ℚ) / eligibleCount,
    rankingRunRefs := rankingRefs,
    assumptionsHashes := assumptionsHashes,
    datasetHashes := datasetHashes,
    evidenceBundleHash := some (bundleHash
      ⟨evidence.policyHash,evidence.evidenceCutoffDate,manifests,replays,rankingRefs,assumptionsHashes,datasetHashes⟩),
    verificationStatus := if verified then "VERIFIED".toList else "PARTIAL".toList}

structure Review where
  status : RankingDecisionStatus
  reviewer : Text
  rationale : Text
  reviewedAt : Text
  limitations : List Text
  rule : PromotionRule

-- `ranking_policy_decision`, with the verified evidence as its columns.
structure DecisionRow where
  decisionId : Text
  verified : EvidenceSummary
  cutoff : Date
  status : RankingDecisionStatus
  ruleVersion : String
  reviewer : Text
  rationale : Text
  limitations : List Text
  activatesPolicy : Bool
  reviewedAt : Int

-- The reasons of an assessment, and evidence that is not verified.
def shortfalls (verified : EvidenceSummary) (rule : PromotionRule) : List Shortfall :=
  assessPromotion verified rule ++
    if verified.verificationStatus ≠ "VERIFIED".toList then [.verificationStatus verified.verificationStatus] else []

-- The row that is written; `decisionId` is a fresh uuid4.
def recordDecision [SqlCasts] (bundleHash : EvidenceBundle → Text) (store : List ManifestRow) (replays : List ReplayRow)
    (decisionId : Text) (evidence : EvidenceSummary) (review : Review) :
    Except (EvidenceError ContentHash.Digest) DecisionRow := do
  if strip review.reviewer = [] ∨ strip review.rationale = [] then .error .blankReview else
  let verified ← verifyEvidence bundleHash store replays evidence
  let reasons := shortfalls verified review.rule
  if review.status.activates ∧ reasons ≠ [] then .error (.insufficient reasons)
  else if review.status = .insufficientEvidence ∧ reasons = [] then .error .notApplicable else
  match SqlCasts.date verified.evidenceCutoffDate, SqlCasts.timestamptz review.reviewedAt with
  | some cutoff,some reviewedAt =>
    return {decisionId := decisionId,verified := verified,cutoff := cutoff,status := review.status,
            ruleVersion := review.rule.ruleVersion,reviewer := review.reviewer,rationale := review.rationale,
            limitations := review.limitations,activatesPolicy := review.status.activates,reviewedAt := reviewedAt}
  | _,_ => .error .unreadableDate

/- The outcomes behind listed manifests. -/

-- The members of the stored `unfiltered` strategy: all complete outcomes.
def ManifestRow.symbols (row : ManifestRow) : List Text :=
  ((row.result.strategies.find? (fun metrics => metrics.strategy = .unfiltered)).map StrategyMetrics.selectedSymbols).getD []

def ManifestRow.outcomes (row : ManifestRow) : List (Date × Int × Text) :=
  row.symbols.map (fun symbol => (row.date,row.result.horizonSessions,symbol))

def outcomesBehind (store : List ManifestRow) (manifestIds : List ContentHash.Digest) : List (Date × Int × Text) :=
  manifestIds.flatMap (fun manifestId => ((storedManifest store manifestId).map ManifestRow.outcomes).getD [])

-- Manifests of one date and horizon share no symbol.
def Apart (store : List ManifestRow) (left right : ContentHash.Digest) : Prop :=
  ∀ first second, storedManifest store left = some first → storedManifest store right = some second →
    first.date = second.date → first.result.horizonSessions = second.result.horizonSessions →
    first.symbols.Disjoint second.symbols

-- What evaluation stores: every complete outcome once.
structure Sound (row : ManifestRow) : Prop where
  once : row.symbols.Nodup
  counted : row.result.completePopulation = row.symbols.length

variable {row : ManifestRow}

theorem outcomes_nodup (sound : Sound row) : row.outcomes.Nodup := by
  apply sound.once.map
  intro left right same
  exact (Prod.mk.inj (Prod.mk.inj same).2).2

theorem outcomes_disjoint {first second : ManifestRow} : first.outcomes.Disjoint second.outcomes ↔
      (first.date = second.date → first.result.horizonSessions = second.result.horizonSessions →
        first.symbols.Disjoint second.symbols) := by
  constructor
  · intro apart dates horizons symbol here there
    have left : (first.date,first.result.horizonSessions,symbol) ∈ first.outcomes := List.mem_map_of_mem here
    have right : (first.date,first.result.horizonSessions,symbol) ∈ second.outcomes := by
      rw [dates,horizons]
      exact List.mem_map_of_mem there
    exact apart left right
  · intro apart outcome here there
    obtain ⟨symbol,inside,made⟩ := List.mem_map.mp here
    obtain ⟨other,within,again⟩ := List.mem_map.mp there
    obtain ⟨dates,rest⟩ := Prod.mk.inj (made.trans again.symm)
    obtain ⟨horizons,symbols⟩ := Prod.mk.inj rest
    exact apart dates horizons inside (symbols ▸ within)

theorem store_sound [SqlCasts] (inside : row ∈ runEvaluations zone calls) : Sound row := by
  rw [runs_exact] at inside
  rcases Rows.mem_insertAll inside with absent | offered
  · cases absent
  · obtain ⟨call,_,made⟩ := List.mem_filterMap.mp offered
    unfold manifestOf at made
    obtain ⟨gathered,read,made⟩ := Option.bind_eq_some_iff.mp made
    obtain ⟨date,_,made⟩ := Option.bind_eq_some_iff.mp made
    cases made
    have sorted := perm_sortBy Candidate.symbol gathered.complete
    refine ⟨?_,?_⟩
    · exact (sorted.map Candidate.symbol).nodup_iff.mpr (complete_symbols (gathered_exact.mp read))
    · calc gathered.complete.length = (sortBy Candidate.symbol gathered.complete).length := sorted.length_eq.symm
        _ = ((sortBy Candidate.symbol gathered.complete).map Candidate.symbol).length := (List.length_map _).symm

variable {store : List ManifestRow} {evidence : EvidenceSummary}

theorem reviewed (accepted : reviewManifest store evidence manifestId = .ok row) :
    storedManifest store manifestId = some row := by
  unfold reviewManifest at accepted
  split at accepted
  · cases accepted
  · rename_i stored found
    repeat' split at accepted
    all_goals cases accepted
    exact found

-- The recomputed count is the sum over the listed ids, each of them stored.
theorem verified_count
    {evidence verified : EvidenceSummary} (accepted : verifyEvidence bundleHash store replays evidence = .ok verified) :
    ∃ manifests : List ManifestRow,
      List.Forall₂ (fun manifestId row => storedManifest store manifestId = some row) evidence.evaluationManifestIds manifests ∧
        verified.sampleCount = (manifests.map (fun row => row.result.completePopulation)).sum := by
  unfold verifyEvidence at accepted
  cases read : evidence.evaluationManifestIds.mapM (reviewManifest store evidence) with
  | error refused => simp [read,bind,Except.bind] at accepted
  | ok manifests =>
    cases listed : evidence.replayIds.mapM (reviewReplay replays evidence) with
    | error refused => simp [read,listed,bind,Except.bind] at accepted
    | ok rows =>
      simp only [read,listed,bind,Except.bind] at accepted
      -- No mixed bases, versions or assumptions, and no other run references.
      iterate 4
        split at accepted
        · cases accepted
      cases accepted
      exact ⟨manifests,(Rows.each_read read).imp (fun _ _ => reviewed),rfl⟩

theorem behind_length (sound : ∀ row ∈ store, Sound row)
    (each : List.Forall₂ (fun manifestId row => storedManifest store manifestId = some row) manifestIds manifests) :
    (outcomesBehind store manifestIds).length = (manifests.map (fun row => row.result.completePopulation)).sum := by
  induction each with
  | nil => rfl
  | @cons manifestId row manifestIds manifests found _ ih =>
    have counted := (sound row (List.mem_of_find?_eq_some found)).counted
    rw [outcomesBehind] at ih ⊢
    rw [List.flatMap_cons,List.length_append,ih,found,List.map_cons,List.sum_cons,counted]
    simp [ManifestRow.outcomes]

theorem behind_nodup (sound : ∀ row ∈ store, Sound row) (manifestIds : List ContentHash.Digest) :
    (outcomesBehind store manifestIds).Nodup ↔ manifestIds.Pairwise (Apart store) := by
  have each : ∀ manifestId ∈ manifestIds,
      (((storedManifest store manifestId).map ManifestRow.outcomes).getD []).Nodup := by
    intro manifestId _
    cases found : storedManifest store manifestId with
    | none => exact List.nodup_nil
    | some row => exact outcomes_nodup (sound row (List.mem_of_find?_eq_some found))
  rw [outcomesBehind,List.nodup_flatMap,and_iff_right each]
  apply List.Pairwise.iff
  intro left right
  simp only [Function.onFun,Apart]
  cases first : storedManifest store left with
  | none => simp [List.Disjoint]
  | some one =>
    cases second : storedManifest store right with
    | none => simp [List.Disjoint]
    | some other =>
      constructor
      · intro apart here there same again
        cases same
        cases again
        exact outcomes_disjoint.mp apart
      · intro apart
        exact outcomes_disjoint.mpr (apart one other rfl rfl)

theorem assessed (eligible : assessPromotion evidence rule = []) : rule.minSampleCount ≤ evidence.sampleCount := by
  by_contra short
  simp [assessPromotion,not_le.mp short] at eligible

variable [SqlCasts]

theorem recorded {store : List ManifestRow} {evidence : EvidenceSummary} {row : DecisionRow}
    (written : recordDecision bundleHash store replays decisionId evidence review = .ok row) :
    verifyEvidence bundleHash store replays evidence = .ok row.verified ∧
      (review.status = .accepted → assessPromotion row.verified review.rule = []) := by
  unfold recordDecision at written
  split at written
  · cases written
  · cases accepted : verifyEvidence bundleHash store replays evidence with
    | error refused => simp [accepted,bind,Except.bind] at written
    | ok verified =>
      simp only [accepted,bind,Except.bind] at written
      split at written
      · cases written
      · rename_i enough
        have allowed : review.status = .accepted → assessPromotion verified review.rule = [] := by
          intro status
          have activates : review.status.activates = true := by rw [status]; rfl
          have empty : shortfalls verified review.rule = [] := not_not.mp (fun short => enough ⟨activates,short⟩)
          exact (List.append_eq_nil_iff.mp empty).1
        split at written
        · cases written
        · split at written
          · cases written
            exact ⟨rfl,allowed⟩
          · cases written

-- An accepted policy rests on as many distinct outcomes as it counts exactly when no two
-- of the listed manifests share one; a manifest that is listed twice shares all of its own.
theorem promotion_counts_once (bundleHash : EvidenceBundle → Text) (zone : SessionZone) (calls : List EvaluationCall)
    (replays : List ReplayRow) (decisionId : Text) (evidence : EvidenceSummary) (review : Review) (row : DecisionRow)
    (accepting : review.status = .accepted)
    (written : recordDecision bundleHash (runEvaluations zone calls) replays decisionId evidence review = .ok row) :
    (review.rule.minSampleCount ≤ (outcomesBehind (runEvaluations zone calls) evidence.evaluationManifestIds).dedup.length ∧
        row.verified.sampleCount ≤ (outcomesBehind (runEvaluations zone calls) evidence.evaluationManifestIds).dedup.length) ↔
      evidence.evaluationManifestIds.Pairwise (Apart (runEvaluations zone calls)) := by
  obtain ⟨accepted,eligible⟩ := recorded written
  have minimum := assessed (eligible accepting)
  obtain ⟨manifests,each,count⟩ := verified_count accepted
  have sound : ∀ stored ∈ runEvaluations zone calls, Sound stored := fun _ => store_sound
  rw [← behind_length sound each] at count
  rw [← behind_nodup sound]
  constructor
  · intro distinct
    apply nodup_of_dedup
    have covered := distinct.2
    rw [count] at covered
    exact Int.ofNat_le.mp covered
  · intro distinct
    rw [distinct.dedup,← count]
    exact ⟨minimum,le_refl _⟩

end

/- Samples: one manifest of ten complete outcomes. -/

def sufficientCall : EvaluationCall :=
  ⟨sampleWarehouse (("ABCDEFGHIJ".toList).map (fun letter => sampleOutcome [letter] "COMPLETE".toList))
    (by unfold Rows.Distinct; decide),sampleRequest⟩

abbrev sampleStore : List (@ManifestRow sampleHash) := @runEvaluations sampleCasts sampleZone sampleHash [sufficientCall]

def sampleManifestIds : List SampleDigest := sampleStore.map (fun row => @ManifestRow.id sampleHash row)

def sampleEvidence (manifestIds : List SampleDigest) (replayIds : List Text) : @EvidenceSummary sampleHash :=
  @EvidenceSummary.mk sampleHash "p".toList "1".toList "h".toList sampleDay.isoformat 0 0 0 manifestIds replayIds
    [] [] [] none "UNVERIFIED".toList

-- A replay of three periods.
def sampleReplay : @ReplayRow sampleHash :=
  @ReplayRow.mk sampleHash ['r'] sampleDay "h".toList 3 [] [] (.outcome []) "RAW".toList "v1".toList
    "pit-classification-v1".toList []

def sampleReview (rule : PromotionRule) : Review := ⟨.accepted,['r'],['w'],sampleDay.isoformat,[],rule⟩

abbrev sampleDecision (rule : PromotionRule) (manifestIds : List SampleDigest) :
    Except (EvidenceError SampleDigest) (@DecisionRow sampleHash) :=
  @recordDecision sampleHash sampleCasts (fun _ => []) sampleStore [sampleReplay] ['d']
    (sampleEvidence manifestIds [['r']]) (sampleReview rule)

theorem promotion_counts_once_sample : ∃ row, sampleDecision ⟨"ten",10,3,1/2⟩ sampleManifestIds = .ok row ∧
      (10 : Int) ≤ (@outcomesBehind sampleHash sampleStore sampleManifestIds).dedup.length ∧
      @EvidenceSummary.sampleCount sampleHash (@DecisionRow.verified sampleHash row) ≤
        (@outcomesBehind sampleHash sampleStore sampleManifestIds).dedup.length := by
  have present : (sampleDecision ⟨"ten",10,3,1/2⟩ sampleManifestIds).isOk = true := by decide +kernel
  have single : sampleManifestIds.length = 1 := by decide
  cases written : sampleDecision ⟨"ten",10,3,1/2⟩ sampleManifestIds with
  | error refused =>
    rw [written] at present
    cases present
  | ok row =>
    refine ⟨row,rfl,?_⟩
    apply (@promotion_counts_once sampleHash sampleCasts (fun _ => []) sampleZone [sufficientCall] [sampleReplay] ['d']
      (sampleEvidence sampleManifestIds [['r']]) (sampleReview ⟨"ten",10,3,1/2⟩) row rfl written).mpr
    obtain ⟨only,listed⟩ := List.length_eq_one_iff.mp single
    change sampleManifestIds.Pairwise _
    rw [listed]
    exact List.pairwise_singleton _ _

-- One manifest listed three times meets the default rule with ten outcomes.
theorem promotion_counts_twice : ¬ ∀ (calls : List EvaluationCall) (replays : List (@ReplayRow sampleHash))
    (decisionId : Text) (evidence : @EvidenceSummary sampleHash) (review : Review) (row : @DecisionRow sampleHash),
    review.status = .accepted →
    @recordDecision sampleHash sampleCasts (fun _ => []) (@runEvaluations sampleCasts sampleZone sampleHash calls)
      replays decisionId evidence review = .ok row →
    review.rule.minSampleCount ≤ (@outcomesBehind sampleHash (@runEvaluations sampleCasts sampleZone sampleHash calls)
        (@EvidenceSummary.evaluationManifestIds sampleHash evidence)).dedup.length ∧
      @EvidenceSummary.sampleCount sampleHash (@DecisionRow.verified sampleHash row) ≤
        (@outcomesBehind sampleHash (@runEvaluations sampleCasts sampleZone sampleHash calls)
          (@EvidenceSummary.evaluationManifestIds sampleHash evidence)).dedup.length := by
  intro claim
  let repeated := sampleManifestIds ++ sampleManifestIds ++ sampleManifestIds
  have present : (sampleDecision defaultPromotionRule repeated).isOk = true := by decide +kernel
  have distinct : (@outcomesBehind sampleHash sampleStore repeated).dedup.length = 10 := by decide
  cases written : sampleDecision defaultPromotionRule repeated with
  | error refused =>
    rw [written] at present
    cases present
  | ok row =>
    have minimum := (claim [sufficientCall] [sampleReplay] ['d'] (sampleEvidence repeated [['r']])
      (sampleReview defaultPromotionRule) row rfl written).1
    change (30 : Int) ≤ (@outcomesBehind sampleHash sampleStore repeated).dedup.length at minimum
    rw [distinct] at minimum
    cases minimum

end OpenStock.Ranking
