import OpenStock.Ranking.Replay

namespace OpenStock.Ranking
open Text Calendar Warehouse

/- Which policy the counted rows of an evaluation and of a replay carry. Both code
paths drop blank identities before they compare. -/

-- The row carries exactly the reported policy hash.
def OutcomeRow.Carries (row : OutcomeRow) (reported : Option Text) : Prop :=
  ∃ hash, reported = some hash ∧ row.scoringPolicyHash = some hash

-- Neither NULL nor the empty text.
def OutcomeRow.namesPolicy (row : OutcomeRow) : Bool := row.scoringPolicyHash.any (fun hash => !hash.isEmpty)

variable {row : OutcomeRow}

theorem carries_exact (named : only ≠ []) (member : row.scoringPolicyHash.getD [] = [] ∨ row.scoringPolicyHash.getD [] = only) :
    row.Carries (some only) ↔ row.namesPolicy = true := by
  unfold OutcomeRow.Carries OutcomeRow.namesPolicy
  cases stored : row.scoringPolicyHash with
  | none => simp
  | some hash =>
    rw [stored,Option.getD_some] at member
    rcases member with blank | same
    · simp [blank,named]
    · simp [same,named]

/- Evaluation. -/

section evaluation

theorem observed_hash (observed : observedPolicy request rows = .ok policy) :
    exactlyOne (rows.map Candidate.scoringPolicyHash) = .ok policy.hash := by
  unfold observedPolicy at observed
  obtain ⟨hash,found,observed⟩ := bind_ok observed
  obtain ⟨id,_,observed⟩ := bind_ok observed
  obtain ⟨version,_,observed⟩ := bind_ok observed
  iterate 3
    split at observed
    · cases observed
  cases observed
  unfold oneIdentity at found
  cases only : exactlyOne (rows.map Candidate.scoringPolicyHash) with
  | error others => simp [only,Except.mapError] at found
  | ok one =>
    simp only [only,Except.mapError,Except.ok.injEq] at found
    rw [found]

variable [SqlCasts]

-- A complete row of the evaluated date and horizon.
structure Counted (warehouse : RankingWarehouse) (request : EvaluationRequest) (row : OutcomeRow) : Prop where
  stored : row ∈ warehouse.outcomes
  date : SqlCasts.date request.watchlistDate = some row.watchlistDate
  horizon : row.horizonSessions = request.horizon
  complete : row.outcomeStatus = "COMPLETE".toList
  excess : row.excessReturn ≠ none

theorem counted_carries {zone : SessionZone} {warehouse : RankingWarehouse}
    (read : gather zone warehouse request = .ok gathered) {row : OutcomeRow}
    (counted : Counted warehouse request row) : row.Carries (some gathered.policy.hash) ↔ row.namesPolicy = true := by
  obtain ⟨_,loaded,_,observed,_⟩ := gather_cases read
  obtain ⟨day,cast,each⟩ := load_each loaded
  have hashes : (runRows warehouse day request.horizon).map (fun row => row.scoringPolicyHash.getD []) =
      gathered.rows.map Candidate.scoringPolicyHash := each_column (fun _ _ read => (candidate_row read).2.2.2) each
  have only := observed_hash observed
  rw [← hashes] at only
  obtain ⟨named,members⟩ := exactlyOne_ok only
  apply carries_exact named
  apply members
  apply List.mem_map_of_mem
  rw [mem_runRows]
  exact ⟨counted.stored,Option.some.inj (counted.date.symm.trans cast),counted.horizon⟩

end evaluation

/- Replay. -/

section replay
variable {zone : SessionZone} {warehouse : RankingWarehouse} {spec : ReplaySpec}

theorem mem_periodRows : row ∈ periodRows warehouse spec date ↔
      row ∈ warehouse.outcomes ∧ row.watchlistDate = date ∧ spec.selects row = true := by
  rw [periodRows,(perm_sortBy _ _).mem_iff,List.mem_filter,Bool.and_eq_true,beq_iff_eq]

theorem mem_replayDates : date ∈ replayDates warehouse spec start finish ↔
      ∃ row ∈ warehouse.outcomes, row.watchlistDate = date ∧ start ≤ date ∧ date ≤ finish ∧ spec.selects row = true := by
  rw [replayDates,(perm_sortBy _ _).mem_iff,List.mem_dedup,List.mem_map]
  constructor
  · intro inside
    obtain ⟨row,kept,rfl⟩ := inside
    simp only [List.mem_filter,Bool.and_eq_true,decide_eq_true_eq] at kept
    exact ⟨row,kept.1,rfl,kept.2.1.1,kept.2.1.2,kept.2.2⟩
  · intro inside
    obtain ⟨row,stored,rfl,after,before,selected⟩ := inside
    exact ⟨row,by simp [stored,after,before,selected],rfl⟩

variable [ReplayHash]

theorem period_identity (accepted : periodIdentity spec scan date rows = .ok identity) :
    exactlyOne (rows.map (fun row => row.scoringPolicyHash.getD [])) = .ok identity.1 ∧
      ∀ observed, scan.observedPolicyHash = some observed → identity.1 = observed := by
  unfold periodIdentity at accepted
  dsimp only at accepted
  split at accepted
  · cases accepted
  · obtain ⟨policyHash,found,accepted⟩ := bind_ok accepted
    obtain ⟨basis,_,accepted⟩ := bind_ok accepted
    obtain ⟨version,_,accepted⟩ := bind_ok accepted
    iterate 3
      split at accepted
      · cases accepted
    split at accepted
    · cases accepted
    · rename_i unmixed
      split at accepted
      · cases accepted
      · cases accepted
        refine ⟨?_,?_⟩
        · unfold one at found
          cases only : exactlyOne (rows.map (fun row => row.scoringPolicyHash.getD [])) with
          | error others => simp [only,Except.mapError] at found
          | ok hash =>
            simp only [only,Except.mapError,Except.ok.injEq] at found
            rw [found]
        · intro observed same
          by_contra differs
          exact unmixed (by simpa [same] using differs)

-- What the dates done so far have left in the scan: their periods, and the one
-- policy of their rows.
structure Replayed (warehouse : RankingWarehouse) (spec : ReplaySpec) (done : List (Date × Nat)) (scan : ReplayScan) : Prop where
  dated : ∀ period ∈ scan.periods, ∃ entry ∈ done, period.watchlistDate = entry.1
  covered : ∀ entry ∈ done, periodRows warehouse spec entry.1 ≠ [] →
    ∃ period ∈ scan.periods, period.watchlistDate = entry.1
  observed : ∀ entry ∈ done, periodRows warehouse spec entry.1 ≠ [] → ∃ hash, scan.observedPolicyHash = some hash ∧
    exactlyOne ((periodRows warehouse spec entry.1).map (fun row => row.scoringPolicyHash.getD [])) = .ok hash

theorem step_replayed (positive : 1 ≤ spec.topN)
    (before : Replayed warehouse spec done scan) (ran : ReplayScan.step zone warehouse spec scan entry = .ok next) :
    Replayed warehouse spec (done ++ [entry]) next := by
  have split : ∀ {other : Date × Nat}, other ∈ done ++ [entry] → other ∈ done ∨ other = entry := by
    intro other inside
    simpa using inside
  unfold ReplayScan.step at ran
  by_cases empty : periodRows warehouse spec entry.1 = []
  · simp only [empty,if_true] at ran
    cases ran
    refine ⟨?_,?_,?_⟩
    · intro period inside
      obtain ⟨other,earlier,same⟩ := before.dated period inside
      exact ⟨other,List.mem_append_left _ earlier,same⟩
    · intro other inside present
      rcases split inside with earlier | rfl
      · exact before.covered other earlier present
      · exact absurd empty present
    · intro other inside present
      rcases split inside with earlier | rfl
      · exact before.observed other earlier present
      · exact absurd empty present
  · simp only [empty,if_false] at ran
    obtain ⟨identity,accepted,ran⟩ := bind_ok ran
    obtain ⟨resolved,_,ran⟩ := bind_ok ran
    have selected : (periodRows warehouse spec entry.1).take spec.topN.toNat ≠ [] := by
      intro none
      rcases List.take_eq_nil_iff.mp none with zero | rows
      · omega
      · exact empty rows
    simp only [selected,if_false] at ran
    split at ran
    · cases ran
    · cases ran
      obtain ⟨only,agrees⟩ := period_identity accepted
      refine ⟨?_,?_,?_⟩
      · intro period inside
        rcases List.mem_append.mp inside with earlier | latest
        · obtain ⟨other,listed,same⟩ := before.dated period earlier
          exact ⟨other,List.mem_append_left _ listed,same⟩
        · rw [List.mem_singleton.mp latest]
          exact ⟨entry,by simp,rfl⟩
      · intro other inside present
        rcases split inside with earlier | rfl
        · obtain ⟨period,listed,same⟩ := before.covered other earlier present
          exact ⟨period,List.mem_append_left _ listed,same⟩
        · exact ⟨_,List.mem_append_right _ (List.mem_singleton_self _),rfl⟩
      · intro other inside present
        rcases split inside with earlier | rfl
        · obtain ⟨hash,observed,hashes⟩ := before.observed other earlier present
          refine ⟨identity.1,rfl,?_⟩
          rw [agrees hash observed]
          exact hashes
        · exact ⟨identity.1,rfl,only⟩

variable [SqlCasts] {result : ReplayResult}

theorem run_replayed (returned : runReplay zone warehouse spec = .ok result) :
    ∃ start finish scan, SqlCasts.date spec.startDate = some start ∧ SqlCasts.date spec.endDate = some finish ∧
      Replayed warehouse spec (replayDates warehouse spec start finish).zipIdx scan ∧ result = replayed spec scan := by
  unfold runReplay at returned
  split at returned
  · cases returned
  · rename_i positive
    iterate 2
      split at returned
      · cases returned
    split at returned
    · rename_i start finish begins ends
      obtain ⟨scan,ran,made⟩ := bind_ok returned
      have initial : Replayed warehouse spec [] ⟨[],[],[],[],none,none,spec.adjustmentVersion,1,1,0⟩ := by
        constructor <;> simp
      have kept := foldlM_done initial (fun _ _ _ _ before ran => step_replayed (by omega) before ran) ran
      exact ⟨start,finish,scan,begins,ends,kept,(Except.ok.inj made).symm⟩
    · cases returned

-- A row of the horizon in the range of dates.
structure InRange (warehouse : RankingWarehouse) (spec : ReplaySpec) (row : OutcomeRow) : Prop where
  stored : row ∈ warehouse.outcomes
  started : ∃ start, SqlCasts.date spec.startDate = some start ∧ start ≤ row.watchlistDate
  ended : ∃ finish, SqlCasts.date spec.endDate = some finish ∧ row.watchlistDate ≤ finish
  horizon : row.horizonSessions = spec.horizonSessions

-- Every row of every period carries the reported policy.
def ReplaysOnePolicy (warehouse : RankingWarehouse) (spec : ReplaySpec) (result : ReplayResult) : Prop :=
  ∀ period ∈ result.periods, ∀ row ∈ periodRows warehouse spec period.watchlistDate, row.Carries result.scoringPolicyHash

theorem replay_policy (returned : runReplay zone warehouse spec = .ok result) : ReplaysOnePolicy warehouse spec result ↔
      spec.namesPolicy = true ∨ ∀ row, InRange warehouse spec row → row.namesPolicy = true := by
  obtain ⟨start,finish,scan,begins,ends,kept,rfl⟩ := run_replayed returned
  -- The rows of a date that has a period, against its one nonblank hash.
  have carries : ∀ {date row}, date ∈ replayDates warehouse spec start finish → row ∈ periodRows warehouse spec date →
      (row.Carries scan.observedPolicyHash ↔ row.namesPolicy = true) := by
    intro date row dated inside
    obtain ⟨place,listed⟩ := List.getElem?_of_mem dated
    have entry : (date,place) ∈ (replayDates warehouse spec start finish).zipIdx := List.mk_mem_zipIdx_iff_getElem?.mpr listed
    obtain ⟨hash,observed,only⟩ := kept.observed (date,place) entry (List.ne_nil_of_mem inside)
    obtain ⟨named,members⟩ := exactlyOne_ok only
    rw [observed]
    exact carries_exact named (members _ (List.mem_map_of_mem inside))
  constructor
  · intro property
    by_cases named : spec.namesPolicy = true
    · exact .inl named
    · apply Or.inr
      intro row within
      obtain ⟨_,first,after⟩ := within.started
      obtain ⟨_,last,before⟩ := within.ended
      cases begins.symm.trans first
      cases ends.symm.trans last
      have selected : spec.selects row = true := by simp [ReplaySpec.selects,within.horizon,named]
      have dated := mem_replayDates.mpr ⟨row,within.stored,rfl,after,before,selected⟩
      have inside : row ∈ periodRows warehouse spec row.watchlistDate := mem_periodRows.mpr ⟨within.stored,rfl,selected⟩
      obtain ⟨place,listed⟩ := List.getElem?_of_mem dated
      obtain ⟨period,present,same⟩ := kept.covered (row.watchlistDate,place)
        (List.mk_mem_zipIdx_iff_getElem?.mpr listed) (List.ne_nil_of_mem inside)
      apply (carries dated inside).mp
      apply property period present
      rw [same]
      exact inside
  · intro condition period present row inside
    obtain ⟨entry,listed,same⟩ := kept.dated period present
    rw [same] at inside
    have dated := List.fst_mem_of_mem_zipIdx listed
    apply (carries dated inside).mpr
    obtain ⟨stored,onDate,selected⟩ := mem_periodRows.mp inside
    simp only [ReplaySpec.selects,Bool.and_eq_true,Bool.or_eq_true,Bool.not_eq_true',beq_iff_eq] at selected
    rcases condition with named | rows
    · have same : row.scoringPolicyHash = spec.scoringPolicyHash :=
        selected.2.resolve_left (fun unnamed => by rw [named] at unnamed; cases unnamed)
      rw [OutcomeRow.namesPolicy,same]
      exact named
    · obtain ⟨_,_,_,after,before,_⟩ := mem_replayDates.mp dated
      apply rows row
      exact ⟨stored,⟨start,begins,by rw [onDate]; exact after⟩,⟨finish,ends,by rw [onDate]; exact before⟩,selected.1⟩

variable [ContentHash]

-- Every counted row of an evaluation carries the reported policy.
def EvaluatesOnePolicy (warehouse : RankingWarehouse) (request : EvaluationRequest) (result : RankingEvaluationResult) : Prop :=
  ∀ row, Counted warehouse request row → row.Carries (some result.scoringPolicyHash)

-- Both functions count rows of one policy exactly when no counted row has a blank one;
-- a replay that names its policy counts no other rows.
theorem one_policy_only (zone : SessionZone) (warehouse : RankingWarehouse) :
    (∀ (store : List ManifestRow) (request : EvaluationRequest) (result : RankingEvaluationResult),
      (evaluateRankingRun zone warehouse store request).2 = .ok result →
        (EvaluatesOnePolicy warehouse request result ↔ ∀ row, Counted warehouse request row → row.namesPolicy = true)) ∧
    (∀ (spec : ReplaySpec) (result : ReplayResult), runReplay zone warehouse spec = .ok result →
        (ReplaysOnePolicy warehouse spec result ↔
          spec.namesPolicy = true ∨ ∀ row, InRange warehouse spec row → row.namesPolicy = true)) := by
  refine ⟨?_,fun spec result => replay_policy⟩
  intro store request result returned
  have made : ∃ gathered, gather zone warehouse request = .ok gathered ∧ result.scoringPolicyHash = gathered.policy.hash := by
    unfold evaluateRankingRun at returned
    split at returned
    · cases returned
    · rename_i gathered read
      refine ⟨gathered,read,?_⟩
      dsimp only at returned
      split at returned
      · split at returned
        · cases returned
        · cases returned
          rfl
      · cases returned
        rfl
  obtain ⟨gathered,read,hash⟩ := made
  unfold EvaluatesOnePolicy
  rw [hash]
  exact forall_congr' (fun row => imp_congr_right (fun counted => counted_carries read counted))

end replay

/- Samples: one row of a policy and one row without. -/

abbrev sampleReplayHash : ReplayHash := ⟨Unit,fun _ => (),fun _ => (),fun _ => (),fun _ => (),fun _ => ()⟩

def blankOutcome (symbol : Text) : OutcomeRow := {sampleOutcome symbol "COMPLETE".toList with scoringPolicyHash := none}

def classified (outcomes : List OutcomeRow) (distinct : Rows.Distinct OutcomeRow.key outcomes) : RankingWarehouse :=
  {sampleWarehouse outcomes distinct with
    history := ⟨[sampleRow "BBB".toList ['1'] ⟨sampleDay,.midnight⟩ none],List.nodup_singleton _⟩}

def singleWarehouse : RankingWarehouse :=
  classified [sampleOutcome "BBB".toList "COMPLETE".toList] (by unfold Rows.Distinct; decide)

def mixedWarehouse : RankingWarehouse :=
  classified [sampleOutcome "AAA".toList "COMPLETE".toList,blankOutcome "BBB".toList] (by unfold Rows.Distinct; decide)

def sampleSpec : ReplaySpec :=
  ⟨sampleDay.isoformat,sampleDay.isoformat,5,1,"VNINDEX".toList,0,"RAW".toList,none,none,[],[],[],[]⟩

theorem one_policy_only_sample :
    (∃ result, (@evaluateRankingRun sampleHash sampleCasts sampleZone singleWarehouse [] sampleRequest).2 = .ok result ∧
      @EvaluatesOnePolicy sampleCasts sampleHash singleWarehouse sampleRequest result) ∧
    ∃ result, @runReplay sampleReplayHash sampleCasts sampleZone singleWarehouse sampleSpec = .ok result ∧
      @ReplaysOnePolicy sampleReplayHash singleWarehouse sampleSpec result := by
  constructor
  · have present : (@evaluateRankingRun sampleHash sampleCasts sampleZone singleWarehouse [] sampleRequest).2.isOk = true := by
      decide
    cases returned : (@evaluateRankingRun sampleHash sampleCasts sampleZone singleWarehouse [] sampleRequest).2 with
    | error refused =>
      rw [returned] at present
      cases present
    | ok result =>
      refine ⟨result,rfl,?_⟩
      apply ((@one_policy_only sampleReplayHash sampleCasts sampleHash sampleZone singleWarehouse).1
        [] sampleRequest result returned).mpr
      intro row counted
      rw [List.mem_singleton.mp (@Counted.stored sampleCasts _ _ _ counted)]
      rfl
  · have present : (@runReplay sampleReplayHash sampleCasts sampleZone singleWarehouse sampleSpec).isOk = true := by
      decide
    cases returned : @runReplay sampleReplayHash sampleCasts sampleZone singleWarehouse sampleSpec with
    | error refused =>
      rw [returned] at present
      cases present
    | ok result =>
      refine ⟨result,rfl,?_⟩
      apply ((@one_policy_only sampleReplayHash sampleCasts sampleHash sampleZone singleWarehouse).2
        sampleSpec result returned).mpr
      apply Or.inr
      intro row within
      rw [List.mem_singleton.mp (@InRange.stored sampleCasts _ _ _ within)]
      rfl

-- The row without a policy is counted under the policy of the other one.
theorem mixed_policy_counted : ¬ ∀ warehouse : RankingWarehouse,
    (∀ (store : List (@ManifestRow sampleHash)) (request : EvaluationRequest) (result : @RankingEvaluationResult sampleHash),
      (@evaluateRankingRun sampleHash sampleCasts sampleZone warehouse store request).2 = .ok result →
        @EvaluatesOnePolicy sampleCasts sampleHash warehouse request result) ∧
    (∀ (spec : ReplaySpec) (result : @ReplayResult sampleReplayHash),
      @runReplay sampleReplayHash sampleCasts sampleZone warehouse spec = .ok result →
        @ReplaysOnePolicy sampleReplayHash warehouse spec result) := by
  intro claim
  have present : (@evaluateRankingRun sampleHash sampleCasts sampleZone mixedWarehouse [] sampleRequest).2.isOk = true := by
    decide
  cases returned : (@evaluateRankingRun sampleHash sampleCasts sampleZone mixedWarehouse [] sampleRequest).2 with
  | error refused =>
    rw [returned] at present
    cases present
  | ok result =>
    have counted : @Counted sampleCasts mixedWarehouse sampleRequest (blankOutcome "BBB".toList) :=
      @Counted.mk sampleCasts _ _ _ (List.mem_cons_of_mem _ (List.mem_singleton_self _))
        (fromIsoformat_isoformat sampleDay) rfl rfl (by decide)
    obtain ⟨hash,_,stored⟩ := (claim mixedWarehouse).1 [] sampleRequest result returned _ counted
    cases stored

end OpenStock.Ranking
