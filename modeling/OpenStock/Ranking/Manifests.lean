import OpenStock.Ranking.Evaluation

namespace OpenStock.Ranking
open Text Calendar Warehouse

/- Which inputs of an evaluation its id holds, and which values can therefore be
read back under it. -/

def Candidate.hashed (row : Candidate) : PopulationItem × OutcomeItem :=
  (⟨row.symbol,row.rank,row.momentum,row.equalComponentScore,row.sector⟩,
   ⟨row.symbol,row.excessReturn,row.maxGain,row.maxDrawdown,row.computedAt,row.priceBasis,row.adjustmentVersion⟩)

variable {left right : List Candidate}

theorem hashed_sorted (populations : populationPayload left = populationPayload right)
    (outcomes : outcomePayload left = outcomePayload right) :
    (sortBy Candidate.symbol left).map Candidate.hashed = (sortBy Candidate.symbol right).map Candidate.hashed := by
  have zipped : ∀ rows : List Candidate, (sortBy Candidate.symbol rows).map Candidate.hashed =
      (populationPayload rows).zip (outcomePayload rows) := by
    intro rows
    rw [populationPayload,outcomePayload,List.zip_map']
    rfl
  rw [zipped,zipped,populations,outcomes]

theorem hashed_perm (populations : populationPayload left = populationPayload right)
    (outcomes : outcomePayload left = outcomePayload right) :
    (left.map Candidate.hashed).Perm (right.map Candidate.hashed) := by
  have sorted := hashed_sorted populations outcomes
  have one := (perm_sortBy Candidate.symbol left).map Candidate.hashed
  have other := (perm_sortBy Candidate.symbol right).map Candidate.hashed
  rw [sorted] at one
  exact one.symm.trans other

-- Every order of a selection is a key of the hashed columns that ends with the symbol.
theorem selected_alike (perm : (left.map Candidate.hashed).Perm (right.map Candidate.hashed))
    (distinct : (left.map Candidate.symbol).Nodup) (topN : Nat) (strategy : Strategy) :
    (selectStrategy left topN strategy).map Candidate.hashed = (selectStrategy right topN strategy).map Candidate.hashed := by
  have tied : ∀ {κ : Type} (first : Candidate → κ), (left.map (fun row => toLex (first row,row.symbol))).Nodup := by
    intro κ first
    apply List.Nodup.of_map (fun pair => (ofLex pair).2)
    rw [List.map_map]
    exact distinct
  cases strategy with
  | packaged =>
    simp only [selectStrategy,List.map_take]
    congr 1
    exact sortBy_alike Candidate.hashed (fun pair => toLex (pair.1.rank,pair.1.symbol)) perm (tied _)
  | momentumOnly =>
    simp only [selectStrategy,List.map_take]
    congr 1
    exact sortBy_alike Candidate.hashed (fun pair => toLex (descending pair.1.momentum,pair.1.symbol)) perm (tied _)
  | equalComponent =>
    simp only [selectStrategy,List.map_take]
    congr 1
    exact sortBy_alike Candidate.hashed (fun pair => toLex (descending pair.1.equalComponentScore,pair.1.symbol)) perm (tied _)
  | unfiltered => exact sortBy_alike Candidate.hashed (fun pair => pair.1.symbol) perm distinct

-- The metrics read hashed columns only.
theorem metrics_alike (alike : left.map Candidate.hashed = right.map Candidate.hashed)
    (strategy : Strategy) (total : Nat) (previous : Option (List Text)) (regime : Option Text) :
    metrics strategy left total previous regime = metrics strategy right total previous regime := by
  have mapped : ∀ {κ : Type} (read : PopulationItem × OutcomeItem → κ),
      left.map (fun row => read row.hashed) = right.map (fun row => read row.hashed) := by
    intro κ read
    have both := congrArg (List.map read) alike
    rwa [List.map_map,List.map_map] at both
  have filtered : ∀ {κ : Type} (read : PopulationItem × OutcomeItem → Option κ),
      left.filterMap (fun row => read row.hashed) = right.filterMap (fun row => read row.hashed) := by
    intro κ read
    have both := congrArg (List.filterMap read) alike
    rwa [List.filterMap_map,List.filterMap_map] at both
  have symbols : left.map Candidate.symbol = right.map Candidate.symbol := mapped (fun pair => pair.1.symbol)
  have excess : left.filterMap Candidate.excessReturn = right.filterMap Candidate.excessReturn :=
    filtered (fun pair => pair.2.excessReturn)
  have gains : left.filterMap Candidate.maxGain = right.filterMap Candidate.maxGain := filtered (fun pair => pair.2.maxGain)
  have draws : left.filterMap Candidate.maxDrawdown = right.filterMap Candidate.maxDrawdown :=
    filtered (fun pair => pair.2.maxDrawdown)
  have sectors : left.filterMap Candidate.sector = right.filterMap Candidate.sector := filtered (fun pair => pair.1.sector)
  have sizes : left.length = right.length := by simpa using congrArg List.length symbols
  simp only [metrics,symbols,excess,gains,draws,sectors,sizes]

section reading
variable {zone : SessionZone} {warehouse : RankingWarehouse} {request : EvaluationRequest} {row : OutcomeRow} {text : Text}

-- The columns of a candidate that come from its outcome row.
theorem candidate_row (read : candidateOf zone warehouse text row = .ok candidate) :
    candidate.symbol = row.symbol ∧ candidate.excessReturn = row.excessReturn ∧
      candidate.outcomeStatus = row.outcomeStatus ∧ candidate.scoringPolicyHash = row.scoringPolicyHash.getD [] := by
  unfold candidateOf at read
  split at read
  · cases read
  · cases read
    exact ⟨rfl,rfl,rfl,rfl⟩

theorem mem_runRows : row ∈ runRows warehouse day horizon ↔
      row ∈ warehouse.outcomes ∧ row.watchlistDate = day ∧ row.horizonSessions = horizon := by
  rw [runRows,(perm_sortBy _ _).mem_iff,List.mem_filter,Bool.and_eq_true,beq_iff_eq,beq_iff_eq]

-- A column of the candidates that is a column of their rows.
theorem each_column (same : ∀ row candidate, candidateOf zone warehouse text row = .ok candidate → field candidate = column row)
    (each : List.Forall₂ (fun row candidate => candidateOf zone warehouse text row = .ok candidate) source rows) :
    source.map column = rows.map field := by
  induction each with
  | nil => rfl
  | cons first _ ih => rw [List.map_cons,List.map_cons,ih,same _ _ first]

variable [SqlCasts]

-- The rows of one run, each read into its candidate.
theorem load_each {text : Text}
    (read : loadRows zone warehouse text horizon = .ok rows) : ∃ day, SqlCasts.date text = some day ∧
      List.Forall₂ (fun row candidate => candidateOf zone warehouse text row = .ok candidate)
        (runRows warehouse day horizon) rows := by
  unfold loadRows at read
  split at read
  · cases read
  · rename_i day cast
    exact ⟨day,cast,Rows.each_read read⟩

theorem load_symbols {text : Text}
    (read : loadRows zone warehouse text horizon = .ok rows) : (rows.map Candidate.symbol).Nodup := by
  obtain ⟨day,_,each⟩ := load_each read
  have keys : ((runRows warehouse day horizon).map OutcomeRow.key).Nodup := by
    have kept := warehouse.distinct.sublist ((List.filter_sublist (p := fun row : OutcomeRow =>
      row.watchlistDate == day && row.horizonSessions == horizon)).map OutcomeRow.key)
    exact ((perm_sortBy _ _).map OutcomeRow.key).nodup_iff.mpr kept
  rw [← each_column (fun _ _ read => (candidate_row read).1) each]
  apply List.Nodup.map_on _ (List.Nodup.of_map OutcomeRow.key keys)
  intro first inside second outside same
  obtain ⟨stored,date,horizons⟩ := mem_runRows.mp inside
  obtain ⟨kept,again,still⟩ := mem_runRows.mp outside
  apply Rows.same_row warehouse.distinct stored kept
  rw [OutcomeRow.key,OutcomeRow.key,same,date,again,horizons,still]

-- What a call has read when no check refused it.
theorem gather_cases (read : gather zone warehouse request = .ok gathered) :
    1 ≤ request.topN ∧ loadRows zone warehouse request.watchlistDate request.horizon = .ok gathered.rows ∧
      gathered.rows ≠ [] ∧ observedPolicy request gathered.rows = .ok gathered.policy ∧
      sharedBasis gathered.complete = .ok gathered.basis ∧
      previousStrategySymbols zone warehouse request.watchlistDate request.horizon request.topN.toNat
        gathered.policy.hash = .ok gathered.previous ∧ gathered.regime = marketRegime warehouse request.watchlistDate := by
  unfold gather at read
  split at read
  · cases read
  · rename_i positive
    cases loaded : loadRows zone warehouse request.watchlistDate request.horizon with
    | error refused => simp [loaded,bind,Except.bind] at read
    | ok rows =>
      rw [loaded] at read
      simp only [bind,Except.bind] at read
      split at read
      · cases read
      · rename_i present
        cases identity : observedPolicy request rows with
        | error refused => simp [identity] at read
        | ok policy =>
          cases shared : sharedBasis (rows.filter isComplete) with
          | error refused => simp [identity,shared] at read
          | ok basis =>
            cases earlier : previousStrategySymbols zone warehouse request.watchlistDate request.horizon
                request.topN.toNat policy.hash with
            | error refused => simp [identity,shared,earlier] at read
            | ok previous =>
              simp only [identity,shared,earlier] at read
              cases read
              exact ⟨by omega,rfl,present,identity,shared,earlier,rfl⟩

theorem complete_symbols (read : gather zone warehouse request = .ok gathered) :
    (gathered.complete.map Candidate.symbol).Nodup := by
  obtain ⟨_,loaded,_⟩ := gather_cases read
  exact (load_symbols loaded).sublist (List.filter_sublist.map Candidate.symbol)

end reading

/- The values of an evaluation beside what names it. -/

structure ReportedValues where
  eligiblePopulation : Nat
  completePopulation : Nat
  incompletePopulation : Nat
  sufficiencyStatus : Sufficiency
  partialReason : Option String
  marketRegime : Option Text
  strategies : Strategy → Option StrategyMetrics

section
variable [ContentHash]

def RankingEvaluationResult.values (result : RankingEvaluationResult) : ReportedValues :=
  {eligiblePopulation := result.eligiblePopulation,completePopulation := result.completePopulation,
   incompletePopulation := result.incompletePopulation,sufficiencyStatus := result.sufficiencyStatus,
   partialReason := result.partialReason,marketRegime := result.marketRegime,
   strategies := fun strategy => result.strategies.find? (fun metrics => metrics.strategy = strategy)}

-- What the id of an evaluation holds.
structure HashedInputs where
  rankingRunRef : Text
  population : List PopulationItem
  outcomes : List OutcomeItem
  horizon : Int
  topN : Int
deriving DecidableEq

def hashedInputs (request : EvaluationRequest) (gathered : Gathered) : HashedInputs :=
  ⟨rankingRunRef request gathered.policy,populationPayload gathered.complete,outcomePayload gathered.complete,
   request.horizon,request.topN⟩

-- What else its values depend on: the rows that are not complete, the regime row
-- and how many members of each selection the previous one lacks.
structure UnhashedInputs where
  incomplete : Nat
  regime : Option Text
  entered : Strategy → Option Nat

def enteredMembers (request : EvaluationRequest) (gathered : Gathered) (strategy : Strategy) : Option Nat :=
  let selected := (selectStrategy gathered.complete request.topN.toNat strategy).map Candidate.symbol
  if selected = [] then none else gathered.previous.map (fun selections => entered selected (selections strategy))

def unhashedInputs (request : EvaluationRequest) (gathered : Gathered) : UnhashedInputs :=
  ⟨gathered.incomplete,gathered.regime,enteredMembers request gathered⟩

variable {first second : EvaluationRequest}

theorem manifestId_eq {left right : Gathered} : (evaluated first left).manifestId = (evaluated second right).manifestId ↔
      hashedInputs first left = hashedInputs second right := by
  simp only [evaluated,datasetPayload,hashedInputs,ContentHash.datasetInjective.eq_iff,DatasetPayload.mk.injEq,
    ContentHash.populationInjective.eq_iff,ContentHash.outcomeInjective.eq_iff,HashedInputs.mk.injEq]

theorem strategy_values (request : EvaluationRequest) (gathered : Gathered) (strategy : Strategy) :
    (evaluated request gathered).values.strategies strategy = some (strategyMetrics request gathered strategy) := by
  cases strategy <;> rfl

omit [ContentHash] in
theorem strategyMetrics_eq {left right : Gathered}
    (same : hashedInputs first left = hashedInputs second right) (distinct : (left.complete.map Candidate.symbol).Nodup)
    (strategy : Strategy) : strategyMetrics first left strategy = strategyMetrics second right strategy ↔
      enteredMembers first left strategy = enteredMembers second right strategy ∧ left.regime = right.regime := by
  obtain ⟨_,populations,outcomes,_,topN⟩ := (HashedInputs.mk.injEq ..).mp same
  have perm := hashed_perm populations outcomes
  have selected := selected_alike perm distinct second.topN.toNat strategy
  have symbols : (selectStrategy left.complete second.topN.toNat strategy).map Candidate.symbol =
      (selectStrategy right.complete second.topN.toNat strategy).map Candidate.symbol := by
    have both := congrArg (List.map (fun pair : PopulationItem × OutcomeItem => pair.1.symbol)) selected
    rwa [List.map_map,List.map_map] at both
  have sizes : left.complete.length = right.complete.length := by simpa using perm.length_eq
  have entering : enteredMembers first left strategy = enteredMembers second right strategy ↔
      turnover ((selectStrategy right.complete second.topN.toNat strategy).map Candidate.symbol)
          (left.previous.map (fun selections => selections strategy)) =
        turnover ((selectStrategy right.complete second.topN.toNat strategy).map Candidate.symbol)
          (right.previous.map (fun selections => selections strategy)) := by
    rw [turnover_eq,enteredMembers,enteredMembers,topN,symbols]
    by_cases empty : (selectStrategy right.complete second.topN.toNat strategy).map Candidate.symbol = []
    · simp [empty]
    · simp only [empty,if_false,false_or,Option.map_map]
      exact Iff.rfl
  rw [entering,strategyMetrics,strategyMetrics,topN,metrics_alike selected,sizes]
  simp only [metrics,StrategyMetrics.mk.injEq,true_and]

-- Under one id the values agree exactly when what the id leaves out does.
theorem values_eq {left right : Gathered}
    (same : hashedInputs first left = hashedInputs second right) (distinct : (left.complete.map Candidate.symbol).Nodup) :
    (evaluated first left).values = (evaluated second right).values ↔
      unhashedInputs first left = unhashedInputs second right := by
  have strategy := strategyMetrics_eq same distinct
  have sizes : left.complete.length = right.complete.length := by
    obtain ⟨_,populations,outcomes,_,_⟩ := (HashedInputs.mk.injEq ..).mp same
    simpa using (hashed_perm populations outcomes).length_eq
  have eligible : ∀ gathered : Gathered, gathered.rows.length = gathered.complete.length + gathered.incomplete := by
    intro gathered
    have fewer : gathered.complete.length ≤ gathered.rows.length := List.length_filter_le _ _
    rw [Gathered.incomplete]
    omega
  constructor
  · intro values
    have each : ∀ one, strategyMetrics first left one = strategyMetrics second right one := by
      intro one
      have listed := congrArg (fun values => ReportedValues.strategies values one) values
      simp only [strategy_values] at listed
      exact Option.some.inj listed
    have incomplete : left.incomplete = right.incomplete := congrArg ReportedValues.incompletePopulation values
    have regime : left.regime = right.regime := ((strategy .packaged).mp (each .packaged)).2
    have entering : enteredMembers first left = enteredMembers second right := by
      funext one
      exact ((strategy one).mp (each one)).1
    rw [unhashedInputs,unhashedInputs,incomplete,regime,entering]
  · intro unhashed
    obtain ⟨incomplete,regime,entering⟩ := (UnhashedInputs.mk.injEq ..).mp unhashed
    have each : (evaluated first left).values.strategies = (evaluated second right).values.strategies := by
      funext one
      rw [strategy_values,strategy_values,(strategy one).mpr ⟨congrFun entering one,regime⟩]
    rw [RankingEvaluationResult.values,RankingEvaluationResult.values,ReportedValues.mk.injEq]
    refine ⟨?_,sizes,incomplete,?_,?_,regime,each⟩
    · simp only [evaluated]
      rw [eligible left,eligible right,sizes,incomplete]
    · simp only [evaluated,incomplete,sizes]
    · simp only [evaluated,incomplete,sizes]

-- A stored row reads back with the values it was stored with.
theorem read_values (date : Date) (request : EvaluationRequest) (gathered : Gathered) :
    (ManifestRow.read ⟨date,evaluated request gathered,gathered.policy⟩).values = (evaluated request gathered).values := by
  have listed : sortBy (fun metrics => metrics.strategy.name.toList) (evaluated request gathered).strategies =
      [Strategy.equalComponent,.momentumOnly,.packaged,.unfiltered].map (strategyMetrics request gathered) := by
    have mapped : ([Strategy.packaged,.momentumOnly,.equalComponent,.unfiltered].insertionSort
          (fun left right => left.name.toList ≤ right.name.toList)).map (strategyMetrics request gathered) =
        ([Strategy.packaged,.momentumOnly,.equalComponent,.unfiltered].map (strategyMetrics request gathered)).insertionSort
          (fun left right => left.strategy.name.toList ≤ right.strategy.name.toList) := by
      apply List.map_insertionSort
      intro one _ other _
      exact Iff.rfl
    have order : [Strategy.packaged,.momentumOnly,.equalComponent,.unfiltered].insertionSort
        (fun left right => left.name.toList ≤ right.name.toList) =
        [Strategy.equalComponent,.momentumOnly,.packaged,.unfiltered] := by decide
    rw [order] at mapped
    exact mapped.symm
  have each : (ManifestRow.read ⟨date,evaluated request gathered,gathered.policy⟩).values.strategies =
      (evaluated request gathered).values.strategies := by
    funext one
    rw [strategy_values]
    simp only [ManifestRow.read,RankingEvaluationResult.values,listed]
    cases one <;> rfl
  rw [RankingEvaluationResult.values,RankingEvaluationResult.values,ReportedValues.mk.injEq]
  exact ⟨rfl,rfl,rfl,rfl,rfl,rfl,each⟩

end

/- Runs of persisted calls, with any warehouse at each of them. -/

structure EvaluationCall where
  warehouse : RankingWarehouse
  request : EvaluationRequest

section runs
variable [SqlCasts] (zone : SessionZone)

def gatheredBy (call : EvaluationCall) : Option Gathered := (gather zone call.warehouse call.request).toOption

-- What the id of the evaluation holds, and what else its values depend on.
def hashedBy (call : EvaluationCall) : Option HashedInputs := (gatheredBy zone call).map (hashedInputs call.request)

def unhashedBy (call : EvaluationCall) : Option UnhashedInputs := (gatheredBy zone call).map (unhashedInputs call.request)

-- The earliest call with the same hashed inputs.
def firstAlike (calls : List EvaluationCall) (call : EvaluationCall) : Option EvaluationCall :=
  calls.find? (fun earlier => hashedBy zone earlier = hashedBy zone call)

variable [ContentHash]

def EvaluationCall.run (store : List ManifestRow) (call : EvaluationCall) :
    List ManifestRow × Except EvaluationError RankingEvaluationResult :=
  evaluateRankingRun zone call.warehouse store {call.request with persist := true}

def runEvaluations (calls : List EvaluationCall) : List ManifestRow :=
  calls.foldl (fun store call => (call.run zone store).1) []

-- The values that `get_ranking_evaluation` reads right after the call are its own.
def ReadsBack (calls : List EvaluationCall) (call : EvaluationCall) (result : RankingEvaluationResult) : Prop :=
  ∃ stored, getRankingEvaluation (runEvaluations zone (calls ++ [call])) result.manifestId = some stored ∧
    stored.values = result.values

variable {zone}

-- The row that a call which is not refused offers to the store.
def manifestOf (zone : SessionZone) (call : EvaluationCall) : Option ManifestRow := do
  let gathered ← gatheredBy zone call
  let date ← SqlCasts.date call.request.watchlistDate
  return ⟨date,evaluated call.request gathered,gathered.policy⟩

variable {call : EvaluationCall}

omit [ContentHash] in
theorem gathered_exact : gatheredBy zone call = some gathered ↔ gather zone call.warehouse call.request = .ok gathered := by
  unfold gatheredBy
  cases gather zone call.warehouse call.request <;> simp [Except.toOption]

theorem manifest_exact (read : gatheredBy zone call = some gathered) :
    ∃ date, SqlCasts.date call.request.watchlistDate = some date ∧
      manifestOf zone call = some ⟨date,evaluated call.request gathered,gathered.policy⟩ := by
  obtain ⟨_,loaded,_⟩ := gather_cases (gathered_exact.mp read)
  obtain ⟨date,cast,_⟩ := load_each loaded
  refine ⟨date,cast,?_⟩
  simp [manifestOf,read,cast]

-- One call puts its row, unless the id is stored.
theorem run_exact (store : List ManifestRow) (call : EvaluationCall) :
    (call.run zone store).1 = ((manifestOf zone call).toList.foldl (Rows.insertNew ManifestRow.id) store) ∧
      ∀ result, (call.run zone store).2 = .ok result ↔ ∃ gathered, gatheredBy zone call = some gathered ∧
        result = evaluated call.request gathered := by
  have asked : gather zone call.warehouse {call.request with persist := true} = gather zone call.warehouse call.request := rfl
  cases read : gather zone call.warehouse call.request with
  | error refused =>
    have refusal : gatheredBy zone call = none := by simp [gatheredBy,read,Except.toOption]
    simp [EvaluationCall.run,evaluateRankingRun,asked,read,manifestOf,refusal]
  | ok gathered =>
    have present := gathered_exact.mpr read
    obtain ⟨date,cast,row⟩ := manifest_exact present
    simp only [EvaluationCall.run,evaluateRankingRun,asked,read,cast,row,present,if_true]
    refine ⟨rfl,?_⟩
    intro result
    constructor
    · intro returned
      exact ⟨gathered,rfl,(Except.ok.inj returned).symm⟩
    · intro made
      obtain ⟨other,same,equal⟩ := made
      cases same
      rw [equal]
      rfl

-- The store holds the first row of each id that a call offered.
theorem runs_exact (calls : List EvaluationCall) :
    runEvaluations zone calls = (calls.filterMap (manifestOf zone)).foldl (Rows.insertNew ManifestRow.id) [] := by
  have from_ : ∀ store, calls.foldl (fun store call => (EvaluationCall.run zone store call).1) store =
      (calls.filterMap (manifestOf zone)).foldl (Rows.insertNew ManifestRow.id) store := by
    induction calls with
    | nil => intro store; rfl
    | cons call calls ih =>
      intro store
      rw [List.foldl_cons,ih,(run_exact store call).1]
      cases offered : manifestOf zone call <;> simp [offered]
  exact from_ []

theorem named_alike {first second : EvaluationCall} {row other : ManifestRow}
    (one : manifestOf zone first = some row) (two : manifestOf zone second = some other) :
    row.id = other.id ↔ hashedBy zone first = hashedBy zone second := by
  unfold manifestOf at one two
  obtain ⟨left,readLeft,one⟩ := Option.bind_eq_some_iff.mp one
  obtain ⟨right,readRight,two⟩ := Option.bind_eq_some_iff.mp two
  obtain ⟨_,_,one⟩ := Option.bind_eq_some_iff.mp one
  obtain ⟨_,_,two⟩ := Option.bind_eq_some_iff.mp two
  cases one
  cases two
  simp only [hashedBy,readLeft,readRight,Option.map_some,Option.some.injEq]
  exact manifestId_eq

-- Looking an id up among offered rows finds the first call of its hashed inputs.
theorem find_offered {row : ManifestRow} (offered : manifestOf zone call = some row) (calls : List EvaluationCall) :
    (calls.filterMap (manifestOf zone)).find? (fun stored => stored.id = row.id) =
      (firstAlike zone calls call).bind (manifestOf zone) := by
  induction calls with
  | nil => rfl
  | cons earlier calls ih =>
    unfold firstAlike at ih ⊢
    cases made : manifestOf zone earlier with
    | none =>
      have unnamed : hashedBy zone earlier ≠ hashedBy zone call := by
        intro same
        cases read : gatheredBy zone earlier with
        | some gathered =>
          obtain ⟨date,_,offers⟩ := manifest_exact read
          rw [made] at offers
          cases offers
        | none =>
          unfold manifestOf at offered
          obtain ⟨gathered,present,_⟩ := Option.bind_eq_some_iff.mp offered
          simp [hashedBy,read,present] at same
      simp only [List.filterMap_cons,made]
      rw [ih,List.find?_cons_of_neg (by simpa using unnamed)]
    | some stored =>
      have exact_ := named_alike made offered
      simp only [List.filterMap_cons,made]
      by_cases same : hashedBy zone earlier = hashedBy zone call
      · rw [List.find?_cons_of_pos (by simpa using exact_.mpr same),List.find?_cons_of_pos (by simpa using same)]
        exact made.symm
      · rw [List.find?_cons_of_neg (by simpa using fun id => same (exact_.mp id)),
          List.find?_cons_of_neg (by simpa using same)]
        exact ih

-- A result reads back as its own exactly when the earliest evaluation under its id
-- had the same count of incomplete rows, the same regime and the same turnover counts.
theorem manifest_reads_back (calls : List EvaluationCall) (call : EvaluationCall) (result : RankingEvaluationResult)
    (returned : (call.run zone (runEvaluations zone calls)).2 = .ok result) : ReadsBack zone calls call result ↔
      ∀ first, firstAlike zone calls call = some first → unhashedBy zone first = unhashedBy zone call := by
  obtain ⟨gathered,read,rfl⟩ := ((run_exact _ call).2 result).mp returned
  obtain ⟨date,_,offered⟩ := manifest_exact read
  have looked : getRankingEvaluation (runEvaluations zone (calls ++ [call])) (evaluated call.request gathered).manifestId =
      (((firstAlike zone calls call).bind (manifestOf zone)).or
        (some ⟨date,evaluated call.request gathered,gathered.policy⟩)).map ManifestRow.read := by
    unfold getRankingEvaluation
    rw [runs_exact,Rows.find_insertAll,List.nil_append,List.filterMap_append,List.find?_append]
    have own := find_offered offered calls
    change (calls.filterMap (manifestOf zone)).find? (fun stored => stored.id = (evaluated call.request gathered).manifestId) = _
      at own
    rw [own]
    simp [offered,ManifestRow.id]
  cases first : firstAlike zone calls call with
  | none =>
    constructor
    · intro _ other found
      cases found
    · intro _
      rw [first] at looked
      exact ⟨_,looked,read_values date call.request gathered⟩
  | some earlier =>
    have same : hashedBy zone earlier = hashedBy zone call := by simpa using List.find?_some first
    obtain ⟨left,readLeft⟩ : ∃ left, gatheredBy zone earlier = some left := by
      cases readLeft : gatheredBy zone earlier with
      | some left => exact ⟨left,rfl⟩
      | none => simp [hashedBy,readLeft,read] at same
    have hashed : hashedInputs earlier.request left = hashedInputs call.request gathered := by
      simpa [hashedBy,readLeft,read] using same
    obtain ⟨earlierDate,_,stored⟩ := manifest_exact readLeft
    have values := values_eq hashed (complete_symbols (gathered_exact.mp readLeft))
    rw [first,Option.bind_some,stored,Option.some_or,Option.map_some] at looked
    constructor
    · intro reading other alike
      obtain ⟨found,taken,equal⟩ := reading
      cases alike
      rw [looked] at taken
      cases taken
      rw [read_values] at equal
      simp only [unhashedBy,readLeft,read,Option.map_some]
      exact congrArg some (values.mp equal)
    · intro condition
      refine ⟨_,looked,?_⟩
      rw [read_values]
      apply values.mpr
      simpa [unhashedBy,readLeft,read] using condition earlier rfl

end runs

/- Samples, with a digest that is the hashed value itself. -/

inductive SampleDigest where
  | population (items : List PopulationItem)
  | outcome (items : List OutcomeItem)
  | dataset (rankingRunRef : Text) (population outcome : SampleDigest) (horizon topN : Int)
deriving DecidableEq

abbrev sampleHash : ContentHash where
  Digest := SampleDigest
  decidable := inferInstance
  population := .population
  outcome := .outcome
  dataset := fun payload =>
    .dataset payload.rankingRunRef payload.populationHash payload.outcomeHash payload.horizon payload.topN
  text := fun _ => "0".toList
  populationInjective := fun _ _ same => SampleDigest.population.inj same
  outcomeInjective := fun _ _ same => SampleDigest.outcome.inj same
  datasetInjective := by
    intro left right same
    obtain ⟨refs,populations,outcomes,horizons,tops⟩ := SampleDigest.dataset.inj same
    cases left
    cases right
    simp only [DatasetPayload.mk.injEq]
    exact ⟨refs,populations,outcomes,horizons,tops⟩

def sampleOutcome (symbol status : Text) : OutcomeRow :=
  {symbol := symbol,watchlistDate := sampleDay,horizonSessions := 5,rank := none,excessReturn := some 1,
   maxGain := none,maxDrawdown := none,outcomeStatus := status,computedAt := none,priceBasis := "RAW".toList,
   adjustmentVersion := "v1".toList,scoringPolicyId := some "p".toList,scoringPolicyVersion := some "1".toList,
   scoringPolicyHash := some "h".toList}

theorem unclassified : Rows.Distinct HistoryRow.key [] := List.nodup_nil

def sampleWarehouse (outcomes : List OutcomeRow) (distinct : Rows.Distinct OutcomeRow.key outcomes) : RankingWarehouse :=
  ⟨outcomes,distinct,[],[],⟨[],unclassified⟩,[]⟩

def sampleRequest : EvaluationRequest := ⟨sampleDay.isoformat,5,1,none,none,none,true⟩

def completeCall : EvaluationCall :=
  ⟨sampleWarehouse [sampleOutcome "AAA".toList "COMPLETE".toList] (by unfold Rows.Distinct; decide),sampleRequest⟩

-- An outcome that is still open joins the same run.
def openCall : EvaluationCall :=
  ⟨sampleWarehouse [sampleOutcome "AAA".toList "COMPLETE".toList,sampleOutcome "BBB".toList "PENDING".toList]
    (by unfold Rows.Distinct; decide),sampleRequest⟩

theorem manifest_reads_back_sample : ∃ result, (@EvaluationCall.run sampleCasts sampleZone sampleHash
        (@runEvaluations sampleCasts sampleZone sampleHash [completeCall]) completeCall).2 = .ok result ∧
      @ReadsBack sampleCasts sampleZone sampleHash [completeCall] completeCall result := by
  have present : ((@EvaluationCall.run sampleCasts sampleZone sampleHash
      (@runEvaluations sampleCasts sampleZone sampleHash [completeCall]) completeCall).2).isOk = true := by decide
  cases returned : (@EvaluationCall.run sampleCasts sampleZone sampleHash
      (@runEvaluations sampleCasts sampleZone sampleHash [completeCall]) completeCall).2 with
  | error refused =>
    rw [returned] at present
    cases present
  | ok result =>
    refine ⟨result,rfl,?_⟩
    apply (@manifest_reads_back sampleCasts sampleZone sampleHash [completeCall] completeCall result returned).mpr
    intro first found
    have own : @firstAlike sampleCasts sampleZone [completeCall] completeCall = some completeCall :=
      List.find?_cons_of_pos (by simp)
    cases own.symm.trans found
    rfl

-- The second evaluation counts one incomplete row and reads back none.
theorem manifest_misread : ¬ ∀ (calls : List EvaluationCall) (call : EvaluationCall)
    (result : @RankingEvaluationResult sampleHash), (@EvaluationCall.run sampleCasts sampleZone sampleHash
      (@runEvaluations sampleCasts sampleZone sampleHash calls) call).2 = .ok result →
    @ReadsBack sampleCasts sampleZone sampleHash calls call result := by
  intro claim
  have counted : ((@EvaluationCall.run sampleCasts sampleZone sampleHash
      (@runEvaluations sampleCasts sampleZone sampleHash [completeCall]) openCall).2.toOption.map (fun result =>
        (@RankingEvaluationResult.incompletePopulation sampleHash result,
          (@getRankingEvaluation sampleHash (@runEvaluations sampleCasts sampleZone sampleHash [completeCall,openCall])
            (@RankingEvaluationResult.manifestId sampleHash result)).map
              (@RankingEvaluationResult.incompletePopulation sampleHash)))) = some (1,some 0) := by decide
  cases returned : (@EvaluationCall.run sampleCasts sampleZone sampleHash
      (@runEvaluations sampleCasts sampleZone sampleHash [completeCall]) openCall).2 with
  | error refused =>
    rw [returned] at counted
    cases counted
  | ok result =>
    obtain ⟨stored,found,values⟩ := claim [completeCall] openCall result returned
    have found : @getRankingEvaluation sampleHash (@runEvaluations sampleCasts sampleZone sampleHash [completeCall,openCall])
        (@RankingEvaluationResult.manifestId sampleHash result) = some stored := found
    rw [returned] at counted
    simp only [Except.toOption,Option.map_some,found] at counted
    have same : @RankingEvaluationResult.incompletePopulation sampleHash stored =
        @RankingEvaluationResult.incompletePopulation sampleHash result := congrArg ReportedValues.incompletePopulation values
    obtain ⟨own,read⟩ := Prod.mk.inj (Option.some.inj counted)
    rw [Option.some.inj read,own] at same
    cases same

end OpenStock.Ranking
