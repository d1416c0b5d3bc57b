import OpenStock.Maintenance.Ledger
import OpenStock.Queue.Effects

namespace OpenStock.Maintenance
open Text Calendar Queue

inductive FinalizationStage where
  | coverage
  | features
  | scoreWatchlist
  | context
  | outcomes
  | memory
  | result
deriving DecidableEq

def FinalizationStage.name : FinalizationStage → Text
  | .coverage => "finalization-coverage".toList
  | .features => "finalization-features".toList
  | .scoreWatchlist => "finalization-score-watchlist".toList
  | .context => "finalization-context".toList
  | .outcomes => "finalization-outcomes".toList
  | .memory => "finalization-memory".toList
  | .result => "finalization-result".toList

-- `_STAGES` and `_REQUIRED_STAGES`.
def finalizationStages : List FinalizationStage :=
  [.coverage,.features,.scoreWatchlist,.context,.outcomes,.memory,.result]
def requiredStages : List FinalizationStage := [.features,.scoreWatchlist,.context,.outcomes,.memory]

def benchmark : Text := "VNINDEX".toList

/- The services a stage calls. -/

inductive ProvisioningStatus where
  | success
  | partially
  | failed
deriving DecidableEq

def ProvisioningStatus.stage : ProvisioningStatus → MaintenanceStageStatus
  | .success => .success
  | .partially => .partially
  | .failed => .failed

structure DataProvisioningRequest where
  action : String
  artifact : String
  symbols : Option (List Text)
  date : Date
  benchmark : Option Text

-- What the builders answer at one execution. Each may answer anything.
structure FinalizationServices where
  provision : DataProvisioningRequest → ProvisioningStatus
  groupSnapshots : Date → Except String Nat
  matureOutcomes : Date → MaintenanceStageStatus
  failedSymbols : List Text → Date → List Text
  failedEntities : Date → List Text

structure FinalizationStageOutcome where
  succeeded : Bool
  detail : Text

structure FinalizationScope where
  resolvedSession : Date
  symbols : List Text
  eligibleSymbols : List Text
  benchmarkReady : Bool
  correlationId : Text

-- `SELECT MAX(time) ...` reaches the session.
def canonicalReaches (bars : List CanonicalBar) (symbol : Text) (session : Date) : Bool :=
  ((bars.filter (fun bar => bar.symbol == symbol)).map CanonicalBar.time).any (fun time => !session.after time)

def eligible (bars : List CanonicalBar) (symbols : List Text) (session : Date) : List Text :=
  symbols.filter (fun symbol => canonicalReaches bars symbol session)

def stageId (runId : MaintenanceRunId) (stage : FinalizationStage) : Text := runId.val ++ '_' :: stage.name

namespace Warehouse

def existingStage (warehouse : Warehouse) (runId : MaintenanceRunId) (stage : FinalizationStage) :
    Option MaintenanceStageStatus :=
  (warehouse.stages.find? (fun row => row.stageRunId == stageId runId stage)).map StageRow.status

def coverageIsSufficient (warehouse : Warehouse) (runId : MaintenanceRunId) : Bool :=
  match warehouse.existingStage runId .coverage with
  | some .success | some .partially => true
  | _ => false

-- `INSERT ... ON CONFLICT(stage_run_id) DO UPDATE SET status = excluded.status`
def persistStage (warehouse : Warehouse) (runId : MaintenanceRunId) (stage : FinalizationStage)
    (status : MaintenanceStageStatus) : Warehouse :=
  let selects := fun row : StageRow => row.stageRunId == stageId runId stage
  if warehouse.stages.any selects then
    {warehouse with stages := Rows.updateWhere selects (fun row => {row with status := status}) warehouse.stages}
  else
    {warehouse with stages := warehouse.stages ++
      [⟨stageId runId stage,runId,stage.name,finalizationStages.idxOf stage + 1,status⟩]}

def persistFailedRun (warehouse : Warehouse) (runId : MaintenanceRunId) (scope : FinalizationScope) : Warehouse :=
  warehouse.updateRun runId (fun row => {row with
    status := .failed, successfulSymbolCount := scope.eligibleSymbols.length,
    failedSymbolCount := scope.symbols.length - scope.eligibleSymbols.length})

def finalizationScope (warehouse : Warehouse) (goal : FinalizeMarketSessionGoal) : Except String FinalizationScope :=
  match warehouse.selectRun goal.maintenanceRunId with
  | none => .error "unknown maintenance run"
  | some row =>
    if row.resolvedDate ≠ goal.resolvedSession ∨ row.universeHash ≠ goal.frozenUniverseHash then
      .error "finalization goal does not match frozen maintenance scope"
    else .ok ⟨row.resolvedDate,row.symbols,eligible warehouse.canonical row.symbols row.resolvedDate,
      canonicalReaches warehouse.canonical benchmark row.resolvedDate,row.correlationId⟩

end Warehouse

/- The stages. -/

-- The coverage quotient below 0.80, as a comparison of integers.
def belowMinimumCoverage (scope : FinalizationScope) : Bool :=
  scope.symbols.isEmpty || decide (5 * scope.eligibleSymbols.length < 4 * scope.symbols.length)

def coverageStatus (scope : FinalizationScope) : MaintenanceStageStatus :=
  if !scope.benchmarkReady || belowMinimumCoverage scope then .failed
  else if scope.eligibleSymbols.length ≠ scope.symbols.length then .partially
  else .success

def coverageStage (warehouse : Warehouse) (goal : FinalizeMarketSessionGoal) (scope : FinalizationScope) :
    Warehouse × MaintenanceStageStatus :=
  (warehouse.setStatus goal.maintenanceRunId .finalizing,coverageStatus scope)

def combinedStage (statuses : List MaintenanceStageStatus) : MaintenanceStageStatus :=
  if statuses.contains .failed then .failed
  else if statuses.contains .partially then .partially
  else .success

def groupStage (snapshots : Except String Nat) : MaintenanceStageStatus :=
  match snapshots with
  | .error _ => .failed
  | .ok 0 => .partially
  | .ok _ => .success

def contextStage (services : FinalizationServices) (scope : FinalizationScope) : MaintenanceStageStatus :=
  combinedStage [
    (services.provision ⟨"build","market-regime",none,scope.resolvedSession,none⟩).stage,
    (services.provision ⟨"build","sector-strength",none,scope.resolvedSession,none⟩).stage,
    groupStage (services.groupSnapshots scope.resolvedSession)]

def memoryStage (services : FinalizationServices) (scope : FinalizationScope) : MaintenanceStageStatus :=
  if (services.failedSymbols scope.eligibleSymbols scope.resolvedSession ++
      services.failedEntities scope.resolvedSession).isEmpty then .success
  else .partially

def resultStatus (warehouse : Warehouse) (goal : FinalizeMarketSessionGoal) (scope : FinalizationScope) :
    MaintenanceStageStatus :=
  let states := requiredStages.map (warehouse.existingStage goal.maintenanceRunId)
  if states.contains (some .failed) then .failed
  else if states.contains (some .partially) || scope.eligibleSymbols.length ≠ scope.symbols.length then .partially
  else .success

-- The run states the result stage writes are its own three statuses.
def runStateOf : MaintenanceStageStatus → MaintenanceRunState
  | .success => .success
  | .partially => .partially
  | .planned | .failed | .skipped => .failed

def resultStage (warehouse : Warehouse) (goal : FinalizeMarketSessionGoal) (scope : FinalizationScope) :
    Warehouse × MaintenanceStageStatus :=
  let status := resultStatus warehouse goal scope
  (warehouse.updateRun goal.maintenanceRunId (fun row => {row with
    status := runStateOf status, successfulSymbolCount := scope.eligibleSymbols.length,
    failedSymbolCount := scope.symbols.length - scope.eligibleSymbols.length, mutated := true}),status)

def runStage (services : FinalizationServices) (warehouse : Warehouse) (goal : FinalizeMarketSessionGoal)
    (scope : FinalizationScope) : FinalizationStage → Warehouse × MaintenanceStageStatus
  | .coverage => coverageStage warehouse goal scope
  | .features => (warehouse,(services.provision
      ⟨"build","features",some scope.eligibleSymbols,scope.resolvedSession,some benchmark⟩).stage)
  | .scoreWatchlist => (warehouse,(services.provision
      ⟨"build","score",some scope.eligibleSymbols,scope.resolvedSession,none⟩).stage)
  | .context => (warehouse,contextStage services scope)
  | .outcomes => (warehouse,services.matureOutcomes scope.resolvedSession)
  | .memory => (warehouse,memoryStage services scope)
  | .result => resultStage warehouse goal scope

-- The two tests before a stage is really run.
def unavailable (warehouse : Warehouse) (goal : FinalizeMarketSessionGoal) (stage : FinalizationStage) : Bool :=
  stage != .coverage && !warehouse.coverageIsSufficient goal.maintenanceRunId

def reused (warehouse : Warehouse) (goal : FinalizeMarketSessionGoal) (stage : FinalizationStage) : Bool :=
  warehouse.existingStage goal.maintenanceRunId stage == some .success

def SessionFinalizer.execute (services : FinalizationServices) (warehouse : Warehouse) (goal : FinalizeMarketSessionGoal)
    (stage : FinalizationStage) : Except String (Warehouse × FinalizationStageOutcome) := do
  let scope ← warehouse.finalizationScope goal
  if unavailable warehouse goal stage then
    .ok (warehouse,⟨false,"FINALIZATION_COVERAGE_UNAVAILABLE".toList⟩)
  else if reused warehouse goal stage then .ok (warehouse,⟨true,stage.name ++ ": REUSED".toList⟩)
  else
    let ran := runStage services warehouse goal scope stage
    let persisted := ran.1.persistStage goal.maintenanceRunId stage ran.2
    if ran.2 = .failed then
      .ok (persisted.persistFailedRun goal.maintenanceRunId scope,⟨false,stage.name ++ ": FAILED".toList⟩)
    else .ok (persisted,⟨true,stage.name ++ ": ".toList ++ ran.2.value⟩)

/- What one execution changes. -/

-- The columns of a run that no statement after its INSERT writes.
structure RunRow.SameScope (left right : RunRow) : Prop where
  runId : right.runId = left.runId
  correlationId : right.correlationId = left.correlationId
  resolvedDate : right.resolvedDate = left.resolvedDate
  universeHash : right.universeHash = left.universeHash
  symbols : right.symbols = left.symbols
  expectedGoals : right.expectedGoals = left.expectedGoals
  sourcePolicyVersion : right.sourcePolicyVersion = left.sourcePolicyVersion

theorem RunRow.SameScope.refl (row : RunRow) : row.SameScope row := ⟨rfl,rfl,rfl,rfl,rfl,rfl,rfl⟩

theorem RunRow.SameScope.trans {first second third : RunRow} (left : first.SameScope second)
    (right : second.SameScope third) : first.SameScope third :=
  ⟨right.runId.trans left.runId,right.correlationId.trans left.correlationId,
    right.resolvedDate.trans left.resolvedDate,right.universeHash.trans left.universeHash,
    right.symbols.trans left.symbols,right.expectedGoals.trans left.expectedGoals,
    right.sourcePolicyVersion.trans left.sourcePolicyVersion⟩

def MaintenanceRunState.isFinal : MaintenanceRunState → Bool
  | .success | .partially | .failed => true
  | .enqueuing | .acquiring | .finalizationQueued | .finalizing => false

-- How a stage that is really run may move the status of its run.
inductive StageMoves (stage : FinalizationStage) (scope : FinalizationScope) :
    MaintenanceRunState → MaintenanceRunState → Prop where
  | kept : StageMoves stage scope status status
  | finalizing (first : stage = .coverage) : StageMoves stage scope status .finalizing
  | succeeded (last : stage = .result) (whole : scope.eligibleSymbols.length = scope.symbols.length) :
      StageMoves stage scope status .success
  | partially (last : stage = .result) : StageMoves stage scope status .partially
  | failed : StageMoves stage scope status .failed

theorem name_injective : Function.Injective FinalizationStage.name := by
  intro left right
  cases left <;> cases right <;> first | exact fun _ => rfl | exact fun same => absurd same (by decide)

variable {runId : MaintenanceRunId}

theorem stageId_eq : stageId runId left = stageId runId right ↔ left = right := by
  constructor
  · intro same
    exact name_injective (List.cons.inj (List.append_cancel_left same)).2
  · rintro rfl
    rfl

section warehouse
variable {warehouse after : Warehouse} {goal : FinalizeMarketSessionGoal} {stage : FinalizationStage}
  {scope : FinalizationScope}

theorem selectRun_updateRun (keeps : ∀ row, (change row).runId = row.runId) :
    (warehouse.updateRun runId change).selectRun runId = (warehouse.selectRun runId).map change := by
  rw [Warehouse.selectRun,Warehouse.updateRun,Rows.find_updateWhere (fun row => by simp only [keeps]),
    Warehouse.selectRun]
  refine Option.map_congr (fun row found => ?_)
  have met := List.find?_some found
  simp only [met,if_true]

theorem updateRun_twice (keeps : ∀ row, (first row).runId = row.runId) :
    (warehouse.updateRun runId first).updateRun runId second = warehouse.updateRun runId (second ∘ first) := by
  simp only [Warehouse.updateRun]
  rw [Rows.updateWhere_twice (fun row => by simp only [keeps])]

theorem updateRun_id : warehouse.updateRun runId id = warehouse := by
  rw [Warehouse.updateRun,Rows.updateWhere_id]

@[simp] theorem existingStage_updateRun {runId other : MaintenanceRunId} :
    (warehouse.updateRun runId change).existingStage other stage = warehouse.existingStage other stage := rfl

theorem existingStage_persistStage (other : FinalizationStage) :
    (warehouse.persistStage runId stage status).existingStage runId other =
      if other = stage then some status else warehouse.existingStage runId other := by
  by_cases same : other = stage
  · subst same
    rw [if_pos rfl]
    simp only [Warehouse.persistStage]
    by_cases present : warehouse.stages.any (fun row => row.stageRunId == stageId runId other) = true
    · rw [if_pos present,Warehouse.existingStage,Rows.find_updateWhere (fun row => by rfl)]
      obtain ⟨row,found⟩ := List.find?_isSome.mpr (List.any_eq_true.mp present) |> Option.isSome_iff_exists.mp
      have met := List.find?_some found
      simp only [found,Option.map_some,met,if_true]
    · have absent : warehouse.stages.find? (fun row => row.stageRunId == stageId runId other) = none := by
        simpa [List.find?_eq_none] using present
      rw [if_neg present,Warehouse.existingStage,List.find?_append,absent]
      simp
  · have differs : (stageId runId stage == stageId runId other) = false := by
      simpa [stageId_eq] using Ne.symm same
    rw [if_neg same]
    simp only [Warehouse.persistStage]
    by_cases present : warehouse.stages.any (fun row => row.stageRunId == stageId runId stage) = true
    · rw [if_pos present,Warehouse.existingStage,Rows.find_updateWhere (fun row => by rfl),Warehouse.existingStage,
        Option.map_map]
      refine Option.map_congr (fun row found => ?_)
      have named := List.find?_some found
      by_cases met : (row.stageRunId == stageId runId stage) = true
      · rw [beq_iff_eq.mp met] at named
        rw [named] at differs
        cases differs
      · simp only [Function.comp_apply,if_neg met]
    · rw [if_neg present,Warehouse.existingStage,List.find?_append,List.find?_singleton]
      simp [differs,Warehouse.existingStage]

@[simp] theorem persistStage_runs : (warehouse.persistStage runId stage status).runs = warehouse.runs := by
  simp only [Warehouse.persistStage]
  split <;> rfl

@[simp] theorem persistStage_runJobs : (warehouse.persistStage runId stage status).runJobs = warehouse.runJobs := by
  simp only [Warehouse.persistStage]
  split <;> rfl

@[simp] theorem persistStage_canonical : (warehouse.persistStage runId stage status).canonical = warehouse.canonical := by
  simp only [Warehouse.persistStage]
  split <;> rfl

-- One execution, seen from outside: the other tables stay, the run is edited in
-- its status and counts, and only the stage that was really run is noted.
def EditsRun (stage : FinalizationStage) (scope : FinalizationScope) (change : RunRow → RunRow) : Prop :=
  ∀ row, row.SameScope (change row) ∧ StageMoves stage scope row.status (change row).status

structure Executed (warehouse after : Warehouse) (goal : FinalizeMarketSessionGoal) (stage : FinalizationStage)
    (scope : FinalizationScope) : Prop where
  runJobs : after.runJobs = warehouse.runJobs
  canonical : after.canonical = warehouse.canonical
  others : ∀ other, other ≠ stage →
    after.existingStage goal.maintenanceRunId other = warehouse.existingStage goal.maintenanceRunId other
  runs : ∃ change, EditsRun stage scope change ∧ after.runs = (warehouse.updateRun goal.maintenanceRunId change).runs

theorem editsRun_id : EditsRun stage scope id := fun row => ⟨.refl row,.kept⟩

theorem resultStatus_cases (warehouse : Warehouse) (goal : FinalizeMarketSessionGoal) (scope : FinalizationScope) :
    resultStatus warehouse goal scope = .failed ∨ resultStatus warehouse goal scope = .partially ∨
    (resultStatus warehouse goal scope = .success ∧ scope.eligibleSymbols.length = scope.symbols.length) := by
  unfold resultStatus
  dsimp only
  split
  · exact .inl rfl
  · split
    · exact .inr (.inl rfl)
    · rename_i partly
      simp only [Bool.or_eq_true,decide_eq_true_eq,not_or,not_not] at partly
      exact .inr (.inr ⟨rfl,partly.2⟩)

theorem runStage_change (services : FinalizationServices) (warehouse : Warehouse) (goal : FinalizeMarketSessionGoal)
    (scope : FinalizationScope) (stage : FinalizationStage) : ∃ change, EditsRun stage scope change ∧
      (runStage services warehouse goal scope stage).1 = warehouse.updateRun goal.maintenanceRunId change := by
  cases stage with
  | coverage =>
    refine ⟨_,?_,rfl⟩
    exact fun row => ⟨⟨rfl,rfl,rfl,rfl,rfl,rfl,rfl⟩,.finalizing rfl⟩
  | result =>
    refine ⟨_,?_,rfl⟩
    refine fun row => ⟨⟨rfl,rfl,rfl,rfl,rfl,rfl,rfl⟩,?_⟩
    rcases resultStatus_cases warehouse goal scope with failed | partly | ⟨success,whole⟩
    · rw [failed]
      exact .failed
    · rw [partly]
      exact .partially rfl
    · rw [success]
      exact .succeeded rfl whole
  | features | scoreWatchlist | context | outcomes | memory => exact ⟨id,editsRun_id,updateRun_id.symm⟩

-- The run a failed stage leaves: the stage's own edit, then FAILED.
theorem failed_change (edited : EditsRun stage scope change) : EditsRun stage scope ((fun row => {row with
    status := .failed, successfulSymbolCount := scope.eligibleSymbols.length,
    failedSymbolCount := scope.symbols.length - scope.eligibleSymbols.length}) ∘ change) :=
  fun row => ⟨(edited row).1.trans ⟨rfl,rfl,rfl,rfl,rfl,rfl,rfl⟩,.failed⟩

theorem execute_ok (ran : SessionFinalizer.execute services warehouse goal stage = .ok (after,outcome)) :
    ∃ scope, warehouse.finalizationScope goal = .ok scope ∧
      ((after = warehouse ∧ (unavailable warehouse goal stage = true ∨ reused warehouse goal stage = true)) ∨
      (unavailable warehouse goal stage = false ∧ reused warehouse goal stage = false ∧
        Executed warehouse after goal stage scope ∧
        after.existingStage goal.maintenanceRunId stage = some (runStage services warehouse goal scope stage).2)) := by
  unfold SessionFinalizer.execute at ran
  obtain ⟨scope,found,ran⟩ := bind_ok ran
  refine ⟨scope,found,?_⟩
  split at ran
  · rename_i refused
    cases ran
    exact .inl ⟨rfl,.inl refused⟩
  · rename_i available
    split at ran
    · rename_i again
      cases ran
      exact .inl ⟨rfl,.inr again⟩
    · rename_i first
      refine .inr ⟨by simpa using available,by simpa using first,?_⟩
      obtain ⟨change,edited,shape⟩ := runStage_change services warehouse goal scope stage
      generalize runStage services warehouse goal scope stage = stageRun at ran shape
      obtain ⟨middle,status⟩ := stageRun
      simp only at shape ran
      subst shape
      have others : ∀ other, other ≠ stage → ((warehouse.updateRun goal.maintenanceRunId change).persistStage
          goal.maintenanceRunId stage status).existingStage goal.maintenanceRunId other =
            warehouse.existingStage goal.maintenanceRunId other := by
        intro other differs
        rw [existingStage_persistStage,if_neg differs,existingStage_updateRun]
      split at ran
      · cases ran
        refine ⟨⟨by simp [Warehouse.persistFailedRun,Warehouse.updateRun],
          by simp [Warehouse.persistFailedRun,Warehouse.updateRun],others,_,failed_change edited,?_⟩,?_⟩
        · rw [← updateRun_twice (fun row => (edited row).1.runId)]
          simp [Warehouse.persistFailedRun,Warehouse.updateRun]
        · simp [Warehouse.persistFailedRun,existingStage_persistStage]
      · cases ran
        exact ⟨⟨by simp [Warehouse.updateRun],by simp [Warehouse.updateRun],others,change,edited,by simp⟩,
          by simp [existingStage_persistStage]⟩

theorem Executed.selectRun (executed : Executed warehouse after goal stage scope) : ∃ change, EditsRun stage scope change ∧
      after.selectRun goal.maintenanceRunId = (warehouse.selectRun goal.maintenanceRunId).map change := by
  obtain ⟨change,edited,runs⟩ := executed.runs
  refine ⟨change,edited,?_⟩
  rw [← selectRun_updateRun (fun row => (edited row).1.runId),Warehouse.selectRun,runs]
  rfl

theorem moves_success (moved : StageMoves stage scope status .success) :
    status = .success ∨ (stage = .result ∧ scope.eligibleSymbols.length = scope.symbols.length) := by
  cases moved with
  | kept => exact .inl rfl
  | succeeded last whole => exact .inr ⟨last,whole⟩

end warehouse
end OpenStock.Maintenance
