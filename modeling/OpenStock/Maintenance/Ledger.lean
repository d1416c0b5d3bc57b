import OpenStock.Queue.Operations

namespace OpenStock.Maintenance
open Text Calendar Queue

abbrev MaintenanceRunId := requiredTextField.Admitted
abbrev UniverseHash := requiredTextField.Admitted

inductive MaintenanceRunState where
  | enqueuing
  | acquiring
  | finalizationQueued
  | finalizing
  | success
  | partially
  | failed
deriving DecidableEq

inductive MaintenanceStageStatus where
  | planned
  | success
  | partially
  | failed
  | skipped
deriving DecidableEq

def MaintenanceStageStatus.value : MaintenanceStageStatus → Text
  | .planned => "PLANNED".toList
  | .success => "SUCCESS".toList
  | .partially => "PARTIAL".toList
  | .failed => "FAILED".toList
  | .skipped => "SKIPPED".toList

-- A goal the producer freezes; `_goal_from_payload` refuses every other type.
abbrev AcquisitionGoal := {goal : ProvisioningGoal // goalType goal ≠ .finalizeMarketSession}

-- One row of `maintenance_run`. The JSON columns hold what their texts decode to.
structure RunRow where
  runId : MaintenanceRunId
  correlationId : Text
  resolvedDate : Date
  status : MaintenanceRunState
  successfulSymbolCount : Nat
  failedSymbolCount : Nat
  mutated : Bool
  universeHash : UniverseHash
  symbols : List Text
  expectedGoals : List AcquisitionGoal
  sourcePolicyVersion : sourcePolicyField.Admitted
deriving DecidableEq

-- One row of `maintenance_run_job`.
structure RunJobRow where
  maintenanceRunId : MaintenanceRunId
  goalIdentity : Text
  goalType : GoalType
  entityId : Text
  goalPayloadJson : Text
  jobId : Option ProvisioningJobId

-- One row of `maintenance_finalization_stage`.
structure StageRow where
  stageRunId : Text
  runId : MaintenanceRunId
  stageName : Text
  stageOrder : Nat
  status : MaintenanceStageStatus

-- One daily bar of `canonical_ohlcv`.
structure CanonicalBar where
  symbol : Text
  time : Date

structure Warehouse where
  runs : List RunRow
  runJobs : List RunJobRow
  stages : List StageRow
  canonical : List CanonicalBar

def emptyWarehouse : Warehouse := ⟨[],[],[],[]⟩

/- Statements of the ledger. -/

namespace Warehouse

def selectRun (warehouse : Warehouse) (runId : MaintenanceRunId) : Option RunRow :=
  warehouse.runs.find? (fun row => row.runId == runId)

def updateRun (warehouse : Warehouse) (runId : MaintenanceRunId) (change : RunRow → RunRow) : Warehouse :=
  {warehouse with runs := Rows.updateWhere (fun row => row.runId == runId) change warehouse.runs}

-- `UPDATE maintenance_run SET status = ? WHERE run_id = ?`
def setStatus (warehouse : Warehouse) (runId : MaintenanceRunId) (status : MaintenanceRunState) : Warehouse :=
  warehouse.updateRun runId (fun row => {row with status := status})

def selectRunJob (warehouse : Warehouse) (runId : MaintenanceRunId) (identity : Text) : Option RunJobRow :=
  warehouse.runJobs.find? (fun row => row.maintenanceRunId == runId && row.goalIdentity == identity)

-- `goal_type <> 'FINALIZE_MARKET_SESSION'`
def acquisitionJobs (warehouse : Warehouse) (runId : MaintenanceRunId) : List RunJobRow :=
  warehouse.runJobs.filter (fun row => row.maintenanceRunId == runId && row.goalType != .finalizeMarketSession)

def finalizationJob (warehouse : Warehouse) (runId : MaintenanceRunId) : Option RunJobRow :=
  warehouse.runJobs.find? (fun row => row.maintenanceRunId == runId && row.goalType == .finalizeMarketSession)

-- The primary key of `maintenance_run_job`.
def insertRunJob (warehouse : Warehouse) (new : RunJobRow) : Option Warehouse :=
  if warehouse.runJobs.any (fun row => row.maintenanceRunId == new.maintenanceRunId &&
      row.goalIdentity == new.goalIdentity) then none
  else some {warehouse with runJobs := warehouse.runJobs ++ [new]}

-- The primary key of `maintenance_run`.
def insertRun (warehouse : Warehouse) (new : RunRow) : Option Warehouse :=
  if warehouse.runs.any (fun row => row.runId == new.runId) then none
  else some {warehouse with runs := warehouse.runs ++ [new]}

-- `SET job_id = ? ... AND job_id IS NULL`
def mapJob (warehouse : Warehouse) (runId : MaintenanceRunId) (identity : Text) (jobId : ProvisioningJobId) : Warehouse :=
  let selects := fun row : RunJobRow =>
    row.maintenanceRunId == runId && row.goalIdentity == identity && row.jobId.isNone
  {warehouse with runJobs := Rows.updateWhere selects (fun row => {row with jobId := some jobId}) warehouse.runJobs}

end Warehouse

end OpenStock.Maintenance
