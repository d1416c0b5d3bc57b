import OpenStock.Maintenance.Ledger

namespace OpenStock.Maintenance
open Text Calendar Queue

def finalizationContractVersion : Text := "finalization-v1".toList
def finalizationOrigin : Text := "maintenance-finalization".toList

inductive TriggerError where
  | valueError (message : String)
  | queue (error : ProvisioningQueueError)

-- What one call decides before it touches the ledger.
inductive TriggerDecision where
  | acquiring
  | existing (jobId : ProvisioningJobId)
  | submitted (goal : FinalizeMarketSessionGoal) (submission : QueueSubmitResult)

section trigger
variable [Platform]

-- A terminal job stays terminal, so the reads may as well happen at once.
def acquisitionFinished (warehouse : Warehouse) (queue : QueueTables) (run : RunRow) : Except ProvisioningQueueError Bool :=
  let rows := warehouse.acquisitionJobs run.runId
  match rows.mapM RunJobRow.jobId with
  | none => .ok false
  | some jobIds =>
    if rows.length ≠ run.expectedGoals.length then .ok false
    else do
      let jobs ← jobIds.mapM (Queue.get queue)
      .ok (jobs.all (fun job => job.any ProvisioningJob.isTerminal))

def RunRow.mkFinalizationGoal (run : RunRow) : Except String FinalizeMarketSessionGoal :=
  mkFinalizeMarketSessionGoal run.sourcePolicyVersion.val run.runId.val run.resolvedDate run.universeHash.val
    finalizationContractVersion

def submitFinalization (queue : QueueTables) (goal : FinalizeMarketSessionGoal) (priority : Int) (correlationId : Text)
    (timestamp : Int) (uuid : ProvisioningJobId) : QueueTables × Except TriggerError TriggerDecision :=
  let ran := submitOrJoin queue (.finalizeMarketSession goal) priority (some finalizationOrigin) (some correlationId)
    timestamp uuid
  match ran.2 with
  | .error refused => (ran.1,.error (.queue refused))
  | .ok submission => (ran.1,.ok (.submitted goal submission))

-- The call up to the queue's own commit.
def maybeSubmitSessionFinalization (warehouse : Warehouse) (queue : QueueTables) (runId : MaintenanceRunId)
    (priority : Int) (correlationId : Text) (timestamp : Int) (uuid : ProvisioningJobId) :
    QueueTables × Except TriggerError TriggerDecision :=
  match warehouse.selectRun runId with
  | none => (queue,.error (.valueError "Unknown maintenance run."))
  | some run =>
    match acquisitionFinished warehouse queue run with
    | .error refused => (queue,.error (.queue refused))
    | .ok false => (queue,.ok .acquiring)
    | .ok true =>
      match (warehouse.finalizationJob runId).bind RunJobRow.jobId with
      | some jobId => (queue,.ok (.existing jobId))
      | none =>
        match run.mkFinalizationGoal with
        | .error message => (queue,.error (.valueError message))
        | .ok goal => submitFinalization queue goal priority correlationId timestamp uuid

-- The rest of it: the mapping and the status, in the warehouse transaction.
def commitFinalization (warehouse : Warehouse) (runId : MaintenanceRunId) (goal : FinalizeMarketSessionGoal)
    (jobId : ProvisioningJobId) : Option Warehouse :=
  (warehouse.insertRunJob ⟨runId,goalIdentity (.finalizeMarketSession goal),.finalizeMarketSession,runId.val,
    (ProvisioningGoal.finalizeMarketSession goal).payloadJson,some jobId⟩).map
      (fun mapped => mapped.setStatus runId .finalizationQueued)

end trigger

-- `SELECT DISTINCT maintenance_run_id ... WHERE job_id = ?`
def affectedRuns (warehouse : Warehouse) (jobId : ProvisioningJobId) : List MaintenanceRunId :=
  ((warehouse.runJobs.filter (fun row => row.jobId == some jobId && row.goalType != .finalizeMarketSession)).map
    RunJobRow.maintenanceRunId).dedup

-- `WHERE (? IS NULL AND status = 'ACQUIRING') OR run_id = ? ORDER BY run_id`
def recoverableRuns (warehouse : Warehouse) (runId : Option MaintenanceRunId) : List MaintenanceRunId :=
  ((warehouse.runs.filter (fun run => (runId.isNone && run.status == .acquiring) || runId == some run.runId)).map
    RunRow.runId).insertionSort (fun left right => left.val ≤ right.val)

end OpenStock.Maintenance
