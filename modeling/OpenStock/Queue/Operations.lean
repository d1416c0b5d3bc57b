import OpenStock.Queue.Records

namespace OpenStock.Queue

def ProvisioningJobStatus.isActive : ProvisioningJobStatus → Bool
  | .queued | .running => true
  | .succeeded | .failed | .cancelled => false

/- Statements. -/

def selectJob (jobs : List JobRow) (jobId : ProvisioningJobId) : Option JobRow :=
  jobs.find? (fun row => row.jobId == jobId)

def readJob (jobs : List JobRow) (jobId : ProvisioningJobId) (lost : String) : Except ProvisioningQueueError JobRow :=
  match selectJob jobs jobId with
  | none => .error (.storage lost)
  | some row => .ok row

def selected (jobId : ProvisioningJobId) (update : Update) (row : JobRow) : Bool :=
  row.jobId == jobId && update.selects row

def executeUpdate (jobs : List JobRow) (jobId : ProvisioningJobId) (update : Update) : List JobRow :=
  Rows.updateWhere (selected jobId update) update.set jobs

def raiseLeaseError (jobs : List JobRow) (jobId : ProvisioningJobId) : ProvisioningQueueError :=
  match selectJob jobs jobId with
  | none => .jobNotFound "provisioning job not found" jobId
  | some _ => .jobLease "provisioning worker does not hold a live lease" jobId

-- `UPDATE ... RETURNING job_id` with the lease error when no row answers.
def updateReturning (jobs : List JobRow) (jobId : ProvisioningJobId) (update : Update) :
    Except ProvisioningQueueError (List JobRow) :=
  if jobs.any (selected jobId update) then .ok (executeUpdate jobs jobId update)
  else .error (raiseLeaseError jobs jobId)

-- The primary key and the unique index over active identities.
def insertJob (jobs : List JobRow) (new : JobRow) : Except ProvisioningQueueError (List JobRow) :=
  if jobs.any (fun row => row.jobId == new.jobId ||
      (row.status.isActive && new.status.isActive && row.goalIdentity == new.goalIdentity)) then
    .error (.storage "provisioning queue could not submit a job")
  else .ok (jobs ++ [new])

-- One BEGIN IMMEDIATE transaction: an error inside it leaves the tables as they
-- were, what is answered after the commit does not.
def committed (tables : QueueTables) (body : Except ProvisioningQueueError (QueueTables × α))
    (answer : α → Except ProvisioningQueueError β) : QueueTables × Except ProvisioningQueueError β :=
  match body with
  | .error refused => (tables,.error refused)
  | .ok (after,value) => (after,answer value)

structure QueueSubmitResult where
  job : ProvisioningJob
  joinedExistingJob : Bool

structure QueuePruneResult where
  prunedSucceeded : Nat
  prunedFailed : Nat
  prunedCancelled : Nat
  retainedReferenced : Nat
  completedAt : Int

section operations
variable [Platform] (configuration : QueueConfiguration)

/- Submission. -/

-- A validated request: goal, priority, origin and correlation id.
def submission (goal : ProvisioningGoal) (priority : Int) (origin correlationId : Option Text) :
    Except ProvisioningQueueError (ProvisioningGoal × Int × Option Text × Option Text) := do
  let goal ← validatedGoal goal
  let priority ← validatedPriority priority
  let origin ← metadata origin "origin"
  let correlationId ← metadata correlationId "correlation_id"
  .ok (goal,priority,origin,correlationId)

def newJobRow (goal : ProvisioningGoal) (priority : Int) (origin correlationId : Option Text)
    (timestamp : Int) (jobId : ProvisioningJobId) : JobRow where
  jobId := jobId
  goalIdentity := goalIdentity goal
  goalType := goalType goal
  status := .queued
  priority := priority
  stage := "QUEUED"
  payloadVersion := currentGoalSchemaVersion
  payloadJson := goal.payloadJson
  attempts := 0
  leaseOwner := none
  leaseExpiresAtMs := none
  leaseHeartbeatAtMs := none
  origin := origin
  correlationId := correlationId
  cancellationRequested := false
  result := none
  error := none
  availableAtMs := timestamp
  createdAtMs := timestamp
  updatedAtMs := timestamp

def joinJob (tables : QueueTables) (row : JobRow) (priority timestamp : Int) :
    Except ProvisioningQueueError (QueueTables × ProvisioningJob) := do
  let job ← jobFromRow row
  if job.status = .queued then
    let jobs := executeUpdate tables.jobs job.jobId (.prioritize priority timestamp)
    let row ← readJob jobs job.jobId "provisioning queue lost an active job"
    let job ← jobFromRow row
    .ok ({tables with jobs := jobs},job)
  else .ok (tables,job)

def createJob (tables : QueueTables) (new : JobRow) : Except ProvisioningQueueError (QueueTables × JobRow) := do
  let jobs ← insertJob tables.jobs new
  let row ← readJob jobs new.jobId "provisioning queue lost a new job"
  .ok ({tables with jobs := jobs},row)

def activeJob (jobs : List JobRow) (identity : Text) : Option JobRow :=
  jobs.find? (fun row => row.goalIdentity == identity && row.status.isActive)

-- `uuid` is the value `uuid4().hex` draws, used only when a job is created.
def submitOrJoin (tables : QueueTables) (goal : ProvisioningGoal) (priority : Int)
    (origin correlationId : Option Text) (timestamp : Int) (uuid : ProvisioningJobId) :
    QueueTables × Except ProvisioningQueueError QueueSubmitResult :=
  match submission goal priority origin correlationId with
  | .error refused => (tables,.error refused)
  | .ok (goal,priority,origin,correlationId) =>
    match activeJob tables.jobs (goalIdentity goal) with
    | some row => committed tables (joinJob tables row priority timestamp) (fun job => .ok ⟨job,true⟩)
    | none =>
      committed tables (createJob tables (newJobRow goal priority origin correlationId timestamp uuid))
        (fun row => (jobFromRow row).map (fun job => ⟨job,false⟩))

/- Leases. -/

def recoverUpdate (job : ProvisioningJob) (timestamp : Int) : Update :=
  if job.cancellationRequested then .recoverCancelled timestamp
  else if job.attempts ≥ configuration.maxAttempts then .recoverFailed timestamp
  else .recoverQueued timestamp

def recoverRow (timestamp : Int) (jobs : List JobRow) (row : JobRow) : Except ProvisioningQueueError (List JobRow) := do
  let job ← jobFromRow row
  .ok (executeUpdate jobs job.jobId (recoverUpdate configuration job timestamp))

-- The rows are read before the first of them is written.
def recoverExpired (jobs : List JobRow) (timestamp : Int) : Except ProvisioningQueueError (List JobRow) :=
  (jobs.filter (fun row => row.expiredLease timestamp)).foldlM (recoverRow configuration timestamp) jobs

-- `ORDER BY priority DESC, created_at_ms ASC`; ties keep the rowid order.
def claimedBefore (left right : JobRow) : Bool :=
  decide (left.priority > right.priority) ||
    (left.priority == right.priority && decide (left.createdAtMs < right.createdAtMs))

def claimable (jobs : List JobRow) (timestamp : Int) : List JobRow :=
  jobs.filter (fun row => row.status == .queued && decide (row.availableAtMs ≤ timestamp))

def claimTransaction (tables : QueueTables) (worker : Text) (timestamp : Int) :
    Except ProvisioningQueueError (QueueTables × Option JobRow) := do
  let jobs ← recoverExpired configuration tables.jobs timestamp
  match Rows.firstBy claimedBefore (claimable jobs timestamp) with
  | none => .ok ({tables with jobs := jobs},none)
  | some row =>
    let job ← jobFromRow row
    let jobs := executeUpdate jobs job.jobId (.claim worker (timestamp + configuration.leaseMs) timestamp)
    let row ← readJob jobs job.jobId "provisioning queue lost a claimed job"
    .ok ({tables with jobs := jobs},some row)

def claim (tables : QueueTables) (workerId : Text) (timestamp : Int) :
    QueueTables × Except ProvisioningQueueError (Option ProvisioningJob) :=
  match requiredMetadata workerId "worker_id" with
  | .error refused => (tables,.error refused)
  | .ok worker =>
    committed tables (claimTransaction configuration tables worker timestamp) (fun row =>
      match row with
      | none => .ok none
      | some row => (jobFromRow row).map some)

def heartbeatTransaction (tables : QueueTables) (jobId : ProvisioningJobId) (worker : Text) (timestamp : Int) :
    Except ProvisioningQueueError (QueueTables × JobRow) := do
  let jobs ← updateReturning tables.jobs jobId (.heartbeat worker (timestamp + configuration.leaseMs) timestamp)
  let row ← readJob jobs jobId "provisioning queue lost a heartbeated job"
  .ok ({tables with jobs := jobs},row)

def heartbeat (tables : QueueTables) (jobId : ProvisioningJobId) (workerId : Text) (timestamp : Int) :
    QueueTables × Except ProvisioningQueueError ProvisioningJob :=
  match requiredMetadata workerId "worker_id" with
  | .error refused => (tables,.error refused)
  | .ok worker => committed tables (heartbeatTransaction configuration tables jobId worker timestamp) jobFromRow

def requeueTransaction (tables : QueueTables) (timestamp : Int) :
    Except ProvisioningQueueError (QueueTables × List JobRow) := do
  let jobs ← recoverExpired configuration tables.jobs timestamp
  let rows := jobs.filter (fun row => row.status == .queued || row.status == .failed || row.status == .cancelled)
  .ok ({tables with jobs := jobs},rows.insertionSort (fun left right => left.updatedAtMs ≤ right.updatedAtMs))

def requeueExpired (tables : QueueTables) (timestamp : Int) :
    QueueTables × Except ProvisioningQueueError (List ProvisioningJob) :=
  committed tables (requeueTransaction configuration tables timestamp) (fun rows => rows.mapM jobFromRow)

/- Terminal writes. -/

-- What a terminal status stores: the result and the error.
def terminalDetail (status : ProvisioningJobStatus) (value : Text) :
    Except ProvisioningQueueError (Option Text × Option Text) :=
  match status with
  | .succeeded => (detail value "result").map (fun value => (some value,none))
  | .failed => (detail value "error").map (fun value => (none,some value))
  | .cancelled => (detail value "cancellation reason").map (fun value => (none,some value))
  | .queued | .running => .error (.validation "only terminal queue statuses are supported")

def terminalUpdate (job : ProvisioningJob) (worker : Text) (status : ProvisioningJobStatus)
    (result error : Option Text) (timestamp : Int) (retryable : Bool) : Update :=
  if status = .failed ∧ retryable ∧ job.attempts < configuration.maxAttempts then
    .retry worker error (timestamp + retryDelaySeconds * 1000) timestamp
  else .terminalize worker status result error timestamp

def terminalTransaction (tables : QueueTables) (jobId : ProvisioningJobId) (worker : Text)
    (status : ProvisioningJobStatus) (result error : Option Text) (timestamp : Int) (retryable : Bool) :
    Except ProvisioningQueueError (QueueTables × JobRow) := do
  match tables.jobs.find? (selected jobId (.terminalize worker status result error timestamp)) with
  | none => .error (raiseLeaseError tables.jobs jobId)
  | some active =>
    let job ← jobFromRow active
    let jobs ← updateReturning tables.jobs jobId
      (terminalUpdate configuration job worker status result error timestamp retryable)
    let row ← readJob jobs jobId "provisioning queue lost a terminal job"
    .ok ({tables with jobs := jobs},row)

def terminalize (tables : QueueTables) (jobId : ProvisioningJobId) (workerId : Text)
    (status : ProvisioningJobStatus) (value : Text) (timestamp : Int) (retryable : Bool) :
    QueueTables × Except ProvisioningQueueError ProvisioningJob :=
  let validated := do
    let worker ← requiredMetadata workerId "worker_id"
    let stored ← terminalDetail status value
    .ok (worker,stored)
  match validated with
  | .error refused => (tables,.error refused)
  | .ok (worker,result,error) =>
    committed tables (terminalTransaction configuration tables jobId worker status result error timestamp retryable)
      jobFromRow

def complete (tables : QueueTables) (jobId : ProvisioningJobId) (workerId result : Text) (timestamp : Int) :
    QueueTables × Except ProvisioningQueueError ProvisioningJob :=
  terminalize configuration tables jobId workerId .succeeded result timestamp false

def fail (tables : QueueTables) (jobId : ProvisioningJobId) (workerId error : Text) (timestamp : Int)
    (retryable : Bool) : QueueTables × Except ProvisioningQueueError ProvisioningJob :=
  terminalize configuration tables jobId workerId .failed error timestamp retryable

def acknowledgeCancellation (tables : QueueTables) (jobId : ProvisioningJobId) (workerId reason : Text)
    (timestamp : Int) : QueueTables × Except ProvisioningQueueError ProvisioningJob :=
  terminalize configuration tables jobId workerId .cancelled reason timestamp false

def cancelUpdate (job : ProvisioningJob) (timestamp : Int) : Except ProvisioningQueueError Update :=
  match job.status with
  | .queued => .ok (.cancelQueued timestamp)
  | .running => .ok (.cancelRunning timestamp)
  | status => .error (.jobTransition "provisioning job is already terminal" job.jobId status)

def cancelTransaction (tables : QueueTables) (jobId : ProvisioningJobId) (timestamp : Int) :
    Except ProvisioningQueueError (QueueTables × JobRow) := do
  match selectJob tables.jobs jobId with
  | none => .error (.jobNotFound "provisioning job not found" jobId)
  | some row =>
    let job ← jobFromRow row
    let update ← cancelUpdate job timestamp
    let jobs := executeUpdate tables.jobs jobId update
    let row ← readJob jobs jobId "provisioning queue lost a cancelled job"
    .ok ({tables with jobs := jobs},row)

def cancel (tables : QueueTables) (jobId : ProvisioningJobId) (timestamp : Int) :
    QueueTables × Except ProvisioningQueueError ProvisioningJob :=
  committed tables (cancelTransaction tables jobId timestamp) jobFromRow

/- Retention. -/

def millisecondsPerDay : Int := 24 * 60 * 60 * 1000

def countPruned (result : QueuePruneResult) : ProvisioningJobStatus → QueuePruneResult
  | .succeeded => {result with prunedSucceeded := result.prunedSucceeded + 1}
  | .failed => {result with prunedFailed := result.prunedFailed + 1}
  | .cancelled => {result with prunedCancelled := result.prunedCancelled + 1}
  | .queued | .running => result

-- The primary key of `pruned_provision_job`.
def insertPruned (pruned : List PrunedRow) (new : PrunedRow) : Except ProvisioningQueueError (List PrunedRow) :=
  if pruned.any (fun row => row.jobId == new.jobId) then
    .error (.storage "provisioning queue could not prune terminal jobs")
  else .ok (pruned ++ [new])

def pruneRow (retained : List ProvisioningJobId) (completedAt : Int) (state : QueueTables × QueuePruneResult)
    (row : JobRow) : Except ProvisioningQueueError (QueueTables × QueuePruneResult) :=
  if retained.contains row.jobId then
    .ok (state.1,{state.2 with retainedReferenced := state.2.retainedReferenced + 1})
  else do
    let pruned ← insertPruned state.1.pruned ⟨row.jobId,row.status,completedAt⟩
    let jobs := state.1.jobs.filter (fun other => !(other.jobId == row.jobId && other.status.isTerminal))
    .ok (⟨jobs,pruned⟩,countPruned state.2 row.status)

-- `ORDER BY updated_at_ms ASC LIMIT ?`; rows of one time come in rowid order.
def prunable (jobs : List JobRow) (cutoff : Int) : List JobRow :=
  ((jobs.filter (fun row => row.status.isTerminal && decide (row.updatedAtMs < cutoff))).insertionSort
    (fun left right => left.updatedAtMs ≤ right.updatedAtMs)).take maxPruneBatchSize

def pruneTerminal (tables : QueueTables) (olderThanDays : Int) (retainedJobIds : List ProvisioningJobId)
    (completedAt : Int) : QueueTables × Except ProvisioningQueueError QueuePruneResult :=
  let cutoff := completedAt - olderThanDays * millisecondsPerDay
  committed tables
    ((prunable tables.jobs cutoff).foldlM (pruneRow retainedJobIds completedAt) (tables,⟨0,0,0,0,completedAt⟩)) .ok

-- The repository method checks the retention first.
def prune (tables : QueueTables) (olderThanDays : Int) (retainedJobIds : List ProvisioningJobId)
    (completedAt : Int) : QueueTables × Except ProvisioningQueueError QueuePruneResult :=
  if 1 ≤ olderThanDays ∧ olderThanDays ≤ 3650 then pruneTerminal tables olderThanDays retainedJobIds completedAt
  else (tables,.error (.valueError "older_than_days must be between 1 and 3650"))

/- Reading. -/

def get (tables : QueueTables) (jobId : ProvisioningJobId) : Except ProvisioningQueueError (Option ProvisioningJob) :=
  match selectJob tables.jobs jobId with
  | none => .ok none
  | some row => (jobFromRow row).map some

-- `ORDER BY created_at_ms DESC, rowid DESC LIMIT 1`
def findByIdentity (tables : QueueTables) (identity origin correlationId : Text) :
    Except ProvisioningQueueError (Option ProvisioningJob) :=
  let submitted := tables.jobs.filter (fun row =>
    row.goalIdentity == identity && row.origin == some origin && row.correlationId == some correlationId)
  match Rows.firstBy (fun left right => decide (left.createdAtMs > right.createdAtMs)) submitted.reverse with
  | none => .ok none
  | some row => (jobFromRow row).map some

def listJobs (tables : QueueTables) (status : Option ProvisioningJobStatus) :
    Except ProvisioningQueueError (List ProvisioningJob) :=
  let rows := tables.jobs.filter (fun row => status.all (fun status => row.status == status))
  (rows.insertionSort (fun left right => left.createdAtMs ≤ right.createdAtMs)).mapM jobFromRow

end operations

/- Calls of the repository, as one type. -/

inductive Call where
  | submitOrJoin (goal : ProvisioningGoal) (priority : Int) (origin correlationId : Option Text)
      (timestamp : Int) (uuid : ProvisioningJobId)
  | claim (workerId : Text) (timestamp : Int)
  | heartbeat (jobId : ProvisioningJobId) (workerId : Text) (timestamp : Int)
  | complete (jobId : ProvisioningJobId) (workerId result : Text) (timestamp : Int)
  | fail (jobId : ProvisioningJobId) (workerId error : Text) (timestamp : Int) (retryable : Bool)
  | acknowledgeCancellation (jobId : ProvisioningJobId) (workerId reason : Text) (timestamp : Int)
  | cancel (jobId : ProvisioningJobId) (timestamp : Int)
  | requeueExpired (timestamp : Int)
  | prune (olderThanDays : Int) (retainedJobIds : List ProvisioningJobId) (completedAt : Int)

inductive Outcome where
  | submitted (result : QueueSubmitResult)
  | claimed (job : Option ProvisioningJob)
  | job (job : ProvisioningJob)
  | requeued (jobs : List ProvisioningJob)
  | pruned (result : QueuePruneResult)

def answered (outcome : α → Outcome) (ran : QueueTables × Except ProvisioningQueueError α) :
    QueueTables × Except ProvisioningQueueError Outcome := (ran.1,ran.2.map outcome)

def Call.run [Platform] (configuration : QueueConfiguration) (tables : QueueTables) :
    Call → QueueTables × Except ProvisioningQueueError Outcome
  | .submitOrJoin goal priority origin correlationId timestamp uuid =>
      answered .submitted (Queue.submitOrJoin tables goal priority origin correlationId timestamp uuid)
  | .claim workerId timestamp => answered .claimed (Queue.claim configuration tables workerId timestamp)
  | .heartbeat jobId workerId timestamp =>
      answered .job (Queue.heartbeat configuration tables jobId workerId timestamp)
  | .complete jobId workerId result timestamp =>
      answered .job (Queue.complete configuration tables jobId workerId result timestamp)
  | .fail jobId workerId error timestamp retryable =>
      answered .job (Queue.fail configuration tables jobId workerId error timestamp retryable)
  | .acknowledgeCancellation jobId workerId reason timestamp =>
      answered .job (Queue.acknowledgeCancellation configuration tables jobId workerId reason timestamp)
  | .cancel jobId timestamp => answered .job (Queue.cancel tables jobId timestamp)
  | .requeueExpired timestamp => answered .requeued (Queue.requeueExpired configuration tables timestamp)
  | .prune olderThanDays retainedJobIds completedAt =>
      answered .pruned (Queue.prune tables olderThanDays retainedJobIds completedAt)

end OpenStock.Queue
