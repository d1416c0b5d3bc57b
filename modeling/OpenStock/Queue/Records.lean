import OpenStock.Foundations.Rows
import OpenStock.Queue.Goals

namespace OpenStock.Queue
open Text

abbrev ProvisioningJobId := Text

inductive ProvisioningJobStatus where
  | queued
  | running
  | succeeded
  | failed
  | cancelled
deriving DecidableEq

def ProvisioningJobStatus.value : ProvisioningJobStatus → String
  | .queued => "QUEUED"
  | .running => "RUNNING"
  | .succeeded => "SUCCEEDED"
  | .failed => "FAILED"
  | .cancelled => "CANCELLED"

def ProvisioningJobStatus.isTerminal : ProvisioningJobStatus → Bool
  | .succeeded | .failed | .cancelled => true
  | .queued | .running => false

-- One row of `provision_job`. The list order of a table is its rowid order.
structure JobRow where
  jobId : ProvisioningJobId
  goalIdentity : Text
  goalType : GoalType
  status : ProvisioningJobStatus
  priority : Int
  stage : String
  payloadVersion : Int
  payloadJson : Text
  attempts : Nat
  leaseOwner : Option Text
  leaseExpiresAtMs : Option Int
  leaseHeartbeatAtMs : Option Int
  origin : Option Text
  correlationId : Option Text
  cancellationRequested : Bool
  result : Option Text
  error : Option Text
  availableAtMs : Int
  createdAtMs : Int
  updatedAtMs : Int
deriving DecidableEq

-- One row of `pruned_provision_job`.
structure PrunedRow where
  jobId : ProvisioningJobId
  finalStatus : ProvisioningJobStatus
  prunedAtMs : Int
deriving DecidableEq

structure QueueTables where
  jobs : List JobRow
  pruned : List PrunedRow
deriving DecidableEq

def emptyTables : QueueTables := ⟨[],[]⟩

-- The errors of the queue boundary, and the ValueError of a refused retention.
inductive ProvisioningQueueError where
  | validation (message : String)
  | storage (message : String)
  | jobNotFound (message : String) (jobId : ProvisioningJobId)
  | jobTransition (message : String) (jobId : ProvisioningJobId) (status : ProvisioningJobStatus)
  | jobLease (message : String) (jobId : ProvisioningJobId)
  | valueError (message : String)
deriving DecidableEq

-- A datetime is kept as the milliseconds `timestamp_ms` makes of it, without the
-- bounds of the calendar.
structure ProvisioningJob where
  jobId : ProvisioningJobId
  goalIdentity : Text
  goal : ProvisioningGoal
  status : ProvisioningJobStatus
  priority : Int
  stage : String
  attempts : Nat
  leaseOwner : Option Text
  leaseExpiresAt : Option Int
  leaseHeartbeatAt : Option Int
  origin : Option Text
  correlationId : Option Text
  cancellationRequested : Bool
  result : Option Text
  error : Option Text
  createdAt : Int
  updatedAt : Int
deriving DecidableEq

def ProvisioningJob.isTerminal (job : ProvisioningJob) : Bool := job.status.isTerminal

def maxQueueDetailBytes : Nat := 2048
def maxQueueMetadataBytes : Nat := 128
def maxQueuePriority : Int := 1000
def retryDelaySeconds : Int := 60 * 60
def maxPruneBatchSize : Nat := 100

-- The row's columns beside a goal already read from its payload.
@[simps]
def JobRow.read (row : JobRow) (goal : ProvisioningGoal) : ProvisioningJob where
  jobId := row.jobId
  goalIdentity := row.goalIdentity
  goal := goal
  status := row.status
  priority := row.priority
  stage := row.stage
  attempts := row.attempts
  leaseOwner := row.leaseOwner
  leaseExpiresAt := row.leaseExpiresAtMs
  leaseHeartbeatAt := row.leaseHeartbeatAtMs
  origin := row.origin
  correlationId := row.correlationId
  cancellationRequested := row.cancellationRequested
  result := row.result
  error := row.error
  createdAt := row.createdAtMs
  updatedAt := row.updatedAtMs

section decoding
variable [Platform]

def jobFromRow (row : JobRow) : Except ProvisioningQueueError ProvisioningJob :=
  match parseGoalPayload row.payloadJson with
  | .error _ => .error (.storage "provisioning queue contains invalid data")
  | .ok goal => .ok (row.read goal)

def validatedGoal (goal : ProvisioningGoal) : Except ProvisioningQueueError ProvisioningGoal :=
  match parseGoalPayload goal.payloadJson with
  | .error _ => .error (.validation "invalid provisioning goal")
  | .ok goal => .ok goal

end decoding

def positive (value : Int) (fieldName : String) (maximum : Nat) : Except ProvisioningQueueError Nat :=
  if 1 ≤ value ∧ value ≤ maximum then .ok value.toNat
  else .error (.validation (fieldName ++ " must be bounded"))

def validatedPriority (value : Int) : Except ProvisioningQueueError Int :=
  if 0 ≤ value ∧ value ≤ maxQueuePriority then .ok value
  else .error (.validation "priority must be bounded")

def boundedMetadata (value : Text) : Bool :=
  !value.isEmpty && decide (encodedLength value ≤ maxQueueMetadataBytes) &&
    !value.any (fun c => c == '\r' || c == '\n' || c == Char.ofNat 0)

def requiredMetadata (value : Text) (fieldName : String) : Except ProvisioningQueueError Text :=
  if boundedMetadata value then .ok value
  else .error (.validation (fieldName ++ " must be bounded metadata"))

def metadata (value : Option Text) (fieldName : String) : Except ProvisioningQueueError (Option Text) :=
  match value with
  | none => .ok none
  | some value => (requiredMetadata value fieldName).map some

def boundedDetail (value : Text) : Bool :=
  !(strip value).isEmpty && decide (encodedLength value ≤ maxQueueDetailBytes)

def detail (value : Text) (fieldName : String) : Except ProvisioningQueueError Text :=
  if boundedDetail value then .ok value
  else .error (.validation (fieldName ++ " must be bounded"))

-- The lease and retry limits of a queue, within the bounds its constructor
-- enforces.
structure QueueConfiguration where
  leaseSeconds : Nat
  maxAttempts : Nat
  leaseBounded : 1 ≤ leaseSeconds ∧ leaseSeconds ≤ 3600
  attemptsBounded : 1 ≤ maxAttempts ∧ maxAttempts ≤ 10

theorem positive_bounds (accepted : positive value name maximum = .ok bounded) : 1 ≤ bounded ∧ bounded ≤ maximum := by
  unfold positive at accepted
  split at accepted
  · rename_i range
    cases accepted
    omega
  · cases accepted

def mkQueueConfiguration (leaseSeconds maxAttempts : Int) : Except ProvisioningQueueError QueueConfiguration :=
  match lease : positive leaseSeconds "lease_seconds" 3600 with
  | .error refused => .error refused
  | .ok leaseSeconds =>
    match attempts : positive maxAttempts "max_attempts" 10 with
    | .error refused => .error refused
    | .ok maxAttempts => .ok ⟨leaseSeconds,maxAttempts,positive_bounds lease,positive_bounds attempts⟩

def QueueConfiguration.leaseMs (configuration : QueueConfiguration) : Int := configuration.leaseSeconds * 1000

theorem QueueConfiguration.lease_positive (configuration : QueueConfiguration) : 0 < configuration.leaseMs := by
  have bound := configuration.leaseBounded.1
  simp only [leaseMs]
  omega

-- `DEFAULT_LEASE_SECONDS` and `DEFAULT_MAX_ATTEMPTS`.
def defaultConfiguration : QueueConfiguration := ⟨60,3,by decide,by decide⟩

/- The UPDATE statements. `selects` is the WHERE clause beside the job id, `set`
the SET clause. -/

inductive Update where
  | prioritize (priority timestamp : Int)
  | claim (worker : Text) (expires timestamp : Int)
  | heartbeat (worker : Text) (expires timestamp : Int)
  | recoverCancelled (timestamp : Int)
  | recoverFailed (timestamp : Int)
  | recoverQueued (timestamp : Int)
  | retry (worker : Text) (error : Option Text) (available timestamp : Int)
  | terminalize (worker : Text) (status : ProvisioningJobStatus) (result error : Option Text) (timestamp : Int)
  | cancelQueued (timestamp : Int)
  | cancelRunning (timestamp : Int)

-- `status='RUNNING' AND lease_owner=? AND lease_expires_at_ms > ?`
def JobRow.liveLease (row : JobRow) (worker : Text) (timestamp : Int) : Bool :=
  row.status == .running && row.leaseOwner == some worker &&
    row.leaseExpiresAtMs.any (fun expires => timestamp < expires)

-- `status='RUNNING' AND lease_expires_at_ms <= ?`
def JobRow.expiredLease (row : JobRow) (timestamp : Int) : Bool :=
  row.status == .running && row.leaseExpiresAtMs.any (fun expires => expires ≤ timestamp)

def leaseRetryLimitExhausted : Text := "lease retry limit exhausted".toList

def Update.selects : Update → JobRow → Bool
  | .prioritize _ _,_ => true
  | .claim _ _ _,row => row.status == .queued
  | .heartbeat worker _ timestamp,row => row.liveLease worker timestamp
  | .recoverCancelled _,row => row.status == .running
  | .recoverFailed _,row => row.status == .running
  | .recoverQueued _,row => row.status == .running
  | .retry worker _ _ timestamp,row => row.liveLease worker timestamp
  | .terminalize worker status _ _ timestamp,row =>
      row.liveLease worker timestamp && row.cancellationRequested == (status == .cancelled)
  | .cancelQueued _,row => row.status == .queued
  | .cancelRunning _,row => row.status == .running

def Update.set : Update → JobRow → JobRow
  | .prioritize priority timestamp,row =>
      {row with priority := max row.priority priority, updatedAtMs := timestamp}
  | .claim worker expires timestamp,row =>
      {row with
        status := .running, stage := "RUNNING", attempts := row.attempts + 1, leaseOwner := some worker,
        leaseExpiresAtMs := some expires, leaseHeartbeatAtMs := some timestamp, updatedAtMs := timestamp}
  | .heartbeat _ expires timestamp,row =>
      {row with leaseExpiresAtMs := some expires, leaseHeartbeatAtMs := some timestamp, updatedAtMs := timestamp}
  | .recoverCancelled timestamp,row =>
      {row with
        status := .cancelled, stage := "CANCELLED", leaseOwner := none, leaseExpiresAtMs := none,
        leaseHeartbeatAtMs := none, updatedAtMs := timestamp}
  | .recoverFailed timestamp,row =>
      {row with
        status := .failed, stage := "FAILED", error := some leaseRetryLimitExhausted, leaseOwner := none,
        leaseExpiresAtMs := none, leaseHeartbeatAtMs := none, updatedAtMs := timestamp}
  | .recoverQueued timestamp,row =>
      {row with
        status := .queued, stage := "QUEUED", leaseOwner := none, leaseExpiresAtMs := none,
        leaseHeartbeatAtMs := none, updatedAtMs := timestamp}
  | .retry _ error available timestamp,row =>
      {row with
        status := .queued, stage := "RETRY_SCHEDULED", result := none, error := error, leaseOwner := none,
        leaseExpiresAtMs := none, leaseHeartbeatAtMs := none, availableAtMs := available, updatedAtMs := timestamp}
  | .terminalize _ status result error timestamp,row =>
      {row with
        status := status, stage := status.value, result := result, error := error, leaseOwner := none,
        leaseExpiresAtMs := none, leaseHeartbeatAtMs := none, updatedAtMs := timestamp}
  | .cancelQueued timestamp,row =>
      {row with
        status := .cancelled, stage := "CANCELLED", cancellationRequested := true, updatedAtMs := timestamp}
  | .cancelRunning timestamp,row =>
      {row with cancellationRequested := true, updatedAtMs := timestamp}

variable (update : Update) (row : JobRow)

-- No statement rewrites what identifies a job.
@[simp] theorem Update.set_jobId : (update.set row).jobId = row.jobId := by
  cases update <;> rfl
@[simp] theorem Update.set_goalIdentity : (update.set row).goalIdentity = row.goalIdentity := by
  cases update <;> rfl
@[simp] theorem Update.set_payloadJson : (update.set row).payloadJson = row.payloadJson := by
  cases update <;> rfl

end OpenStock.Queue
