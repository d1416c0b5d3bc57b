import OpenStock.Queue.Operations

namespace OpenStock.Queue
open Text

/- Handlers. A stage is kept as one execution of a job meets it: how its parts end
and how long it takes by the worker's clock. -/

structure HandlerResult where
  succeeded : Bool
  detail : Text
  retryable : Bool

-- What leaves a call of the worker other than by its return.
inductive WorkerError where
  | queue (error : ProvisioningQueueError)
  | warehouseOpen (message : Text)
  | other
deriving DecidableEq

-- `opened` and `closed` are the ends of the write transaction, for a stage that
-- asks for one, `beaten` the failure its lease thread has kept.
structure ProvisioningStage where
  name : Text
  requiresWarehouseWrite : Bool
  opened : Except WorkerError Unit
  executed : Except WorkerError HandlerResult
  beaten : Option ProvisioningQueueError
  closed : Except WorkerError Unit
  seconds : ℚ

structure ProvisioningGoalHandler where
  goalType : GoalType
  stages : ProvisioningGoal → List ProvisioningStage

def handlerFor (handlers : List ProvisioningGoalHandler) (goal : GoalType) : Option ProvisioningGoalHandler :=
  handlers.find? (fun handler => decide (handler.goalType = goal))

inductive HandlerExecution where
  | completed (result : HandlerResult)
  | cancellationRequested
  | stopRequested

def noHandlerStages : Text := "NO_HANDLER_STAGES".toList
def stageTimeout : Text := "STAGE_TIMEOUT".toList
def cancelledAtSafeBoundary : Text := "CANCELLED_AT_SAFE_BOUNDARY".toList
def unsupportedGoalHandler : Text := "UNSUPPORTED_GOAL_HANDLER".toList
def blockedLabel : Text := "; BLOCKED: ".toList

def blockedNames (stages : List ProvisioningStage) : Text :=
  [',',' '].intercalate (stages.map ProvisioningStage.name)

def failedWithBlocked (detail : Text) (dependentStages : List ProvisioningStage) : HandlerResult :=
  if dependentStages.isEmpty then ⟨false,detail,false⟩
  else ⟨false,detail ++ blockedLabel ++ blockedNames dependentStages,false⟩

/- One execution. Before the worker's n-th call to the queue the queue's other
users, its own lease thread among them, make the calls `others n`; the call runs
at `clock n`. `stopped n` is the stop event once n calls are made. -/

structure Surroundings where
  configuration : QueueConfiguration
  workerId : Text
  handlers : List ProvisioningGoalHandler
  stageTimeoutSeconds : Nat
  others : Nat → List Call
  clock : Nat → Int
  stopped : Nat → Bool
  -- How the finalization trigger ends for a terminal job.
  triggered : ProvisioningJob → Except WorkerError Unit

-- `found` remembers what each of the worker's calls found, and when.
structure Working where
  tables : QueueTables
  calls : Nat
  found : List (QueueTables × Int)

abbrev Worker (α : Type) : Type := Working → Except WorkerError α × Working

namespace Worker

def answer (value : α) : Worker α := fun s => (.ok value,s)
def raise (error : WorkerError) : Worker α := fun s => (.error error,s)
def ended (outcome : Except WorkerError α) : Worker α := fun s => (outcome,s)

def andThen (first : Worker α) (next : α → Worker β) : Worker β := fun s =>
  match first s with
  | (.error error,after) => (.error error,after)
  | (.ok value,after) => next value after

-- `try` with the handler of what it raised.
def rescue (body : Worker α) (handler : WorkerError → Worker α) : Worker α := fun s =>
  match body s with
  | (.error error,after) => handler error after
  | (.ok value,after) => (.ok value,after)

instance : Monad Worker where
  pure := answer
  bind := andThen

end Worker

def leftByOthers [Platform] (configuration : QueueConfiguration) (tables : QueueTables) (calls : List Call) : QueueTables :=
  calls.foldl (fun tables call => (call.run configuration tables).1) tables

def raised (outcome : Except ProvisioningQueueError α) : Except WorkerError α :=
  match outcome with
  | .ok value => .ok value
  | .error error => .error (.queue error)

section worker
variable [Platform] (around : Surroundings) (job : ProvisioningJob)

-- One call of the worker to its queue.
def consult (operation : QueueTables → Int → QueueTables × Except ProvisioningQueueError α) : Worker α := fun s =>
  let found := leftByOthers around.configuration s.tables (around.others s.calls)
  let done := operation found (around.clock s.calls)
  (raised done.2,⟨done.1,s.calls + 1,(found,around.clock s.calls) :: s.found⟩)

def stopRequested : Worker Bool := fun s => (.ok (around.stopped s.calls),s)

def cancellationRequested : Worker Bool := do
  let current ← consult around (fun tables _ => (tables,get tables job.jobId))
  pure (current.any ProvisioningJob.cancellationRequested)

def triggerFinalization (terminal : ProvisioningJob) : Worker Unit :=
  if terminal.isTerminal then .ended (around.triggered terminal) else pure ()

-- A terminal write, then what it triggers.
def concluded (write : QueueTables → Int → QueueTables × Except ProvisioningQueueError ProvisioningJob) :
    Worker (Option ProvisioningJob) := do
  let terminal ← consult around write
  triggerFinalization around terminal
  pure (some terminal)

def cancelAtSafeBoundary : Worker (Option ProvisioningJob) :=
  .rescue
    (concluded around (fun tables time =>
      acknowledgeCancellation around.configuration tables job.jobId around.workerId cancelledAtSafeBoundary time))
    (fun error => match error with
      | .queue (.jobLease _ _) => pure none
      | error => .raise error)

-- What both handlers of a lost lease do.
def withoutLease : Worker (Option ProvisioningJob) := do
  if ← cancellationRequested around job then cancelAtSafeBoundary around job
  else pure none

def failOrCancel (detail : Text) : Worker (Option ProvisioningJob) :=
  .rescue
    (concluded around (fun tables time =>
      fail around.configuration tables job.jobId around.workerId detail time false))
    (fun error => match error with
      | .queue (.jobLease _ _) => withoutLease around job
      | error => .raise error)

/- Stages. -/

def safeBoundary : Worker (Option HandlerExecution) := do
  if ← cancellationRequested around job then pure (some .cancellationRequested)
  else if ← stopRequested around then pure (some .stopRequested)
  else pure none

def heldLease (stage : ProvisioningStage) : Worker HandlerResult := do
  let _ ← consult around (fun tables time =>
    heartbeat around.configuration tables job.jobId around.workerId time)
  let result ← .ended stage.executed
  match stage.beaten with
  | some failure => .raise (.queue failure)
  | none => pure result

def executeStage (stage : ProvisioningStage) : Worker HandlerResult :=
  if stage.requiresWarehouseWrite then do
    .ended stage.opened
    let result ← heldLease around job stage
    .ended stage.closed
    pure result
  else heldLease around job stage

def executeFrom (result : HandlerResult) : List ProvisioningStage → Worker HandlerExecution
  | [] => pure (.completed result)
  | stage :: rest => do
    match ← safeBoundary around job with
    | some boundary => pure boundary
    | none => do
      let result ← executeStage around job stage
      if stage.seconds > around.stageTimeoutSeconds then pure (.completed (failedWithBlocked stageTimeout rest))
      else if result.succeeded then executeFrom result rest
      else pure (.completed (failedWithBlocked result.detail rest))

-- Without stages the first result is the answer.
def executeHandlerStages (handler : ProvisioningGoalHandler) : Worker HandlerExecution :=
  executeFrom around job ⟨false,noHandlerStages,false⟩ (handler.stages job.goal)

def recordResult (result : HandlerResult) (tables : QueueTables) (time : Int) :
    QueueTables × Except ProvisioningQueueError ProvisioningJob :=
  if result.succeeded then complete around.configuration tables job.jobId around.workerId result.detail time
  else fail around.configuration tables job.jobId around.workerId result.detail time result.retryable

def finish : HandlerExecution → Worker (Option ProvisioningJob)
  | .cancellationRequested => cancelAtSafeBoundary around job
  | .stopRequested => pure none
  | .completed result => do
    if ← cancellationRequested around job then cancelAtSafeBoundary around job
    else if ← stopRequested around then pure none
    else do
      let _ ← consult around (fun tables time =>
        heartbeat around.configuration tables job.jobId around.workerId time)
      concluded around (recordResult around job result)

-- The exceptions the worker answers itself.
def excepted : WorkerError → Worker (Option ProvisioningJob)
  | .queue (.jobLease _ _) => withoutLease around job
  | .warehouseOpen message => failOrCancel around job message
  | error => .raise error

def processClaimed : Worker (Option ProvisioningJob) :=
  match handlerFor around.handlers (goalType job.goal) with
  | none => failOrCancel around job unsupportedGoalHandler
  | some handler => do
    if ← cancellationRequested around job then cancelAtSafeBoundary around job
    else
      .rescue (do
        let outcome ← executeHandlerStages around job handler
        finish around job outcome) (excepted around job)

end worker
end OpenStock.Queue
