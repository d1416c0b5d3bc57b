import OpenStock.Foundations.Runs
import OpenStock.Maintenance.FinalizationTrigger
import OpenStock.Maintenance.Producer
import OpenStock.Maintenance.SessionFinalizer

namespace OpenStock.Maintenance
open Text Calendar Queue

/- Producers, workers and administrators over one queue and one warehouse. A
process is between two of its committed steps. -/

inductive Process where
  | idle
  -- `produce`, at the head of its loop over the goals
  | producing (scope : RunRow) (remaining : List AcquisitionGoal)
  | recovering (scope : RunRow) (goal : AcquisitionGoal) (rest : List AcquisitionGoal)
  | submitting (scope : RunRow) (goal : AcquisitionGoal) (rest : List AcquisitionGoal)
  | mapping (scope : RunRow) (goal : AcquisitionGoal) (rest : List AcquisitionGoal) (jobId : ProvisioningJobId)
  | settling (scope : RunRow)
  -- a claimed job, with the finalization stages still to run
  | working (worker : Text) (job : ProvisioningJob) (stages : List FinalizationStage)
  -- `_trigger_finalization` after the terminal write
  | triggering (jobId : ProvisioningJobId)
  | finalizing (runIds : List MaintenanceRunId)
  -- inside the warehouse transaction, the queue has committed
  | committing (runId : MaintenanceRunId) (goal : FinalizeMarketSessionGoal) (jobId : ProvisioningJobId)
      (rest : List MaintenanceRunId)
deriving DecidableEq

structure World where
  queue : QueueTables
  warehouse : Warehouse
  lock : Option Nat
  processes : Nat → Process

def initialWorld : World := ⟨emptyTables,emptyWarehouse,none,fun _ => .idle⟩

-- The terminal write a worker chooses.
inductive Ending where
  | complete (result : Text)
  | fail (error : Text) (retryable : Bool)
  | acknowledge (reason : Text)

def Ending.call (ending : Ending) (jobId : ProvisioningJobId) (worker : Text) (timestamp : Int) : Call :=
  match ending with
  | .complete result => .complete jobId worker result timestamp
  | .fail error retryable => .fail jobId worker error timestamp retryable
  | .acknowledge reason => .acknowledgeCancellation jobId worker reason timestamp

inductive Action where
  | persist (process : Nat) (plan : RunPlan)
  | resume (process : Nat) (runId : MaintenanceRunId)
  | look (process : Nat)
  | find (process : Nat)
  | submit (process : Nat) (priority timestamp : Int) (uuid : ProvisioningJobId)
  | map (process : Nat)
  | settle (process : Nat)
  | claim (process : Nat) (worker : Text) (timestamp : Int)
  | heartbeat (process : Nat) (timestamp : Int)
  | stage (process : Nat) (timestamp : Int) (services : FinalizationServices)
  | finish (process : Nat) (ending : Ending) (timestamp : Int)
  | abandon (process : Nat)
  | affected (process : Nat)
  | recover (process : Nat) (runId : Option MaintenanceRunId)
  | finalize (process : Nat) (correlationId : Text) (timestamp : Int) (uuid : ProvisioningJobId)
  | commit (process : Nat)
  | request (goal : AcquisitionGoal) (priority : Int) (origin correlationId : Option Text) (timestamp : Int)
      (uuid : ProvisioningJobId)
  | cancel (jobId : ProvisioningJobId) (timestamp : Int)
  | requeue (timestamp : Int)
  | arrive (bar : CanonicalBar)
  | crash (process : Nat)

-- Whose step an action is.
def Action.process : Action → Option Nat
  | .persist process _ | .resume process _ | .look process | .find process | .submit process _ _ _ | .map process
  | .settle process | .claim process _ _ | .heartbeat process _ | .stage process _ _ | .finish process _ _
  | .abandon process | .affected process | .recover process _ | .finalize process _ _ _ | .commit process
  | .crash process => some process
  | .request _ _ _ _ _ _ | .cancel _ _ | .requeue _ | .arrive _ => none

namespace World

def put (world : World) (process : Nat) (next : Process) : World :=
  {world with processes := Function.update world.processes process next}

-- A process still to submit the finalization of some runs.
def afterRuns : List MaintenanceRunId → Process
  | [] => .idle
  | runIds => .finalizing runIds

-- `uuid4` draws no job id in use.
def fresh (world : World) (uuid : ProvisioningJobId) : Bool := world.queue.jobs.all (fun row => row.jobId != uuid)

def stagesOf : ProvisioningGoal → List FinalizationStage
  | .finalizeMarketSession _ => finalizationStages
  | _ => []

section steps
variable [Platform] (configuration : QueueConfiguration) (world : World)

/- The producer. -/

def persist (process : Nat) (plan : RunPlan) : Option World :=
  match plan.prepare with
  | .error _ => none
  | .ok run => (persistRun world.warehouse run).map (fun warehouse =>
      {world with warehouse := warehouse}.put process (.producing run run.expectedGoals))

def resume (process : Nat) (runId : MaintenanceRunId) : Option World :=
  (world.warehouse.selectRun runId).map (fun run => world.put process (.producing run run.expectedGoals))

def mappedJob (scope : RunRow) (goal : AcquisitionGoal) : Option ProvisioningJobId :=
  (world.warehouse.selectRunJob scope.runId (goalIdentity goal.val)).bind RunJobRow.jobId

-- Every goal is mapped when the loop ends; only the state it began with counts.
def look (process : Nat) (scope : RunRow) : List AcquisitionGoal → World
  | [] => world.put process (if scope.status = .enqueuing then .settling scope else .idle)
  | goal :: rest =>
    match world.mappedJob scope goal with
    | some _ => world.put process (.producing scope rest)
    | none => world.put process (.recovering scope goal rest)

def find (process : Nat) (scope : RunRow) (goal : AcquisitionGoal) (rest : List AcquisitionGoal) : World :=
  match findByIdentity world.queue (goalIdentity goal.val) maintenanceOrigin scope.correlationId with
  | .error _ => world.put process .idle
  | .ok none => world.put process (.submitting scope goal rest)
  | .ok (some job) => world.put process (.mapping scope goal rest job.jobId)

def submit (process : Nat) (scope : RunRow) (goal : AcquisitionGoal) (rest : List AcquisitionGoal)
    (priority timestamp : Int) (uuid : ProvisioningJobId) : World :=
  let ran := submitOrJoin world.queue goal.val priority (some maintenanceOrigin) (some scope.correlationId) timestamp uuid
  match ran.2 with
  | .error _ => {world with queue := ran.1}.put process .idle
  | .ok submission => {world with queue := ran.1}.put process (.mapping scope goal rest submission.job.jobId)

def map (process : Nat) (scope : RunRow) (goal : AcquisitionGoal) (rest : List AcquisitionGoal)
    (jobId : ProvisioningJobId) : World :=
  {world with warehouse := world.warehouse.mapJob scope.runId (goalIdentity goal.val) jobId}.put process
    (.producing scope rest)

def settle (process : Nat) (scope : RunRow) : World :=
  {world with warehouse := world.warehouse.setStatus scope.runId .acquiring}.put process .idle

/- The worker. It may end or leave its job at any boundary. -/

def claim (process : Nat) (worker : Text) (timestamp : Int) : World :=
  let ran := Queue.claim configuration world.queue worker timestamp
  match ran.2 with
  | .ok (some job) => {world with queue := ran.1}.put process (.working worker job (stagesOf job.goal))
  | _ => {world with queue := ran.1}

def heartbeat (worker : Text) (job : ProvisioningJob) (timestamp : Int) : World :=
  {world with queue := (Queue.heartbeat configuration world.queue job.jobId worker timestamp).1}

-- A stage runs in one warehouse transaction behind a heartbeat; what it raises
-- rolls the transaction back and ends the processing.
def stage (process : Nat) (worker : Text) (job : ProvisioningJob) (stage : FinalizationStage)
    (rest : List FinalizationStage) (timestamp : Int) (services : FinalizationServices) : World :=
  let beat := Queue.heartbeat configuration world.queue job.jobId worker timestamp
  match beat.2,job.goal with
  | .ok _,.finalizeMarketSession goal =>
    match SessionFinalizer.execute services world.warehouse goal stage with
    | .error _ => {world with queue := beat.1}.put process .idle
    | .ok (warehouse,outcome) => {world with queue := beat.1, warehouse := warehouse}.put process
        (.working worker job (if outcome.succeeded then rest else []))
  | _,_ => {world with queue := beat.1}.put process .idle

def finish (process : Nat) (worker : Text) (job : ProvisioningJob) (ending : Ending) (timestamp : Int) : World :=
  let ran := (ending.call job.jobId worker timestamp).run configuration world.queue
  match ran.2 with
  | .ok (.job ended) => {world with queue := ran.1}.put process
      (if ended.isTerminal then .triggering ended.jobId else .idle)
  | _ => {world with queue := ran.1}

/- The trigger. -/

-- Both callers use the default priority.
def finalize (process : Nat) (runId : MaintenanceRunId) (rest : List MaintenanceRunId) (correlationId : Text)
    (timestamp : Int) (uuid : ProvisioningJobId) : World :=
  let ran := maybeSubmitSessionFinalization world.warehouse world.queue runId 0 correlationId timestamp uuid
  match ran.2 with
  | .error _ => {world with queue := ran.1}.put process .idle
  | .ok (.submitted goal submission) => {world with queue := ran.1, lock := some process}.put process
      (.committing runId goal submission.job.jobId rest)
  | .ok _ => {world with queue := ran.1}.put process (afterRuns rest)

def commit (process : Nat) (runId : MaintenanceRunId) (goal : FinalizeMarketSessionGoal) (jobId : ProvisioningJobId)
    (rest : List MaintenanceRunId) : World :=
  match commitFinalization world.warehouse runId goal jobId with
  | none => {world with lock := none}.put process .idle
  | some warehouse => {world with warehouse := warehouse, lock := none}.put process (afterRuns rest)

def crash (process : Nat) : World :=
  {world with lock := if world.lock = some process then none else world.lock}.put process .idle

-- Warehouse transactions wait for the lock.
def next (world : World) : Action → Option World
  | .persist process plan =>
    match world.processes process,world.lock with
    | .idle,none => world.persist process plan
    | _,_ => none
  | .resume process runId =>
    match world.processes process,world.lock with
    | .idle,none => world.resume process runId
    | _,_ => none
  | .look process =>
    match world.processes process,world.lock with
    | .producing scope remaining,none => some (world.look process scope remaining)
    | _,_ => none
  | .find process =>
    match world.processes process with
    | .recovering scope goal rest => some (world.find process scope goal rest)
    | _ => none
  | .submit process priority timestamp uuid =>
    match world.processes process with
    | .submitting scope goal rest =>
      if world.fresh uuid then some (world.submit process scope goal rest priority timestamp uuid) else none
    | _ => none
  | .map process =>
    match world.processes process,world.lock with
    | .mapping scope goal rest jobId,none => some (world.map process scope goal rest jobId)
    | _,_ => none
  | .settle process =>
    match world.processes process,world.lock with
    | .settling scope,none => some (world.settle process scope)
    | _,_ => none
  | .claim process worker timestamp =>
    match world.processes process with
    | .idle => some (world.claim configuration process worker timestamp)
    | _ => none
  | .heartbeat process timestamp =>
    match world.processes process with
    | .working worker job _ => some (world.heartbeat configuration worker job timestamp)
    | _ => none
  | .stage process timestamp services =>
    match world.processes process,world.lock with
    | .working worker job (stage :: rest),none =>
      some (world.stage configuration process worker job stage rest timestamp services)
    | _,_ => none
  | .finish process ending timestamp =>
    match world.processes process with
    | .working worker job _ => some (world.finish configuration process worker job ending timestamp)
    | _ => none
  | .abandon process =>
    match world.processes process with
    | .working _ _ _ => some (world.put process .idle)
    | _ => none
  | .affected process =>
    match world.processes process,world.lock with
    | .triggering jobId,none => some (world.put process (afterRuns (affectedRuns world.warehouse jobId)))
    | _,_ => none
  | .recover process runId =>
    match world.processes process,world.lock with
    | .idle,none => some (world.put process (afterRuns (recoverableRuns world.warehouse runId)))
    | _,_ => none
  | .finalize process correlationId timestamp uuid =>
    match world.processes process,world.lock with
    | .finalizing (runId :: rest),none =>
      if boundedMetadata correlationId && world.fresh uuid then
        some (world.finalize process runId rest correlationId timestamp uuid)
      else none
    | _,_ => none
  | .commit process =>
    match world.processes process with
    | .committing runId goal jobId rest => some (world.commit process runId goal jobId rest)
    | _ => none
  | .request goal priority origin correlationId timestamp uuid =>
    if world.fresh uuid then
      some {world with queue := (submitOrJoin world.queue goal.val priority origin correlationId timestamp uuid).1}
    else none
  | .cancel jobId timestamp => some {world with queue := (Queue.cancel world.queue jobId timestamp).1}
  | .requeue timestamp => some {world with queue := (requeueExpired configuration world.queue timestamp).1}
  | .arrive bar =>
    match world.lock with
    | none => some {world with warehouse := {world.warehouse with canonical := world.warehouse.canonical ++ [bar]}}
    | some _ => none
  | .crash process => some (world.crash process)

end steps
end World

/- What a step can do. -/

-- Inside `produce`, or out of it.
def Process.produces : Process → Bool
  | .idle | .producing _ _ | .recovering _ _ _ | .submitting _ _ _ | .mapping _ _ _ _ | .settling _ => true
  | .working _ _ _ | .triggering _ | .finalizing _ | .committing _ _ _ _ => false

-- The queue call of an action that moves no process.
def World.calls (world : World) : Action → Call → Prop
  | .claim _ worker timestamp,call => call = .claim worker timestamp
  | .heartbeat _ _,call => ∃ jobId worker timestamp, call = .heartbeat jobId worker timestamp
  | .finish process ending timestamp,call => ∃ worker job stages,
      world.processes process = .working worker job stages ∧ call = ending.call job.jobId worker timestamp
  | .request goal priority origin correlationId timestamp uuid,call =>
      call = .submitOrJoin goal.val priority origin correlationId timestamp uuid
  | .cancel jobId timestamp,call => call = .cancel jobId timestamp
  | .requeue timestamp,call => call = .requeueExpired timestamp
  | _,_ => False

inductive Transition [Platform] (configuration : QueueConfiguration) (world : World) : Action → World → Prop where
  | persisted (idle : world.processes process = .idle) (free : world.lock = none) (prepared : plan.prepare = .ok run)
      (stored : persistRun world.warehouse run = some warehouse) :
      Transition configuration world (.persist process plan)
        ({world with warehouse := warehouse}.put process (.producing run run.expectedGoals))
  | produced (now : (world.processes process).produces = true) (later : next.produces = true) :
      Transition configuration world action (world.put process next)
  | submitted (now : world.processes process = .submitting scope goal rest)
      (ran : (Call.submitOrJoin goal.val priority (some maintenanceOrigin) (some scope.correlationId) timestamp uuid).run
        configuration world.queue = (queue,reply)) (later : next.produces = true) :
      Transition configuration world (.submit process priority timestamp uuid)
        ({world with queue := queue}.put process next)
  | mapped (now : world.processes process = .mapping scope goal rest jobId) (free : world.lock = none) :
      Transition configuration world (.map process) (world.map process scope goal rest jobId)
  | settled (now : world.processes process = .settling scope) (free : world.lock = none) :
      Transition configuration world (.settle process) (world.settle process scope)
  | claimed (idle : world.processes process = .idle)
      (ran : (Call.claim worker timestamp).run configuration world.queue = (queue,.ok (.claimed (some job)))) :
      Transition configuration world (.claim process worker timestamp)
        ({world with queue := queue}.put process (.working worker job (World.stagesOf job.goal)))
  | called (calls : world.calls action call) (ran : call.run configuration world.queue = (queue,reply))
      (unended : ∀ job, (∃ process ending timestamp, action = .finish process ending timestamp) →
        reply ≠ .ok (.job job)) :
      Transition configuration world action {world with queue := queue}
  | staged (now : world.processes process = .working worker job (stage :: rest)) (free : world.lock = none)
      (ran : (Call.heartbeat job.jobId worker timestamp).run configuration world.queue = (queue,reply))
      (kind : job.goal = .finalizeMarketSession goal)
      (executed : SessionFinalizer.execute services world.warehouse goal stage = .ok (warehouse,outcome)) :
      Transition configuration world (.stage process timestamp services)
        ({world with queue := queue, warehouse := warehouse}.put process
          (.working worker job (if outcome.succeeded then rest else [])))
  | dropped (now : world.processes process = .working worker job stages)
      (ran : (Call.heartbeat job.jobId worker timestamp).run configuration world.queue = (queue,reply)) :
      Transition configuration world (.stage process timestamp services) ({world with queue := queue}.put process .idle)
  | ended (now : world.processes process = .working worker job stages)
      (ran : (ending.call job.jobId worker timestamp).run configuration world.queue = (queue,.ok (.job last))) :
      Transition configuration world (.finish process ending timestamp)
        ({world with queue := queue}.put process (if last.isTerminal then .triggering last.jobId else .idle))
  | abandoned (now : world.processes process = .working worker job stages) :
      Transition configuration world (.abandon process) (world.put process .idle)
  | affected (now : world.processes process = .triggering jobId) (free : world.lock = none) :
      Transition configuration world (.affected process)
        (world.put process (World.afterRuns (affectedRuns world.warehouse jobId)))
  | recovered (now : world.processes process = .idle) :
      Transition configuration world (.recover process runId)
        (world.put process (World.afterRuns (recoverableRuns world.warehouse runId)))
  | raised (now : world.processes process = .finalizing (runId :: rest)) (bounded : boundedMetadata correlationId = true)
      (unused : world.fresh uuid = true)
      (decided : maybeSubmitSessionFinalization world.warehouse world.queue runId 0 correlationId timestamp uuid =
        (queue,.error refused)) :
      Transition configuration world (.finalize process correlationId timestamp uuid)
        ({world with queue := queue}.put process .idle)
  | skipped (now : world.processes process = .finalizing (runId :: rest))
      (decided : maybeSubmitSessionFinalization world.warehouse world.queue runId 0 correlationId timestamp uuid =
        (queue,.ok decision)) (unsubmitted : ∀ goal submission, decision ≠ .submitted goal submission) :
      Transition configuration world (.finalize process correlationId timestamp uuid)
        ({world with queue := queue}.put process (World.afterRuns rest))
  | opened {submission : QueueSubmitResult} (now : world.processes process = .finalizing (runId :: rest)) (free : world.lock = none)
      (decided : maybeSubmitSessionFinalization world.warehouse world.queue runId 0 correlationId timestamp uuid =
        (queue,.ok (.submitted goal submission))) :
      Transition configuration world (.finalize process correlationId timestamp uuid)
        ({world with queue := queue, lock := some process}.put process
          (.committing runId goal submission.job.jobId rest))
  | committed (now : world.processes process = .committing runId goal jobId rest)
      (stored : commitFinalization world.warehouse runId goal jobId = some warehouse) :
      Transition configuration world (.commit process)
        ({world with warehouse := warehouse, lock := none}.put process (World.afterRuns rest))
  | refused (now : world.processes process = .committing runId goal jobId rest)
      (clash : commitFinalization world.warehouse runId goal jobId = none) :
      Transition configuration world (.commit process) ({world with lock := none}.put process .idle)
  | arrived (free : world.lock = none) :
      Transition configuration world (.arrive bar)
        {world with warehouse := {world.warehouse with canonical := world.warehouse.canonical ++ [bar]}}
  | crashed : Transition configuration world (.crash process) (world.crash process)

theorem put_other {world : World} (differs : some process ≠ some other) (next : Process) :
    (world.put process next).processes other = world.processes other :=
  Function.update_of_ne (fun same => differs (congrArg some same.symm)) _ _

section transitions
variable [Platform] {configuration : QueueConfiguration} {world after : World}

theorem look_transition (now : world.processes process = .producing scope remaining) :
    Transition configuration world (.look process) (world.look process scope remaining) := by
  have within : (world.processes process).produces = true := by rw [now]; rfl
  unfold World.look
  split
  · split <;> exact .produced within rfl
  · split <;> exact .produced within rfl

theorem find_transition (now : world.processes process = .recovering scope goal rest) :
    Transition configuration world (.find process) (world.find process scope goal rest) := by
  have within : (world.processes process).produces = true := by rw [now]; rfl
  unfold World.find
  split <;> exact .produced within rfl

theorem submit_transition (now : world.processes process = .submitting scope goal rest) :
    Transition configuration world (.submit process priority timestamp uuid)
      (world.submit process scope goal rest priority timestamp uuid) := by
  unfold World.submit
  dsimp only
  split <;> exact .submitted now rfl rfl

theorem claim_transition (idle : world.processes process = .idle) :
    Transition configuration world (.claim process worker timestamp) (world.claim configuration process worker timestamp) := by
  unfold World.claim
  dsimp only
  split
  · rename_i job found
    exact .claimed idle (by rw [Call.run,answered,found]; rfl)
  · exact .called (show world.calls (.claim process worker timestamp) (.claim worker timestamp) from rfl) rfl (by simp)

theorem stage_transition (now : world.processes process = .working worker job (stage :: rest)) (free : world.lock = none) :
    Transition configuration world (.stage process timestamp services)
      (world.stage configuration process worker job stage rest timestamp services) := by
  unfold World.stage
  dsimp only
  split
  · rename_i beat goal answered kind
    split
    · exact .dropped now rfl
    · rename_i warehouse outcome executed
      exact .staged now free rfl kind executed
  · exact .dropped now rfl

theorem finish_transition (now : world.processes process = .working worker job stages) :
    Transition configuration world (.finish process ending timestamp)
      (world.finish configuration process worker job ending timestamp) := by
  unfold World.finish
  dsimp only
  split
  · rename_i last found
    exact .ended now (Prod.ext rfl found)
  · rename_i other
    have calls : world.calls (.finish process ending timestamp) (ending.call job.jobId worker timestamp) :=
      ⟨worker,job,stages,now,rfl⟩
    exact .called calls rfl (fun job _ => other job)

theorem finalize_transition (now : world.processes process = .finalizing (runId :: rest)) (free : world.lock = none)
    (bounded : boundedMetadata correlationId = true) (unused : world.fresh uuid = true) :
    Transition configuration world (.finalize process correlationId timestamp uuid)
      (world.finalize process runId rest correlationId timestamp uuid) := by
  unfold World.finalize
  dsimp only
  split
  · rename_i refused decided
    exact .raised now bounded unused (Prod.ext rfl decided)
  · rename_i goal submission decided
    exact .opened now free (Prod.ext rfl decided)
  · rename_i decision unsubmitted decided
    exact .skipped now (Prod.ext rfl decided) (fun goal submission same => unsubmitted goal submission same)

theorem commit_transition (now : world.processes process = .committing runId goal jobId rest) :
    Transition configuration world (.commit process) (world.commit process runId goal jobId rest) := by
  unfold World.commit
  split
  · rename_i clash
    exact .refused now clash
  · rename_i warehouse stored
    exact .committed now stored

theorem next_transition (moved : world.next configuration action = some after) :
    Transition configuration world action after := by
  cases action <;> simp only [World.next] at moved
  case persist process plan =>
    split at moved
    · rename_i idle free
      simp only [World.persist] at moved
      split at moved
      · cases moved
      · rename_i run prepared
        obtain ⟨warehouse,stored,rfl⟩ := Option.map_eq_some_iff.mp moved
        exact .persisted idle free prepared stored
    · cases moved
  case resume process runId =>
    split at moved
    · rename_i idle free
      obtain ⟨run,selected,rfl⟩ := Option.map_eq_some_iff.mp moved
      exact .produced (by rw [idle]; rfl) rfl
    · cases moved
  case look process =>
    split at moved
    · rename_i scope remaining now free
      cases moved
      exact look_transition now
    · cases moved
  case find process =>
    split at moved
    · rename_i scope goal rest now
      cases moved
      exact find_transition now
    · cases moved
  case submit process priority timestamp uuid =>
    split at moved
    · rename_i scope goal rest now
      split at moved
      · cases moved
        exact submit_transition now
      · cases moved
    · cases moved
  case map process =>
    split at moved
    · rename_i scope goal rest jobId now free
      cases moved
      exact .mapped now free
    · cases moved
  case settle process =>
    split at moved
    · rename_i scope now free
      cases moved
      exact .settled now free
    · cases moved
  case claim process worker timestamp =>
    split at moved
    · rename_i idle
      cases moved
      exact claim_transition idle
    · cases moved
  case heartbeat process timestamp =>
    split at moved
    · rename_i worker job stages now
      cases moved
      have calls : world.calls (.heartbeat process timestamp) (.heartbeat job.jobId worker timestamp) := ⟨_,_,_,rfl⟩
      exact .called calls rfl (by simp)
    · cases moved
  case stage process timestamp services =>
    split at moved
    · rename_i worker job stage rest now free
      cases moved
      exact stage_transition now free
    · cases moved
  case finish process ending timestamp =>
    split at moved
    · rename_i worker job stages now
      cases moved
      exact finish_transition now
    · cases moved
  case abandon process =>
    split at moved
    · rename_i worker job stages now
      cases moved
      exact .abandoned now
    · cases moved
  case affected process =>
    split at moved
    · rename_i jobId now free
      cases moved
      exact .affected now free
    · cases moved
  case recover process runId =>
    split at moved
    · rename_i idle free
      cases moved
      exact .recovered idle
    · cases moved
  case finalize process correlationId timestamp uuid =>
    split at moved
    · rename_i runId rest now free
      split at moved
      · rename_i checked
        cases moved
        obtain ⟨bounded,unused⟩ := Bool.and_eq_true_iff.mp checked
        exact finalize_transition now free bounded unused
      · cases moved
    · cases moved
  case commit process =>
    split at moved
    · rename_i runId goal jobId rest now
      cases moved
      exact commit_transition now
    · cases moved
  case request goal priority origin correlationId timestamp uuid =>
    split at moved
    · cases moved
      have calls : world.calls (.request goal priority origin correlationId timestamp uuid)
          (.submitOrJoin goal.val priority origin correlationId timestamp uuid) := rfl
      exact .called calls rfl (by simp)
    · cases moved
  case cancel jobId timestamp =>
    cases moved
    have calls : world.calls (.cancel jobId timestamp) (.cancel jobId timestamp) := rfl
    exact .called calls rfl (by simp)
  case requeue timestamp =>
    cases moved
    have calls : world.calls (.requeue timestamp) (.requeueExpired timestamp) := rfl
    exact .called calls rfl (by simp)
  case arrive bar =>
    split at moved
    · rename_i free
      cases moved
      exact .arrived free
    · cases moved
  case crash process =>
    cases moved
    exact .crashed

-- An action moves no process but its own.
theorem next_untouched {action : Action} (moved : world.next configuration action = some after) (other : Nat)
    (elsewhere : action.process ≠ some other) : after.processes other = world.processes other := by
  cases action with
  | persist process plan =>
    simp only [World.next,World.persist] at moved
    split at moved
    · split at moved
      · cases moved
      · obtain ⟨warehouse,_,rfl⟩ := Option.map_eq_some_iff.mp moved
        exact put_other elsewhere _
    · cases moved
  | resume process runId =>
    simp only [World.next] at moved
    split at moved
    · obtain ⟨run,_,rfl⟩ := Option.map_eq_some_iff.mp moved
      exact put_other elsewhere _
    · cases moved
  | crash process =>
    cases moved
    exact put_other elsewhere _
  | request goal priority origin correlationId timestamp uuid =>
    simp only [World.next] at moved
    split at moved <;> cases moved
    rfl
  | cancel jobId timestamp | requeue timestamp =>
    cases moved
    rfl
  | arrive bar =>
    simp only [World.next] at moved
    split at moved <;> cases moved
    rfl
  | abandon process | affected process | recover process runId =>
    simp only [World.next] at moved
    split at moved <;> cases moved
    exact put_other elsewhere _
  | _ =>
    -- the step functions end in `put`, in whichever branch
    simp only [World.next] at moved
    (repeat' split at moved) <;> cases moved
    all_goals
      simp only [World.look,World.find,World.submit,World.map,World.settle,World.claim,World.heartbeat,World.stage,
        World.finish,World.finalize,World.commit]
      repeat' split
      all_goals first | rfl | exact put_other elsewhere _

end transitions

abbrev WorldStep [Platform] (configuration : QueueConfiguration) (_history : List Action) (before : World)
    (action : Action) (after : World) : Prop := before.next configuration action = some after

end OpenStock.Maintenance
