import OpenStock.Queue.Endings
import OpenStock.Queue.Progress
import OpenStock.Queue.Worker

namespace OpenStock.Queue
open Text

/- Rules for computations of the worker. What was found is never forgotten, so a
fact about all that a run found is one about all that its first part found. -/

def Remembers (body : Worker α) : Prop := ∀ s, s.found ⊆ (body s).2.found

def Keeps (held : QueueTables × Int → Prop) (body : Worker α) (s : Working) : Prop := ∀ found ∈ (body s).2.found, held found

theorem remembers_pure (value : α) : Remembers (pure value : Worker α) := fun _ => List.Subset.refl _

theorem remembers_raise (error : WorkerError) : Remembers (.raise error : Worker α) := fun _ => List.Subset.refl _

theorem remembers_ended (outcome : Except WorkerError α) : Remembers (.ended outcome) := fun _ => List.Subset.refl _

variable {next : α → Worker β} {first : Worker α}

theorem remembers_bind (one : Remembers first) (rest : ∀ value, Remembers (next value)) : Remembers (first >>= next) := by
  intro s
  have before := one s
  change s.found ⊆ (Worker.andThen first next s).2.found
  unfold Worker.andThen
  split
  · rename_i error after ran
    rw [ran] at before
    exact before
  · rename_i value after ran
    rw [ran] at before
    exact List.Subset.trans before (rest value after)

variable {handler : WorkerError → Worker α} {body : Worker α}

theorem remembers_rescue (one : Remembers body)
    (rest : ∀ error, Remembers (handler error)) : Remembers (.rescue body handler) := by
  intro s
  have before := one s
  unfold Worker.rescue
  split
  · rename_i error after ran
    rw [ran] at before
    exact List.Subset.trans before (rest error after)
  · rename_i value after ran
    rw [ran] at before
    exact before

theorem bind_answered (ran : first s = (.ok value,after)) : (first >>= next) s = next value after := by
  change Worker.andThen first next s = _
  simp [Worker.andThen,ran]

theorem bind_raised (ran : first s = (.error error,after)) : (first >>= next) s = (.error error,after) := by
  change Worker.andThen first next s = _
  simp [Worker.andThen,ran]

theorem rescue_raised (ran : body s = (.error error,after)) : Worker.rescue body handler s = handler error after := by
  simp [Worker.rescue,ran]

theorem rescue_answered (ran : body s = (.ok value,after)) : Worker.rescue body handler s = (.ok value,after) := by
  simp [Worker.rescue,ran]

section rules
variable [Platform] {around : Surroundings} {job : ProvisioningJob} {held : QueueTables × Int → Prop}

-- From valid tables, when all it finds is as it should be: `Ends` says how a
-- computation comes out, `Delivers` that it answers.
def Ends (held : QueueTables × Int → Prop) (body : Worker α) (post : Except WorkerError α → Working → Prop) : Prop :=
  ∀ s, Valid s.tables → Keeps held body s → post (body s).1 (body s).2

def Delivers (held : QueueTables × Int → Prop) (body : Worker α) (post : α → Prop) : Prop :=
  Ends held body (fun outcome after => ∃ value, outcome = .ok value ∧ post value ∧ Valid after.tables)

theorem delivers_pure {post : α → Prop} (known : post value) : Delivers held (pure value : Worker α) post :=
  fun _ valid _ => ⟨value,rfl,known,valid⟩

theorem delivers_ended (outcome : result = .ok value) : Delivers held (.ended result) (· = value) :=
  fun _ valid _ => ⟨value,outcome,rfl,valid⟩

omit [Platform] in
theorem keeps_first {first : Worker α} {next : α → Worker β} (remembers : ∀ value, Remembers (next value))
    (keeps : Keeps held (first >>= next) s) : Keeps held first s := by
  intro found inside
  apply keeps
  change found ∈ (Worker.andThen first next s).2.found
  unfold Worker.andThen
  split
  · rename_i error after ran
    rw [ran] at inside
    exact inside
  · rename_i value after ran
    rw [ran] at inside
    exact remembers value after inside

theorem ends_bind {first : Worker α} {next : α → Worker β} (one : Delivers held first known)
    (rest : ∀ value, known value → Ends held (next value) post) (remembers : ∀ value, Remembers (next value)) :
    Ends held (first >>= next) post := by
  intro s valid keeps
  obtain ⟨value,answered,meets,still⟩ := one s valid (keeps_first remembers keeps)
  have ran : first s = (.ok value,(first s).2) := Prod.ext answered rfl
  unfold Keeps at keeps
  rw [bind_answered ran] at keeps ⊢
  exact rest value meets _ still keeps

theorem delivers_bind {first : Worker α} {next : α → Worker β} {post : β → Prop} (one : Delivers held first known)
    (rest : ∀ value, known value → Delivers held (next value) post) (remembers : ∀ value, Remembers (next value)) :
    Delivers held (first >>= next) post :=
  ends_bind one rest remembers

theorem ends_rescue {body : Worker α} {handler : WorkerError → Worker α} (one : Ends held body post)
    (through : ∀ outcome after, post outcome after → ∀ error, outcome = .error error → handler error after = (.error error,after))
    (remembers : ∀ error, Remembers (handler error)) : Ends held (.rescue body handler) post := by
  intro s valid keeps
  have kept : Keeps held body s := by
    intro found inside
    apply keeps
    unfold Worker.rescue
    split
    · rename_i error after ran
      rw [ran] at inside
      exact remembers error after inside
    · rename_i value after ran
      rw [ran] at inside
      exact inside
  have met := one s valid kept
  cases outcome : (body s).1 with
  | ok value =>
    rw [rescue_answered (Prod.ext outcome rfl)]
    rwa [outcome] at met
  | error error =>
    rw [rescue_raised (Prod.ext outcome rfl),through _ _ met error outcome]
    rwa [outcome] at met

end rules

/- What the worker's own computations remember. -/

section memory
variable [Platform] (around : Surroundings) (job : ProvisioningJob)

theorem remembers_consult (operation : QueueTables → Int → QueueTables × Except ProvisioningQueueError α) :
    Remembers (consult around operation) := fun _ => List.subset_cons_self _ _

omit [Platform] in
theorem remembers_stop : Remembers (stopRequested around) := fun _ => List.Subset.refl _

theorem remembers_cancellation : Remembers (cancellationRequested around job) :=
  remembers_bind (remembers_consult _ _) (fun _ => remembers_pure _)

omit [Platform] in
theorem remembers_trigger (terminal : ProvisioningJob) : Remembers (triggerFinalization around terminal) := by
  unfold triggerFinalization
  split
  · exact remembers_ended _
  · exact remembers_pure _

theorem remembers_concluded (write : QueueTables → Int → QueueTables × Except ProvisioningQueueError ProvisioningJob) :
    Remembers (concluded around write) :=
  remembers_bind (remembers_consult _ _) (fun terminal =>
    remembers_bind (remembers_trigger around terminal) (fun _ => remembers_pure _))

theorem remembers_cancelling : Remembers (cancelAtSafeBoundary around job) := by
  apply remembers_rescue (remembers_concluded around _)
  intro error
  split
  · exact remembers_pure _
  · exact remembers_raise _

theorem remembers_withoutLease : Remembers (withoutLease around job) := by
  apply remembers_bind (remembers_cancellation around job)
  intro requested
  split
  · exact remembers_cancelling around job
  · exact remembers_pure _

theorem remembers_failing (detail : Text) : Remembers (failOrCancel around job detail) := by
  apply remembers_rescue (remembers_concluded around _)
  intro error
  split
  · exact remembers_withoutLease around job
  · exact remembers_raise _

theorem remembers_excepted (error : WorkerError) : Remembers (excepted around job error) := by
  unfold excepted
  split
  · exact remembers_withoutLease around job
  · exact remembers_failing around job _
  · exact remembers_raise _

theorem remembers_boundary : Remembers (safeBoundary around job) := by
  apply remembers_bind (remembers_cancellation around job)
  intro requested
  split
  · exact remembers_pure _
  · apply remembers_bind (remembers_stop around)
    intro stopped
    split <;> exact remembers_pure _

variable (stage : ProvisioningStage)

theorem remembers_heldLease : Remembers (heldLease around job stage) := by
  apply remembers_bind (remembers_consult _ _)
  intro beat
  apply remembers_bind (remembers_ended _)
  intro result
  split
  · exact remembers_raise _
  · exact remembers_pure _

theorem remembers_stage : Remembers (executeStage around job stage) := by
  unfold executeStage
  split
  · exact remembers_bind (remembers_ended _) (fun _ => remembers_bind (remembers_heldLease around job stage)
      (fun _ => remembers_bind (remembers_ended _) (fun _ => remembers_pure _)))
  · exact remembers_heldLease around job stage

theorem remembers_stages (result : HandlerResult) (stages : List ProvisioningStage) :
    Remembers (executeFrom around job result stages) := by
  induction stages generalizing result with
  | nil => exact remembers_pure _
  | cons stage rest ih =>
    apply remembers_bind (remembers_boundary around job)
    intro boundary
    split
    · exact remembers_pure _
    · apply remembers_bind (remembers_stage around job stage)
      intro returned
      split
      · exact remembers_pure _
      · split
        · exact ih returned
        · exact remembers_pure _

theorem remembers_finish (outcome : HandlerExecution) : Remembers (finish around job outcome) := by
  cases outcome with
  | cancellationRequested => exact remembers_cancelling around job
  | stopRequested => exact remembers_pure _
  | completed result =>
    apply remembers_bind (remembers_cancellation around job)
    intro requested
    split
    · exact remembers_cancelling around job
    · apply remembers_bind (remembers_stop around)
      intro stopped
      split
      · exact remembers_pure _
      · exact remembers_bind (remembers_consult _ _) (fun _ => remembers_concluded around _)

end memory

/- The lease stays live: each call finds the job RUNNING for this worker, its lease
unexpired and no cancellation asked for. -/

def Holding (around : Surroundings) (job : ProvisioningJob) (found : QueueTables × Int) : Prop :=
  ∃ row ∈ found.1.jobs, row.jobId = job.jobId ∧ row.liveLease around.workerId found.2 = true ∧
    row.cancellationRequested = false

section serving
variable [Platform] {around : Surroundings} {job : ProvisioningJob}

theorem left_valid (configuration : QueueConfiguration) (calls : List Call) (valid : Valid tables) :
    Valid (leftByOthers configuration tables calls) := by
  induction calls generalizing tables with
  | nil => exact valid
  | cons call calls ih =>
    have ran : call.run configuration tables = ((call.run configuration tables).1,(call.run configuration tables).2) := rfl
    exact ih (call_valid valid ran)

variable {operation : QueueTables → Int → QueueTables × Except ProvisioningQueueError α}

theorem ends_consult {post : Except WorkerError α → Working → Prop}
    (comes : ∀ tables time after, Valid tables → Holding around job (tables,time) →
      after.tables = (operation tables time).1 → post (raised (operation tables time).2) after) :
    Ends (Holding around job) (consult around operation) post :=
  fun s valid keeps => comes _ _ _ (left_valid around.configuration (around.others s.calls) valid)
    (keeps _ List.mem_cons_self) rfl

theorem delivers_consult {post : α → Prop} (answers : ∀ tables time, Valid tables → Holding around job (tables,time) →
      ∃ value, (operation tables time).2 = .ok value ∧ post value ∧ Valid (operation tables time).1) :
    Delivers (Holding around job) (consult around operation) post := by
  apply ends_consult
  intro tables time after valid holding same
  obtain ⟨value,answered,meets,still⟩ := answers tables time valid holding
  exact ⟨value,by rw [answered]; rfl,meets,same ▸ still⟩

theorem delivers_stop (unstopped : ∀ calls, around.stopped calls = false) :
    Delivers (Holding around job) (stopRequested around) (· = false) :=
  fun s valid _ => ⟨_,rfl,unstopped s.calls,valid⟩

theorem delivers_cancellation : Delivers (Holding around job) (cancellationRequested around job) (· = false) := by
  have read : Delivers (Holding around job) (consult around (fun tables _ => (tables,get tables job.jobId)))
      (fun current => current.any ProvisioningJob.cancellationRequested = false) := by
    apply delivers_consult
    intro tables time valid holding
    obtain ⟨row,inside,named,_,clear⟩ := holding
    obtain ⟨goal,held,decoded⟩ := read_member valid inside
    refine ⟨some (row.read goal),?_,by simpa using clear,valid⟩
    simp only [get,← named,select_present valid.distinct inside,decoded,Except.map]
  exact delivers_bind read (fun current clear => delivers_pure clear) (fun _ => remembers_pure _)

theorem heartbeat_committed (checked : boundedMetadata worker = true)
    (ran : heartbeatTransaction configuration before jobId worker timestamp = .ok (after,row))
    (read : jobFromRow row = .ok beat) : heartbeat configuration before jobId worker timestamp = (after,.ok beat) := by
  simp only [heartbeat,requiredMetadata,checked,if_true,committed,ran,read]

theorem heartbeat_total (configuration : QueueConfiguration) (valid : Valid before) (checked : boundedMetadata worker = true)
    (inside : row ∈ before.jobs) (live : row.liveLease worker timestamp = true) :
    ∃ after job, heartbeat configuration before row.jobId worker timestamp = (after,.ok job) := by
  have selects : (Update.heartbeat worker (timestamp + configuration.leaseMs) timestamp).selects row = true := live
  have any : before.jobs.any (selected row.jobId (.heartbeat worker (timestamp + configuration.leaseMs) timestamp)) = true :=
    List.any_eq_true.mpr ⟨row,inside,by simp [selected,selects]⟩
  obtain ⟨goal,held⟩ := valid.stored row inside
  have rewritten := set_holds (.heartbeat worker (timestamp + configuration.leaseMs) timestamp) held
  have ran : heartbeatTransaction configuration before row.jobId worker timestamp =
      .ok (⟨Rows.replace JobRow.jobId
        ((Update.heartbeat worker (timestamp + configuration.leaseMs) timestamp).set row) before.jobs,before.pruned⟩,
        (Update.heartbeat worker (timestamp + configuration.leaseMs) timestamp).set row) := by
    simp only [heartbeatTransaction,updateReturning,any,if_true,bind,Except.bind,execute_row valid.distinct inside,selects,
      read_replaced valid.distinct inside]
  exact ⟨_,_,heartbeat_committed checked ran (read_stored rewritten)⟩

theorem delivers_heartbeat (checked : boundedMetadata around.workerId = true) :
    Delivers (Holding around job) (consult around (fun tables time =>
      heartbeat around.configuration tables job.jobId around.workerId time)) (fun _ => True) := by
  apply delivers_consult
  intro tables time valid holding
  obtain ⟨row,inside,named,live,_⟩ := holding
  obtain ⟨after,beat,ran⟩ := heartbeat_total around.configuration valid checked inside live
  have called : (Call.heartbeat row.jobId around.workerId time).run around.configuration tables = (after,.ok (.job beat)) := by
    simp only [Call.run,answered,ran,Except.map]
  rw [← named,ran]
  exact ⟨beat,rfl,trivial,call_valid valid called⟩

theorem delivers_boundary (unstopped : ∀ calls, around.stopped calls = false) :
    Delivers (Holding around job) (safeBoundary around job) (· = none) := by
  apply delivers_bind delivers_cancellation
  · intro requested clear
    subst clear
    apply delivers_bind (delivers_stop unstopped)
    · intro stopped running
      subst running
      exact delivers_pure rfl
    · intro stopped
      split <;> exact remembers_pure _
  · intro requested
    split
    · exact remembers_pure _
    · apply remembers_bind (remembers_stop around)
      intro stopped
      split <;> exact remembers_pure _

/- Stages that return. -/

structure ProvisioningStage.Returns (stage : ProvisioningStage) (result : HandlerResult) : Prop where
  opened : stage.opened = .ok ()
  executed : stage.executed = .ok result
  beaten : stage.beaten = none
  closed : stage.closed = .ok ()

theorem delivers_heldLease (checked : boundedMetadata around.workerId = true) (returns : stage.Returns result) :
    Delivers (Holding around job) (heldLease around job stage) (· = result) := by
  have remembers : ∀ returned : HandlerResult, Remembers (pure returned : Worker HandlerResult) := fun _ => remembers_pure _
  unfold heldLease
  simp only [returns.beaten]
  apply delivers_bind (delivers_heartbeat checked)
  · intro beat _
    apply delivers_bind (delivers_ended returns.executed) _ remembers
    intro returned same
    subst same
    exact delivers_pure rfl
  · exact fun _ => remembers_bind (remembers_ended _) remembers

theorem delivers_stage (checked : boundedMetadata around.workerId = true) (returns : stage.Returns result) :
    Delivers (Holding around job) (executeStage around job stage) (· = result) := by
  unfold executeStage
  split
  · apply delivers_bind (delivers_ended returns.opened)
    · intro _ _
      apply delivers_bind (delivers_heldLease checked returns)
      · intro returned same
        subst same
        exact delivers_bind (delivers_ended returns.closed) (fun _ _ => delivers_pure rfl) (fun _ => remembers_pure _)
      · exact fun _ => remembers_bind (remembers_ended _) (fun _ => remembers_pure _)
    · exact fun _ => remembers_bind (remembers_heldLease around job stage)
        (fun _ => remembers_bind (remembers_ended _) (fun _ => remembers_pure _))
  · exact delivers_heldLease checked returns

-- What the stages come to: the one that ends the execution decides.
def lastResult (timeout : Nat) (result : HandlerResult) : List ProvisioningStage → HandlerResult
  | [] => result
  | stage :: rest =>
    match stage.executed with
    | .error _ => result
    | .ok returned =>
      if stage.seconds > timeout then failedWithBlocked stageTimeout rest
      else if returned.succeeded then lastResult timeout returned rest
      else failedWithBlocked returned.detail rest

theorem delivers_stages (checked : boundedMetadata around.workerId = true)
    (unstopped : ∀ calls, around.stopped calls = false) (stages : List ProvisioningStage)
    (returns : ∀ stage ∈ stages, ∃ result, stage.Returns result) (result : HandlerResult) :
    Delivers (Holding around job) (executeFrom around job result stages)
      (· = .completed (lastResult around.stageTimeoutSeconds result stages)) := by
  induction stages generalizing result with
  | nil => exact delivers_pure rfl
  | cons stage rest ih =>
    obtain ⟨returned,settled⟩ := returns stage List.mem_cons_self
    have later := ih (fun other inside => returns other (List.mem_cons_of_mem _ inside))
    have remembers : ∀ returned : HandlerResult, Remembers
        (if stage.seconds > around.stageTimeoutSeconds then pure (.completed (failedWithBlocked stageTimeout rest))
        else if returned.succeeded then executeFrom around job returned rest
        else pure (.completed (failedWithBlocked returned.detail rest)) : Worker HandlerExecution) := by
      intro returned
      split
      · exact remembers_pure _
      · split
        · exact remembers_stages around job returned rest
        · exact remembers_pure _
    apply delivers_bind (delivers_boundary unstopped)
    · intro boundary clear
      subst clear
      apply delivers_bind (delivers_stage checked settled) _ remembers
      intro answer same
      subst same
      simp only [lastResult,settled.executed]
      split
      · exact delivers_pure rfl
      · split
        · exact later answer
        · exact delivers_pure rfl
    · intro boundary
      split
      · exact remembers_pure _
      · exact remembers_bind (remembers_stage around job stage) remembers

/- The terminal write. -/

-- The job is SUCCEEDED, FAILED or QUEUED again, and the worker returns.
def Recorded (job : ProvisioningJob) (outcome : Except WorkerError (Option ProvisioningJob)) (after : Working) : Prop :=
  (∃ answer, outcome = .ok answer) ∧ ∃ row ∈ after.tables.jobs, row.jobId = job.jobId ∧
    (row.status = .succeeded ∨ row.status = .failed ∨ row.status = .queued)

-- The worker raises, and the job is RUNNING still.
def LeftRunning (job : ProvisioningJob) (outcome : Except WorkerError (Option ProvisioningJob)) (after : Working) : Prop :=
  (∃ message, outcome = .error (.queue (.validation message))) ∧ ∃ row ∈ after.tables.jobs, row.jobId = job.jobId ∧
    row.status = .running

theorem recordResult_terminalize (result : HandlerResult) (tables : QueueTables) (time : Int) :
    recordResult around job result tables time = terminalize around.configuration tables job.jobId around.workerId
      (if result.succeeded then .succeeded else .failed) result.detail time (!result.succeeded && result.retryable) := by
  unfold recordResult
  cases result.succeeded <;> rfl

theorem record_bounded (checked : boundedMetadata around.workerId = true) (stated : boundedDetail result.detail = true)
    (valid : Valid tables) (holding : Holding around job (tables,time)) :
    ∃ after terminal, recordResult around job result tables time = (after,.ok terminal) ∧
      ∃ row ∈ after.jobs, row.jobId = job.jobId ∧ (row.status = .succeeded ∨ row.status = .failed ∨ row.status = .queued) := by
  obtain ⟨row,inside,named,live,clear⟩ := holding
  generalize chosen : (if result.succeeded then ProvisioningJobStatus.succeeded else .failed) = status
  have terminal : status = .succeeded ∨ status = .failed := by
    rw [← chosen]
    cases result.succeeded <;> simp
  have accepted : ∃ stored, terminalDetail status result.detail = .ok stored := by
    rcases terminal with rfl | rfl <;> simp [terminalDetail,detail,stated,Except.map]
  obtain ⟨⟨stored,error⟩,accepted⟩ := accepted
  have flagged : row.cancellationRequested = (status == .cancelled) := by
    rcases terminal with rfl | rfl <;> exact clear
  obtain ⟨after,written,ran⟩ := terminalize_total around.configuration (!result.succeeded && result.retryable) valid
    checked accepted inside live flagged
  rw [named] at ran
  obtain ⟨next,present,same,goal,rfl⟩ := terminalize_row valid ran
  refine ⟨after,_,by rw [recordResult_terminalize,chosen,ran],next,present,same,?_⟩
  rcases terminalize_performs valid ran with ⟨_,_,refused⟩ | ⟨_,_,_,_,answered,_,ended⟩
  · cases refused
  · cases answered
    rcases ended with ⟨ended,_⟩ | ⟨again,_⟩
    · rw [JobRow.read_status] at ended
      rcases terminal with rfl | rfl
      · exact .inl ended
      · exact .inr (.inl ended)
    · exact .inr (.inr again)

theorem record_unbounded (checked : boundedMetadata around.workerId = true) (stated : boundedDetail result.detail = false)
    (tables : QueueTables) (time : Int) :
    ∃ message, recordResult around job result tables time = (tables,.error (.validation message)) := by
  have refused : ∃ message, terminalDetail (if result.succeeded then .succeeded else .failed) result.detail =
      .error (.validation message) := by
    cases result.succeeded <;> exact ⟨_,by simp [terminalDetail,detail,stated,Except.map]; rfl⟩
  obtain ⟨message,refused⟩ := refused
  refine ⟨message,?_⟩
  rw [recordResult_terminalize]
  simp only [terminalize,requiredMetadata,checked,if_true,refused,bind,Except.bind]

omit [Platform] in
theorem trigger_answers (answers : ∀ terminal, around.triggered terminal = .ok ()) (terminal : ProvisioningJob) (s : Working) :
    triggerFinalization around terminal s = (.ok (),s) := by
  unfold triggerFinalization
  split
  · simp [Worker.ended,answers]
  · rfl

theorem ends_concluded
    {post : Except WorkerError ProvisioningJob → Working → Prop} (answers : ∀ terminal, around.triggered terminal = .ok ())
    (written : Ends (Holding around job) (consult around write) post) :
    Ends (Holding around job) (concluded around write) (fun outcome after => ∃ wrote, post wrote after ∧
      outcome = wrote.map some) := by
  intro s valid keeps
  have remembers : ∀ terminal, Remembers (do triggerFinalization around terminal; pure (some terminal)) :=
    fun terminal => remembers_bind (remembers_trigger around terminal) (fun _ => remembers_pure _)
  have met := written s valid (keeps_first remembers keeps)
  cases outcome : (consult around write s).1 with
  | error error =>
    have ran : concluded around write s = (.error error,(consult around write s).2) := bind_raised (Prod.ext outcome rfl)
    rw [ran]
    exact ⟨_,outcome ▸ met,rfl⟩
  | ok terminal =>
    have ran : concluded around write s = (.ok (some terminal),(consult around write s).2) := by
      rw [concluded,bind_answered (Prod.ext outcome rfl),bind_answered (trigger_answers answers terminal _)]
      rfl
    rw [ran]
    exact ⟨_,outcome ▸ met,rfl⟩

theorem ends_recorded (checked : boundedMetadata around.workerId = true) (answers : ∀ terminal, around.triggered terminal = .ok ())
    (stated : boundedDetail result.detail = true) :
    Ends (Holding around job) (concluded around (recordResult around job result)) (Recorded job) := by
  have written : Ends (Holding around job) (consult around (recordResult around job result)) (fun outcome after =>
      (∃ terminal, outcome = .ok terminal) ∧ ∃ row ∈ after.tables.jobs, row.jobId = job.jobId ∧
        (row.status = .succeeded ∨ row.status = .failed ∨ row.status = .queued)) := by
    apply ends_consult
    intro tables time after valid holding same
    obtain ⟨left,terminal,ran,settled⟩ := record_bounded checked stated valid holding
    rw [ran] at same ⊢
    exact ⟨⟨terminal,rfl⟩,same ▸ settled⟩
  intro s valid keeps
  obtain ⟨wrote,⟨⟨terminal,rfl⟩,settled⟩,outcome⟩ := ends_concluded answers written s valid keeps
  exact ⟨⟨_,outcome⟩,settled⟩

theorem ends_leftRunning (checked : boundedMetadata around.workerId = true) (answers : ∀ terminal, around.triggered terminal = .ok ())
    (stated : boundedDetail result.detail = false) :
    Ends (Holding around job) (concluded around (recordResult around job result)) (LeftRunning job) := by
  have written : Ends (Holding around job) (consult around (recordResult around job result)) (fun outcome after =>
      (∃ message, outcome = .error (.queue (.validation message))) ∧ ∃ row ∈ after.tables.jobs, row.jobId = job.jobId ∧
        row.status = .running) := by
    apply ends_consult
    intro tables time after valid holding same
    obtain ⟨message,ran⟩ := record_unbounded checked stated tables time
    obtain ⟨row,inside,named,live,_⟩ := holding
    simp only [JobRow.liveLease,Bool.and_eq_true,beq_iff_eq] at live
    rw [ran] at same ⊢
    exact ⟨⟨message,rfl⟩,row,same ▸ inside,named,live.1.1⟩
  intro s valid keeps
  obtain ⟨wrote,⟨⟨message,rfl⟩,running⟩,outcome⟩ := ends_concluded answers written s valid keeps
  exact ⟨⟨message,outcome⟩,running⟩

variable {post : Except WorkerError (Option ProvisioningJob) → Working → Prop}

theorem ends_finish (checked : boundedMetadata around.workerId = true) (unstopped : ∀ calls, around.stopped calls = false)
    (written : Ends (Holding around job) (concluded around (recordResult around job result)) post) :
    Ends (Holding around job) (finish around job (.completed result)) post := by
  have beaten : Ends (Holding around job) (do
      let _ ← consult around (fun tables time => heartbeat around.configuration tables job.jobId around.workerId time)
      concluded around (recordResult around job result)) post :=
    ends_bind (delivers_heartbeat checked) (fun _ _ => written) (fun _ => remembers_concluded around _)
  have remembers : ∀ stopped : Bool, Remembers (if stopped then pure none else do
      let _ ← consult around (fun tables time => heartbeat around.configuration tables job.jobId around.workerId time)
      concluded around (recordResult around job result) : Worker (Option ProvisioningJob)) := by
    intro stopped
    split
    · exact remembers_pure _
    · exact remembers_bind (remembers_consult _ _) (fun _ => remembers_concluded around _)
  refine ends_bind delivers_cancellation ?_ ?_
  · intro requested clear
    subst clear
    refine ends_bind (delivers_stop unstopped) ?_ remembers
    intro stopped running
    subst running
    exact beaten
  · intro requested
    split
    · exact remembers_cancelling around job
    · exact remembers_bind (remembers_stop around) remembers

-- A handled job ends the way the terminal write of its last result does, unless
-- the worker answers what that write raises.
theorem ends_handled {handler : ProvisioningGoalHandler} (found : handlerFor around.handlers (goalType job.goal) = some handler)
    (checked : boundedMetadata around.workerId = true) (unstopped : ∀ calls, around.stopped calls = false)
    (returns : ∀ stage ∈ handler.stages job.goal, ∃ result, stage.Returns result)
    (written : Ends (Holding around job) (concluded around (recordResult around job
      (lastResult around.stageTimeoutSeconds ⟨false,noHandlerStages,false⟩ (handler.stages job.goal)))) post)
    (through : ∀ outcome after, post outcome after → ∀ error, outcome = .error error →
      excepted around job error after = (.error error,after)) : Ends (Holding around job) (processClaimed around job) post := by
  have executed : Ends (Holding around job) (do
      let outcome ← executeHandlerStages around job handler
      finish around job outcome) post := by
    refine ends_bind (delivers_stages checked unstopped _ returns _) ?_ ?_
    · intro outcome same
      subst same
      exact ends_finish checked unstopped written
    · exact remembers_finish around job
  have answered := ends_rescue executed through (remembers_excepted around job)
  unfold processClaimed
  rw [found]
  refine ends_bind delivers_cancellation ?_ ?_
  · intro requested clear
    subst clear
    exact answered
  · intro requested
    split
    · exact remembers_cancelling around job
    · exact remembers_rescue (remembers_bind (remembers_stages around job _ _) (remembers_finish around job))
        (remembers_excepted around job)

theorem ends_unhandled (absent : handlerFor around.handlers (goalType job.goal) = none)
    (checked : boundedMetadata around.workerId = true) (answers : ∀ terminal, around.triggered terminal = .ok ()) :
    Ends (Holding around job) (processClaimed around job) (Recorded job) := by
  have written : Ends (Holding around job) (concluded around (recordResult around job ⟨false,unsupportedGoalHandler,false⟩))
      (Recorded job) := ends_recorded checked answers (by decide)
  unfold processClaimed
  rw [absent]
  refine ends_rescue written ?_ ?_
  · intro outcome after recorded error raised
    obtain ⟨⟨answer,same⟩,_⟩ := recorded
    rw [same] at raised
    cases raised
  · intro error
    split
    · exact remembers_withoutLease around job
    · exact remembers_raise _

end serving
end OpenStock.Queue
