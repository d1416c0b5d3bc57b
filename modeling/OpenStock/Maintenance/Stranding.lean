import OpenStock.Maintenance.RunState

namespace OpenStock.Maintenance
open Text Calendar Queue

/- Who submits the finalization of a run whose acquisition is over: the process
that ended its last job, unless that job ended without one. -/

-- The process will still reach the finalization of the run.
def Process.Awaits (warehouse : Warehouse) (runId : MaintenanceRunId) : Process → Prop
  | .triggering jobId => ∃ row ∈ warehouse.acquisitionJobs runId, row.jobId = some jobId
  | .finalizing runIds => runId ∈ runIds
  | .committing other _ _ rest => other = runId ∨ runId ∈ rest
  | _ => False

def World.Handled (world : World) (runId : MaintenanceRunId) : Prop :=
  finalizationMappings world.warehouse runId ≠ [] ∨ ∃ process, (world.processes process).Awaits world.warehouse runId

-- The runs a process has on its list.
def Process.lists : Process → List MaintenanceRunId
  | .finalizing runIds => runIds
  | .committing runId _ _ rest => runId :: rest
  | _ => []

section silent
variable [Platform]

-- Every expected goal is mapped to a job that is over, or that `ends` picks.
def AcquiredWith (warehouse : Warehouse) (queue : QueueTables) (ends : JobRow → Prop) (run : RunRow) : Prop :=
  ∀ goal ∈ run.expectedGoals, ∃ row ∈ warehouse.runJobs, row.key = (run.runId,goalIdentity goal.val) ∧
    ∃ jobId, row.jobId = some jobId ∧
      ∃ job ∈ queue.jobs, job.jobId = jobId ∧ (job.status.isTerminal = true ∨ ends job)

-- The same with one unmapped goal of the run mapped to a job.
def AcquiredBy (warehouse : Warehouse) (queue : QueueTables) (identity : Text) (jobId : ProvisioningJobId) (run : RunRow) :
    Prop :=
  ∀ goal ∈ run.expectedGoals, ∃ row ∈ warehouse.runJobs, row.key = (run.runId,goalIdentity goal.val) ∧
    ((∃ other, row.jobId = some other ∧ Finished queue other) ∨
      row.jobId = none ∧ row.goalIdentity = identity ∧ Finished queue jobId)

-- The steps no trigger follows: a recovered lease, a cancelled QUEUED job and a
-- mapping do not end the acquisition of a run that nobody will finalize.
def World.Announced (configuration : QueueConfiguration) (world : World) : Action → Prop
  | .persist _ plan => ∀ run, plan.prepare = .ok run → run.expectedGoals ≠ []
  | .map process => ∀ scope goal rest jobId, world.processes process = .mapping scope goal rest jobId →
      ∀ run ∈ world.warehouse.runs, run.runId = scope.runId →
        AcquiredBy world.warehouse world.queue (goalIdentity goal.val) jobId run → world.Handled run.runId
  | .claim _ worker timestamp => ∀ run ∈ world.warehouse.runs,
      AcquiredWith world.warehouse world.queue (Call.Ends configuration (.claim worker timestamp)) run →
        world.Handled run.runId
  | .requeue timestamp => ∀ run ∈ world.warehouse.runs,
      AcquiredWith world.warehouse world.queue (Call.Ends configuration (.requeueExpired timestamp)) run →
        world.Handled run.runId
  | .cancel jobId timestamp => ∀ run ∈ world.warehouse.runs,
      AcquiredWith world.warehouse world.queue (Call.Ends configuration (.cancel jobId timestamp)) run →
        world.Handled run.runId
  | .crash _ => False
  | _ => True

def AnnouncedStep (configuration : QueueConfiguration) (_history : List Action) (before : World) (action : Action)
    (after : World) : Prop := before.Announced configuration action ∧ before.next configuration action = some after

structure Attended (world : World) : Prop where
  consistent : Consistent world
  ordered : Ordered world
  known : ∀ process, ∀ runId ∈ (world.processes process).lists, ∃ run ∈ world.warehouse.runs, run.runId = runId
  unmapped : ∀ process runId, (world.processes process).commits = some runId →
    finalizationMappings world.warehouse runId = []
  handled : ∀ run ∈ world.warehouse.runs, Acquired world.warehouse world.queue run → world.Handled run.runId

end silent

section waiting
variable {runId : MaintenanceRunId} {warehouse grown : Warehouse} {world after : World} {later : RunRow}

/- Listed runs are known. -/

theorem recoverableRuns_known (inside : runId ∈ recoverableRuns warehouse wanted) :
    ∃ run ∈ warehouse.runs, run.runId = runId := by
  obtain ⟨run,member,named⟩ := List.mem_map.mp ((List.perm_insertionSort _ _).mem_iff.mp inside)
  exact ⟨run,(List.mem_filter.mp member).1,named⟩

theorem mem_affectedRuns : runId ∈ affectedRuns warehouse jobId ↔
    ∃ row ∈ warehouse.acquisitionJobs runId, row.jobId = some jobId := by
  rw [affectedRuns,List.mem_dedup,List.mem_map]
  constructor
  · rintro ⟨row,inside,owner⟩
    obtain ⟨listed,met⟩ := List.mem_filter.mp inside
    rw [Bool.and_eq_true,beq_iff_eq,bne_iff_ne] at met
    exact ⟨row,mem_acquisitionJobs.mpr ⟨listed,owner,met.2⟩,met.1⟩
  · rintro ⟨row,inside,mapped⟩
    obtain ⟨listed,owner,kind⟩ := mem_acquisitionJobs.mp inside
    refine ⟨row,List.mem_filter.mpr ⟨listed,?_⟩,owner⟩
    rw [Bool.and_eq_true,beq_iff_eq,bne_iff_ne]
    exact ⟨mapped,kind⟩

variable (runIds : List MaintenanceRunId)

theorem afterRuns_lists : (World.afterRuns runIds).lists = runIds := by
  cases runIds <;> rfl

theorem afterRuns_awaits : (World.afterRuns runIds).Awaits warehouse runId ↔ runId ∈ runIds := by
  cases runIds with
  | nil => exact ⟨fun impossible => impossible.elim,fun inside => by cases inside⟩
  | cons first rest => exact Iff.rfl

/- Mappings and waiting processes stay. -/

theorem mappings_later (extends_ : Extends warehouse grown) (mapped : finalizationMappings warehouse runId ≠ []) :
    finalizationMappings grown runId ≠ [] := by
  obtain ⟨row,inside⟩ := List.exists_mem_of_ne_nil _ mapped
  obtain ⟨listed,owner,kind⟩ := mem_mappings.mp inside
  obtain ⟨kept,there,key,sameKind,_⟩ := extends_.jobs row listed
  have still : kept ∈ finalizationMappings grown runId :=
    mem_mappings.mpr ⟨there,(congrArg Prod.fst key).trans owner,sameKind.trans kind⟩
  exact List.ne_nil_of_mem still

variable {process : Process}

theorem awaits_later (extends_ : Extends warehouse grown) (awaits : process.Awaits warehouse runId) :
    process.Awaits grown runId := by
  cases process with
  | triggering jobId =>
    obtain ⟨row,inside,mapped⟩ := awaits
    obtain ⟨listed,owner,kind⟩ := mem_acquisitionJobs.mp inside
    obtain ⟨kept,there,key,sameKind,jobs⟩ := extends_.jobs row listed
    exact ⟨kept,mem_acquisitionJobs.mpr ⟨there,(congrArg Prod.fst key).trans owner,sameKind ▸ kind⟩,jobs jobId mapped⟩
  | _ => exact awaits

theorem updated_back (kept : ∀ row : RunRow, row.SameScope (change row))
    (inside : later ∈ (warehouse.updateRun runId change).runs) : ∃ run ∈ warehouse.runs, run.SameScope later := by
  obtain ⟨run,member,rfl⟩ := mem_updateRun inside
  exact ⟨run,member,updated_scope kept run⟩

theorem produces_awaits (produces : process.produces = true) : process.Awaits warehouse runId = False := by
  cases process <;> first | rfl | cases produces

theorem produces_lists (produces : process.produces = true) : process.lists = [] := by
  cases process <;> first | rfl | cases produces

theorem setStatus_back (inside : later ∈ (warehouse.setStatus runId status).runs) :
    ∃ run ∈ warehouse.runs, run.SameScope later := by
  have kept : ∀ row : RunRow, row.SameScope {row with status := status} := fun _ => ⟨rfl,rfl,rfl,rfl,rfl,rfl,rfl⟩
  exact updated_back kept inside

theorem handled_moved (extends_ : Extends world.warehouse after.warehouse) (handled : world.Handled runId)
    (moved : ∀ process, (world.processes process).Awaits after.warehouse runId →
      (after.processes process).Awaits after.warehouse runId ∨ finalizationMappings after.warehouse runId ≠ []) :
    after.Handled runId := by
  rcases handled with mapped | ⟨process,awaits⟩
  · exact .inl (mappings_later extends_ mapped)
  · exact (moved process (awaits_later extends_ awaits)).symm.imp id (fun still => ⟨process,still⟩)

theorem put_awaits {process : Nat}
    (moved : (world.processes process).Awaits warehouse runId → next.Awaits warehouse runId ∨ mapped) (other : Nat)
    (awaits : (world.processes other).Awaits warehouse runId) :
    (Function.update world.processes process next other).Awaits warehouse runId ∨ mapped := by
  by_cases same : other = process
  · subst same
    rw [Function.update_self]
    exact moved awaits
  · rw [Function.update_of_ne same]
    exact .inl awaits

theorem ending_ends (configuration : QueueConfiguration) (ending : Ending) (jobId : ProvisioningJobId) (worker : Text) (timestamp : Int) (job : JobRow) :
    Call.Ends configuration (ending.call jobId worker timestamp) job ↔ job.jobId = jobId := by
  cases ending <;> exact Iff.rfl

end waiting

section trigger
variable [Platform] {world : World} {run : RunRow} {warehouse : Warehouse} {queue : QueueTables}

/- The trigger of a listed run does not fail. -/

theorem decision_ready (sound : LedgerSound warehouse) (valid : Valid queue) (known : run ∈ warehouse.runs)
    (acquired : Acquired warehouse queue run) (unmapped : finalizationMappings warehouse run.runId = [])
    (decided : maybeSubmitSessionFinalization warehouse queue run.runId priority correlationId timestamp uuid =
      (after,.ok decision)) : ∃ goal submission, decision = .submitted goal submission := by
  obtain ⟨ready,tested,iff⟩ := acquisitionFinished_total sound valid known
  rw [iff.mpr acquired] at tested
  have none : (warehouse.finalizationJob run.runId).bind RunJobRow.jobId = none := by
    refine (finalizationJob_none sound).mpr (fun row inside owner kind => ?_)
    have listed := mem_mappings.mpr ⟨inside,owner,kind⟩
    rw [unmapped] at listed
    cases listed
  simp only [maybeSubmitSessionFinalization,selectRun_member sound known,tested,none,mkFinalizationGoal_ok] at decided
  obtain ⟨reply,_,⟨_,_,impossible⟩ | ⟨submission,_,answer⟩⟩ := submitFinalization_cases decided
  · cases impossible
  · exact ⟨_,submission,Except.ok.inj answer⟩

theorem decision_total (consistent : Consistent world) (known : run ∈ world.warehouse.runs)
    (bounded : boundedMetadata correlationId = true) (unused : world.fresh uuid = true) :
    ∃ decision, (maybeSubmitSessionFinalization world.warehouse world.queue run.runId 0 correlationId timestamp uuid).2 =
      .ok decision := by
  have fresh : ∀ row ∈ world.queue.jobs, row.jobId ≠ uuid := by
    intro row inside
    simpa using List.all_eq_true.mp unused row inside
  obtain ⟨ready,tested,_⟩ := acquisitionFinished_total consistent.ledger consistent.queue known
  unfold maybeSubmitSessionFinalization
  rw [selectRun_member consistent.ledger known]
  dsimp only
  rw [tested]
  cases ready with
  | false => exact ⟨.acquiring,rfl⟩
  | true =>
    dsimp only
    split
    · exact ⟨_,rfl⟩
    · have accepted : submission (.finalizeMarketSession run.finalizationGoal) 0 (some finalizationOrigin)
          (some correlationId) = .ok (.finalizeMarketSession run.finalizationGoal,0,some finalizationOrigin,
            some correlationId) := by
        have origin : boundedMetadata finalizationOrigin = true := by decide
        simp only [submission,validatedGoal_goal,validatedPriority,metadata,requiredMetadata,origin,bounded,if_true,
          Except.map,bind,Except.bind]
        rfl
      obtain ⟨tables,result,ran⟩ : ∃ tables result, submitOrJoin world.queue (.finalizeMarketSession run.finalizationGoal) 0
          (some finalizationOrigin) (some correlationId) timestamp uuid = (tables,.ok result) :=
        submitOrJoin_total _ consistent.queue accepted fresh
      rw [mkFinalizationGoal_ok]
      dsimp only
      unfold submitFinalization
      rw [ran]
      exact ⟨.submitted run.finalizationGoal result,rfl⟩

-- Without collisions only a FINALIZE row has the identity of one.
theorem keyed_mapped (collisionFree : Function.Injective Platform.hexdigest) (sound : LedgerSound warehouse)
    (known : run ∈ warehouse.runs) (keyed : Keyed warehouse run) : finalizationMappings warehouse run.runId ≠ [] := by
  obtain ⟨row,inside,key⟩ := keyed
  have owner : row.maintenanceRunId = run.runId := congrArg Prod.fst key
  have identity : row.goalIdentity = finalIdentity run := congrArg Prod.snd key
  by_cases kind : row.goalType = .finalizeMarketSession
  · exact List.ne_nil_of_mem (mem_mappings.mpr ⟨inside,owner,kind⟩)
  · have listed : row.goalIdentity ∈ (warehouse.acquisitionJobs run.runId).map RunJobRow.goalIdentity :=
      List.mem_map_of_mem (mem_acquisitionJobs.mpr ⟨inside,owner,kind⟩)
    rw [sound.frozen run known,identity] at listed
    obtain ⟨goal,_,same⟩ := List.mem_map.mp listed
    have equal := (identity_iff collisionFree _ _).mp same
    exact absurd (by rw [equal]; rfl) goal.property

end trigger

section steps
variable [Platform] {configuration : QueueConfiguration} {world after : World} {action : Action} {run later : RunRow}
  {warehouse grown : Warehouse} {before queue : QueueTables}

/- Acquisition, looked at from before a step. -/

theorem acquired_back (valid : Valid before) (ran : Call.run configuration before call = (queue,reply))
    (acquired : Acquired warehouse queue run) : AcquiredWith warehouse before (Call.Ends configuration call) run := by
  intro goal expected
  obtain ⟨row,inside,keyed,jobId,mapped,next,listed,named,ended⟩ := acquired goal expected
  rcases call_traced valid ran listed with ⟨old,present,follows,terminal⟩ | ⟨_,_,_,_,_,_,_,rfl⟩
  · exact ⟨row,inside,keyed,jobId,mapped,old,present,follows.jobId.symm.trans named,terminal ended⟩
  · cases ended

theorem acquiredWith_none (silent : ∀ job, ¬ ends job)
    (acquired : AcquiredWith warehouse queue ends run) : Acquired warehouse queue run := by
  intro goal expected
  obtain ⟨row,inside,keyed,jobId,mapped,job,present,named,ended⟩ := acquired goal expected
  exact ⟨row,inside,keyed,jobId,mapped,job,present,named,ended.resolve_right (silent job)⟩

theorem acquired_scope (jobs : grown.runJobs = warehouse.runJobs) (same : run.SameScope later)
    (acquired : Acquired grown queue later) : Acquired warehouse queue run := by
  intro goal expected
  obtain ⟨row,inside,keyed,found⟩ := acquired goal (same.expectedGoals ▸ expected)
  exact ⟨row,jobs ▸ inside,by rw [keyed,same.runId],found⟩

-- A new run waits for its first goal, and takes no row of another run.
theorem persisted_back (sound : LedgerSound warehouse) (stored : persistRun warehouse run = some grown)
    (planned : run.expectedGoals ≠ []) (inside : later ∈ grown.runs) (acquired : Acquired grown queue later) :
    later ∈ warehouse.runs ∧ Acquired warehouse queue later := by
  obtain ⟨fresh,runs,jobs,distinct⟩ := persistRun_ok sound stored
  have earlier : later ∈ warehouse.runs := by
    rw [runs] at inside
    rcases List.mem_append.mp inside with earlier | new
    · exact earlier
    · rw [List.mem_singleton.mp new] at acquired
      obtain ⟨goal,expected⟩ := List.exists_mem_of_ne_nil _ planned
      obtain ⟨row,member,keyed,jobId,mapped,_⟩ := acquired goal expected
      have unmapped : plannedJob run.runId goal ∈ grown.runJobs := by
        rw [jobs]
        exact List.mem_append_right _ (List.mem_map_of_mem expected)
      cases Rows.same_row distinct member unmapped keyed
      cases mapped
  refine ⟨earlier,fun goal expected => ?_⟩
  obtain ⟨row,member,keyed,found⟩ := acquired goal expected
  rw [jobs] at member
  rcases List.mem_append.mp member with old | new
  · exact ⟨row,old,keyed,found⟩
  · obtain ⟨other,_,rfl⟩ := List.mem_map.mp new
    exact absurd (congrArg Prod.fst keyed).symm (fresh later earlier)

variable {runId : MaintenanceRunId} {identity : Text}

theorem mapped_back (acquired : Acquired (warehouse.mapJob runId identity jobId) queue run) :
    AcquiredBy warehouse queue identity jobId run := by
  obtain ⟨edit,rows,edited⟩ := mapJob_rows warehouse runId identity jobId
  intro goal expected
  obtain ⟨row,inside,keyed,other,mapped,finished⟩ := acquired goal expected
  rw [rows] at inside
  obtain ⟨old,member,rfl⟩ := List.mem_map.mp inside
  refine ⟨old,member,(edited old).1.symm.trans keyed,?_⟩
  rcases (edited old).2.2 with same | ⟨_,named,unmapped,filled⟩
  · rw [same] at mapped
    exact .inl ⟨other,mapped,finished⟩
  · rw [filled] at mapped
    cases mapped
    exact .inr ⟨unmapped,named,finished⟩

theorem mapped_other (other : run.runId ≠ runId)
    (acquired : Acquired (warehouse.mapJob runId identity jobId) queue run) : Acquired warehouse queue run := by
  obtain ⟨edit,rows,edited⟩ := mapJob_rows warehouse runId identity jobId
  intro goal expected
  obtain ⟨row,inside,keyed,found⟩ := acquired goal expected
  rw [rows] at inside
  obtain ⟨old,member,rfl⟩ := List.mem_map.mp inside
  have key := (edited old).1.symm.trans keyed
  rcases (edited old).2.2 with same | ⟨owner,_⟩
  · exact ⟨old,member,key,same ▸ found⟩
  · exact absurd ((congrArg Prod.fst key).symm.trans owner) other

theorem committed_back (sound : LedgerSound warehouse) (known : run ∈ warehouse.runs)
    (stored : commitFinalization warehouse run.runId run.finalizationGoal jobId = some grown) (inside : later ∈ grown.runs)
    (acquired : Acquired grown queue later) :
    ∃ owner ∈ warehouse.runs, owner.SameScope later ∧ Acquired warehouse queue owner := by
  have still := (commit_sound sound known stored).1
  obtain ⟨middle,inserted,rfl⟩ := commit_ok stored
  obtain ⟨rfl,_⟩ := insertRunJob_ok inserted
  obtain ⟨owner,member,same⟩ := setStatus_back inside
  refine ⟨owner,member,same,(acquired_iff sound member).mpr (fun row listed => ?_)⟩
  obtain ⟨there,named,kind⟩ := mem_acquisitionJobs.mp listed
  exact (acquired_iff still inside).mp acquired row
    (mem_acquisitionJobs.mpr ⟨List.mem_append_left _ there,named.trans same.runId.symm,kind⟩)

theorem committed_mapped
    (stored : commitFinalization warehouse runId goal jobId = some grown) : finalizationMappings grown runId ≠ [] := by
  obtain ⟨middle,inserted,rfl⟩ := commit_ok stored
  obtain ⟨rfl,_⟩ := insertRunJob_ok inserted
  exact List.ne_nil_of_mem (mem_mappings.mpr ⟨List.mem_append_right _ (List.mem_singleton.mpr rfl),rfl,rfl⟩)

/- One step. -/

theorem calls_ends (calls : world.calls action call) (ran : call.run configuration before = (queue,reply))
    (valid : Valid before) (unended : ∀ job, (∃ process ending timestamp, action = .finish process ending timestamp) →
      reply ≠ .ok (.job job)) : queue = before ∨ (∀ job, ¬ Call.Ends configuration call job) ∨
    (∃ process worker timestamp, action = .claim process worker timestamp ∧ call = .claim worker timestamp) ∨
    (∃ timestamp, action = .requeue timestamp ∧ call = .requeueExpired timestamp) ∨
    ∃ jobId timestamp, action = .cancel jobId timestamp ∧ call = .cancel jobId timestamp := by
  cases action with
  | claim process worker timestamp =>
    cases calls
    exact .inr (.inr (.inl ⟨_,_,_,rfl,rfl⟩))
  | heartbeat process timestamp =>
    obtain ⟨_,_,_,rfl⟩ := calls
    exact .inr (.inl (fun _ => id))
  | finish process ending timestamp =>
    obtain ⟨worker,job,stages,_,rfl⟩ := calls
    cases reply with
    | error refused => exact .inl (call_refused valid ran)
    | ok outcome =>
      obtain ⟨writes,_,performed⟩ := run_performs valid _ ran
      have answered : ∃ job, outcome = .job job := by
        cases ending <;> cases performed <;> exact ⟨_,rfl⟩
      obtain ⟨job,rfl⟩ := answered
      exact absurd rfl (unended job ⟨_,_,_,rfl⟩)
  | request goal priority origin correlationId timestamp uuid =>
    cases calls
    exact .inr (.inl (fun _ => id))
  | cancel jobId timestamp =>
    cases calls
    exact .inr (.inr (.inr (.inr ⟨_,_,rfl,rfl⟩)))
  | requeue timestamp =>
    cases calls
    exact .inr (.inr (.inr (.inl ⟨_,rfl,rfl⟩)))
  | _ => cases calls

variable {last : ProvisioningJob} {ending : Ending}

theorem ending_row (valid : Valid before)
    (ran : (ending.call jobId worker timestamp).run configuration before = (queue,.ok (.job last))) :
    ∃ row ∈ queue.jobs, row.jobId = jobId ∧ ∃ goal, last = row.read goal := by
  have terminal : ∀ {status value retryable}, answered .job (terminalize configuration before jobId worker status value
      timestamp retryable) = (queue,.ok (.job last)) → ∃ row ∈ queue.jobs, row.jobId = jobId ∧ ∃ goal, last = row.read goal := by
    intro status value retryable ran
    obtain ⟨rfl,answer⟩ := answered_cases ran
    cases result : (terminalize configuration before jobId worker status value timestamp retryable).2 with
    | error refused =>
      rw [result] at answer
      cases answer
    | ok found =>
      rw [result] at answer
      cases answer
      exact terminalize_row valid (Prod.ext rfl result)
  cases ending <;> exact terminal ran

-- The last job of a run leaves its worker at the trigger.
theorem ended_back (consistent : Consistent world)
    (ran : (ending.call jobId worker timestamp).run configuration world.queue = (queue,.ok (.job last)))
    (known : run ∈ world.warehouse.runs) (acquired : Acquired world.warehouse queue run) :
    Acquired world.warehouse world.queue run ∨ (last.isTerminal = true ∧
      ∃ row ∈ world.warehouse.acquisitionJobs run.runId, row.jobId = some last.jobId) := by
  obtain ⟨stored,listed,named,goal,shape⟩ := ending_row consistent.queue ran
  have still := call_valid consistent.queue ran
  have before := acquired_back consistent.queue ran acquired
  by_cases already : Acquired world.warehouse world.queue run
  · exact .inl already
  · right
    rw [acquired_iff consistent.ledger known] at already acquired
    push Not at already
    obtain ⟨row,inside,unfinished⟩ := already
    obtain ⟨other,mapped,next,present,job,terminal⟩ := acquired row inside
    have last_job : other = jobId := by
      rcases call_traced consistent.queue ran present with ⟨old,member,follows,ended⟩ | ⟨_,_,_,_,_,_,_,rfl⟩
      · rcases ended terminal with over_ | ends
        · exact absurd ⟨old,member,follows.jobId.symm.trans job,over_⟩ (unfinished other mapped)
        · rw [← job,follows.jobId]
          exact (ending_ends _ _ _ _ _ _).mp ends
      · cases terminal
    subst last_job
    have same := Rows.same_row still.distinct present listed (job.trans named.symm)
    subst same
    refine ⟨by rw [shape]; exact terminal,row,inside,?_⟩
    rw [mapped,shape,JobRow.read_jobId,job]

theorem acquisition_back (attended : Attended world) (announced : world.Announced configuration action)
    (moved : Transition configuration world action after) (inside : later ∈ after.warehouse.runs)
    (acquired : Acquired after.warehouse after.queue later) :
    (∃ run ∈ world.warehouse.runs, run.SameScope later ∧ world.Handled run.runId) ∨ after.Handled later.runId := by
  have consistent := attended.consistent
  -- a run already acquired before the step
  have already : ∀ run ∈ world.warehouse.runs, run.SameScope later → Acquired world.warehouse world.queue run →
      ∃ run ∈ world.warehouse.runs, run.SameScope later ∧ world.Handled run.runId :=
    fun run known same acquired => ⟨run,known,same,attended.handled run known acquired⟩
  -- a call that ends no job
  have quiet : ∀ {call : Call} {queue reply}, Call.run configuration world.queue call = (queue,reply) →
      (∀ job, ¬ Call.Ends configuration call job) → ∀ {run}, Acquired world.warehouse queue run →
        Acquired world.warehouse world.queue run := by
    intro call queue reply ran silent run acquired
    exact acquiredWith_none silent (acquired_back consistent.queue ran acquired)
  cases moved with
  | persisted idle free prepared stored =>
    obtain ⟨known,earlier⟩ := persisted_back consistent.ledger stored (announced _ prepared) inside acquired
    exact .inl (already later known (.refl later) earlier)
  | produced now produces | abandoned now | affected now free | recovered now =>
    exact .inl (already later inside (.refl later) acquired)
  | arrived free =>
    exact .inl (already later inside (.refl later) (acquired_scope rfl (.refl later) acquired))
  | submitted now ran produces => exact .inl (already later inside (.refl later) (quiet ran (fun _ => id) acquired))
  | @mapped _ scope _ _ _ now free =>
    by_cases owner : later.runId = scope.runId
    · exact .inl ⟨later,inside,.refl later,announced _ _ _ _ now later inside owner (mapped_back acquired)⟩
    · exact .inl (already later inside (.refl later) (mapped_other owner acquired))
  | settled now free =>
    obtain ⟨run,known,same⟩ := setStatus_back inside
    exact .inl (already run known same (acquired_scope rfl same acquired))
  | claimed idle ran =>
    exact .inl ⟨later,inside,.refl later,announced later inside (acquired_back consistent.queue ran acquired)⟩
  | called calls ran unended =>
    rcases calls_ends calls ran consistent.queue unended with same | silent | ⟨_,_,_,rfl,rfl⟩ | ⟨_,rfl,rfl⟩ | ⟨_,_,rfl,rfl⟩
    · exact .inl (already later inside (.refl later) (same ▸ acquired))
    · exact .inl (already later inside (.refl later) (quiet ran silent acquired))
    all_goals exact .inl ⟨later,inside,.refl later,announced later inside (acquired_back consistent.queue ran acquired)⟩
  | staged now free ran kind executed =>
    obtain ⟨scope,_,⟨rfl,_⟩ | ⟨_,_,done,_⟩⟩ := execute_ok executed
    · exact .inl (already later inside (.refl later) (quiet ran (fun _ => id) acquired))
    · obtain ⟨change,edited,runs⟩ := done.runs
      obtain ⟨run,known,same⟩ := updated_back (fun row => (edited row).1) (runs ▸ inside)
      exact .inl (already run known same (quiet ran (fun _ => id) (acquired_scope done.runJobs same acquired)))
  | dropped now ran => exact .inl (already later inside (.refl later) (quiet ran (fun _ => id) acquired))
  | @ended process _ job _ _ _ _ last now ran =>
    rcases ended_back consistent ran inside acquired with earlier | ⟨terminal,row,listed,mapped⟩
    · exact .inl (already later inside (.refl later) earlier)
    · refine .inr (.inr ⟨process,?_⟩)
      rw [if_pos terminal]
      simp only [World.put,Function.update_self]
      exact ⟨row,listed,mapped⟩
  | raised now bounded unused decided =>
    have kept := decision_kept consistent.ledger consistent.queue decided (by simp)
    exact .inl (already later inside (.refl later) (kept ▸ acquired))
  | skipped now decided unsubmitted =>
    have kept := decision_kept consistent.ledger consistent.queue decided
      (fun goal submission same => unsubmitted goal submission (Except.ok.inj same))
    exact .inl (already later inside (.refl later) (kept ▸ acquired))
  | opened now free decided =>
    obtain ⟨run,rfl,submits,rfl,ran⟩ := decision_submitted consistent.ledger consistent.queue decided
    have called : (Call.submitOrJoin (.finalizeMarketSession run.finalizationGoal) 0 (some finalizationOrigin)
        (some _) _ _).run configuration world.queue = _ := congrArg (answered Outcome.submitted) ran
    exact .inl (already later inside (.refl later) (quiet called (fun _ => id) acquired))
  | @committed process _ _ _ _ _ now stored =>
    have backed := consistent.backed process
    rw [now] at backed
    obtain ⟨run,known,rfl,rfl,_⟩ := backed
    obtain ⟨owner,member,same,earlier⟩ := committed_back consistent.ledger known stored inside acquired
    exact .inl (already owner member same earlier)
  | refused now clash => exact .inl (already later inside (.refl later) acquired)
  | crashed => exact announced.elim

theorem handled_forth (attended : Attended world) (moved : Transition configuration world action after)
    (alive : ∀ process, action ≠ .crash process) (collisionFree : Function.Injective Platform.hexdigest)
    (known : run ∈ world.warehouse.runs) (inside : later ∈ after.warehouse.runs) (same : run.SameScope later)
    (acquired : Acquired after.warehouse after.queue later) (handled : world.Handled run.runId) : after.Handled run.runId := by
  have consistent := attended.consistent
  have extends_ := ledger_extends consistent (transition_ledger consistent moved)
  refine handled_moved extends_ handled ?_
  -- what waits for no run is moved aside
  have aside : ∀ {process next}, (world.processes process).Awaits after.warehouse run.runId = False → ∀ other,
      (world.processes other).Awaits after.warehouse run.runId →
      (Function.update world.processes process next other).Awaits after.warehouse run.runId ∨
        finalizationMappings after.warehouse run.runId ≠ [] := by
    intro process next unwaiting
    exact put_awaits (fun awaits => (unwaiting ▸ awaits : False).elim)
  cases moved with
  | called calls ran unended | arrived free => exact fun _ => .inl
  | produced now produces => exact aside (produces_awaits now)
  | persisted now | submitted now | mapped now | settled now | claimed now | staged now | dropped now | ended now
  | abandoned now | recovered now => exact aside (by rw [now]; rfl)
  | affected now free =>
    refine put_awaits (fun awaits => .inl ((afterRuns_awaits _).mpr ?_))
    rw [now] at awaits
    exact mem_affectedRuns.mpr awaits
  | @raised process runId rest _ _ _ _ _ now bounded unused decided =>
    obtain ⟨owner,listed,rfl⟩ := attended.known process runId (by rw [now]; exact List.mem_cons_self)
    obtain ⟨decision,total⟩ := decision_total consistent listed bounded unused
    rw [decided] at total
    cases total
  | @skipped process runId rest _ _ _ _ decision now decided unsubmitted =>
    refine put_awaits (fun awaits => ?_)
    rw [now] at awaits
    rcases List.mem_cons.mp awaits with head | tail
    · cases Rows.same_row consistent.ledger.runs inside known same.runId
      by_cases unmapped : finalizationMappings world.warehouse run.runId = []
      · have kept := decision_kept consistent.ledger consistent.queue decided
          (fun goal submission equal => unsubmitted goal submission (Except.ok.inj equal))
        rw [← head] at decided
        obtain ⟨goal,submission,submitted⟩ :=
          decision_ready consistent.ledger consistent.queue known (kept ▸ acquired) unmapped decided
        exact absurd submitted (unsubmitted goal submission)
      · exact .inr unmapped
    · exact .inl ((afterRuns_awaits _).mpr tail)
  | opened now free decided =>
    refine put_awaits (fun awaits => .inl ?_)
    rw [now] at awaits
    rcases List.mem_cons.mp awaits with head | tail
    · exact .inl head.symm
    · exact .inr tail
  | @committed process runId goal jobId rest _ now stored =>
    refine put_awaits (fun awaits => ?_)
    rw [now] at awaits
    rcases awaits with rfl | tail
    · exact .inr (committed_mapped stored)
    · exact .inl ((afterRuns_awaits _).mpr tail)
  | @refused process runId goal jobId rest now clash =>
    have backed := consistent.backed process
    rw [now] at backed
    obtain ⟨owner,listed,rfl,rfl,_⟩ := backed
    have unmapped := attended.unmapped process owner.runId (by rw [now]; rfl)
    exact absurd unmapped (keyed_mapped collisionFree consistent.ledger listed (clash_keyed clash))
  | crashed => exact absurd rfl (alive _)

theorem step_known (attended : Attended world) (moved : Transition configuration world action after) (process : Nat) :
    ∀ runId ∈ (after.processes process).lists, ∃ run ∈ after.warehouse.runs, run.runId = runId := by
  have consistent := attended.consistent
  have extends_ := ledger_extends consistent (transition_ledger consistent moved)
  have kept : ∀ runId, (∃ run ∈ world.warehouse.runs, run.runId = runId) →
      ∃ run ∈ after.warehouse.runs, run.runId = runId := by
    rintro runId ⟨run,known,named⟩
    obtain ⟨later,listed,same⟩ := extends_.runs run known
    exact ⟨later,listed,same.runId.trans named⟩
  have moves : ∀ {other next}, (∀ runId ∈ next.lists, ∃ run ∈ world.warehouse.runs, run.runId = runId) →
      ∀ runId ∈ (Function.update world.processes other next process).lists,
        ∃ run ∈ after.warehouse.runs, run.runId = runId := by
    intro other next listed runId inside
    by_cases same : process = other
    · rw [same,Function.update_self] at inside
      exact kept runId (listed runId inside)
    · rw [Function.update_of_ne same] at inside
      exact kept runId (attended.known process runId inside)
  have fromList : ∀ {other first rest}, world.processes other = .finalizing (first :: rest) →
      ∀ runId ∈ first :: rest, ∃ run ∈ world.warehouse.runs, run.runId = runId := by
    intro other first rest now runId inside
    exact attended.known other runId (by rw [now]; exact inside)
  cases moved with
  | called calls ran unended | arrived free => exact fun runId inside => kept runId (attended.known process runId inside)
  | produced now produces | submitted now ran produces =>
    exact moves (fun runId inside => by rw [produces_lists produces] at inside; cases inside)
  | ended now ran => exact moves (fun runId inside => by split at inside <;> cases inside)
  | affected now free =>
    refine moves (fun runId inside => ?_)
    rw [afterRuns_lists] at inside
    obtain ⟨row,listed,_⟩ := mem_affectedRuns.mp inside
    obtain ⟨there,owner,_⟩ := mem_acquisitionJobs.mp listed
    exact owner ▸ consistent.ledger.owned row there
  | recovered now => exact moves (fun runId inside => recoverableRuns_known (by rwa [afterRuns_lists] at inside))
  | skipped now decided unsubmitted =>
    refine moves (fun runId inside => fromList now runId ?_)
    rw [afterRuns_lists] at inside
    exact List.mem_cons_of_mem _ inside
  | opened now free decided => exact moves (fun runId inside => fromList now runId inside)
  | @committed other runId goal jobId rest _ now stored =>
    refine moves (fun runId inside => attended.known other runId ?_)
    rw [afterRuns_lists] at inside
    rw [now]
    exact List.mem_cons_of_mem _ inside
  | _ => exact moves (fun runId inside => by cases inside)

-- While a process commits, the ledger waits for it.
theorem step_unmapped (attended : Attended world) (moved : Transition configuration world action after)
    (alive : ∀ process, action ≠ .crash process) (process : Nat) (runId : MaintenanceRunId)
    (commits : (after.processes process).commits = some runId) : finalizationMappings after.warehouse runId = [] := by
  have consistent := attended.consistent
  have locked := transition_locked attended.ordered.locked moved alive process (by rw [commits]; rfl)
  have earlier : ∀ {other next}, next.commits = none →
      (Function.update world.processes other next process).commits = some runId →
        finalizationMappings world.warehouse runId = [] := by
    intro other next unopened commits
    by_cases same : process = other
    · rw [same,Function.update_self,unopened] at commits
      cases commits
    · rw [Function.update_of_ne same] at commits
      exact attended.unmapped process runId commits
  cases moved with
  | persisted idle free prepared stored | mapped now free
  | staged now free ran kind executed => exact absurd (free.symm.trans locked) (by simp)
  | committed now stored | refused now clash => cases locked
  | called calls ran unended | arrived free => exact attended.unmapped process runId commits
  | produced now produces | submitted now ran produces => exact earlier (produces_commits produces) commits
  | ended now ran => exact earlier (by split <;> rfl) commits
  | affected now free | recovered now | skipped now decided unsubmitted => exact earlier (afterRuns_commits _) commits
  | @opened other _ _ _ _ _ _ goal submission now free decided =>
    obtain ⟨run,rfl,submits,_⟩ := decision_submitted consistent.ledger consistent.queue decided
    cases locked
    simp only [World.put,Function.update_self,Process.commits,Option.some.injEq] at commits
    subst commits
    refine List.eq_nil_iff_forall_not_mem.mpr (fun row inside => ?_)
    obtain ⟨listed,owner,kind⟩ := mem_mappings.mp inside
    exact submits.unmapped row listed owner kind
  | crashed => exact absurd rfl (alive _)
  | _ => exact earlier rfl commits

theorem announced_alive (announced : world.Announced configuration action) (process : Nat) : action ≠ .crash process := by
  rintro rfl
  exact announced

theorem step_attended (collisionFree : Function.Injective Platform.hexdigest) (attended : Attended world)
    (announced : world.Announced configuration action) (moved : Transition configuration world action after) :
    Attended after := by
  have consistent := attended.consistent
  have alive := announced_alive announced
  refine ⟨transition_consistent consistent moved,
    ⟨transition_locked attended.ordered.locked moved alive,
      step_early consistent attended.ordered (transition_ledger consistent moved),
      step_submitted consistent attended.ordered moved alive⟩,
    step_known attended moved,step_unmapped attended moved alive,fun later inside acquired => ?_⟩
  rcases acquisition_back attended announced moved inside acquired with ⟨run,known,same,handled⟩ | handled
  · rw [same.runId]
    exact handled_forth attended moved alive collisionFree known inside same acquired handled
  · exact handled

theorem initial_attended : Attended initialWorld := by
  refine ⟨initial_consistent,(initial_orderly.ordered (fun process inside => by cases inside)),?_,?_,?_⟩
  · exact fun process runId inside => by cases inside
  · exact fun process runId commits => by cases commits
  · exact fun run inside => by cases inside

theorem run_not_stranded (collisionFree : Function.Injective Platform.hexdigest)
    (path : Runs (AnnouncedStep configuration) initialWorld history world)
    (idle : ∀ process, world.processes process = .idle) (known : run ∈ world.warehouse.runs)
    (acquired : Acquired world.warehouse world.queue run) :
    ∃ row ∈ world.warehouse.runJobs, row.maintenanceRunId = run.runId ∧ row.goalType = .finalizeMarketSession ∧
      row.jobId.isSome = true := by
  have attended : Attended world := by
    clear idle known acquired
    induction path with
    | nil => exact initial_attended
    | step path ran ih => exact step_attended collisionFree ih ran.1 (next_transition ran.2)
  rcases attended.handled run known acquired with mapped | ⟨process,awaits⟩
  · obtain ⟨row,inside⟩ := List.exists_mem_of_ne_nil _ mapped
    obtain ⟨listed,owner,kind⟩ := mem_mappings.mp inside
    exact ⟨row,listed,owner,kind,attended.consistent.ledger.mapped row listed kind⟩
  · rw [idle process] at awaits
    exact awaits.elim

end steps

/- The last job of a run is cancelled while it waits: no worker ends it, so no
worker triggers the finalization. -/

theorem executed_untouched (sound : ∀ {history before action after}, advance history before action = some after →
      @World.next samplePlatform defaultConfiguration before action = some after)
    (ran : Runs.execute advance history world events = some final) (other : Nat)
    (elsewhere : ∀ action ∈ events, action.process ≠ some other) : final.processes other = world.processes other := by
  induction events generalizing history world with
  | nil =>
    cases ran
    rfl
  | cons action events ih =>
    obtain ⟨next,advanced,rest⟩ := Option.bind_eq_some_iff.mp ran
    rw [ih rest (fun later inside => elsewhere later (List.mem_cons_of_mem _ inside))]
    exact @next_untouched samplePlatform _ _ _ _ (sound advanced) other (elsewhere action List.mem_cons_self)

def cancelledLast : List Action := sampleProduction 0 ++ [.settle 0,.cancel ['a'] 2000]

theorem run_stranded : ¬ ∀ (history : List Action) (world : World) (run : RunRow),
    Runs (@WorldStep samplePlatform defaultConfiguration) initialWorld history world →
    (∀ action ∈ history, ∀ process, action ≠ .crash process ∧ ∀ wanted, action ≠ .recover process wanted) →
    (∀ process, world.processes process = .idle) → run ∈ world.warehouse.runs → run.status = .acquiring →
    @Acquired samplePlatform world.warehouse world.queue run →
      ∃ row ∈ world.warehouse.runJobs, row.maintenanceRunId = run.runId ∧ row.goalType = .finalizeMarketSession := by
  intro mapped
  have reported : (worldRun cancelledLast).map (fun world =>
      (world.warehouse.runs.map RunRow.status,world.queue.jobs.map (fun row => (row.jobId,row.status)))) =
      some ([.acquiring],[(['a'],.cancelled)]) := by
    decide +kernel
  have settled : (worldRun cancelledLast).map (fun world =>
      (world.processes 0,world.warehouse.runJobs.map (fun row => (row.goalType,row.jobId)))) =
      some (.idle,[(.ensureCurrentSymbol,some ['a'])]) := by
    decide +kernel
  obtain ⟨world,ran,shape⟩ := Option.map_eq_some_iff.mp reported
  obtain ⟨statuses,jobs⟩ := Prod.mk.injEq _ _ _ _ ▸ shape
  obtain ⟨first,rows⟩ : world.processes 0 = .idle ∧
      world.warehouse.runJobs.map (fun row => (row.goalType,row.jobId)) = [(.ensureCurrentSymbol,some ['a'])] := by
    simpa [ran] using settled
  have path := worldRun_path ran
  let platform := samplePlatform
  have consistent := runs_consistent path
  have idle : ∀ process, world.processes process = .idle := by
    intro process
    by_cases same : process = 0
    · rw [same,first]
    · refine executed_untouched (fun accepted => accepted) ran process ?_
      have own : ∀ action ∈ cancelledLast, action.process = none ∨ action.process = some 0 := by decide
      intro action inside touched
      rcases own action inside with none | zero
      · rw [none] at touched
        cases touched
      · rw [zero] at touched
        exact same (Option.some.inj touched).symm
  have only : ∀ row ∈ world.warehouse.runJobs, row.goalType = .ensureCurrentSymbol ∧ row.jobId = some ['a'] := by
    intro row inside
    have listed : (row.goalType,row.jobId) ∈ world.warehouse.runJobs.map (fun row => (row.goalType,row.jobId)) :=
      List.mem_map_of_mem inside
    rw [rows,List.mem_singleton] at listed
    exact Prod.mk.injEq _ _ _ _ ▸ listed
  obtain ⟨run,known,acquiring⟩ := List.mem_map.mp (statuses ▸ List.mem_singleton.mpr rfl :
    MaintenanceRunState.acquiring ∈ world.warehouse.runs.map RunRow.status)
  obtain ⟨job,present,named⟩ := List.mem_map.mp (jobs ▸ List.mem_singleton.mpr rfl :
    (['a'],ProvisioningJobStatus.cancelled) ∈ world.queue.jobs.map (fun row => (row.jobId,row.status)))
  have over_ : Finished world.queue ['a'] := by
    obtain ⟨id_,status⟩ := Prod.mk.injEq _ _ _ _ ▸ named
    exact ⟨job,present,id_,by rw [status]; rfl⟩
  have acquired : Acquired world.warehouse world.queue run := by
    refine (acquired_iff consistent.ledger known).mpr (fun row inside => ⟨['a'],?_,over_⟩)
    exact (only row (mem_acquisitionJobs.mp inside).1).2
  have calm : ∀ action ∈ cancelledLast.reverse ++ [], ∀ process, action ≠ .crash process ∧
      ∀ wanted, action ≠ .recover process wanted := by
    simp [cancelledLast,sampleProduction]
  obtain ⟨row,inside,_,kind⟩ := mapped _ world run path calm idle known acquiring acquired
  rw [(only row inside).1] at kind
  cases kind

-- The same run with its job completed by a worker.
def World.untouched (before : World) : Bool :=
  before.queue.jobs.all (fun row => row.status == .queued) &&
    before.warehouse.runs.all (fun run => !run.expectedGoals.isEmpty)

def announced (before : World) : Action → Bool
  | .persist _ plan => plan.prepare.toOption.all (fun run => !run.expectedGoals.isEmpty)
  | .map _ | .claim _ _ _ => before.untouched
  | .requeue _ | .cancel _ _ | .crash _ => false
  | _ => true

def announcedNext (before : World) (action : Action) : Option World :=
  if announced before action then @World.next samplePlatform defaultConfiguration before action else none

theorem announcedNext_next (accepted : announcedNext before action = some after) :
    @World.next samplePlatform defaultConfiguration before action = some after := by
  unfold announcedNext at accepted
  split at accepted
  · exact accepted
  · cases accepted

theorem untouched_waiting {before : World} (untouched : before.untouched = true) {run : RunRow}
    (known : run ∈ before.warehouse.runs) : run.expectedGoals ≠ [] ∧ ∀ row ∈ before.queue.jobs, row.status = .queued := by
  obtain ⟨queued,planned⟩ := Bool.and_eq_true_iff.mp untouched
  exact ⟨by simpa using List.all_eq_true.mp planned run known,fun row inside => by simpa using List.all_eq_true.mp queued row inside⟩

theorem announcedRun_path (ran : Runs.execute (fun _ before action => announcedNext before action) [] initialWorld events =
    some final) : Runs (@AnnouncedStep samplePlatform defaultConfiguration) initialWorld (events.reverse ++ []) final := by
  let platform := samplePlatform
  refine Runs.executed ?_ .nil ran
  intro _ before action after accepted
  unfold announcedNext at accepted
  split at accepted
  · rename_i checked
    refine ⟨?_,accepted⟩
    cases action with
    | persist process plan =>
      intro run prepared
      have planned : (Option.some run).all (fun run => !run.expectedGoals.isEmpty) = true := by
        have shape : plan.prepare.toOption = some run := by rw [prepared]; rfl
        exact shape ▸ checked
      simpa using planned
    | map process =>
      intro scope goal rest jobId now run known owner acquired
      obtain ⟨planned,queued⟩ := untouched_waiting checked known
      obtain ⟨expected,inside⟩ := List.exists_mem_of_ne_nil _ planned
      obtain ⟨row,_,_,⟨_,_,job,present,_,ended⟩ | ⟨_,_,job,present,_,ended⟩⟩ := acquired expected inside
      · rw [queued job present] at ended
        cases ended
      · rw [queued job present] at ended
        cases ended
    | claim process worker timestamp =>
      intro run known acquired
      obtain ⟨planned,queued⟩ := untouched_waiting checked known
      obtain ⟨expected,inside⟩ := List.exists_mem_of_ne_nil _ planned
      obtain ⟨row,_,_,_,_,job,present,_,ended | lapsed⟩ := acquired expected inside
      · rw [queued job present] at ended
        cases ended
      · exact absurd ((queued job present).symm.trans (expired_running lapsed.1)) (by decide)
    | requeue timestamp | cancel jobId timestamp | crash process => cases checked
    | _ => trivial
  · cases accepted

def deliveredLast : List Action :=
  sampleProduction 0 ++ [.settle 0] ++ sampleDelivery 1 ++ [.finalize 1 ['t'] 3000 ['f'],.commit 1]

theorem run_not_stranded_sample : ∃ world : World, (∃ run ∈ world.warehouse.runs, run.status = .finalizationQueued ∧
    ∃ row ∈ world.warehouse.runJobs, row.maintenanceRunId = run.runId ∧ row.goalType = .finalizeMarketSession ∧
      row.jobId.isSome = true) := by
  have reported : (Runs.execute (fun _ before action => announcedNext before action) [] initialWorld
      deliveredLast).map (fun world =>
        (world.warehouse.runs.map RunRow.status,world.queue.jobs.map (fun row => (row.jobId,row.status)))) =
      some ([.finalizationQueued],[(['a'],.succeeded),(['f'],.queued)]) := by
    decide +kernel
  have settled : (Runs.execute (fun _ before action => announcedNext before action) [] initialWorld
      deliveredLast).map (fun world => ((world.processes 0,world.processes 1),
        world.warehouse.runJobs.map (fun row => (row.goalType == .finalizeMarketSession,row.jobId)))) =
      some ((.idle,.idle),[(false,some ['a']),(true,some ['f'])]) := by
    decide +kernel
  obtain ⟨world,ran,shape⟩ := Option.map_eq_some_iff.mp reported
  obtain ⟨statuses,jobs⟩ := Prod.mk.injEq _ _ _ _ ▸ shape
  obtain ⟨⟨first,second⟩,rows⟩ : (world.processes 0 = .idle ∧ world.processes 1 = .idle) ∧
      world.warehouse.runJobs.map (fun row => (row.goalType == .finalizeMarketSession,row.jobId)) =
        [(false,some ['a']),(true,some ['f'])] := by
    simpa [ran] using settled
  let platform := samplePlatform
  have path := announcedRun_path ran
  have consistent := runs_consistent (path.mono (fun step => step.2))
  have idle : ∀ process, world.processes process = .idle := by
    intro process
    by_cases zero : process = 0
    · rw [zero,first]
    by_cases one : process = 1
    · rw [one,second]
    refine executed_untouched announcedNext_next ran process ?_
    have own : ∀ action ∈ deliveredLast, action.process = some 0 ∨ action.process = some 1 := by decide
    intro action inside touched
    rcases own action inside with same | same
    · exact zero (Option.some.inj (touched.symm.trans same))
    · exact one (Option.some.inj (touched.symm.trans same))
  obtain ⟨run,known,queued⟩ := List.mem_map.mp (statuses ▸ List.mem_singleton.mpr rfl :
    MaintenanceRunState.finalizationQueued ∈ world.warehouse.runs.map RunRow.status)
  obtain ⟨job,present,named⟩ := List.mem_map.mp (jobs ▸ List.mem_cons_self :
    (['a'],ProvisioningJobStatus.succeeded) ∈ world.queue.jobs.map (fun row => (row.jobId,row.status)))
  have acquired : Acquired world.warehouse world.queue run := by
    refine (acquired_iff consistent.ledger known).mpr (fun row inside => ⟨['a'],?_,job,present,?_⟩)
    · obtain ⟨listed,_,kind⟩ := mem_acquisitionJobs.mp inside
      have member : (row.goalType == .finalizeMarketSession,row.jobId) ∈
          world.warehouse.runJobs.map (fun row => (row.goalType == .finalizeMarketSession,row.jobId)) :=
        List.mem_map_of_mem listed
      rw [rows,beq_eq_false_iff_ne.mpr kind] at member
      simpa using member
    · obtain ⟨id_,status⟩ := Prod.mk.injEq _ _ _ _ ▸ named
      exact ⟨id_,by rw [status]; rfl⟩
  exact ⟨world,run,known,queued,run_not_stranded sampleHexdigest_injective path idle known acquired⟩

end OpenStock.Maintenance
