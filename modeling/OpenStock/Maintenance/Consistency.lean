import OpenStock.Maintenance.Scopes
import OpenStock.Maintenance.World
import OpenStock.Queue.Endings

namespace OpenStock.Maintenance
open Text Calendar Queue

/- What holds between the queue and the ledger in every reachable world. -/

-- The job is in the queue, and over.
def Finished (queue : QueueTables) (jobId : ProvisioningJobId) : Prop :=
  ∃ row ∈ queue.jobs, row.jobId = jobId ∧ row.status.isTerminal = true

-- A queue over some calls: rows go on, terminal ones as they are, and what is
-- new holds a goal that was submitted.
structure QueueGrows [Platform] (submits : ProvisioningGoal → Prop) (before after : QueueTables) : Prop where
  valid : Valid after
  forth : ∀ row ∈ before.jobs, ∃ next ∈ after.jobs, row.Follows next ∧ (row.status.isTerminal = true → next = row)
  back : ∀ next ∈ after.jobs, (∃ old ∈ before.jobs, old.Follows next) ∨ ∃ goal, submits goal ∧ next.Holds goal

def Call.submits : Call → ProvisioningGoal → Prop
  | .submitOrJoin goal _ _ _ _ _,other => other = goal
  | _,_ => False

theorem ending_acquires (ending : Ending) (jobId : ProvisioningJobId) (worker : Text) (timestamp : Int) :
    (ending.call jobId worker timestamp).prunes = false ∧
      ∀ goal, ¬ Call.submits (ending.call jobId worker timestamp) (.finalizeMarketSession goal) := by
  cases ending <;> exact ⟨rfl,fun _ => id⟩

theorem calls_acquire {world : World} (calls : world.calls action call) :
    call.prunes = false ∧ ∀ goal, ¬ Call.submits call (.finalizeMarketSession goal) := by
  cases action with
  | claim _ worker timestamp =>
    cases calls
    exact ⟨rfl,fun _ => id⟩
  | heartbeat process timestamp =>
    obtain ⟨_,_,_,rfl⟩ := calls
    exact ⟨rfl,fun _ => id⟩
  | finish process ending timestamp =>
    obtain ⟨worker,job,stages,_,rfl⟩ := calls
    exact ending_acquires ending _ _ _
  | request goal priority origin correlationId timestamp uuid =>
    cases calls
    refine ⟨rfl,fun other same => goal.property ?_⟩
    rw [← (show ProvisioningGoal.finalizeMarketSession other = goal.val from same)]
    rfl
  | cancel jobId timestamp | requeue timestamp =>
    cases calls
    exact ⟨rfl,fun _ => id⟩
  | _ => cases calls

section acquired
variable [Platform]

-- Every expected goal of the run is mapped to a job that is over.
def Acquired (warehouse : Warehouse) (queue : QueueTables) (run : RunRow) : Prop :=
  ∀ goal ∈ run.expectedGoals, ∃ row ∈ warehouse.runJobs, row.key = (run.runId,goalIdentity goal.val) ∧
    ∃ jobId, row.jobId = some jobId ∧ Finished queue jobId

-- The submission of a run whose acquisition is over and which has no finalization.
structure Submits (warehouse : Warehouse) (queue : QueueTables) (run : RunRow) : Prop where
  known : run ∈ warehouse.runs
  acquired : Acquired warehouse queue run
  unmapped : ∀ row ∈ warehouse.runJobs, row.maintenanceRunId = run.runId → row.goalType ≠ .finalizeMarketSession

-- What a process between two steps relies on.
def Process.Backed (warehouse : Warehouse) (queue : QueueTables) : Process → Prop
  | .working _ job _ => ∃ row ∈ queue.jobs, row.jobId = job.jobId ∧ row.Holds job.goal
  | .committing runId goal jobId _ => ∃ run ∈ warehouse.runs, run.runId = runId ∧ goal = run.finalizationGoal ∧
      ∃ row ∈ queue.jobs, row.jobId = jobId ∧ row.goalIdentity = finalIdentity run
  | _ => True

structure Consistent (world : World) : Prop where
  queue : Valid world.queue
  ledger : LedgerSound world.warehouse
  -- a FINALIZE job is of a known run whose acquisition is over
  finalized : ∀ row ∈ world.queue.jobs, ∀ goal, row.Holds (.finalizeMarketSession goal) →
    ∃ run ∈ world.warehouse.runs, goal = run.finalizationGoal ∧ Acquired world.warehouse world.queue run
  backed : ∀ process, (world.processes process).Backed world.warehouse world.queue

end acquired

section growth
variable [Platform] {configuration : QueueConfiguration} {before after : QueueTables} {warehouse grown : Warehouse}
  {run : RunRow} {submits : ProvisioningGoal → Prop}

theorem QueueGrows.refl (valid : Valid before) : QueueGrows submits before before :=
  ⟨valid,fun row inside => ⟨row,inside,.refl row,fun _ => rfl⟩,fun next inside => .inl ⟨next,inside,.refl next⟩⟩

theorem call_grows (valid : Valid before) (ran : call.run configuration before = (after,reply))
    (keeps : call.prunes = false) : QueueGrows (Call.submits call) before after := by
  refine ⟨call_valid valid ran,fun row inside => call_follows valid ran keeps inside,fun next inside => ?_⟩
  rcases call_traced valid ran inside with ⟨old,present,follows,_⟩ | ⟨goal,_,_,_,_,_,rfl,rfl⟩
  · exact .inl ⟨old,present,follows⟩
  · exact .inr ⟨goal,rfl,new_holds _ _ _ _ _ _⟩

theorem QueueGrows.finished {jobId : ProvisioningJobId} (grows : QueueGrows submits before after)
    (finished : Finished before jobId) : Finished after jobId := by
  obtain ⟨row,inside,named,ended⟩ := finished
  obtain ⟨next,listed,_,same⟩ := grows.forth row inside
  exact ⟨next,listed,by rw [same ended,named],by rw [same ended,ended]⟩

theorem Acquired.later (grows : QueueGrows submits before after) (extends_ : Extends warehouse grown)
    (acquired : Acquired warehouse before run) (same : run.SameScope next) : Acquired grown after next := by
  intro goal inside
  rw [same.expectedGoals] at inside
  obtain ⟨row,member,keyed,jobId,mapped,finished⟩ := acquired goal inside
  obtain ⟨kept,listed,key,_,jobs⟩ := extends_.jobs row member
  exact ⟨kept,listed,by rw [key,keyed,same.runId],jobId,jobs jobId mapped,grows.finished finished⟩

theorem SameScope.finalIdentity (same : left.SameScope right) : finalIdentity right = finalIdentity left := by
  rw [Maintenance.finalIdentity,Maintenance.finalIdentity,SameScope.finalizationGoal same]

theorem Process.Backed.later {process : Process} (grows : QueueGrows submits before after)
    (extends_ : Extends warehouse grown) (backed : process.Backed warehouse before) : process.Backed grown after := by
  cases process with
  | working worker job stages =>
    obtain ⟨row,inside,named,held⟩ := backed
    obtain ⟨next,listed,follows,_⟩ := grows.forth row inside
    exact ⟨next,listed,follows.jobId.trans named,(follows_holds follows).mpr held⟩
  | committing runId goal jobId rest =>
    obtain ⟨run,inside,named,rfl,row,present,job,identity⟩ := backed
    obtain ⟨kept,listed,same⟩ := extends_.runs run inside
    obtain ⟨next,there,follows,_⟩ := grows.forth row present
    exact ⟨kept,listed,same.runId.trans named,(SameScope.finalizationGoal same).symm,next,there,follows.jobId.trans job,
      follows.identity.trans (identity.trans (SameScope.finalIdentity same).symm)⟩
  | _ => trivial

end growth

/- The readiness test of the trigger. -/

section readiness
variable [Platform] {queue : QueueTables} {warehouse : Warehouse} {run : RunRow}

theorem get_total (valid : Valid queue) (jobId : ProvisioningJobId) : ∃ job, Queue.get queue jobId = .ok job ∧
      (job.any ProvisioningJob.isTerminal = true ↔ Finished queue jobId) := by
  unfold Queue.get
  split
  · rename_i absent
    refine ⟨none,rfl,by simp,fun finished => ?_⟩
    obtain ⟨row,inside,rfl,_⟩ := finished
    rw [select_present valid.distinct inside] at absent
    cases absent
  · rename_i row found
    obtain ⟨inside,rfl⟩ := select_some found
    obtain ⟨goal,_,read⟩ := read_member valid inside
    refine ⟨some (row.read goal),by rw [read]; rfl,fun ended => ⟨row,inside,rfl,ended⟩,fun finished => ?_⟩
    obtain ⟨other,present,same,ended⟩ := finished
    rw [Rows.same_row valid.distinct present inside same] at ended
    exact ended

theorem gets_total (valid : Valid queue) (jobIds : List ProvisioningJobId) : ∃ jobs, jobIds.mapM (Queue.get queue) = .ok jobs ∧
      (jobs.all (fun job => job.any ProvisioningJob.isTerminal) = true ↔ ∀ jobId ∈ jobIds, Finished queue jobId) := by
  induction jobIds with
  | nil => exact ⟨[],rfl,by simp⟩
  | cons jobId jobIds ih =>
    obtain ⟨job,read,terminal⟩ := get_total valid jobId
    obtain ⟨jobs,rest,all⟩ := ih
    refine ⟨job :: jobs,by rw [List.mapM_cons,read,rest]; rfl,?_⟩
    rw [List.all_cons,Bool.and_eq_true,terminal,all,List.forall_mem_cons]

-- The rows the test counts are those of the expected goals.
theorem acquired_iff (sound : LedgerSound warehouse) (known : run ∈ warehouse.runs) : Acquired warehouse queue run ↔
      ∀ row ∈ warehouse.acquisitionJobs run.runId, ∃ jobId, row.jobId = some jobId ∧ Finished queue jobId := by
  have frozen := sound.frozen run known
  constructor
  · intro acquired row inside
    have identity : row.goalIdentity ∈ run.expectedGoals.map (fun goal => goalIdentity goal.val) :=
      frozen ▸ List.mem_map_of_mem inside
    obtain ⟨goal,expected,same⟩ := List.mem_map.mp identity
    obtain ⟨other,member,keyed,jobId,mapped,finished⟩ := acquired goal expected
    obtain ⟨listed,owner,_⟩ := mem_acquisitionJobs.mp inside
    have key : other.key = row.key := by rw [keyed,RunJobRow.key,owner,same]
    exact ⟨jobId,Rows.same_row sound.jobs member listed key ▸ mapped,finished⟩
  · intro ready goal expected
    have identity : goalIdentity goal.val ∈ (warehouse.acquisitionJobs run.runId).map RunJobRow.goalIdentity :=
      frozen ▸ List.mem_map_of_mem (f := fun goal : AcquisitionGoal => goalIdentity goal.val) expected
    obtain ⟨row,inside,same⟩ := List.mem_map.mp identity
    obtain ⟨listed,owner,_⟩ := mem_acquisitionJobs.mp inside
    exact ⟨row,listed,by rw [RunJobRow.key,owner,same],ready row inside⟩

theorem acquisitionFinished_total (sound : LedgerSound warehouse) (valid : Valid queue) (known : run ∈ warehouse.runs) :
    ∃ ready, acquisitionFinished warehouse queue run = .ok ready ∧ (ready = true ↔ Acquired warehouse queue run) := by
  rw [acquired_iff sound known]
  have counted : (warehouse.acquisitionJobs run.runId).length = run.expectedGoals.length := by
    simpa using congrArg List.length (sound.frozen run known)
  unfold acquisitionFinished
  dsimp only
  split
  · rename_i missing
    obtain ⟨row,inside,unmapped⟩ := Rows.column_none.mp missing
    refine ⟨false,rfl,⟨fun impossible => absurd impossible Bool.false_ne_true,fun ready => ?_⟩⟩
    obtain ⟨jobId,mapped,_⟩ := ready row inside
    rw [unmapped] at mapped
    cases mapped
  · rename_i jobIds mapped
    rw [if_neg (fun differs => differs counted)]
    obtain ⟨jobs,read,all⟩ := gets_total valid jobIds
    refine ⟨_,by rw [read]; rfl,all.trans ?_⟩
    have images := Rows.column_some mapped
    constructor
    · intro finished row inside
      have image : row.jobId ∈ jobIds.map some := images ▸ List.mem_map_of_mem inside
      obtain ⟨jobId,listed,same⟩ := List.mem_map.mp image
      exact ⟨jobId,same.symm,finished jobId listed⟩
    · intro ready jobId inside
      have image : some jobId ∈ (warehouse.acquisitionJobs run.runId).map RunJobRow.jobId :=
        images ▸ List.mem_map_of_mem inside
      obtain ⟨row,listed,same⟩ := List.mem_map.mp image
      obtain ⟨other,mapped,finished⟩ := ready row listed
      cases same.symm.trans mapped
      exact finished

-- A FINALIZE mapping always names its job.
theorem finalizationJob_none (sound : LedgerSound warehouse) {runId : MaintenanceRunId} :
    (warehouse.finalizationJob runId).bind RunJobRow.jobId = none ↔
      ∀ row ∈ warehouse.runJobs, row.maintenanceRunId = runId → row.goalType ≠ .finalizeMarketSession := by
  constructor
  · intro unmapped row inside owner kind
    cases found : warehouse.finalizationJob runId with
    | none =>
      have unmet := List.find?_eq_none.mp found row inside
      rw [owner,kind] at unmet
      exact unmet (by rw [beq_self_eq_true,beq_self_eq_true]; rfl)
    | some other =>
      have met := List.find?_some found
      rw [Bool.and_eq_true,beq_iff_eq,beq_iff_eq] at met
      have mapped := sound.mapped other (List.mem_of_find?_eq_some found) met.2
      rw [found,Option.bind_some] at unmapped
      rw [unmapped] at mapped
      cases mapped
  · intro absent
    cases found : warehouse.finalizationJob runId with
    | none => rfl
    | some other =>
      have met := List.find?_some found
      rw [Bool.and_eq_true,beq_iff_eq,beq_iff_eq] at met
      exact absurd met.2 (absent other (List.mem_of_find?_eq_some found) met.1)

end readiness

/- What the trigger decides. -/

section decisions
variable [Platform] {queue after : QueueTables} {warehouse : Warehouse} {run : RunRow} {runId : MaintenanceRunId}

theorem submitFinalization_cases (submitted : submitFinalization queue goal priority correlationId timestamp uuid =
    (after,result)) :
    ∃ reply, submitOrJoin queue (.finalizeMarketSession goal) priority (some finalizationOrigin) (some correlationId)
      timestamp uuid = (after,reply) ∧ ((∃ refused, reply = .error refused ∧ result = .error (.queue refused)) ∨
      ∃ submission, reply = .ok submission ∧ result = .ok (.submitted goal submission)) := by
  unfold submitFinalization at submitted
  generalize submitOrJoin queue (.finalizeMarketSession goal) priority (some finalizationOrigin) (some correlationId)
    timestamp uuid = ran at submitted ⊢
  obtain ⟨tables,reply⟩ := ran
  cases reply with
  | error refused =>
    cases submitted
    exact ⟨_,rfl,.inl ⟨refused,rfl,rfl⟩⟩
  | ok submission =>
    cases submitted
    exact ⟨_,rfl,.inr ⟨submission,rfl,rfl⟩⟩

theorem decision_cases (sound : LedgerSound warehouse) (valid : Valid queue)
    (decided : maybeSubmitSessionFinalization warehouse queue runId priority correlationId timestamp uuid = (after,result)) :
    (after = queue ∧ ∀ goal submission, result ≠ .ok (.submitted goal submission)) ∨
    ∃ run, run.runId = runId ∧ Submits warehouse queue run ∧
      submitFinalization queue run.finalizationGoal priority correlationId timestamp uuid = (after,result) := by
  unfold maybeSubmitSessionFinalization at decided
  split at decided
  · cases decided
    exact .inl ⟨rfl,by simp⟩
  · rename_i run selected
    obtain ⟨known,rfl⟩ := selectRun_some selected
    obtain ⟨ready,tested,acquired⟩ := acquisitionFinished_total sound valid known
    rw [tested] at decided
    cases ready with
    | false =>
      cases decided
      exact .inl ⟨rfl,by simp⟩
    | true =>
      dsimp only at decided
      split at decided
      · cases decided
        exact .inl ⟨rfl,by simp⟩
      · rename_i unmapped
        rw [mkFinalizationGoal_ok] at decided
        exact .inr ⟨run,rfl,⟨known,acquired.mp rfl,(finalizationJob_none sound).mp unmapped⟩,decided⟩

theorem decision_kept (sound : LedgerSound warehouse) (valid : Valid queue)
    (decided : maybeSubmitSessionFinalization warehouse queue runId priority correlationId timestamp uuid =
      (after,result)) (unsubmitted : ∀ goal submission, result ≠ .ok (.submitted goal submission)) : after = queue := by
  rcases decision_cases sound valid decided with ⟨same,_⟩ | ⟨run,_,_,submitted⟩
  · exact same
  · obtain ⟨reply,ran,⟨refused,rfl,_⟩ | ⟨submission,_,answer⟩⟩ := submitFinalization_cases submitted
    · have called : (Call.submitOrJoin (.finalizeMarketSession run.finalizationGoal) priority (some finalizationOrigin)
          (some correlationId) timestamp uuid).run defaultConfiguration queue = (after,.error refused) := by
        rw [Call.run,ran]
        rfl
      exact call_refused valid called
    · exact absurd answer (unsubmitted _ _)

theorem decision_submitted (sound : LedgerSound warehouse) (valid : Valid queue) {submission : QueueSubmitResult}
    (decided : maybeSubmitSessionFinalization warehouse queue runId priority correlationId timestamp uuid =
      (after,.ok (.submitted goal submission))) :
    ∃ run, run.runId = runId ∧ Submits warehouse queue run ∧ goal = run.finalizationGoal ∧
      submitOrJoin queue (.finalizeMarketSession goal) priority (some finalizationOrigin) (some correlationId) timestamp
        uuid = (after,.ok submission) := by
  rcases decision_cases sound valid decided with ⟨_,impossible⟩ | ⟨run,named,submits,submitted⟩
  · exact absurd rfl (impossible _ _)
  · obtain ⟨reply,ran,⟨_,_,impossible⟩ | ⟨_,rfl,answer⟩⟩ := submitFinalization_cases submitted
    · cases impossible
    · cases answer
      exact ⟨run,named,submits,rfl,ran⟩

end decisions

/- Every step keeps it. -/

section steps
variable [Platform] {configuration : QueueConfiguration} {world after : World} {queue : QueueTables}
  {warehouse : Warehouse} {submits : ProvisioningGoal → Prop}

theorem initial_consistent : Consistent initialWorld := by
  refine ⟨⟨by simp [initialWorld,emptyTables,Rows.Distinct],by simp [initialWorld,emptyTables]⟩,?_,?_,fun _ => trivial⟩
  · constructor <;> simp [initialWorld,emptyWarehouse,Rows.Distinct]
  · intro row inside
    cases inside

theorem grows_consistent (consistent : Consistent world) (grows : QueueGrows submits world.queue after.queue)
    (sound : LedgerSound after.warehouse) (extends_ : Extends world.warehouse after.warehouse)
    (submitted : ∀ goal, submits (.finalizeMarketSession goal) →
      ∃ run ∈ after.warehouse.runs, goal = run.finalizationGoal ∧ Acquired after.warehouse after.queue run)
    (moved : ∀ process, after.processes process = world.processes process ∨
      (after.processes process).Backed after.warehouse after.queue) : Consistent after := by
  refine ⟨grows.valid,sound,?_,?_⟩
  · intro next inside goal held
    rcases grows.back next inside with ⟨old,present,follows⟩ | ⟨other,new,stored⟩
    · obtain ⟨run,known,rfl,acquired⟩ := consistent.finalized old present goal ((follows_holds follows).mp held)
      obtain ⟨kept,listed,same⟩ := extends_.runs run known
      exact ⟨kept,listed,(SameScope.finalizationGoal same).symm,acquired.later grows extends_ same⟩
    · rw [holds_unique stored held] at new
      exact submitted goal new
  · intro process
    rcases moved process with same | backed
    · rw [same]
      exact (consistent.backed process).later grows extends_
    · exact backed

theorem put_moved (backed : next.Backed warehouse queue) (other : Nat) :
    Function.update world.processes process next other = world.processes other ∨
      (Function.update world.processes process next other).Backed warehouse queue := by
  by_cases same : other = process
  · subst same
    rw [Function.update_self]
    exact .inr backed
  · rw [Function.update_of_ne same]
    exact .inl rfl

theorem produces_backed {next : Process} (produces : next.produces = true) : next.Backed warehouse queue := by
  cases next with
  | working worker job stages | committing runId goal jobId rest => cases produces
  | _ => trivial

theorem afterRuns_backed (runIds : List MaintenanceRunId) : (World.afterRuns runIds).Backed warehouse queue := by
  cases runIds <;> trivial

-- A queue call of an acquisition goal, or of none, submits no finalization.
theorem called_consistent (consistent : Consistent world)
    (ran : call.run configuration world.queue = (queue,reply)) (keeps : call.prunes = false)
    (acquires : ∀ goal, ¬ Call.submits call (.finalizeMarketSession goal))
    (warehouseKept : after.warehouse = world.warehouse) (queueKept : after.queue = queue)
    (moved : ∀ process, after.processes process = world.processes process ∨
      (after.processes process).Backed after.warehouse after.queue) : Consistent after := by
  subst queueKept
  exact grows_consistent consistent (call_grows consistent.queue ran keeps) (warehouseKept ▸ consistent.ledger)
    (warehouseKept ▸ .refl _) (fun goal submitted => absurd submitted (acquires goal)) moved

-- A step of the ledger alone.
theorem ledger_consistent (consistent : Consistent world) (sound : LedgerSound after.warehouse)
    (extends_ : Extends world.warehouse after.warehouse) (queueKept : after.queue = world.queue)
    (moved : ∀ process, after.processes process = world.processes process ∨
      (after.processes process).Backed after.warehouse after.queue) : Consistent after := by
  have grows : QueueGrows (fun _ => False) world.queue after.queue := by
    rw [queueKept]
    exact .refl consistent.queue
  exact grows_consistent consistent grows sound extends_ (fun _ impossible => impossible.elim) moved

theorem claim_answered {before after : QueueTables} (ran : (Call.claim worker timestamp).run configuration before =
    (after,.ok (.claimed (some job)))) : claim configuration before worker timestamp = (after,.ok (some job)) := by
  obtain ⟨rfl,answer⟩ := answered_cases ran
  cases result : (claim configuration before worker timestamp).2 with
  | error refused =>
    rw [result] at answer
    cases answer
  | ok found =>
    rw [result] at answer
    cases answer
    exact Prod.ext rfl result

theorem opened_consistent (consistent : Consistent world) {submission : QueueSubmitResult}
    (decided : maybeSubmitSessionFinalization world.warehouse world.queue runId 0 correlationId timestamp uuid =
      (queue,.ok (.submitted goal submission))) (process : Nat) (rest : List MaintenanceRunId) :
    Consistent ({world with queue := queue, lock := some process}.put process
      (.committing runId goal submission.job.jobId rest)) := by
  obtain ⟨run,rfl,submits,rfl,ran⟩ := decision_submitted consistent.ledger consistent.queue decided
  have called : (Call.submitOrJoin (.finalizeMarketSession run.finalizationGoal) 0 (some finalizationOrigin)
      (some correlationId) timestamp uuid).run defaultConfiguration world.queue = (queue,.ok (.submitted submission)) := by
    rw [Call.run,ran]
    rfl
  have grows := call_grows consistent.queue called rfl
  obtain ⟨stored,listed,identity,_,read,shape⟩ := submitOrJoin_row consistent.queue ran
  refine grows_consistent consistent grows consistent.ledger (.refl _) ?_ (put_moved ?_)
  · intro goal submitted
    cases (show ProvisioningGoal.finalizeMarketSession goal = .finalizeMarketSession run.finalizationGoal from submitted)
    exact ⟨run,submits.known,rfl,submits.acquired.later grows (.refl _) (.refl run)⟩
  · exact ⟨run,submits.known,rfl,rfl,stored,listed,by rw [shape]; rfl,identity⟩

theorem transition_consistent (consistent : Consistent world)
    (moved : Transition configuration world action after) : Consistent after := by
  cases moved with
  | persisted idle free prepared stored =>
    obtain ⟨sound,extends_⟩ := persistRun_sound consistent.ledger stored
    exact ledger_consistent consistent sound extends_ rfl (put_moved trivial)
  | produced now produces =>
    exact ledger_consistent consistent consistent.ledger (.refl _) rfl (put_moved (produces_backed produces))
  | @submitted process scope goal rest _ _ _ _ _ _ now ran produces =>
    refine called_consistent consistent ran rfl (fun other same => goal.property ?_) rfl rfl
      (put_moved (produces_backed produces))
    rw [← (show ProvisioningGoal.finalizeMarketSession other = goal.val from same)]
    rfl
  | mapped now free =>
    obtain ⟨sound,extends_⟩ := mapJob_sound consistent.ledger _ _
    exact ledger_consistent consistent sound extends_ rfl (put_moved trivial)
  | settled now free =>
    obtain ⟨sound,extends_⟩ := setStatus_sound consistent.ledger .acquiring
    exact ledger_consistent consistent sound extends_ rfl (put_moved trivial)
  | claimed idle ran =>
    obtain ⟨row,inside,named,held⟩ := claim_holds consistent.queue (claim_answered ran)
    exact called_consistent consistent ran rfl (fun _ => id) rfl rfl (put_moved ⟨row,inside,named,held⟩)
  | called calls ran unended =>
    obtain ⟨keeps,acquires⟩ := calls_acquire calls
    exact called_consistent consistent ran keeps acquires rfl rfl (fun _ => .inl rfl)
  | @staged process _ _ _ _ _ _ _ _ _ _ _ now free ran kind executed =>
    obtain ⟨sound,extends_⟩ := executed_sound consistent.ledger executed
    have grows := call_grows consistent.queue ran rfl
    have working := consistent.backed process
    rw [now] at working
    exact grows_consistent consistent grows sound extends_ (fun _ impossible => impossible.elim)
      (put_moved (Process.Backed.later grows extends_ working))
  | dropped now ran => exact called_consistent consistent ran rfl (fun _ => id) rfl rfl (put_moved trivial)
  | ended now ran =>
    obtain ⟨keeps,acquires⟩ := ending_acquires _ _ _ _
    refine called_consistent consistent ran keeps acquires rfl rfl (put_moved ?_)
    split <;> trivial
  | abandoned now => exact ledger_consistent consistent consistent.ledger (.refl _) rfl (put_moved trivial)
  | affected now free
  | recovered now => exact ledger_consistent consistent consistent.ledger (.refl _) rfl (put_moved (afterRuns_backed _))
  | raised now bounded unused decided =>
    have kept := decision_kept consistent.ledger consistent.queue decided (by simp)
    exact ledger_consistent consistent consistent.ledger (.refl _) kept (put_moved trivial)
  | skipped now decided unsubmitted =>
    have kept := decision_kept consistent.ledger consistent.queue decided
      (fun goal submission same => unsubmitted goal submission (Except.ok.inj same))
    exact ledger_consistent consistent consistent.ledger (.refl _) kept (put_moved (afterRuns_backed _))
  | opened now free decided => exact opened_consistent consistent decided _ _
  | @committed process _ _ _ _ _ now stored =>
    have backed := consistent.backed process
    rw [now] at backed
    obtain ⟨run,known,rfl,rfl,_⟩ := backed
    obtain ⟨sound,extends_⟩ := commit_sound consistent.ledger known stored
    exact ledger_consistent consistent sound extends_ rfl (put_moved (afterRuns_backed _))
  | refused now clash => exact ledger_consistent consistent consistent.ledger (.refl _) rfl (put_moved trivial)
  | arrived free =>
    exact ledger_consistent consistent ⟨consistent.ledger.runs,consistent.ledger.jobs,consistent.ledger.frozen,
      consistent.ledger.owned,consistent.ledger.final,consistent.ledger.mapped⟩
      ⟨fun run inside => ⟨run,inside,.refl run⟩,fun row inside => ⟨row,inside,rfl,rfl,fun _ => id⟩⟩ rfl (fun _ => .inl rfl)
  | crashed => exact ledger_consistent consistent consistent.ledger (.refl _) rfl (put_moved trivial)

-- What a step does to the queue: a call that submits no finalization, or the
-- submission of one.
inductive QueueMoves (configuration : QueueConfiguration) (world : World) (action : Action) (after : World) : Prop where
  | still (same : after.queue = world.queue) : QueueMoves configuration world action after
  | quiet (ran : Call.run configuration world.queue call = (after.queue,reply)) (keeps : call.prunes = false)
      (acquires : ∀ goal, ¬ Call.submits call (.finalizeMarketSession goal)) : QueueMoves configuration world action after
  | submits {submission : QueueSubmitResult} (acted : action = .finalize process correlationId timestamp uuid)
      (now : world.processes process = .finalizing (run.runId :: rest))
      (ready : Submits world.warehouse world.queue run)
      (ran : Call.run configuration world.queue (.submitOrJoin (.finalizeMarketSession run.finalizationGoal) 0
        (some finalizationOrigin) (some correlationId) timestamp uuid) = (after.queue,.ok (.submitted submission)))
      (opened : after.processes process = .committing run.runId run.finalizationGoal submission.job.jobId rest) :
      QueueMoves configuration world action after

theorem transition_queue (consistent : Consistent world)
    (moved : Transition configuration world action after) : QueueMoves configuration world action after := by
  cases moved with
  | @submitted _ _ goal _ _ _ _ _ _ _ now ran produces =>
    refine .quiet ran rfl (fun other same => goal.property ?_)
    rw [← (show ProvisioningGoal.finalizeMarketSession other = goal.val from same)]
    rfl
  | claimed idle ran => exact .quiet ran rfl (fun _ => id)
  | called calls ran unended => exact .quiet ran (calls_acquire calls).1 (calls_acquire calls).2
  | staged now free ran kind executed | dropped now ran => exact .quiet ran rfl (fun _ => id)
  | ended now ran => exact .quiet ran (ending_acquires _ _ _ _).1 (ending_acquires _ _ _ _).2
  | raised now bounded unused decided =>
    exact .still (decision_kept consistent.ledger consistent.queue decided (by simp))
  | skipped now decided unsubmitted =>
    exact .still (decision_kept consistent.ledger consistent.queue decided
      (fun goal submission same => unsubmitted goal submission (Except.ok.inj same)))
  | opened now free decided =>
    obtain ⟨run,rfl,submits,rfl,ran⟩ := decision_submitted consistent.ledger consistent.queue decided
    exact .submits rfl now submits (by rw [Call.run,ran]; rfl) (Function.update_self _ _ _)
  | _ => exact .still rfl

-- What a step does to the runs and their mappings.
inductive LedgerMoves (configuration : QueueConfiguration) (world : World) (action : Action) (after : World) : Prop where
  | still (runs : after.warehouse.runs = world.warehouse.runs) (jobs : after.warehouse.runJobs = world.warehouse.runJobs) :
      LedgerMoves configuration world action after
  | persisted (acted : action = .persist process plan) (prepared : plan.prepare = .ok run)
      (stored : persistRun world.warehouse run = some after.warehouse) : LedgerMoves configuration world action after
  | mapped (acted : action = .map process) (now : world.processes process = .mapping scope goal rest jobId)
      (shape : after.warehouse = world.warehouse.mapJob scope.runId (goalIdentity goal.val) jobId)
      (kept : after.queue = world.queue) : LedgerMoves configuration world action after
  | settled (acted : action = .settle process) (now : world.processes process = .settling scope)
      (shape : after.warehouse = world.warehouse.setStatus scope.runId .acquiring) :
      LedgerMoves configuration world action after
  | staged (acted : action = .stage process timestamp services)
      (now : world.processes process = .working worker job (stage :: rest)) (free : world.lock = none)
      (kind : job.goal = .finalizeMarketSession goal)
      (executed : SessionFinalizer.execute services world.warehouse goal stage = .ok (after.warehouse,outcome)) :
      LedgerMoves configuration world action after
  | committed {run : RunRow} (acted : action = .commit process)
      (now : world.processes process = .committing run.runId run.finalizationGoal jobId rest) (known : run ∈ world.warehouse.runs)
      (stored : commitFinalization world.warehouse run.runId run.finalizationGoal jobId = some after.warehouse) :
      LedgerMoves configuration world action after

theorem transition_ledger (consistent : Consistent world)
    (moved : Transition configuration world action after) : LedgerMoves configuration world action after := by
  cases moved with
  | persisted idle free prepared stored => exact .persisted rfl prepared stored
  | mapped now free => exact .mapped rfl now rfl rfl
  | settled now free => exact .settled rfl now rfl
  | staged now free ran kind executed => exact .staged rfl now free kind executed
  | @committed process _ _ _ _ _ now stored =>
    have backed := consistent.backed process
    rw [now] at backed
    obtain ⟨run,known,rfl,rfl,_⟩ := backed
    exact .committed rfl now known stored
  | _ => exact .still rfl rfl

theorem ledger_extends (consistent : Consistent world)
    (moved : LedgerMoves configuration world action after) : Extends world.warehouse after.warehouse := by
  cases moved with
  | still runs jobs =>
    exact ⟨fun run inside => ⟨run,runs ▸ inside,.refl run⟩,fun row inside => ⟨row,jobs ▸ inside,rfl,rfl,fun _ => id⟩⟩
  | persisted acted prepared stored => exact (persistRun_sound consistent.ledger stored).2
  | mapped acted now shape kept =>
    rw [shape]
    exact (mapJob_sound consistent.ledger _ _).2
  | settled acted now shape =>
    rw [shape]
    exact (setStatus_sound consistent.ledger _).2
  | staged acted now free kind executed => exact (executed_sound consistent.ledger executed).2
  | committed acted now known stored => exact (commit_sound consistent.ledger known stored).2

theorem runs_consistent (path : Runs (WorldStep configuration) initialWorld history world) : Consistent world := by
  induction path with
  | nil => exact initial_consistent
  | step path ran ih => exact transition_consistent ih (next_transition ran)

end steps
end OpenStock.Maintenance
