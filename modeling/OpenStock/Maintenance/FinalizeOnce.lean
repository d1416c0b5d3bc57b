import OpenStock.Maintenance.Consistency
import OpenStock.Maintenance.Resumption

namespace OpenStock.Maintenance
open Text Calendar Queue

/- One run has one finalization job, unless a repeated call comes after the job
whose mapping was lost is over. -/

def finalizationMappings (warehouse : Warehouse) (runId : MaintenanceRunId) : List RunJobRow :=
  warehouse.runJobs.filter (fun row => row.maintenanceRunId == runId && row.goalType == .finalizeMarketSession)

theorem mem_mappings : row ∈ finalizationMappings warehouse runId ↔
      row ∈ warehouse.runJobs ∧ row.maintenanceRunId = runId ∧ row.goalType = .finalizeMarketSession := by
  rw [finalizationMappings,List.mem_filter,Bool.and_eq_true,beq_iff_eq,beq_iff_eq]

section once
variable [Platform]

-- A FINALIZE_MARKET_SESSION job of a run.
def Finalizes (runId : MaintenanceRunId) (row : JobRow) : Prop :=
  ∃ goal, row.Holds (.finalizeMarketSession goal) ∧ goal.maintenanceRunId = runId

-- No call reaches a run whose finalization job is over and unmapped.
def World.Unrepeated (world : World) : Action → Prop
  | .finalize process _ _ _ => ∀ runId rest, world.processes process = .finalizing (runId :: rest) →
      ∀ row ∈ world.queue.jobs, Finalizes runId row → row.status.isTerminal = true →
        finalizationMappings world.warehouse runId ≠ []
  | _ => True

def UnrepeatedStep (configuration : QueueConfiguration) (_history : List Action) (before : World) (action : Action)
    (after : World) : Prop := before.Unrepeated action ∧ before.next configuration action = some after

def OneFinalization (queue : QueueTables) : Prop :=
  ∀ runId, ∀ left ∈ queue.jobs, ∀ right ∈ queue.jobs, Finalizes runId left → Finalizes runId right → left = right

end once

section steps
variable [Platform] {configuration : QueueConfiguration} {world after : World} {before queue : QueueTables}
  {run : RunRow} {runId : MaintenanceRunId}

theorem follows_finalizes (follows : old.Follows next) : Finalizes runId next ↔ Finalizes runId old := by
  unfold Finalizes
  simp only [follows_holds follows]

theorem finalizes_known (consistent : Consistent world) (inside : row ∈ world.queue.jobs) (finalizes : Finalizes runId row) :
    ∃ run ∈ world.warehouse.runs, run.runId = runId ∧ row.Holds (.finalizeMarketSession run.finalizationGoal) ∧
      Acquired world.warehouse world.queue run := by
  obtain ⟨goal,held,named⟩ := finalizes
  obtain ⟨run,known,rfl,acquired⟩ := consistent.finalized row inside goal held
  exact ⟨run,known,named,held,acquired⟩

-- Two rows of the later queue that go on from rows of the earlier one.
theorem follows_once (once : OneFinalization before) (valid : Valid queue)
    (inside : left ∈ queue.jobs) (listed : right ∈ queue.jobs) (present : old ∈ before.jobs)
    (member : other ∈ before.jobs) (follows : old.Follows left) (goesOn : other.Follows right)
    (finalizes : Finalizes runId left) (again : Finalizes runId right) : left = right := by
  have same := once runId old present other member ((follows_finalizes follows).mp finalizes)
    ((follows_finalizes goesOn).mp again)
  subst same
  exact Rows.same_row valid.distinct inside listed (follows.jobId.trans goesOn.jobId.symm)

theorem quiet_once (once : OneFinalization before) (grows : QueueGrows submits before queue)
    (acquires : ∀ goal, ¬ submits (.finalizeMarketSession goal)) : OneFinalization queue := by
  have old : ∀ {runId}, ∀ next ∈ queue.jobs, Finalizes runId next → ∃ earlier ∈ before.jobs, earlier.Follows next := by
    intro runId next inside finalizes
    rcases grows.back next inside with traced | ⟨goal,new,held⟩
    · exact traced
    · obtain ⟨other,stored,_⟩ := finalizes
      rw [holds_unique held stored] at new
      exact absurd new (acquires other)
  intro runId left inside right listed finalizes again
  obtain ⟨earlier,present,follows⟩ := old left inside finalizes
  obtain ⟨other,member,goesOn⟩ := old right listed again
  exact follows_once once grows.valid inside listed present member follows goesOn finalizes again

theorem append_once (once : OneFinalization before)
    (unmet : ∀ runId, Finalizes runId new → ∀ old ∈ before.jobs, ¬ Finalizes runId old) :
    OneFinalization {before with jobs := before.jobs ++ [new]} := by
  intro runId left inside right listed finalizes again
  rcases List.mem_append.mp inside with present | added
  · rcases List.mem_append.mp listed with member | last
    · exact once runId left present right member finalizes again
    · rw [List.mem_singleton.mp last] at again
      exact absurd finalizes (unmet runId again left present)
  · rw [List.mem_singleton.mp added] at finalizes ⊢
    rcases List.mem_append.mp listed with member | last
    · exact absurd again (unmet runId finalizes right member)
    · exact (List.mem_singleton.mp last).symm

-- A submission that creates a job meets no active job of the goal.
theorem submission_once (consistent : Consistent world) (once : OneFinalization world.queue)
    (ready : Submits world.warehouse world.queue run)
    (unrepeated : ∀ row ∈ world.queue.jobs, Finalizes run.runId row → row.status.isTerminal = false)
    (ran : Call.run configuration world.queue (.submitOrJoin (.finalizeMarketSession run.finalizationGoal) priority
      origin correlationId timestamp uuid) = (queue,reply)) : OneFinalization queue := by
  have still := call_valid consistent.queue ran
  have forth := fun row (inside : row ∈ world.queue.jobs) => call_follows consistent.queue ran rfl inside
  have quiet : (∀ next ∈ queue.jobs, ∃ old ∈ world.queue.jobs, old.Follows next) → OneFinalization queue := fun back =>
    have grows : QueueGrows (fun _ => False) world.queue queue := ⟨still,forth,fun next inside => .inl (back next inside)⟩
    quiet_once once grows (fun _ => id)
  obtain ⟨writes,edits,performed⟩ := run_performs consistent.queue _ ran
  cases performed with
  | refused | joinedRunning running =>
    cases edits
    exact once
  | joinedQueued queued =>
    refine quiet (fun next inside => ?_)
    have traced : Traced configuration (.requeueExpired 0) world.queue next :=
      edit_traced edits.only inside (fun old _ _ _ terminal => .inl terminal)
    obtain ⟨old,present,follows,_⟩ := traced
    exact ⟨old,present,follows⟩
  | created named =>
    cases edits.only with
    | create absent idle shape =>
      refine append_once once (fun runId finalizes old present earlier => ?_)
      obtain ⟨goal,held,rfl⟩ := finalizes
      cases holds_unique (new_holds _ _ _ _ _ _) held
      obtain ⟨other,known,named,stored,_⟩ := finalizes_known consistent present earlier
      rw [Rows.same_row consistent.ledger.runs known ready.known named] at stored
      have active : old.status.isActive = true := by
        have unended := unrepeated old present earlier
        cases status : old.status <;> simp_all [ProvisioningJobStatus.isActive,ProvisioningJobStatus.isTerminal]
      exact idle old present active stored.identity

theorem transition_once (consistent : Consistent world) (once : OneFinalization world.queue)
    (moved : Transition configuration world action after) (unrepeated : world.Unrepeated action) :
    OneFinalization after.queue := by
  cases transition_queue consistent moved with
  | still same =>
    rw [same]
    exact once
  | quiet ran keeps acquires => exact quiet_once once (call_grows consistent.queue ran keeps) acquires
  | submits acted now ready ran opened =>
    subst acted
    refine submission_once consistent once ready (fun row inside finalizes => ?_) ran
    cases ended : row.status.isTerminal with
    | false => rfl
    | true =>
      obtain ⟨mapping,found⟩ := List.exists_mem_of_ne_nil _ (unrepeated _ _ now row inside finalizes ended)
      obtain ⟨listed,owner,kind⟩ := mem_mappings.mp found
      exact absurd kind (ready.unmapped mapping listed owner)

theorem runs_once (path : Runs (UnrepeatedStep configuration) initialWorld history world) :
    Consistent world ∧ OneFinalization world.queue := by
  induction path with
  | nil => exact ⟨initial_consistent,fun _ _ inside => by cases inside⟩
  | step path ran ih =>
    have moved := next_transition ran.2
    exact ⟨transition_consistent ih.1 moved,transition_once ih.1 ih.2 moved ran.1⟩

theorem mappings_bounded (sound : LedgerSound warehouse) (runId : MaintenanceRunId) :
    (finalizationMappings warehouse runId).length ≤ 1 := by
  have distinct : Rows.Distinct RunJobRow.key (finalizationMappings warehouse runId) :=
    sound.jobs.sublist (List.filter_sublist.map _)
  have single : ∀ left ∈ finalizationMappings warehouse runId, ∀ right ∈ finalizationMappings warehouse runId,
      left = right := by
    intro left inside right listed
    obtain ⟨member,owner,kind⟩ := mem_mappings.mp inside
    obtain ⟨present,other,again⟩ := mem_mappings.mp listed
    obtain ⟨run,known,named,identity⟩ := sound.final left member kind
    obtain ⟨same,also,naming,equal⟩ := sound.final right present again
    have one := Rows.same_row sound.runs known also (named.trans (owner.trans (other.symm.trans naming.symm)))
    subst one
    refine Rows.same_row sound.jobs member present ?_
    rw [RunJobRow.key,RunJobRow.key,owner,other,identity,equal]
  generalize finalizationMappings warehouse runId = rows at distinct single
  cases rows with
  | nil => exact Nat.zero_le 1
  | cons first rest =>
    cases rest with
    | nil => exact Nat.le_refl 1
    | cons second rest =>
      cases single first (by simp) second (by simp)
      simp [Rows.Distinct] at distinct

theorem finalization_submitted_once (path : Runs (WorldStep configuration) initialWorld history world) :
    (∀ runId, ∀ row ∈ world.queue.jobs, Finalizes runId row →
      ∃ run ∈ world.warehouse.runs, run.runId = runId ∧ Acquired world.warehouse world.queue run) ∧
    (∀ runId, (finalizationMappings world.warehouse runId).length ≤ 1) ∧
    (Runs (UnrepeatedStep configuration) initialWorld history world → OneFinalization world.queue) := by
  have consistent := runs_consistent path
  refine ⟨fun runId row inside finalizes => ?_,mappings_bounded consistent.ledger,fun unrepeated => (runs_once unrepeated).2⟩
  obtain ⟨run,known,named,_,acquired⟩ := finalizes_known consistent inside finalizes
  exact ⟨run,known,named,acquired⟩

theorem kind_finalizes (consistent : Consistent world) (inside : row ∈ world.queue.jobs)
    (kind : row.goalType = .finalizeMarketSession) : ∃ run ∈ world.warehouse.runs, Finalizes run.runId row := by
  obtain ⟨goal,held⟩ := consistent.queue.stored row inside
  cases goal with
  | finalizeMarketSession goal =>
    obtain ⟨run,known,rfl,_⟩ := consistent.finalized row inside goal held
    exact ⟨run,known,_,held,rfl⟩
  | ensureCurrentSymbol goal | syncDatasetRange goal => cases kind.symm.trans held.kind

end steps

/- One run of one symbol. The process that submits its finalization dies before
the mapping; the job then fails for want of evidence, and a recovery repeats the
call. -/

def samplePlan : RunPlan :=
  ⟨⟨['m'],run_admitted⟩,['c'],sampleSession,[['A']],⟨['h'],hash_admitted⟩,[['A']],true,
    ⟨"policy-v1".toList,policy_admitted⟩⟩

def sampleProduction (process : Nat) : List Action :=
  [.persist process samplePlan,.look process,.find process,.submit process 0 1000 ['a'],.map process,.look process]

def sampleDelivery (process : Nat) : List Action :=
  [.claim process ['w'] 2000,.finish process (.complete ['d']) 2000,.affected process]

def repeatedFinalization : List Action :=
  sampleProduction 0 ++ [.settle 0] ++ sampleDelivery 1 ++ [.finalize 1 ['t'] 3000 ['f'],.crash 1] ++
    [.claim 2 ['w'] 4000,.stage 2 4000 obligingServices,.finish 2 (.fail "FAILED".toList false) 4000,.affected 2] ++
    [.recover 3 (some samplePlan.runId),.finalize 3 ['t'] 5000 ['g']]

def worldRun (events : List Action) : Option World :=
  Runs.execute (fun _ before action => @World.next samplePlatform defaultConfiguration before action) [] initialWorld events

theorem worldRun_path (ran : worldRun events = some final) :
    Runs (@WorldStep samplePlatform defaultConfiguration) initialWorld (events.reverse ++ []) final :=
  Runs.executed (fun accepted => accepted) .nil ran

def finalizationJobs (world : World) : List JobRow :=
  world.queue.jobs.filter (fun row => row.goalType == .finalizeMarketSession)

theorem finalization_repeated : ¬ ∀ (history : List Action) (world : World),
    Runs (@WorldStep samplePlatform defaultConfiguration) initialWorld history world →
      @OneFinalization samplePlatform world.queue := by
  intro once
  have reported : (worldRun repeatedFinalization).map (fun world =>
      ((finalizationJobs world).map JobRow.jobId,world.warehouse.runs.map RunRow.runId)) =
      some ([['f'],['g']],[samplePlan.runId]) := by
    decide +kernel
  obtain ⟨world,ran,shape⟩ := Option.map_eq_some_iff.mp reported
  obtain ⟨jobs,runs⟩ := Prod.mk.injEq _ _ _ _ ▸ shape
  have path := worldRun_path ran
  let platform := samplePlatform
  have consistent := runs_consistent path
  obtain ⟨first,second,rows,one,two⟩ : ∃ first second, finalizationJobs world = [first,second] ∧ first.jobId = ['f'] ∧
      second.jobId = ['g'] := by
    generalize finalizationJobs world = rows at jobs
    match rows with
    | [first,second] => exact ⟨first,second,rfl,by simpa using jobs⟩
    | [] | [_] | _ :: _ :: _ :: _ => simp at jobs
  have submitted : ∀ row ∈ finalizationJobs world, row ∈ world.queue.jobs ∧ Finalizes samplePlan.runId row := by
    intro row inside
    obtain ⟨listed,kind⟩ := List.mem_filter.mp inside
    obtain ⟨run,known,finalizes⟩ := kind_finalizes consistent listed (beq_iff_eq.mp kind)
    have named : run.runId ∈ world.warehouse.runs.map RunRow.runId := List.mem_map_of_mem known
    rw [runs,List.mem_singleton] at named
    exact ⟨listed,named ▸ finalizes⟩
  rw [rows] at submitted
  obtain ⟨listed,finalizes⟩ := submitted first (by simp)
  obtain ⟨present,again⟩ := submitted second (by simp)
  have same := once _ world path samplePlan.runId first listed second present finalizes again
  rw [same,two] at one
  cases one

-- The same run without the crash, each finalization call being the first.
def Action.finalizes : Action → Bool
  | .finalize _ _ _ _ => true
  | _ => false

def firstFinalization (before : World) (action : Action) : Option World :=
  if action.finalizes && !(finalizationJobs before).isEmpty then none
  else @World.next samplePlatform defaultConfiguration before action

theorem firstFinalization_path (ran : Runs.execute (fun _ before action => firstFinalization before action) []
    initialWorld events = some final) :
    Runs (@UnrepeatedStep samplePlatform defaultConfiguration) initialWorld (events.reverse ++ []) final := by
  let platform := samplePlatform
  refine Runs.executed ?_ .nil ran
  intro _ before action after accepted
  unfold firstFinalization at accepted
  split at accepted
  · cases accepted
  · rename_i guarded
    refine ⟨?_,accepted⟩
    cases action with
    | finalize process correlationId timestamp uuid =>
      have unsubmitted : finalizationJobs before = [] := by simpa [Action.finalizes] using guarded
      intro runId rest now row inside finalizes
      obtain ⟨goal,held,_⟩ := finalizes
      have listed : row ∈ finalizationJobs before := List.mem_filter.mpr ⟨inside,beq_iff_eq.mpr held.kind⟩
      rw [unsubmitted] at listed
      cases listed
    | _ => trivial

theorem finalization_submitted_once_sample : ∃ world : World, (finalizationJobs world).map JobRow.jobId = [['f']] ∧
    (∃ run ∈ world.warehouse.runs, @Acquired samplePlatform world.warehouse world.queue run) ∧
    @OneFinalization samplePlatform world.queue := by
  have reported : (Runs.execute (fun _ before action => firstFinalization before action) [] initialWorld
      (sampleProduction 0 ++ [.settle 0] ++ sampleDelivery 1 ++ [.finalize 1 ['t'] 3000 ['f'],.commit 1])).map
        (fun world => (finalizationJobs world).map JobRow.jobId) = some [['f']] := by
    decide +kernel
  obtain ⟨world,ran,jobs⟩ := Option.map_eq_some_iff.mp reported
  let platform := samplePlatform
  have unrepeated := firstFinalization_path ran
  have path : Runs (WorldStep defaultConfiguration) initialWorld _ world := unrepeated.mono (fun step => step.2)
  obtain ⟨acquired,_,once⟩ := finalization_submitted_once path
  obtain ⟨row,member,_⟩ := List.mem_map.mp (show ['f'] ∈ (finalizationJobs world).map JobRow.jobId by rw [jobs]; simp)
  obtain ⟨listed,kind⟩ := List.mem_filter.mp member
  obtain ⟨owner,_,finalizes⟩ := kind_finalizes (runs_consistent path) listed (beq_iff_eq.mp kind)
  obtain ⟨run,known,_,done⟩ := acquired owner.runId row listed finalizes
  exact ⟨world,jobs,⟨run,known,done⟩,once unrepeated⟩

end OpenStock.Maintenance
