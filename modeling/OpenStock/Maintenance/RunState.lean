import OpenStock.Maintenance.FinalizeOnce

namespace OpenStock.Maintenance
open Text Calendar Queue

/- The status of a run only moves on, but for three writes that do not look at it:
the producer's ACQUIRING, the coverage stage's FINALIZING, and the mapping of a
repeated finalization call. -/

def MaintenanceRunState.rank : MaintenanceRunState → Nat
  | .enqueuing => 0
  | .acquiring => 1
  | .finalizationQueued => 2
  | .finalizing => 3
  | .success | .partially | .failed => 4

def Forward (before after : Warehouse) : Prop :=
  ∀ run ∈ before.runs, ∃ later ∈ after.runs, later.runId = run.runId ∧ run.status.rank ≤ later.status.rank

theorem Forward.refl (warehouse : Warehouse) : Forward warehouse warehouse :=
  fun run inside => ⟨run,inside,rfl,Nat.le_refl _⟩

theorem Forward.trans (left : Forward first second) (right : Forward second third) : Forward first third := by
  intro run inside
  obtain ⟨middle,member,same,rises⟩ := left run inside
  obtain ⟨last,listed,still,more⟩ := right middle member
  exact ⟨last,listed,still.trans same,rises.trans more⟩

-- No process has died so far.
def Uncrashed (history : List Action) : Prop := ∀ process, Action.crash process ∉ history

-- The run a process is about to map.
def Process.commits : Process → Option MaintenanceRunId
  | .committing runId _ _ _ => some runId
  | _ => none

section timely
variable [Platform]

-- The writes that do not look at the status find it where they expect it.
def World.Timely (history : List Action) (world : World) : Action → Prop
  | .settle process => ∀ scope, world.processes process = .settling scope →
      ∀ run ∈ world.warehouse.runs, run.runId = scope.runId → run.status.rank ≤ 1
  | .stage process _ _ => ∀ worker job rest goal scope,
      world.processes process = .working worker job (.coverage :: rest) → job.goal = .finalizeMarketSession goal →
      world.warehouse.finalizationScope goal = .ok scope → reused world.warehouse goal .coverage = false →
      coverageStatus scope ≠ .failed →
      ∀ run ∈ world.warehouse.runs, run.runId = goal.maintenanceRunId → run.status.isFinal = false
  | .commit process => ∀ runId goal jobId rest, world.processes process = .committing runId goal jobId rest →
      ¬ Uncrashed history → ∀ run ∈ world.warehouse.runs, run.runId = runId → run.status.rank ≤ 2
  | _ => True

def TimelyStep (configuration : QueueConfiguration) (history : List Action) (before : World) (action : Action)
    (after : World) : Prop := before.Timely history action ∧ before.next configuration action = some after

-- The row a finalization of the run would add is there.
def Keyed (warehouse : Warehouse) (run : RunRow) : Prop :=
  ∃ row ∈ warehouse.runJobs, row.key = (run.runId,finalIdentity run)

def MappedLate (warehouse : Warehouse) : Prop :=
  ∀ row ∈ warehouse.runJobs, row.goalType = .finalizeMarketSession →
    ∀ run ∈ warehouse.runs, run.runId = row.maintenanceRunId → 2 ≤ run.status.rank

-- Without a crash a run is mapped before anything can finalize it.
structure Ordered (world : World) : Prop where
  locked : ∀ process, (world.processes process).commits.isSome = true → world.lock = some process
  early : ∀ run ∈ world.warehouse.runs, Keyed world.warehouse run ∨ run.status.rank ≤ 1
  submitted : ∀ row ∈ world.queue.jobs, ∀ run ∈ world.warehouse.runs, Finalizes run.runId row →
    Keyed world.warehouse run ∨ ∃ process, (world.processes process).commits = some run.runId

end timely

/- Forward. -/

section forward
variable {warehouse after : Warehouse} {runId : MaintenanceRunId}

theorem updated_forward (change : RunRow → RunRow) (runs : after.runs = (warehouse.updateRun runId change).runs)
    (kept : ∀ run, (change run).runId = run.runId)
    (rises : ∀ run ∈ warehouse.runs, run.runId = runId → run.status.rank ≤ (change run).status.rank) :
    Forward warehouse after := by
  intro run inside
  refine ⟨if run.runId == runId then change run else run,?_,?_⟩
  · rw [runs]
    exact List.mem_map_of_mem inside
  · by_cases same : run.runId = runId
    · rw [if_pos (beq_iff_eq.mpr same)]
      exact ⟨kept run,rises run inside same⟩
    · rw [if_neg (fun equal => same (beq_iff_eq.mp equal))]
      exact ⟨rfl,Nat.le_refl _⟩

theorem extended_forward (runs : ∃ added, after.runs = warehouse.runs ++ added) : Forward warehouse after := by
  obtain ⟨added,shape⟩ := runs
  exact fun run inside => ⟨run,by rw [shape]; exact List.mem_append_left _ inside,rfl,Nat.le_refl _⟩

variable {goal : FinalizeMarketSessionGoal} {scope : FinalizationScope}

-- The coverage stage, when it is really run, leaves FAILED or FINALIZING.
theorem coverage_executed (ran : SessionFinalizer.execute services warehouse goal .coverage = .ok (after,outcome))
    (found : warehouse.finalizationScope goal = .ok scope) (first : reused warehouse goal .coverage = false) :
    ∃ change : RunRow → RunRow, after.runs = (warehouse.updateRun goal.maintenanceRunId change).runs ∧
      (∀ run, (change run).runId = run.runId) ∧
      ∀ run, (change run).status = if coverageStatus scope = .failed then .failed else .finalizing := by
  simp only [SessionFinalizer.execute,found,bind,Except.bind,unavailable,bne_self_eq_false,Bool.false_and,
    Bool.false_eq_true,if_false,first] at ran
  by_cases failed : (runStage services warehouse goal scope .coverage).2 = .failed
  · rw [if_pos failed] at ran
    cases ran
    have twice : (warehouse.setStatus goal.maintenanceRunId .finalizing).persistFailedRun goal.maintenanceRunId scope =
        warehouse.updateRun goal.maintenanceRunId (fun row => {row with
          status := .failed, successfulSymbolCount := scope.eligibleSymbols.length,
          failedSymbolCount := scope.symbols.length - scope.eligibleSymbols.length}) := updateRun_twice (fun _ => rfl)
    refine ⟨fun row => {row with
      status := .failed, successfulSymbolCount := scope.eligibleSymbols.length,
      failedSymbolCount := scope.symbols.length - scope.eligibleSymbols.length},?_,fun _ => rfl,fun _ => (if_pos failed).symm⟩
    rw [← twice]
    simp [Warehouse.persistFailedRun,Warehouse.updateRun,runStage,coverageStage,Warehouse.setStatus]
  · rw [if_neg failed] at ran
    cases ran
    exact ⟨fun row => {row with status := .finalizing},by simp [runStage,coverageStage,Warehouse.setStatus],
      fun _ => rfl,fun _ => (if_neg failed).symm⟩

theorem unfinal_rank {status : MaintenanceRunState} (unfinal : status.isFinal = false) : status.rank ≤ 3 := by
  cases status <;> first | decide | cases unfinal

theorem rank_bound (status : MaintenanceRunState) : status.rank ≤ 4 := by
  cases status <;> decide

variable {stage : FinalizationStage}

theorem moves_forward (moved : StageMoves stage scope left right) (later : stage ≠ .coverage) : left.rank ≤ right.rank := by
  cases moved with
  | kept => exact Nat.le_refl _
  | finalizing first => exact absurd first later
  | succeeded last whole | partially last | failed => exact rank_bound left

theorem executed_forward (ran : SessionFinalizer.execute services warehouse goal stage = .ok (after,outcome))
    (timely : ∀ scope, stage = .coverage → warehouse.finalizationScope goal = .ok scope →
      reused warehouse goal .coverage = false → coverageStatus scope ≠ .failed →
      ∀ run ∈ warehouse.runs, run.runId = goal.maintenanceRunId → run.status.isFinal = false) : Forward warehouse after := by
  obtain ⟨scope,found,⟨rfl,_⟩ | ⟨_,first,executed,_⟩⟩ := execute_ok ran
  · exact .refl _
  · by_cases covers : stage = .coverage
    · subst covers
      obtain ⟨change,runs,kept,status⟩ := coverage_executed ran found first
      refine updated_forward change runs kept (fun run inside same => ?_)
      rw [status run]
      by_cases failed : coverageStatus scope = .failed
      · rw [if_pos failed]
        exact rank_bound _
      · rw [if_neg failed]
        exact unfinal_rank (timely scope rfl found first failed run inside same)
    · obtain ⟨change,edited,runs⟩ := executed.runs
      exact updated_forward change runs (fun run => (edited run).1.runId)
        (fun run _ _ => moves_forward (edited run).2 covers)

theorem prepared_status {plan : RunPlan} (prepared : plan.prepare = .ok run) : run.status = .enqueuing := by
  unfold RunPlan.prepare at prepared
  cases goals : maintenanceGoals plan.session plan.missing plan.sourcePolicyVersion.val (!plan.benchmarkReady) with
  | error message =>
    rw [goals] at prepared
    cases prepared
  | ok goals =>
    rw [goals] at prepared
    cases prepared
    rfl

theorem put_commits {world : World} (unopened : next.commits = none)
    (commits : ((world.put process next).processes other).commits.isSome = true) :
    other ≠ process ∧ (world.processes other).commits.isSome = true := by
  by_cases same : other = process
  · subst same
    simp only [World.put,Function.update_self,unopened,Option.isSome_none,Bool.false_eq_true] at commits
  · simp only [World.put,Function.update_of_ne same] at commits
    exact ⟨same,commits⟩

theorem produces_commits {next : Process} (produces : next.produces = true) : next.commits = none := by
  cases next <;> first | rfl | cases produces

theorem afterRuns_commits (runIds : List MaintenanceRunId) : (World.afterRuns runIds).commits = none := by
  cases runIds <;> rfl

end forward

section steps
variable [Platform] {configuration : QueueConfiguration} {history : List Action} {world after : World} {action : Action}
variable {warehouse grown : Warehouse}

theorem committed_keyed
    (stored : commitFinalization warehouse run.runId run.finalizationGoal jobId = some grown) : ¬ Keyed warehouse run := by
  obtain ⟨middle,inserted,_⟩ := commit_ok stored
  obtain ⟨_,fresh⟩ := insertRunJob_ok inserted
  rintro ⟨row,inside,keyed⟩
  exact fresh row inside keyed

theorem clash_keyed {warehouse : Warehouse}
    (clash : commitFinalization warehouse run.runId run.finalizationGoal jobId = none) : Keyed warehouse run := by
  simp only [commitFinalization,Option.map_eq_none_iff,Warehouse.insertRunJob] at clash
  split at clash
  · rename_i present
    obtain ⟨row,inside,met⟩ := List.any_eq_true.mp present
    rw [Bool.and_eq_true,beq_iff_eq,beq_iff_eq] at met
    exact ⟨row,inside,Prod.ext met.1 met.2⟩
  · cases clash

theorem commit_forward {run : RunRow} (stored : commitFinalization warehouse run.runId run.finalizationGoal jobId = some grown)
    (unstarted : ∀ other ∈ warehouse.runs, other.runId = run.runId → other.status.rank ≤ 2) : Forward warehouse grown := by
  obtain ⟨middle,inserted,rfl⟩ := commit_ok stored
  obtain ⟨rfl,_⟩ := insertRunJob_ok inserted
  exact updated_forward (fun row => {row with status := .finalizationQueued}) rfl (fun _ => rfl) unstarted

theorem step_forward (consistent : Consistent world) (ordered : Uncrashed history → Ordered world)
    (timely : world.Timely history action) (moved : Transition configuration world action after) :
    Forward world.warehouse after.warehouse := by
  cases transition_ledger consistent moved with
  | still runs jobs => exact extended_forward ⟨[],by rw [runs,List.append_nil]⟩
  | persisted acted prepared stored => exact extended_forward ⟨_,(persistRun_ok consistent.ledger stored).2.1⟩
  | mapped acted now shape kept =>
    rw [shape]
    exact extended_forward ⟨[],(List.append_nil _).symm⟩
  | settled acted now shape =>
    subst acted
    rw [shape]
    exact updated_forward (fun row => {row with status := .acquiring}) rfl (fun _ => rfl) (timely _ now)
  | @staged process _ _ worker job stage rest goal outcome acted now free kind executed =>
    subst acted
    refine executed_forward executed (fun scope covers found first covered => ?_)
    subst covers
    exact timely worker job rest goal scope now kind found first covered
  | @committed process jobId run rest acted now known stored =>
    subst acted
    refine commit_forward stored (fun other inside same => ?_)
    by_cases calm : Uncrashed history
    · cases Rows.same_row consistent.ledger.runs inside known same
      have early := (ordered calm).early _ known
      exact (early.resolve_left (committed_keyed stored)).trans (by decide)
    · exact timely _ _ _ _ now calm other inside same

/- What precedes a step without a crash. -/

-- Who holds the lock commits, and nobody else.
theorem transition_locked (locked : ∀ process, (world.processes process).commits.isSome = true → world.lock = some process)
    (moved : Transition configuration world action after) (alive : ∀ process, action ≠ .crash process) (other : Nat)
    (commits : (after.processes other).commits.isSome = true) : after.lock = some other := by
  cases moved with
  | produced now produces | submitted now ran produces =>
    exact locked other (put_commits (produces_commits produces) commits).2
  | called calls ran unended => exact locked other commits
  | arrived free => exact locked other commits
  | ended now ran =>
    refine locked other (put_commits ?_ commits).2
    split <;> rfl
  | affected now free | recovered now | skipped now decided unsubmitted =>
    exact locked other (put_commits (afterRuns_commits _) commits).2
  | @opened process runId rest _ _ _ _ goal submission now free decided =>
    by_cases same : other = process
    · subst same
      rfl
    · simp only [World.put,Function.update_of_ne same] at commits
      rw [free] at locked
      cases locked other commits
  | @committed process runId goal jobId rest _ now stored =>
    obtain ⟨differs,earlier⟩ := put_commits (afterRuns_commits _) commits
    have held := locked process (by rw [now]; rfl)
    rw [locked other earlier] at held
    exact absurd (Option.some.inj held) differs
  | @refused process runId goal jobId rest now clash =>
    obtain ⟨differs,earlier⟩ := put_commits rfl commits
    have held := locked process (by rw [now]; rfl)
    rw [locked other earlier] at held
    exact absurd (Option.some.inj held) differs
  | @crashed process => exact absurd rfl (alive process)
  | _ => exact locked other (put_commits rfl commits).2

-- The mapping of a run is there once its commit is behind.
theorem commits_forth (consistent : Consistent world) (moved : Transition configuration world action after)
    (alive : ∀ process, action ≠ .crash process) (known : run ∈ world.warehouse.runs)
    (commits : (world.processes process).commits = some run.runId) :
    (after.processes process).commits = some run.runId ∨ Keyed after.warehouse run := by
  have elsewhere : ∀ {other : Nat} {next : Process}, (world.processes other).commits = none →
      (Function.update world.processes other next process).commits = some run.runId := by
    intro other next uncommitting
    by_cases same : process = other
    · subst same
      rw [uncommitting] at commits
      cases commits
    · rw [Function.update_of_ne same,commits]
  have backed := consistent.backed process
  cases moved with
  | called calls ran unended | arrived free => exact .inl commits
  | produced now produces => exact .inl (elsewhere (produces_commits now))
  | persisted now | submitted now | mapped now | settled now | claimed now | staged now | dropped now | ended now
  | abandoned now | affected now | recovered now | raised now | skipped now | opened now =>
    exact .inl (elsewhere (by rw [now]; rfl))
  | @committed other runId goal jobId rest _ now stored =>
    by_cases same : process = other
    · subst same
      rw [now] at commits backed
      cases commits
      obtain ⟨owner,inside,named,rfl,_⟩ := backed
      cases Rows.same_row consistent.ledger.runs inside known named
      obtain ⟨middle,inserted,rfl⟩ := commit_ok stored
      obtain ⟨rfl,_⟩ := insertRunJob_ok inserted
      exact .inr ⟨_,List.mem_append_right _ (List.mem_singleton.mpr rfl),rfl⟩
    · refine .inl ?_
      simp only [World.put,Function.update_of_ne same]
      exact commits
  | @refused other runId goal jobId rest now clash =>
    by_cases same : process = other
    · subst same
      rw [now] at commits backed
      cases commits
      obtain ⟨owner,inside,named,rfl,_⟩ := backed
      cases Rows.same_row consistent.ledger.runs inside known named
      exact .inr (clash_keyed clash)
    · refine .inl ?_
      simp only [World.put,Function.update_of_ne same]
      exact commits
  | crashed => exact absurd rfl (alive _)

theorem keyed_scope (extends_ : Extends warehouse grown)
    (same : run.SameScope later) (keyed : Keyed warehouse run) : Keyed grown later := by
  obtain ⟨row,member,key⟩ := keyed
  obtain ⟨next,there,still,_⟩ := extends_.jobs row member
  exact ⟨next,there,by rw [still,key,same.runId,SameScope.finalIdentity same]⟩

variable {runId : MaintenanceRunId}

-- A finalization job goes on from an earlier one, or its run is being committed.
theorem finalizes_back (consistent : Consistent world) (moved : QueueMoves configuration world action after)
    (inside : row ∈ after.queue.jobs) (finalizes : Finalizes runId row) :
    (∃ old ∈ world.queue.jobs, Finalizes runId old) ∨ ∃ process, (after.processes process).commits = some runId := by
  have traced : ∀ {submits : ProvisioningGoal → Prop}, QueueGrows submits world.queue after.queue →
      (∃ old ∈ world.queue.jobs, Finalizes runId old) ∨
        ∃ goal, submits (.finalizeMarketSession goal) ∧ goal.maintenanceRunId = runId := by
    intro submits grows
    rcases grows.back row inside with ⟨old,present,follows⟩ | ⟨goal,new,held⟩
    · exact .inl ⟨old,present,(follows_finalizes follows).mp finalizes⟩
    · obtain ⟨other,stored,named⟩ := finalizes
      rw [holds_unique held stored] at new
      exact .inr ⟨other,new,named⟩
  cases moved with
  | still same => exact .inl ⟨row,same ▸ inside,finalizes⟩
  | quiet ran keeps acquires =>
    rcases traced (call_grows consistent.queue ran keeps) with old | ⟨goal,new,_⟩
    · exact .inl old
    · exact absurd new (acquires goal)
  | submits acted now ready ran opened =>
    rcases traced (call_grows consistent.queue ran rfl) with old | ⟨goal,new,rfl⟩
    · exact .inl old
    · cases (show ProvisioningGoal.finalizeMarketSession goal = .finalizeMarketSession _ from new)
      exact .inr ⟨_,by rw [opened]; rfl⟩

theorem step_submitted (consistent : Consistent world) (ordered : Ordered world)
    (moved : Transition configuration world action after) (alive : ∀ process, action ≠ .crash process) :
    ∀ row ∈ after.queue.jobs, ∀ run ∈ after.warehouse.runs, Finalizes run.runId row →
      Keyed after.warehouse run ∨ ∃ process, (after.processes process).commits = some run.runId := by
  intro row inside run known finalizes
  have sound := (transition_consistent consistent moved).ledger
  have extends_ := ledger_extends consistent (transition_ledger consistent moved)
  rcases finalizes_back consistent (transition_queue consistent moved) inside finalizes with ⟨old,present,earlier⟩ | now
  · obtain ⟨owner,member,named,_⟩ := finalizes_known consistent present earlier
    obtain ⟨later,listed,same⟩ := extends_.runs owner member
    cases Rows.same_row sound.runs listed known (same.runId.trans named)
    rcases ordered.submitted old present owner member (named ▸ earlier) with keyed | ⟨process,commits⟩
    · exact .inl (keyed_scope extends_ same keyed)
    · rcases commits_forth consistent moved alive member commits with still | keyed
      · exact .inr ⟨process,still.trans (congrArg some same.runId.symm)⟩
      · exact .inl (keyed_scope (.refl _) same keyed)
  · exact .inr now

theorem early_updated (extends_ : Extends warehouse grown)
    (early : ∀ run ∈ warehouse.runs, Keyed warehouse run ∨ run.status.rank ≤ 1)
    (change : RunRow → RunRow) (runs : grown.runs = (warehouse.updateRun runId change).runs)
    (touched : ∀ run ∈ warehouse.runs, run.runId = runId → Keyed grown (change run) ∨ (change run).status.rank ≤ 1) :
    ∀ run ∈ grown.runs, Keyed grown run ∨ run.status.rank ≤ 1 := by
  intro later inside
  rw [runs] at inside
  obtain ⟨run,member,rfl⟩ := mem_updateRun inside
  by_cases same : run.runId = runId
  · rw [if_pos (beq_iff_eq.mpr same)]
    exact touched run member same
  · rw [if_neg (fun equal => same (beq_iff_eq.mp equal))]
    exact (early run member).imp_left (keyed_scope extends_ (.refl run))

theorem step_early (consistent : Consistent world) (ordered : Ordered world)
    (moved : LedgerMoves configuration world action after) :
    ∀ run ∈ after.warehouse.runs, Keyed after.warehouse run ∨ run.status.rank ≤ 1 := by
  have extends_ := ledger_extends consistent moved
  cases moved with
  | still runs jobs =>
    intro run inside
    exact (ordered.early run (runs ▸ inside)).imp_left (keyed_scope extends_ (.refl run))
  | persisted acted prepared stored =>
    intro run inside
    rw [(persistRun_ok consistent.ledger stored).2.1] at inside
    rcases List.mem_append.mp inside with earlier | new
    · exact (ordered.early run earlier).imp_left (keyed_scope extends_ (.refl run))
    · rw [List.mem_singleton.mp new]
      exact .inr (by rw [prepared_status prepared]; decide)
  | mapped acted now shape kept =>
    intro run inside
    rw [shape] at inside
    exact (ordered.early run inside).imp_left (keyed_scope extends_ (.refl run))
  | settled acted now shape =>
    refine early_updated extends_ ordered.early (fun row => {row with status := .acquiring}) (by rw [shape]; rfl) ?_
    exact fun run _ _ => .inr (Nat.le_refl 1)
  | @staged process _ _ worker job _ _ goal _ acted now free kind executed =>
    obtain ⟨scope,_,⟨same,_⟩ | ⟨_,_,ran,_⟩⟩ := execute_ok executed
    · rw [same] at extends_ ⊢
      exact ordered.early
    · obtain ⟨change,edited,runs⟩ := ran.runs
      refine early_updated extends_ ordered.early change runs (fun run member same => .inl ?_)
      have backed := consistent.backed process
      rw [now] at backed
      obtain ⟨row,present,_,held⟩ := backed
      rw [kind] at held
      rcases ordered.submitted row present run member ⟨goal,held,same.symm⟩ with keyed | ⟨other,commits⟩
      · exact keyed_scope extends_ (edited run).1 keyed
      · have locked := ordered.locked other (by rw [commits]; rfl)
        rw [free] at locked
        cases locked
  | committed acted now known stored =>
    obtain ⟨middle,inserted,shape⟩ := commit_ok stored
    obtain ⟨rfl,_⟩ := insertRunJob_ok inserted
    refine early_updated extends_ ordered.early (fun row => {row with status := .finalizationQueued})
      (by rw [shape]; rfl) ?_
    intro run member same
    cases Rows.same_row consistent.ledger.runs member known same
    exact .inl ⟨_,by rw [shape]; exact List.mem_append_right _ (List.mem_singleton.mpr rfl),rfl⟩

/- Mapped runs. -/

theorem final_back (consistent : Consistent world) (moved : LedgerMoves configuration world action after)
    (inside : row ∈ after.warehouse.runJobs) (kind : row.goalType = .finalizeMarketSession) :
    (∃ old ∈ world.warehouse.runJobs, old.maintenanceRunId = row.maintenanceRunId ∧ old.goalType = .finalizeMarketSession) ∨
    ∀ run ∈ after.warehouse.runs, run.runId = row.maintenanceRunId → run.status = .finalizationQueued := by
  have kept : after.warehouse.runJobs = world.warehouse.runJobs → ∃ old ∈ world.warehouse.runJobs,
      old.maintenanceRunId = row.maintenanceRunId ∧ old.goalType = .finalizeMarketSession :=
    fun same => ⟨row,same ▸ inside,rfl,kind⟩
  cases moved with
  | still runs jobs => exact .inl (kept jobs)
  | persisted acted prepared stored =>
    rw [(persistRun_ok consistent.ledger stored).2.2.1] at inside
    rcases List.mem_append.mp inside with earlier | planned
    · exact .inl ⟨row,earlier,rfl,kind⟩
    · obtain ⟨goal,_,rfl⟩ := List.mem_map.mp planned
      exact absurd kind (planned_acquisition _ goal)
  | @mapped _ scope goal _ jobId _ now shape _ =>
    obtain ⟨edit,rows,edited⟩ := mapJob_rows world.warehouse scope.runId (goalIdentity goal.val) jobId
    rw [shape,rows] at inside
    obtain ⟨old,member,rfl⟩ := List.mem_map.mp inside
    exact .inl ⟨old,member,(congrArg Prod.fst (edited old).1).symm,(edited old).2.1 ▸ kind⟩
  | settled acted now shape => exact .inl (kept (by rw [shape]; rfl))
  | staged acted now free goalKind executed =>
    obtain ⟨scope,_,⟨same,_⟩ | ⟨_,_,ran,_⟩⟩ := execute_ok executed
    · exact .inl (kept (by rw [same]))
    · exact .inl (kept ran.runJobs)
  | committed acted now known stored =>
    obtain ⟨middle,inserted,shape⟩ := commit_ok stored
    obtain ⟨rfl,_⟩ := insertRunJob_ok inserted
    rw [shape] at inside ⊢
    rcases List.mem_append.mp inside with earlier | new
    · exact .inl ⟨row,earlier,rfl,kind⟩
    · rw [List.mem_singleton.mp new]
      refine .inr (fun later listed named => ?_)
      obtain ⟨run,member,rfl⟩ := mem_updateRun listed
      split
      · rfl
      · rename_i differs
        rw [if_neg differs] at named
        exact absurd (beq_iff_eq.mpr named) differs

theorem step_late (consistent : Consistent world) (late : MappedLate world.warehouse)
    (forward : Forward world.warehouse after.warehouse) (moved : Transition configuration world action after) :
    MappedLate after.warehouse := by
  intro row inside kind run known named
  rcases final_back consistent (transition_ledger consistent moved) inside kind with ⟨old,present,same,final⟩ | now
  · obtain ⟨owner,member,owned⟩ := consistent.ledger.owned old present
    obtain ⟨later,listed,still,rises⟩ := forward owner member
    have sound := (transition_consistent consistent moved).ledger
    cases Rows.same_row sound.runs listed known (still.trans (owned.trans (same.trans named.symm)))
    exact (late old present final owner member owned).trans rises
  · rw [now run known named]
    decide

structure Orderly (history : List Action) (world : World) : Prop where
  consistent : Consistent world
  late : MappedLate world.warehouse
  ordered : Uncrashed history → Ordered world

theorem initial_orderly : Orderly [] initialWorld := by
  refine ⟨initial_consistent,?_,fun _ => ⟨?_,?_,?_⟩⟩
  · exact fun row inside => by cases inside
  · exact fun process commits => by cases commits
  · exact fun run inside => by cases inside
  · exact fun row inside => by cases inside

theorem step_orderly (orderly : Orderly history world) (ran : TimelyStep configuration history world action after) :
    Orderly (action :: history) after ∧ Forward world.warehouse after.warehouse := by
  have moved := next_transition ran.2
  have forward := step_forward orderly.consistent orderly.ordered ran.1 moved
  refine ⟨⟨transition_consistent orderly.consistent moved,step_late orderly.consistent orderly.late forward moved,
    fun uncrashed => ?_⟩,forward⟩
  have alive : ∀ process, action ≠ .crash process := fun process same => uncrashed process (same ▸ List.mem_cons_self)
  have ordered := orderly.ordered (fun process inside => uncrashed process (List.mem_cons_of_mem _ inside))
  exact ⟨transition_locked ordered.locked moved alive,
    step_early orderly.consistent ordered (transition_ledger orderly.consistent moved),
    step_submitted orderly.consistent ordered moved alive⟩

theorem runs_orderly (path : Runs (TimelyStep configuration) initialWorld history world) : Orderly history world := by
  induction path with
  | nil => exact initial_orderly
  | step path ran ih => exact (step_orderly ih ran).1

theorem timely_functional (first : TimelyStep configuration history world action left)
    (second : TimelyStep configuration history world action right) : left = right :=
  Option.some.inj (first.2.symm.trans second.2)

theorem run_state_forward (path : Runs (TimelyStep configuration) initialWorld history world)
    (longer : Runs (TimelyStep configuration) initialWorld (later ++ history) after) :
    Forward world.warehouse after.warehouse ∧ MappedLate after.warehouse := by
  obtain ⟨middle,reached,forward⟩ := Runs.related (fun before after => Forward before.warehouse after.warehouse)
    (fun world => Forward.refl world.warehouse) Forward.trans (fun path ran => (step_orderly (runs_orderly path) ran).2) longer
  cases path.unique timely_functional reached
  exact ⟨forward,(runs_orderly longer).late⟩

end steps

/- A worker finishes the last job and submits the finalization between the
producer's last mapping and its status write. -/

def overtakenProducer : List Action :=
  sampleProduction 0 ++ sampleDelivery 1 ++ [.finalize 1 ['t'] 3000 ['f'],.commit 1]

theorem run_state_set_back : ¬ ∀ (history later : List Action) (world after : World),
    Runs (@WorldStep samplePlatform defaultConfiguration) initialWorld history world →
    Runs (@WorldStep samplePlatform defaultConfiguration) initialWorld (later ++ history) after →
      Forward world.warehouse after.warehouse := by
  intro forward
  have reported : ((worldRun overtakenProducer).bind (fun world =>
      (@World.next samplePlatform defaultConfiguration world (.settle 0)).map (fun after => (world,after)))).map
        (fun pair => (pair.1.warehouse.runs.map RunRow.status,pair.2.warehouse.runs.map RunRow.status)) =
      some ([.finalizationQueued],[.acquiring]) := by
    decide +kernel
  obtain ⟨pair,ran,shape⟩ := Option.map_eq_some_iff.mp reported
  obtain ⟨world,reached,next⟩ := Option.bind_eq_some_iff.mp ran
  obtain ⟨after,moved,rfl⟩ := Option.map_eq_some_iff.mp next
  obtain ⟨queued,acquiring⟩ := Prod.mk.injEq _ _ _ _ ▸ shape
  have path := worldRun_path reached
  have back := forward _ [.settle 0] world after path (.step path moved)
  obtain ⟨run,inside,status⟩ := List.mem_map.mp (queued ▸ List.mem_singleton.mpr rfl :
    MaintenanceRunState.finalizationQueued ∈ world.warehouse.runs.map RunRow.status)
  obtain ⟨later,listed,_,rises⟩ := back run inside
  have set : later.status ∈ after.warehouse.runs.map RunRow.status := List.mem_map_of_mem listed
  rw [acquiring,List.mem_singleton] at set
  rw [status,set] at rises
  exact absurd rises (by decide)

-- The same steps in the order the producer expects.
def timely (before : World) : Action → Bool
  | .settle _ => before.warehouse.runs.all (fun run => decide (run.status.rank ≤ 1))
  | .commit _ => before.warehouse.runs.all (fun run => decide (run.status.rank ≤ 2))
  | .stage _ _ _ => false
  | _ => true

def timelyNext (before : World) (action : Action) : Option World :=
  if timely before action then @World.next samplePlatform defaultConfiguration before action else none

theorem timelyRun_path (reached : Runs (@TimelyStep samplePlatform defaultConfiguration) initialWorld history before)
    (ran : Runs.execute (fun _ before action => timelyNext before action) history before events = some final) :
    Runs (@TimelyStep samplePlatform defaultConfiguration) initialWorld (events.reverse ++ history) final := by
  let platform := samplePlatform
  refine Runs.executed ?_ reached ran
  intro _ before action after accepted
  unfold timelyNext at accepted
  split at accepted
  · rename_i checked
    refine ⟨?_,accepted⟩
    cases action with
    | settle process =>
      intro scope now run inside named
      simpa using List.all_eq_true.mp checked run inside
    | commit process =>
      intro runId goal jobId rest now crashed run inside named
      simpa using List.all_eq_true.mp checked run inside
    | stage process timestamp services => cases checked
    | _ => trivial
  · cases accepted

def promptProducer : List Action := sampleProduction 0 ++ [.settle 0]

theorem run_state_forward_sample : ∃ world after : World, world.warehouse.runs.map RunRow.status = [.acquiring] ∧
    after.warehouse.runs.map RunRow.status = [.finalizationQueued] ∧ Forward world.warehouse after.warehouse := by
  have reported : ((Runs.execute (fun _ before action => timelyNext before action) [] initialWorld
      promptProducer).bind (fun world =>
        (Runs.execute (fun _ before action => timelyNext before action) (promptProducer.reverse ++ []) world
          (sampleDelivery 1 ++ [.finalize 1 ['t'] 3000 ['f'],.commit 1])).map (fun after => (world,after)))).map
        (fun pair => (pair.1.warehouse.runs.map RunRow.status,pair.2.warehouse.runs.map RunRow.status)) =
      some ([.acquiring],[.finalizationQueued]) := by
    decide +kernel
  obtain ⟨pair,ran,shape⟩ := Option.map_eq_some_iff.mp reported
  obtain ⟨world,reached,next⟩ := Option.bind_eq_some_iff.mp ran
  obtain ⟨after,moved,rfl⟩ := Option.map_eq_some_iff.mp next
  obtain ⟨acquiring,queued⟩ := Prod.mk.injEq _ _ _ _ ▸ shape
  let platform := samplePlatform
  have path := timelyRun_path .nil reached
  exact ⟨world,after,acquiring,queued,(run_state_forward path (timelyRun_path path moved)).1⟩

end OpenStock.Maintenance
