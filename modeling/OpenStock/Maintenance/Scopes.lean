import OpenStock.Maintenance.FinalizationTrigger
import OpenStock.Maintenance.Producer
import OpenStock.Maintenance.SessionFinalizer

namespace OpenStock.Maintenance
open Text Calendar Queue

/- What the statements of the ledger keep. -/

def RunJobRow.key (row : RunJobRow) : MaintenanceRunId × Text := (row.maintenanceRunId,row.goalIdentity)

-- The goal every finalization of a run submits: its frozen columns decide it.
def RunRow.finalizationGoal (run : RunRow) : FinalizeMarketSessionGoal :=
  ⟨run.sourcePolicyVersion,run.runId,run.resolvedDate,run.universeHash,⟨finalizationContractVersion,by decide⟩⟩

theorem mkFinalizationGoal_ok (run : RunRow) : run.mkFinalizationGoal = .ok run.finalizationGoal := by
  have contract : (contractField .finalizeMarketSession "finalization_contract_version").validate finalizationContractVersion =
      .ok ⟨finalizationContractVersion,by decide⟩ :=
    Normalizer.validate_admitted _ ⟨finalizationContractVersion,by decide⟩
  simp only [RunRow.mkFinalizationGoal,mkFinalizeMarketSessionGoal,Normalizer.validate_admitted,contract,bind,Except.bind]
  rfl

theorem SameScope.finalizationGoal {left right : RunRow} (same : left.SameScope right) :
    right.finalizationGoal = left.finalizationGoal := by
  simp only [RunRow.finalizationGoal,same.sourcePolicyVersion,same.runId,same.resolvedDate,same.universeHash]

-- Rows go on: a run keeps its scope, a mapped goal its job.
structure Extends (before after : Warehouse) : Prop where
  runs : ∀ run ∈ before.runs, ∃ later ∈ after.runs, run.SameScope later
  jobs : ∀ row ∈ before.runJobs, ∃ later ∈ after.runJobs, later.key = row.key ∧ later.goalType = row.goalType ∧
    ∀ jobId, row.jobId = some jobId → later.jobId = some jobId

section rows
variable {warehouse after : Warehouse} {run : RunRow} {runId : MaintenanceRunId} {change : RunRow → RunRow}

theorem Extends.refl (warehouse : Warehouse) : Extends warehouse warehouse :=
  ⟨fun run inside => ⟨run,inside,.refl run⟩,fun row inside => ⟨row,inside,rfl,rfl,fun _ => id⟩⟩

theorem Extends.trans (left : Extends first second) (right : Extends second third) : Extends first third := by
  refine ⟨fun run inside => ?_,fun row inside => ?_⟩
  · obtain ⟨middle,member,same⟩ := left.runs run inside
    obtain ⟨last,listed,still⟩ := right.runs middle member
    exact ⟨last,listed,same.trans still⟩
  · obtain ⟨middle,member,key,kind,mapped⟩ := left.jobs row inside
    obtain ⟨last,listed,sameKey,sameKind,still⟩ := right.jobs middle member
    exact ⟨last,listed,sameKey.trans key,sameKind.trans kind,fun jobId found => still jobId (mapped jobId found)⟩

theorem selectRun_some (selected : warehouse.selectRun runId = some run) : run ∈ warehouse.runs ∧ run.runId = runId :=
  ⟨List.mem_of_find?_eq_some selected,by simpa only [beq_iff_eq] using List.find?_some selected⟩

theorem mem_updateRun (inside : later ∈ (warehouse.updateRun runId change).runs) :
    ∃ run ∈ warehouse.runs, later = if run.runId == runId then change run else run := by
  obtain ⟨run,member,rfl⟩ := List.mem_map.mp inside
  exact ⟨run,member,rfl⟩

theorem updated_scope (kept : ∀ row : RunRow, row.SameScope (change row)) (run : RunRow) :
    run.SameScope (if run.runId == runId then change run else run) := by
  split
  · exact kept run
  · exact .refl run

-- An UPDATE of a mapping writes its job only, and only the first time.
theorem mapJob_rows (warehouse : Warehouse) (runId : MaintenanceRunId) (identity : Text) (jobId : ProvisioningJobId) :
    ∃ edit : RunJobRow → RunJobRow, (warehouse.mapJob runId identity jobId).runJobs = warehouse.runJobs.map edit ∧
      ∀ row, (edit row).key = row.key ∧ (edit row).goalType = row.goalType ∧
        ((edit row) = row ∨ (row.maintenanceRunId = runId ∧ row.goalIdentity = identity ∧ row.jobId = none ∧
          (edit row).jobId = some jobId)) := by
  refine ⟨_,rfl,fun row => ?_⟩
  split
  · rename_i met
    simp only [Bool.and_eq_true,beq_iff_eq,Option.isNone_iff_eq_none] at met
    exact ⟨rfl,rfl,.inr ⟨met.1.1,met.1.2,met.2,rfl⟩⟩
  · exact ⟨rfl,rfl,.inl rfl⟩

theorem insertRunJob_ok (inserted : warehouse.insertRunJob new = some after) :
    after = {warehouse with runJobs := warehouse.runJobs ++ [new]} ∧ ∀ row ∈ warehouse.runJobs, row.key ≠ new.key := by
  unfold Warehouse.insertRunJob at inserted
  split at inserted
  · cases inserted
  · rename_i absent
    cases inserted
    refine ⟨rfl,fun row inside same => absent (List.any_eq_true.mpr ⟨row,inside,?_⟩)⟩
    simp only [RunJobRow.key,Prod.mk.injEq] at same
    simp [same.1,same.2]

theorem insertRun_ok (inserted : warehouse.insertRun run = some after) :
    after = {warehouse with runs := warehouse.runs ++ [run]} ∧ ∀ other ∈ warehouse.runs, other.runId ≠ run.runId := by
  unfold Warehouse.insertRun at inserted
  split at inserted
  · cases inserted
  · rename_i absent
    cases inserted
    exact ⟨rfl,fun other inside same => absent (List.any_eq_true.mpr ⟨other,inside,by simp [same]⟩)⟩

theorem mem_acquisitionJobs {runId : MaintenanceRunId} : row ∈ warehouse.acquisitionJobs runId ↔
      row ∈ warehouse.runJobs ∧ row.maintenanceRunId = runId ∧ row.goalType ≠ .finalizeMarketSession := by
  rw [Warehouse.acquisitionJobs,List.mem_filter,Bool.and_eq_true,beq_iff_eq,bne_iff_ne]

end rows

section scopes
variable [Platform]

def finalIdentity (run : RunRow) : Text := goalIdentity (.finalizeMarketSession run.finalizationGoal)

structure LedgerSound (warehouse : Warehouse) : Prop where
  runs : Rows.Distinct RunRow.runId warehouse.runs
  jobs : Rows.Distinct RunJobRow.key warehouse.runJobs
  -- the rows of the expected goals, in their order
  frozen : ∀ run ∈ warehouse.runs, (warehouse.acquisitionJobs run.runId).map RunJobRow.goalIdentity =
    run.expectedGoals.map (fun goal => goalIdentity goal.val)
  owned : ∀ row ∈ warehouse.runJobs, ∃ run ∈ warehouse.runs, run.runId = row.maintenanceRunId
  final : ∀ row ∈ warehouse.runJobs, row.goalType = .finalizeMarketSession →
    ∃ run ∈ warehouse.runs, run.runId = row.maintenanceRunId ∧ row.goalIdentity = finalIdentity run
  mapped : ∀ row ∈ warehouse.runJobs, row.goalType = .finalizeMarketSession → row.jobId.isSome = true

variable {warehouse after : Warehouse} {run : RunRow} {runId : MaintenanceRunId}

theorem selectRun_member (sound : LedgerSound warehouse) (inside : run ∈ warehouse.runs) :
    warehouse.selectRun run.runId = some run := Rows.select_key sound.runs inside

/- Updates of a run. -/

theorem updated_sound (sound : LedgerSound warehouse) (change : RunRow → RunRow)
    (kept : ∀ row : RunRow, row.SameScope (change row)) (runs : after.runs = (warehouse.updateRun runId change).runs)
    (jobs : after.runJobs = warehouse.runJobs) : LedgerSound after ∧ Extends warehouse after := by
  have through : ∀ run ∈ warehouse.runs, ∃ later ∈ after.runs, run.SameScope later := by
    intro run inside
    rw [runs]
    exact ⟨_,List.mem_map_of_mem inside,updated_scope kept run⟩
  have back : ∀ later ∈ after.runs, ∃ run ∈ warehouse.runs, run.SameScope later := by
    intro later inside
    rw [runs] at inside
    obtain ⟨run,member,rfl⟩ := mem_updateRun inside
    exact ⟨run,member,updated_scope kept run⟩
  refine ⟨⟨?_,jobs ▸ sound.jobs,?_,?_,?_,jobs ▸ sound.mapped⟩,through,?_⟩
  · have ids : after.runs.map RunRow.runId = warehouse.runs.map RunRow.runId := by
      rw [runs,Warehouse.updateRun,Rows.updateWhere,List.map_map]
      exact List.map_congr_left (fun run _ => (updated_scope kept run).runId)
    rw [Rows.Distinct,ids]
    exact sound.runs
  · intro later inside
    obtain ⟨run,member,same⟩ := back later inside
    have rows : after.acquisitionJobs later.runId = warehouse.acquisitionJobs run.runId := by
      rw [Warehouse.acquisitionJobs,jobs,same.runId]
      rfl
    rw [rows,same.expectedGoals]
    exact sound.frozen run member
  · intro row inside
    obtain ⟨run,member,named⟩ := sound.owned row (jobs ▸ inside)
    obtain ⟨later,listed,same⟩ := through run member
    exact ⟨later,listed,same.runId.trans named⟩
  · intro row inside kind
    obtain ⟨run,member,named,identity⟩ := sound.final row (jobs ▸ inside) kind
    obtain ⟨later,listed,same⟩ := through run member
    refine ⟨later,listed,same.runId.trans named,identity.trans ?_⟩
    rw [finalIdentity,finalIdentity,SameScope.finalizationGoal same]
  · intro row inside
    exact ⟨row,jobs ▸ inside,rfl,rfl,fun _ => id⟩

theorem setStatus_sound (sound : LedgerSound warehouse) (status : MaintenanceRunState) :
    LedgerSound (warehouse.setStatus runId status) ∧ Extends warehouse (warehouse.setStatus runId status) :=
  updated_sound sound (fun row => {row with status := status}) (fun _ => ⟨rfl,rfl,rfl,rfl,rfl,rfl,rfl⟩) rfl rfl

theorem executed_sound (sound : LedgerSound warehouse)
    (ran : SessionFinalizer.execute services warehouse goal stage = .ok (after,outcome)) :
    LedgerSound after ∧ Extends warehouse after := by
  obtain ⟨scope,found,⟨rfl,_⟩ | ⟨_,_,executed,_⟩⟩ := execute_ok ran
  · exact ⟨sound,.refl _⟩
  · obtain ⟨change,edited,runs⟩ := executed.runs
    exact updated_sound sound change (fun row => (edited row).1) runs executed.runJobs

/- Mappings. -/

theorem mapJob_sound (sound : LedgerSound warehouse) (identity : Text) (jobId : ProvisioningJobId) :
    LedgerSound (warehouse.mapJob runId identity jobId) ∧ Extends warehouse (warehouse.mapJob runId identity jobId) := by
  obtain ⟨edit,rows,edited⟩ := mapJob_rows warehouse runId identity jobId
  have runs : (warehouse.mapJob runId identity jobId).runs = warehouse.runs := rfl
  generalize warehouse.mapJob runId identity jobId = after at rows runs
  have keyed : ∀ row, (edit row).maintenanceRunId = row.maintenanceRunId ∧ (edit row).goalIdentity = row.goalIdentity :=
    fun row => by simpa [RunJobRow.key] using (edited row).1
  refine ⟨⟨runs ▸ sound.runs,?_,?_,?_,?_,?_⟩,⟨?_,?_⟩⟩
  · have keys : (warehouse.runJobs.map edit).map RunJobRow.key = warehouse.runJobs.map RunJobRow.key := by
      rw [List.map_map]
      exact List.map_congr_left (fun row _ => (edited row).1)
    rw [Rows.Distinct,rows,keys]
    exact sound.jobs
  · intro run inside
    have same := sound.frozen run (runs ▸ inside)
    rw [Warehouse.acquisitionJobs] at same ⊢
    rw [rows,List.filter_map,List.map_map]
    have selects : ((fun row : RunJobRow => row.maintenanceRunId == run.runId &&
        row.goalType != .finalizeMarketSession) ∘ edit) = (fun row => row.maintenanceRunId == run.runId &&
          row.goalType != .finalizeMarketSession) := by
      funext row
      simp only [Function.comp_apply,(keyed row).1,(edited row).2.1]
    rw [selects,← same]
    exact List.map_congr_left (fun row _ => (keyed row).2)
  · intro later inside
    rw [rows] at inside
    obtain ⟨row,member,rfl⟩ := List.mem_map.mp inside
    rw [runs,(keyed row).1]
    exact sound.owned row member
  · intro later inside kind
    rw [rows] at inside
    obtain ⟨row,member,rfl⟩ := List.mem_map.mp inside
    rw [runs,(keyed row).1,(keyed row).2]
    exact sound.final row member ((edited row).2.1 ▸ kind)
  · intro later inside kind
    rw [rows] at inside
    obtain ⟨row,member,rfl⟩ := List.mem_map.mp inside
    rcases (edited row).2.2 with same | ⟨_,_,_,filled⟩
    · rw [same]
      exact sound.mapped row member ((edited row).2.1 ▸ kind)
    · rw [filled]
      rfl
  · exact fun run inside => ⟨run,runs ▸ inside,.refl run⟩
  · intro row inside
    refine ⟨edit row,rows ▸ List.mem_map_of_mem inside,(edited row).1,(edited row).2.1,fun found mapped => ?_⟩
    rcases (edited row).2.2 with same | ⟨_,_,unmapped,_⟩
    · rw [same]
      exact mapped
    · rw [unmapped] at mapped
      cases mapped

/- Insertions. -/

theorem plan_ok (goals : List AcquisitionGoal) (current : Warehouse) (distinct : Rows.Distinct RunJobRow.key current.runJobs)
    (ran : goals.foldlM (fun current goal => current.insertRunJob (plannedJob runId goal)) current = some after) :
    after = {current with runJobs := current.runJobs ++ goals.map (plannedJob runId)} ∧
      Rows.Distinct RunJobRow.key after.runJobs := by
  induction goals generalizing current with
  | nil =>
    cases ran
    exact ⟨by simp,distinct⟩
  | cons goal goals ih =>
    rw [List.foldlM_cons] at ran
    obtain ⟨middle,inserted,rest⟩ := Option.bind_eq_some_iff.mp ran
    obtain ⟨rfl,fresh⟩ := insertRunJob_ok inserted
    obtain ⟨rfl,kept⟩ := ih _ (Rows.append_distinct distinct fresh) rest
    exact ⟨by simp,kept⟩

theorem planned_acquisition (runId : MaintenanceRunId) (goal : AcquisitionGoal) : (plannedJob runId goal).goalType ≠ .finalizeMarketSession :=
  goal.property

theorem persistRun_ok (sound : LedgerSound warehouse) (stored : persistRun warehouse run = some after) :
    (∀ other ∈ warehouse.runs, other.runId ≠ run.runId) ∧ after.runs = warehouse.runs ++ [run] ∧
      after.runJobs = warehouse.runJobs ++ run.expectedGoals.map (plannedJob run.runId) ∧
      Rows.Distinct RunJobRow.key after.runJobs := by
  obtain ⟨inserted,first,rest⟩ := Option.bind_eq_some_iff.mp stored
  obtain ⟨rfl,fresh⟩ := insertRun_ok first
  obtain ⟨rfl,distinct⟩ := plan_ok _ {warehouse with runs := warehouse.runs ++ [run]} sound.jobs rest
  exact ⟨fresh,rfl,rfl,distinct⟩

theorem persistRun_sound (sound : LedgerSound warehouse) (stored : persistRun warehouse run = some after) :
    LedgerSound after ∧ Extends warehouse after := by
  obtain ⟨fresh,runs,jobs,distinct⟩ := persistRun_ok sound stored
  have foreign : ∀ row ∈ warehouse.runJobs, row.maintenanceRunId ≠ run.runId := by
    intro row inside same
    obtain ⟨owner,member,named⟩ := sound.owned row inside
    exact fresh owner member (named.trans same)
  refine ⟨⟨?_,distinct,?_,?_,?_,?_⟩,⟨?_,?_⟩⟩
  · rw [runs]
    exact Rows.append_distinct sound.runs fresh
  · intro other inside
    rw [runs] at inside
    rw [Warehouse.acquisitionJobs,jobs,List.filter_append,List.map_append]
    rcases List.mem_append.mp inside with earlier | new
    · have unplanned : (run.expectedGoals.map (plannedJob run.runId)).filter (fun row =>
          row.maintenanceRunId == other.runId && row.goalType != .finalizeMarketSession) = [] := by
        refine List.filter_eq_nil_iff.mpr (fun row member => ?_)
        obtain ⟨goal,_,rfl⟩ := List.mem_map.mp member
        have differs : (plannedJob run.runId goal).maintenanceRunId ≠ other.runId := (fresh other earlier).symm
        rw [beq_eq_false_iff_ne.mpr differs,Bool.false_and]
        exact Bool.false_ne_true
      rw [unplanned,List.map_nil,List.append_nil]
      exact sound.frozen other earlier
    · rw [List.mem_singleton.mp new]
      have none : warehouse.runJobs.filter (fun row =>
          row.maintenanceRunId == run.runId && row.goalType != .finalizeMarketSession) = [] :=
        by
        refine List.filter_eq_nil_iff.mpr (fun row member => ?_)
        rw [beq_eq_false_iff_ne.mpr (foreign row member),Bool.false_and]
        exact Bool.false_ne_true
      have all : (run.expectedGoals.map (plannedJob run.runId)).filter (fun row =>
          row.maintenanceRunId == run.runId && row.goalType != .finalizeMarketSession) =
            run.expectedGoals.map (plannedJob run.runId) := by
        refine List.filter_eq_self.mpr (fun row member => ?_)
        obtain ⟨goal,_,rfl⟩ := List.mem_map.mp member
        have acquires := planned_acquisition run.runId goal
        rw [Bool.and_eq_true]
        exact ⟨beq_self_eq_true _,bne_iff_ne.mpr acquires⟩
      rw [none,all,List.map_nil,List.nil_append,List.map_map]
      rfl
  · intro row inside
    rw [jobs] at inside
    rw [runs]
    rcases List.mem_append.mp inside with earlier | planned
    · obtain ⟨owner,member,named⟩ := sound.owned row earlier
      exact ⟨owner,List.mem_append_left _ member,named⟩
    · obtain ⟨goal,_,rfl⟩ := List.mem_map.mp planned
      exact ⟨run,List.mem_append_right _ (List.mem_singleton.mpr rfl),rfl⟩
  · intro row inside kind
    rw [jobs] at inside
    rw [runs]
    rcases List.mem_append.mp inside with earlier | planned
    · obtain ⟨owner,member,named,identity⟩ := sound.final row earlier kind
      exact ⟨owner,List.mem_append_left _ member,named,identity⟩
    · obtain ⟨goal,_,rfl⟩ := List.mem_map.mp planned
      exact absurd kind (planned_acquisition run.runId goal)
  · intro row inside kind
    rw [jobs] at inside
    rcases List.mem_append.mp inside with earlier | planned
    · exact sound.mapped row earlier kind
    · obtain ⟨goal,_,rfl⟩ := List.mem_map.mp planned
      exact absurd kind (planned_acquisition run.runId goal)
  · exact fun other inside => ⟨other,by rw [runs]; exact List.mem_append_left _ inside,.refl other⟩
  · exact fun row inside => ⟨row,by rw [jobs]; exact List.mem_append_left _ inside,rfl,rfl,fun _ => id⟩

theorem insertFinal_sound (sound : LedgerSound warehouse) (inside : run ∈ warehouse.runs)
    (named : new.maintenanceRunId = run.runId) (identity : new.goalIdentity = finalIdentity run)
    (kind : new.goalType = .finalizeMarketSession) (mapped : new.jobId.isSome = true)
    (inserted : warehouse.insertRunJob new = some after) : LedgerSound after ∧ Extends warehouse after := by
  obtain ⟨rfl,fresh⟩ := insertRunJob_ok inserted
  refine ⟨⟨sound.runs,Rows.append_distinct sound.jobs fresh,?_,?_,?_,?_⟩,⟨?_,?_⟩⟩
  · intro other member
    have unchanged : (Warehouse.acquisitionJobs {warehouse with runJobs := warehouse.runJobs ++ [new]} other.runId) =
        warehouse.acquisitionJobs other.runId := by
      simp [Warehouse.acquisitionJobs,List.filter_append,kind]
    rw [unchanged]
    exact sound.frozen other member
  · intro row member
    rcases List.mem_append.mp member with earlier | last
    · exact sound.owned row earlier
    · rw [List.mem_singleton.mp last]
      exact ⟨run,inside,named.symm⟩
  · intro row member final
    rcases List.mem_append.mp member with earlier | last
    · exact sound.final row earlier final
    · rw [List.mem_singleton.mp last]
      exact ⟨run,inside,named.symm,identity⟩
  · intro row member final
    rcases List.mem_append.mp member with earlier | last
    · exact sound.mapped row earlier final
    · rw [List.mem_singleton.mp last]
      exact mapped
  · exact fun other member => ⟨other,member,.refl other⟩
  · exact fun row member => ⟨row,List.mem_append_left _ member,rfl,rfl,fun _ => id⟩

-- The row a finalization adds.
def finalRow (runId : MaintenanceRunId) (goal : FinalizeMarketSessionGoal) (jobId : ProvisioningJobId) : RunJobRow :=
  ⟨runId,goalIdentity (.finalizeMarketSession goal),.finalizeMarketSession,runId.val,
    (ProvisioningGoal.finalizeMarketSession goal).payloadJson,some jobId⟩

theorem commit_ok (stored : commitFinalization warehouse runId goal jobId = some after) :
    ∃ middle, warehouse.insertRunJob (finalRow runId goal jobId) = some middle ∧
      after = middle.setStatus runId .finalizationQueued := by
  obtain ⟨middle,inserted,rfl⟩ := Option.map_eq_some_iff.mp stored
  exact ⟨middle,inserted,rfl⟩

theorem commit_sound (sound : LedgerSound warehouse) (inside : run ∈ warehouse.runs)
    (stored : commitFinalization warehouse run.runId run.finalizationGoal jobId = some after) :
    LedgerSound after ∧ Extends warehouse after := by
  obtain ⟨middle,inserted,rfl⟩ := commit_ok stored
  obtain ⟨inserting,added⟩ := insertFinal_sound sound inside rfl rfl rfl rfl inserted
  obtain ⟨set,kept⟩ := setStatus_sound inserting .finalizationQueued
  exact ⟨set,added.trans kept⟩

end scopes
end OpenStock.Maintenance
