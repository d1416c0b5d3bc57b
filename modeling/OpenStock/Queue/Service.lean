import OpenStock.Foundations.Grouping
import OpenStock.Queue.Endings
import OpenStock.Queue.Progress
import Mathlib.Algebra.BigOperators.Group.Finset.Basic
import Mathlib.Algebra.Order.BigOperators.Group.Finset

namespace OpenStock.Queue

/- A job is ended once. -/

-- The job that a call was told it ended.
def Event.ended (event : Event) : Option ProvisioningJobId :=
  match event.call,event.reply with
  | .complete jobId _ _ _,.ok (.job _) | .acknowledgeCancellation jobId _ _ _,.ok (.job _) => some jobId
  | .fail jobId _ _ _ _,.ok (.job job) | .cancel jobId _,.ok (.job job) => if job.status.isTerminal then some jobId else none
  | _,_ => none

def endedIds (history : List Event) : List ProvisioningJobId := history.filterMap Event.ended

structure EndedOnce (history : List Event) (tables : QueueTables) : Prop where
  inactive : ∀ row ∈ tables.jobs, row.status.isActive = true → row.jobId ∉ endedIds history
  known : ∀ id ∈ endedIds history, id ∈ createdIds history
  once : (endedIds history).Nodup

section ended
variable [Platform] {configuration : QueueConfiguration} {before after : QueueTables} {history : List Event} {event : Event}
variable {next : JobRow} {id : ProvisioningJobId}

-- Only an active row is written.
theorem active_back (edits : Edits configuration writes before after) (inside : next ∈ after.jobs)
    (active : next.status.isActive = true) :
    (∃ old ∈ before.jobs, old.jobId = next.jobId ∧ old.status.isActive = true) ∨
      next.jobId ∈ writes.filterMap Write.createdId := by
  induction edits with
  | nil => exact .inl ⟨next,inside,rfl,active⟩
  | cons first rest ih =>
    rcases ih inside with ⟨middle,present,same,active⟩ | created
    · rcases edit_back first present with ⟨kept,_⟩ | ⟨old,earlier,statement,rfl,permitted,rfl⟩ | rfl
      · exact .inl ⟨middle,kept,same,active⟩
      · exact .inl ⟨old,earlier,by simpa using same,permitted_active statement permitted⟩
      · exact .inr (by simp [Write.createdId,same])
    · exact .inr (by simp only [List.filterMap_cons]; split <;> simp [created])

theorem ending_edit {statement : Update} (edit : Edit configuration (.update id statement) before after)
    (ends : ∀ row, (statement.set row).status.isTerminal = true) :
    (∃ old ∈ before.jobs, old.jobId = id ∧ old.status.isActive = true) ∧
      ∀ next ∈ after.jobs, next.jobId = id → next.status.isActive = false := by
  obtain ⟨target,present,named,permitted,_⟩ := edit_update edit
  refine ⟨⟨target,present,named,permitted_active statement permitted⟩,fun next inside same => ?_⟩
  rcases edit_back edit inside with ⟨_,other⟩ | ⟨old,_,_,wrote,_,rfl⟩ | wrote
  · exact absurd (by rw [same]) (other statement)
  · cases wrote
    have ended := ends old
    revert ended
    cases (statement.set old).status <;> simp [ProvisioningJobStatus.isTerminal,ProvisioningJobStatus.isActive]
  · cases wrote

theorem performs_ended (edits : Edits configuration writes before after) (performed : Performs configuration call reply writes)
    (ended : Event.ended ⟨call,reply⟩ = some id) :
    (∃ old ∈ before.jobs, old.jobId = id ∧ old.status.isActive = true) ∧
      ∀ next ∈ after.jobs, next.jobId = id → next.status.isActive = false := by
  cases performed with
  | completed named | acknowledged named =>
    cases ended
    exact ending_edit edits.only (fun _ => rfl)
  | failed named terminal | cancelledQueued named terminal =>
    simp [Event.ended,terminal,ProvisioningJobStatus.isTerminal] at ended
    subst ended
    exact ending_edit edits.only (fun _ => rfl)
  | retried named status | cancelledRunning named status =>
    simp [Event.ended,status,ProvisioningJobStatus.isTerminal] at ended
  | refused => cases call <;> cases ended
  | _ => cases ended

theorem step_ended (invariant : QueueInvariant configuration history before) (held : EndedOnce history before)
    (step : QueueStep configuration history before event after) : EndedOnce (event :: history) after := by
  obtain ⟨writes,edits,performed⟩ := run_performs invariant.valid event.call step.ran
  -- An active row was active before the call, or is new.
  have earlier : ∀ row ∈ after.jobs, row.status.isActive = true → row.jobId ∉ endedIds history := by
    intro row inside active again
    rcases active_back edits inside active with ⟨old,present,same,lived⟩ | created
    · exact held.inactive old present lived (same ▸ again)
    · obtain ⟨former,listed,drawn⟩ := invariant.drawn _ (held.known _ again)
      rw [performs_created performed,Option.mem_toList] at created
      exact step.fresh _ (performs_drawn performed created) former listed drawn
  cases ended : event.ended with
  | none =>
    have same : endedIds (event :: history) = endedIds history := by simp [endedIds,ended]
    refine ⟨same ▸ earlier,fun id inside => ?_,same ▸ held.once⟩
    exact created_grows (held.known id (same ▸ inside))
  | some id =>
    have same : endedIds (event :: history) = id :: endedIds history := by simp [endedIds,ended]
    obtain ⟨⟨old,present,rfl,lived⟩,closed⟩ := performs_ended edits performed ended
    refine ⟨?_,?_,?_⟩ <;> rw [same]
    · intro row inside active again
      rcases List.mem_cons.mp again with here | again
      · simp [closed row inside here] at active
      · exact earlier row inside active again
    · intro other inside
      rcases List.mem_cons.mp inside with rfl | inside
      · exact created_grows (tables_known invariant _ (List.mem_map_of_mem present))
      · exact created_grows (held.known other inside)
    · exact List.nodup_cons.mpr ⟨held.inactive old present lived,held.once⟩

theorem runs_ended (path : QueueRuns configuration history before) : EndedOnce history before :=
  path.invariant ⟨by simp [emptyTables],by simp [endedIds],by simp [endedIds]⟩
    (fun path held step => step_ended (runs_invariant path) held step)

-- A caller is told at most once that a job ended, and nobody works on it afterwards.
theorem jobs_end_once (path : QueueRuns configuration history before) :
    (endedIds history).Nodup ∧ (∀ id ∈ endedIds history, id ∈ createdIds history) ∧
      ∀ row ∈ before.jobs, row.status.isActive = true → row.jobId ∉ endedIds history :=
  ⟨(runs_ended path).once,(runs_ended path).known,(runs_ended path).inactive⟩

end ended

def endingRun : List Event × QueueTables :=
  @performed samplePlatform defaultConfiguration (.complete ['a'] ['w'] ['o','k'] 2500 :: sampleCalls)

theorem ending_runs : @QueueRuns samplePlatform defaultConfiguration endingRun.1 endingRun.2 :=
  @performed_runs samplePlatform defaultConfiguration _ (by decide)

theorem jobs_end_once_sample : endedIds endingRun.1 = [['a']] ∧ (endedIds endingRun.1).Nodup :=
  ⟨by decide +kernel,(@jobs_end_once samplePlatform _ _ _ ending_runs).1⟩

-- Every claim of a job counts against its attempts.
theorem claims_few (ledger : Ledger configuration history before) :
    (history.filterMap Event.claimed).length ≤ configuration.maxAttempts * (createdIds history).length := by
  have counted := List.sum_toFinset_count_eq_length ((history.filterMap Event.claimed).map Prod.fst)
  rw [List.length_map] at counted
  have bounded : ∀ id, ((history.filterMap Event.claimed).map Prod.fst).count id ≤ configuration.maxAttempts := ledger.bounded
  have listed : ((history.filterMap Event.claimed).map Prod.fst).toFinset ⊆ (createdIds history).toFinset := by
    intro id inside
    rw [List.mem_toFinset] at inside ⊢
    exact ledger.known id (List.count_pos_iff.mpr inside).ne'
  calc (history.filterMap Event.claimed).length
      ≤ ((history.filterMap Event.claimed).map Prod.fst).toFinset.card * configuration.maxAttempts := by
        rw [← counted,← smul_eq_mul]
        exact Finset.sum_le_card_nsmul _ _ _ (fun id _ => (le_of_eq (by congr!)).trans (bounded id))
    _ ≤ (createdIds history).length * configuration.maxAttempts :=
        Nat.mul_le_mul_right _ ((Finset.card_le_card listed).trans (List.toFinset_card_le _))
    _ = _ := Nat.mul_comm _ _

theorem claims_paid [Platform] (path : QueueRuns configuration history before) :
    (history.filterMap Event.claimed).length ≤ configuration.maxAttempts * (createdIds history).length :=
  claims_few (runs_ledger path)

theorem claims_paid_sample : (endingRun.1.filterMap Event.claimed).length ≤ 3 * 1 := by
  have created : (createdIds endingRun.1).length = 1 := by decide +kernel
  have paid := @claims_paid _ _ _ samplePlatform ending_runs
  rwa [created] at paid

-- Whatever ran before, a claim made while jobs wait hands out one of the highest priority, oldest first.
theorem claims_in_order [Platform] {row : JobRow} (path : QueueRuns configuration history before)
    (ran : claim configuration before worker timestamp = (after,.ok answer)) (inside : row ∈ before.jobs)
    (queued : row.status = .queued) (available : row.availableAtMs ≤ timestamp) : ∃ job, answer = some job ∧
      (row.priority < job.priority ∨ row.priority = job.priority ∧ job.createdAt ≤ row.createdAtMs) := by
  have bounded : boundedMetadata worker = true := by
    by_contra unbounded
    simp [claim,requiredMetadata,unbounded] at ran
  obtain ⟨_,job,handed,order⟩ := claim_ordered configuration (runs_invariant path).valid bounded inside queued available
  cases ran.symm.trans handed
  exact ⟨job,rfl,order⟩

def firstRun : List Event × QueueTables := @performed samplePlatform defaultConfiguration (sampleCalls.drop 2)

theorem claims_in_order_sample : ∃ job, (@claim samplePlatform defaultConfiguration firstRun.2 ['w'] 2000).2 =
    .ok (some job) ∧ 5 ≤ job.priority := by
  have waiting : ∃ row ∈ firstRun.2.jobs, row.status = .queued ∧ row.availableAtMs ≤ 2000 ∧ row.priority = 5 := by
    decide +kernel
  have answers : (@claim samplePlatform defaultConfiguration firstRun.2 ['w'] 2000).2.toBool = true := by decide +kernel
  obtain ⟨row,inside,queued,available,urgent⟩ := waiting
  cases ran : @claim samplePlatform defaultConfiguration firstRun.2 ['w'] 2000 with
  | mk after reply =>
    cases reply with
    | error refused => simp [ran,Except.toBool] at answers
    | ok answer =>
      have path := @performed_runs samplePlatform defaultConfiguration (sampleCalls.drop 2) (by decide)
      obtain ⟨job,rfl,order⟩ := @claims_in_order _ _ _ _ _ _ _ samplePlatform row path ran inside queued available
      exact ⟨job,rfl,by omega⟩

/- What a listing shows. -/

-- The default stands for a payload that no stored row has.
def JobRow.shown [Platform] (row : JobRow) : ProvisioningJob := row.read ((parseGoalPayload row.payloadJson).toOption.getD sampleGoal)

theorem stored_shown [Platform] {row : JobRow} (held : row.Holds goal) : jobFromRow row = .ok row.shown := by
  have answer := read_stored held
  unfold jobFromRow at answer ⊢
  unfold JobRow.shown
  cases parsed : parseGoalPayload row.payloadJson with
  | error refused =>
    rw [parsed] at answer
    cases answer
  | ok goal => rfl

-- A listing never raises, and one by status is the part of the whole listing with that status.
theorem jobs_listed [Platform] (path : QueueRuns configuration history tables) : ∃ jobs, listJobs tables none = .ok jobs ∧
    (jobs.map ProvisioningJob.jobId).Perm (tables.jobs.map JobRow.jobId) ∧
      jobs.Pairwise (fun earlier later => earlier.createdAt ≤ later.createdAt) ∧
        ∀ status, listJobs tables (some status) = .ok (jobs.filter (fun job => job.status == status)) := by
  let created (left right : JobRow) : Prop := left.createdAtMs ≤ right.createdAtMs
  have valid := (runs_invariant path).valid
  have shown : ∀ test, ((tables.jobs.filter test).insertionSort created).mapM jobFromRow =
      .ok (((tables.jobs.filter test).insertionSort created).map JobRow.shown) := by
    intro test
    apply Rows.each_map
    intro row inside
    obtain ⟨goal,held⟩ := valid.stored row (List.mem_filter.mp ((List.mem_insertionSort _).mp inside)).1
    exact stored_shown held
  refine ⟨(tables.jobs.insertionSort created).map JobRow.shown,?_,?_,?_,?_⟩
  · simpa [listJobs] using shown (fun _ => true)
  · rw [List.map_map]
    exact (List.perm_insertionSort created tables.jobs).map _
  · exact List.pairwise_map.mpr (List.pairwise_insertionSort created tables.jobs)
  · intro status
    rw [List.filter_map,Grouping.filter_insertionSort]
    exact shown _

theorem jobs_listed_sample : ∃ jobs, @listJobs samplePlatform endingRun.2 none = .ok jobs ∧ jobs.length = 1 := by
  obtain ⟨jobs,listed,shown,_⟩ := @jobs_listed _ _ _ samplePlatform ending_runs
  exact ⟨jobs,listed,by simpa [endingRun] using shown.length_eq.trans (by decide +kernel)⟩

end OpenStock.Queue
