import OpenStock.Queue.Leases

namespace OpenStock.Queue

/- Over valid tables the calls that advance a job answer. -/

theorem claimedBefore_trans (one two three : JobRow) (left : claimedBefore one two = true)
    (right : claimedBefore two three = true) : claimedBefore one three = true := by
  simp only [claimedBefore,Bool.or_eq_true,Bool.and_eq_true,decide_eq_true_eq,beq_iff_eq] at left right ⊢
  omega

theorem claimedBefore_irrefl (row : JobRow) : claimedBefore row row = false := by
  simp [claimedBefore]

section totality
variable [Platform] {configuration : QueueConfiguration} {before after : QueueTables} {row : JobRow}

theorem recover_total (snapshot jobs : List JobRow) (stored : ∀ row ∈ snapshot, ∃ goal, row.Holds goal) :
    ∃ recovered, snapshot.foldlM (recoverRow configuration timestamp) jobs = .ok recovered := by
  induction snapshot generalizing jobs with
  | nil => exact ⟨jobs,rfl⟩
  | cons row snapshot ih =>
    obtain ⟨goal,held⟩ := stored row List.mem_cons_self
    obtain ⟨recovered,rest⟩ := ih (executeUpdate jobs row.jobId (recoverUpdate configuration (row.read goal) timestamp))
      (fun other inside => stored other (List.mem_cons_of_mem _ inside))
    refine ⟨recovered,?_⟩
    rw [List.foldlM_cons,recoverRow,read_stored held]
    exact rest

theorem recoverExpired_total (configuration : QueueConfiguration) (timestamp : Int) (valid : Valid before) :
    ∃ recovered, recoverExpired configuration before.jobs timestamp = .ok recovered :=
  recover_total _ _ (fun row inside => valid.stored row (List.mem_filter.mp inside).1)

-- Recovery touches RUNNING rows only.
theorem queued_recovered (valid : Valid before) (edits : Edits configuration writes before after)
    (recoveries : ∀ write ∈ writes, Recovery timestamp write) (inside : row ∈ before.jobs)
    (queued : row.status = .queued) : row ∈ after.jobs := by
  rcases recoveries_forth valid edits recoveries inside with kept | ⟨lapsed,_⟩
  · exact kept
  · exact absurd (queued.symm.trans (expired_running lapsed)) (by decide)

theorem claim_committed (checked : boundedMetadata worker = true)
    (ran : claimTransaction configuration before worker timestamp = .ok (after,some row))
    (read : jobFromRow row = .ok job) : claim configuration before worker timestamp = (after,.ok (some job)) := by
  simp only [claim,requiredMetadata,checked,if_true,committed,ran,read,Except.map]

theorem terminalize_committed (checked : boundedMetadata worker = true)
    (stated : terminalDetail status value = .ok (result,error))
    (ran : terminalTransaction configuration before jobId worker status result error timestamp retryable = .ok (after,row))
    (read : jobFromRow row = .ok job) :
    terminalize configuration before jobId worker status value timestamp retryable = (after,.ok job) := by
  simp only [terminalize,requiredMetadata,checked,stated,if_true,bind,Except.bind,committed,ran,read]

-- A claim hands out the first in the order of the claims.
theorem claim_ordered (configuration : QueueConfiguration) (valid : Valid before) (checked : boundedMetadata worker = true)
    (inside : row ∈ before.jobs) (queued : row.status = .queued) (available : row.availableAtMs ≤ timestamp) :
    ∃ after job, claim configuration before worker timestamp = (after,.ok (some job)) ∧
      (row.priority < job.priority ∨ row.priority = job.priority ∧ job.createdAt ≤ row.createdAtMs) := by
  obtain ⟨recovered,recovery⟩ := recoverExpired_total configuration timestamp valid
  obtain ⟨writes,edits,recoveries⟩ := recoverExpired_edits valid recovery
  have still := edits_valid valid edits
  have waiting : row ∈ claimable recovered timestamp :=
    List.mem_filter.mpr ⟨queued_recovered valid edits recoveries inside queued,by simp [queued,available]⟩
  cases chosen : Rows.firstBy claimedBefore (claimable recovered timestamp) with
  | none =>
    rw [Rows.firstBy_none chosen] at waiting
    cases waiting
  | some first =>
    have listed := List.mem_filter.mp (Rows.firstBy_mem chosen)
    simp only [Bool.and_eq_true,beq_iff_eq,decide_eq_true_eq] at listed
    obtain ⟨present,firstQueued,_⟩ := listed
    obtain ⟨goal,held⟩ := still.stored first present
    have selects : (Update.claim worker (timestamp + configuration.leaseMs) timestamp).selects first = true := by
      simp [Update.selects,firstQueued]
    have rewritten := set_holds (.claim worker (timestamp + configuration.leaseMs) timestamp) held
    have ran : claimTransaction configuration before worker timestamp =
        .ok (⟨Rows.replace JobRow.jobId
          ((Update.claim worker (timestamp + configuration.leaseMs) timestamp).set first) recovered,before.pruned⟩,
          some ((Update.claim worker (timestamp + configuration.leaseMs) timestamp).set first)) := by
      simp only [claimTransaction,recovery,bind,Except.bind,chosen,read_stored held,JobRow.read_jobId,
        execute_row still.distinct present,selects,if_true,read_replaced still.distinct present]
    have least := Rows.firstBy_least claimedBefore_trans claimedBefore_irrefl chosen row waiting
    simp only [claimedBefore,Bool.or_eq_false_iff,Bool.and_eq_false_imp,decide_eq_false_iff_not,beq_iff_eq] at least
    refine ⟨_,_,claim_committed checked ran (read_stored rewritten),?_⟩
    change row.priority < first.priority ∨ row.priority = first.priority ∧ first.createdAtMs ≤ row.createdAtMs
    omega

theorem terminalize_total (configuration : QueueConfiguration) (retryable : Bool) (valid : Valid before)
    (checked : boundedMetadata worker = true) (stated : terminalDetail status value = .ok (result,error))
    (inside : row ∈ before.jobs) (live : row.liveLease worker timestamp = true)
    (flagged : row.cancellationRequested = (status == .cancelled)) :
    ∃ after job, terminalize configuration before row.jobId worker status value timestamp retryable = (after,.ok job) := by
  have meets : selected row.jobId (.terminalize worker status result error timestamp) row = true := by
    simp [selected,Update.selects,live,flagged]
  obtain ⟨goal,held⟩ := valid.stored row inside
  generalize chosen : terminalUpdate configuration (row.read goal) worker status result error timestamp retryable = update
  have selects : update.selects row = true := by
    rw [← chosen,terminalUpdate]
    split
    · exact live
    · simp [Update.selects,live,flagged]
  have rewritten := set_holds update held
  cases found : before.jobs.find? (selected row.jobId (.terminalize worker status result error timestamp)) with
  | none => exact absurd meets (List.find?_eq_none.mp found row inside)
  | some active =>
    have met := List.find?_some found
    simp only [selected,Bool.and_eq_true,beq_iff_eq] at met
    cases Rows.same_row valid.distinct (List.mem_of_find?_eq_some found) inside met.1
    have any : before.jobs.any (selected row.jobId update) = true :=
      List.any_eq_true.mpr ⟨row,inside,by simp [selected,selects]⟩
    have ran : terminalTransaction configuration before row.jobId worker status result error timestamp retryable =
        .ok (⟨Rows.replace JobRow.jobId (update.set row) before.jobs,before.pruned⟩,update.set row) := by
      simp only [terminalTransaction,found,bind,Except.bind,read_stored held,chosen,updateReturning,any,if_true,
        execute_row valid.distinct inside,selects,read_replaced valid.distinct inside]
    exact ⟨_,_,terminalize_committed checked stated ran (read_stored rewritten)⟩

theorem complete_total (configuration : QueueConfiguration) (value : Text) (valid : Valid before) (checked : boundedMetadata worker = true)
    (stated : boundedDetail value = true) (inside : row ∈ before.jobs) (live : row.liveLease worker timestamp = true)
    (clear : row.cancellationRequested = false) :
    ∃ after job, complete configuration before row.jobId worker value timestamp = (after,.ok job) := by
  have accepted : terminalDetail .succeeded value = .ok (some value,none) := by simp [terminalDetail,detail,stated,Except.map]
  exact terminalize_total configuration false valid checked accepted inside live clear

end totality

/- One worker that keeps claiming at one time reaches every waiting job: a claim
takes one row out of those a claim at that time could still take. -/

def JobRow.pending (timestamp : Int) (row : JobRow) : Bool :=
  (row.status == .queued && decide (row.availableAtMs ≤ timestamp)) || row.expiredLease timestamp

def pendingCount (timestamp : Int) (tables : QueueTables) : Nat := tables.jobs.countP (JobRow.pending timestamp)

section progress
variable [Platform] {configuration : QueueConfiguration} {before after : QueueTables} {row : JobRow}

theorem recovery_pending (valid : Valid before) (edit : Edit configuration write before after)
    (recovery : Recovery timestamp write) : pendingCount timestamp after ≤ pendingCount timestamp before := by
  cases edit with
  | @update _ target statement present permitted =>
    have counted := Rows.countP_replace valid.distinct present (statement.set_jobId target).symm
      (JobRow.pending timestamp)
    have lapsed : target.pending timestamp = true := by
      simp [JobRow.pending,(recovery_set recovery permitted).1]
    rw [if_pos lapsed] at counted
    simp only [pendingCount]
    split at counted <;> omega
  | create absent idle shape => cases recovery
  | prune present terminal unpruned => cases recovery

theorem recoveries_pending (valid : Valid before) (edits : Edits configuration writes before after)
    (recoveries : ∀ write ∈ writes, Recovery timestamp write) :
    pendingCount timestamp after ≤ pendingCount timestamp before := by
  induction edits with
  | nil => exact Nat.le_refl _
  | cons first rest ih =>
    have now := recovery_pending valid first (recoveries _ List.mem_cons_self)
    exact (ih (edit_valid valid first) (fun write inside => recoveries write (List.mem_cons_of_mem _ inside))).trans now

theorem claim_pending {id : ProvisioningJobId} (valid : Valid before)
    (edit : Edit configuration (.update id (.claim worker (timestamp + configuration.leaseMs) timestamp)) before after) :
    pendingCount timestamp after < pendingCount timestamp before := by
  cases edit with
  | @update _ target statement present permitted =>
    have counted := Rows.countP_replace valid.distinct present
      ((Update.claim worker (timestamp + configuration.leaseMs) timestamp).set_jobId target).symm
      (JobRow.pending timestamp)
    have waiting : target.pending timestamp = true := by simp [JobRow.pending,permitted.1,permitted.2.1]
    have positive := configuration.lease_positive
    have held : ((Update.claim worker (timestamp + configuration.leaseMs) timestamp).set target).pending timestamp =
        false := by
      simp [JobRow.pending,JobRow.expiredLease,Update.set]
      omega
    rw [waiting,held] at counted
    simp only [pendingCount]
    simp only [if_true,Bool.false_eq_true,if_false] at counted
    omega

theorem silent_step (ran : call.run configuration before = (after,reply)) (undrawn : call.uuid = none) :
    QueueStep configuration history before ⟨call,reply⟩ after :=
  ⟨ran,fun uuid drawn => by simp [undrawn] at drawn⟩

-- The row is RUNNING for a worker whose lease lives, flagged as it was.
def JobRow.Serves (row next : JobRow) (worker : Text) (timestamp : Int) : Prop :=
  next.jobId = row.jobId ∧ next.liveLease worker timestamp = true ∧
    next.cancellationRequested = row.cancellationRequested

theorem queued_served (checked : boundedMetadata worker = true) (budget : Nat)
    (path : QueueRuns configuration history before) (few : pendingCount timestamp before ≤ budget)
    (inside : row ∈ before.jobs) (queued : row.status = .queued) (available : row.availableAtMs ≤ timestamp) :
    ∃ later final, QueueRuns configuration (later ++ history) final ∧
      ∃ next ∈ final.jobs, row.Serves next worker timestamp := by
  induction budget generalizing history before with
  | zero =>
    have waiting : row.pending timestamp = true := by simp [JobRow.pending,queued,available]
    have counted : 0 < pendingCount timestamp before := List.countP_pos_iff.mpr ⟨row,inside,waiting⟩
    omega
  | succ budget ih =>
    have valid := (runs_invariant path).valid
    obtain ⟨after,job,ran,_⟩ := claim_ordered configuration valid checked inside queued available
    have called : (Call.claim worker timestamp).run configuration before = (after,.ok (.claimed (some job))) := by
      simp only [Call.run,answered,ran,Except.map]
    have step : QueueStep configuration history before ⟨.claim worker timestamp,.ok (.claimed (some job))⟩ after :=
      silent_step called rfl
    obtain ⟨writes,edits,performed⟩ := run_performs valid _ called
    cases performed with
    | claimed recoveries =>
      obtain ⟨middle,recovered,claiming⟩ := edits.split
      have still := edits_valid valid recovered
      have kept := queued_recovered valid recovered recoveries inside queued
      have fewer := (claim_pending still claiming.only).trans_le (recoveries_pending valid recovered recoveries)
      rcases single_forth still claiming.only kept with waiting | ⟨same,permitted,written⟩
      · obtain ⟨later,final,longer,served⟩ := ih (.step path step) (by omega) waiting
        exact ⟨later ++ [_],final,by simpa using longer,served⟩
      · have positive := configuration.lease_positive
        refine ⟨[_],after,.step path step,_,written,rfl,?_,rfl⟩
        simp [JobRow.liveLease,Update.set,positive]

theorem held_completed (path : QueueRuns configuration history before) (checked : boundedMetadata worker = true)
    (inside : row ∈ before.jobs) (live : row.liveLease worker timestamp = true) (clear : row.cancellationRequested = false) :
    ∃ later final, QueueRuns configuration (later ++ history) final ∧
      ∃ next ∈ final.jobs, next.jobId = row.jobId ∧ next.status = .succeeded := by
  have valid := (runs_invariant path).valid
  obtain ⟨after,job,ran⟩ := complete_total configuration ['o','k'] valid checked (by decide)
    inside live clear
  have called : (Call.complete row.jobId worker ['o','k'] timestamp).run configuration before =
      (after,.ok (.job job)) := by
    simp only [Call.run,answered,ran,Except.map]
  obtain ⟨writes,edits,performed⟩ := run_performs valid _ called
  cases performed with
  | completed named =>
    refine ⟨[_],after,.step path (silent_step called rfl),?_⟩
    obtain ⟨target,_,same,_,written⟩ := edit_update edits.only
    exact ⟨_,written,by simpa using same,rfl⟩

end progress
end OpenStock.Queue
