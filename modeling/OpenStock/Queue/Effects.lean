import OpenStock.Queue.Journal

namespace OpenStock.Queue
open Text

/- Every call performs writes of the journal, and which ones its answer tells. -/

def Recovery (timestamp : Int) : Write → Prop
  | .update _ (.recoverCancelled at_) => at_ = timestamp
  | .update _ (.recoverFailed at_) => at_ = timestamp
  | .update _ (.recoverQueued at_) => at_ = timestamp
  | _ => False

inductive Performs [Platform] (configuration : QueueConfiguration) :
    Call → Except ProvisioningQueueError Outcome → List Write → Prop where
  | refused : Performs configuration call (.error refused) []
  | created (named : job.jobId = uuid) :
      Performs configuration (.submitOrJoin goal priority origin correlationId timestamp uuid)
        (.ok (.submitted ⟨job,false⟩)) [.create (newJobRow goal priority origin correlationId timestamp uuid)]
  | joinedQueued (queued : job.status = .queued) :
      Performs configuration (.submitOrJoin goal priority origin correlationId timestamp uuid)
        (.ok (.submitted ⟨job,true⟩)) [.update job.jobId (.prioritize priority timestamp)]
  | joinedRunning (running : job.status = .running) :
      Performs configuration (.submitOrJoin goal priority origin correlationId timestamp uuid)
        (.ok (.submitted ⟨job,true⟩)) []
  | idle (recoveries : ∀ write ∈ writes, Recovery timestamp write) :
      Performs configuration (.claim worker timestamp) (.ok (.claimed none)) writes
  | claimed (recoveries : ∀ write ∈ writes, Recovery timestamp write) :
      Performs configuration (.claim worker timestamp) (.ok (.claimed (some job)))
        (writes ++ [.update job.jobId (.claim worker (timestamp + configuration.leaseMs) timestamp)])
  | heartbeat (named : job.jobId = jobId) :
      Performs configuration (.heartbeat jobId worker timestamp) (.ok (.job job))
        [.update jobId (.heartbeat worker (timestamp + configuration.leaseMs) timestamp)]
  | completed (named : job.jobId = jobId) :
      Performs configuration (.complete jobId worker result timestamp) (.ok (.job job))
        [.update jobId (.terminalize worker .succeeded (some result) none timestamp)]
  | failed (named : job.jobId = jobId) (terminal : job.status = .failed) :
      Performs configuration (.fail jobId worker error timestamp retryable) (.ok (.job job))
        [.update jobId (.terminalize worker .failed none (some error) timestamp)]
  | retried (named : job.jobId = jobId) (again : job.status = .queued) :
      Performs configuration (.fail jobId worker error timestamp true) (.ok (.job job))
        [.update jobId (.retry worker (some error) (timestamp + retryDelaySeconds * 1000) timestamp)]
  | acknowledged (named : job.jobId = jobId) :
      Performs configuration (.acknowledgeCancellation jobId worker reason timestamp) (.ok (.job job))
        [.update jobId (.terminalize worker .cancelled none (some reason) timestamp)]
  | cancelledQueued (named : job.jobId = jobId) (ended : job.status = .cancelled) :
      Performs configuration (.cancel jobId timestamp) (.ok (.job job)) [.update jobId (.cancelQueued timestamp)]
  | cancelledRunning (named : job.jobId = jobId) (running : job.status = .running) :
      Performs configuration (.cancel jobId timestamp) (.ok (.job job)) [.update jobId (.cancelRunning timestamp)]
  | requeued (recoveries : ∀ write ∈ writes, Recovery timestamp write) :
      Performs configuration (.requeueExpired timestamp) (.ok (.requeued jobs)) writes
  | pruned (removals : ∀ write ∈ writes, ∃ jobId, write = .prune jobId) :
      Performs configuration (.prune olderThanDays retained completedAt) (.ok (.pruned result)) writes

theorem expired_running {row : JobRow} (expired : row.expiredLease timestamp = true) : row.status = .running := by
  simp only [JobRow.expiredLease,Bool.and_eq_true,beq_iff_eq] at expired
  exact expired.1

theorem metadata_ok (accepted : metadata value name = .ok stored) : stored = value := by
  cases value with
  | none => exact (Except.ok.inj accepted).symm
  | some value =>
    simp only [metadata,requiredMetadata] at accepted
    split at accepted
    · exact (Except.ok.inj accepted).symm
    · cases accepted

section statements
variable {configuration : QueueConfiguration} {jobs : List JobRow} {row : JobRow}

theorem recover_permitted (configuration : QueueConfiguration) (goal : ProvisioningGoal) (expired : row.expiredLease timestamp = true) :
    (recoverUpdate configuration (row.read goal) timestamp).Permitted configuration row ∧
      Recovery timestamp (.update row.jobId (recoverUpdate configuration (row.read goal) timestamp)) := by
  unfold recoverUpdate
  split
  · rename_i flagged
    exact ⟨⟨expired,flagged⟩,rfl⟩
  · rename_i unflagged
    have clear : row.cancellationRequested = false := by simpa using unflagged
    split
    · rename_i exhausted
      exact ⟨⟨expired,clear,exhausted⟩,rfl⟩
    · rename_i remaining
      exact ⟨⟨expired,clear,Nat.lt_of_not_le remaining⟩,rfl⟩

theorem recover_selects (goal : ProvisioningGoal) (expired : row.expiredLease timestamp = true) :
    (recoverUpdate configuration (row.read goal) timestamp).selects row = true := by
  have running := expired_running expired
  unfold recoverUpdate
  split
  · simp [Update.selects,running]
  · split <;> simp [Update.selects,running]

theorem activeJob_some (found : activeJob jobs identity = some row) :
    row ∈ jobs ∧ row.goalIdentity = identity ∧ row.status.isActive = true := by
  have met := List.find?_some found
  simp only [Bool.and_eq_true,beq_iff_eq] at met
  exact ⟨List.mem_of_find?_eq_some found,met⟩

theorem activeJob_none (absent : activeJob jobs identity = none) :
    ∀ row ∈ jobs, row.status.isActive = true → row.goalIdentity ≠ identity := by
  intro row inside active same
  have unmet := List.find?_eq_none.mp absent row inside
  simp [active,same] at unmet

theorem insertJob_ok (inserted : insertJob jobs new = .ok extended) :
    extended = jobs ++ [new] ∧ ∀ row ∈ jobs, row.jobId ≠ new.jobId := by
  unfold insertJob at inserted
  split at inserted
  · cases inserted
  · rename_i unique
    refine ⟨(Except.ok.inj inserted).symm,?_⟩
    intro row inside same
    exact unique (List.any_eq_true.mpr ⟨row,inside,by simp [same]⟩)

theorem requiredMetadata_ok (accepted : requiredMetadata value name = .ok stored) :
    stored = value ∧ boundedMetadata value = true := by
  unfold requiredMetadata at accepted
  split at accepted
  · rename_i bounded
    exact ⟨(Except.ok.inj accepted).symm,bounded⟩
  · cases accepted

theorem updateReturning_ok (distinct : Rows.Distinct JobRow.jobId rows) (ran : updateReturning rows jobId update = .ok jobs) :
    ∃ row ∈ rows, row.jobId = jobId ∧ update.selects row = true ∧ jobs = Rows.replace JobRow.jobId (update.set row) rows := by
  unfold updateReturning at ran
  split at ran
  · rename_i met
    obtain ⟨row,present,chosen⟩ := List.any_eq_true.mp met
    simp only [selected,Bool.and_eq_true,beq_iff_eq] at chosen
    obtain ⟨rfl,selects⟩ := chosen
    refine ⟨row,present,rfl,selects,?_⟩
    rw [← Except.ok.inj ran,execute_row distinct present,if_pos selects]
  · cases ran

theorem cancelUpdate_ok (chosen : cancelUpdate job timestamp = .ok update) :
    (job.status = .queued ∧ update = .cancelQueued timestamp) ∨
    (job.status = .running ∧ update = .cancelRunning timestamp) := by
  unfold cancelUpdate at chosen
  split at chosen
  · rename_i queued
    exact .inl ⟨queued,(Except.ok.inj chosen).symm⟩
  · rename_i running
    exact .inr ⟨running,(Except.ok.inj chosen).symm⟩
  · cases chosen

theorem pruneRow_ok (ran : pruneRow retained completedAt state row = .ok next) : next.1 = state.1 ∨
    ((∀ earlier ∈ state.1.pruned, earlier.jobId ≠ row.jobId) ∧
      next.1 = ⟨state.1.jobs.filter (fun other => !(other.jobId == row.jobId && other.status.isTerminal)),
        state.1.pruned ++ [⟨row.jobId,row.status,completedAt⟩]⟩) := by
  unfold pruneRow at ran
  split at ran
  · left
    rw [← Except.ok.inj ran]
  · right
    obtain ⟨extended,inserted,ran⟩ := bind_ok ran
    unfold insertPruned at inserted
    split at inserted
    · cases inserted
    · rename_i unique
      cases inserted
      cases ran
      refine ⟨?_,rfl⟩
      intro earlier inside same
      exact unique (List.any_eq_true.mpr ⟨earlier,inside,by simpa using same⟩)

theorem delete_terminal (distinct : Rows.Distinct JobRow.jobId jobs) (present : row ∈ jobs)
    (terminal : row.status.isTerminal = true) :
    jobs.filter (fun other => !(other.jobId == row.jobId && other.status.isTerminal)) =
      Rows.remove JobRow.jobId row.jobId jobs := by
  unfold Rows.remove
  apply List.filter_congr
  intro other inside
  by_cases same : other.jobId = row.jobId
  · simp [Rows.same_row distinct inside present same,terminal]
  · simp [same]

theorem prunable_rows (inside : row ∈ prunable jobs cutoff) :
    row ∈ jobs ∧ row.status.isTerminal = true ∧ row.updatedAtMs < cutoff := by
  have sorted := (List.perm_insertionSort _ _).mem_iff.mp (List.mem_of_mem_take inside)
  simpa using sorted

theorem prunable_distinct (distinct : Rows.Distinct JobRow.jobId jobs) : Rows.Distinct JobRow.jobId (prunable jobs cutoff) := by
  have filtered : Rows.Distinct JobRow.jobId
      (jobs.filter (fun row => row.status.isTerminal && decide (row.updatedAtMs < cutoff))) :=
    distinct.sublist (List.filter_sublist.map _)
  have sorted : Rows.Distinct JobRow.jobId
      ((jobs.filter (fun row => row.status.isTerminal && decide (row.updatedAtMs < cutoff))).insertionSort
        (fun left right => left.updatedAtMs ≤ right.updatedAtMs)) :=
    ((List.perm_insertionSort _ _).map _).nodup_iff.mpr filtered
  exact sorted.sublist ((List.take_sublist _ _).map _)

theorem committed_cases {tables after : QueueTables} (ran : committed tables body answer = (after,answer')) :
    (∃ refused, body = .error refused ∧ after = tables ∧ answer' = .error refused) ∨
    ∃ value, body = .ok (after,value) ∧ answer' = answer value := by
  unfold committed at ran
  split at ran
  · cases ran
    exact .inl ⟨_,rfl,rfl,rfl⟩
  · cases ran
    exact .inr ⟨_,rfl,rfl⟩

theorem answered_cases (same : answered outcome ran = (after,reply)) : after = ran.1 ∧ reply = ran.2.map outcome := by
  cases same
  exact ⟨rfl,rfl⟩

theorem detail_ok (accepted : detail value name = .ok stored) : stored = value := by
  unfold detail at accepted
  split at accepted
  · exact (Except.ok.inj accepted).symm
  · cases accepted

theorem terminalDetail_ok (accepted : terminalDetail status value = .ok (result,error)) :
    (status = .succeeded ∧ result = some value ∧ error = none) ∨
    ((status = .failed ∨ status = .cancelled) ∧ result = none ∧ error = some value) := by
  have mapped : ∀ {name} {pack : Text → Option Text × Option Text},
      (detail value name).map pack = .ok (result,error) → pack value = (result,error) := by
    intro name pack accepted
    cases checked : detail value name with
    | error refused =>
      rw [checked] at accepted
      cases accepted
    | ok stored =>
      rw [checked,detail_ok checked] at accepted
      exact Except.ok.inj accepted
  cases status with
  | succeeded =>
    cases mapped accepted
    exact .inl ⟨rfl,rfl,rfl⟩
  | failed =>
    cases mapped accepted
    exact .inr ⟨.inl rfl,rfl,rfl⟩
  | cancelled =>
    cases mapped accepted
    exact .inr ⟨.inr rfl,rfl,rfl⟩
  | queued => cases accepted
  | running => cases accepted

end statements

section effects
variable [Platform] {configuration : QueueConfiguration} {tables after : QueueTables} {jobs : List JobRow} {row : JobRow}

-- The snapshot holds each expired row once, and a row not yet reached is still
-- as the snapshot has it.
theorem recover_edits (snapshot : List JobRow) (valid : Valid tables) (inside : ∀ row ∈ snapshot, row ∈ tables.jobs)
    (expired : ∀ row ∈ snapshot, row.expiredLease timestamp = true) (distinct : Rows.Distinct JobRow.jobId snapshot)
    (ran : snapshot.foldlM (recoverRow configuration timestamp) tables.jobs = .ok jobs) :
    ∃ writes, Edits configuration writes tables {tables with jobs := jobs} ∧
      ∀ write ∈ writes, Recovery timestamp write := by
  induction snapshot generalizing tables with
  | nil =>
    cases ran
    exact ⟨[],.nil,by simp⟩
  | cons row snapshot ih =>
    obtain ⟨fresh,later⟩ := List.nodup_cons.mp distinct
    have present := inside row List.mem_cons_self
    have lapsed := expired row List.mem_cons_self
    rw [List.foldlM_cons] at ran
    obtain ⟨middle,first,rest⟩ := bind_ok ran
    obtain ⟨job,read,wrote⟩ := bind_ok first
    obtain ⟨goal,rfl⟩ := jobFromRow_read read
    have replaced := execute_row valid.distinct present (recoverUpdate configuration (row.read goal) timestamp)
    rw [if_pos (recover_selects goal lapsed)] at replaced
    have written : Rows.replace JobRow.jobId ((recoverUpdate configuration (row.read goal) timestamp).set row)
        tables.jobs = middle := replaced.symm.trans (Except.ok.inj wrote)
    obtain ⟨permitted,recovery⟩ := recover_permitted configuration goal lapsed
    have edit := Edit.update present permitted
    rw [written] at edit
    have kept : ∀ other ∈ snapshot, other ∈ middle := by
      intro other member
      have differs : other.jobId ≠ row.jobId := fun same => fresh (same ▸ List.mem_map_of_mem member)
      rw [← written]
      refine (Rows.mem_replace present (Update.set_jobId _ _).symm).mpr (.inr ⟨inside other (by simp [member]),?_⟩)
      simpa using differs
    obtain ⟨writes,edits,recoveries⟩ := ih (edit_valid valid edit) kept
      (fun other member => expired other (by simp [member])) later rest
    refine ⟨_ :: writes,.cons edit edits,?_⟩
    intro write member
    rcases List.mem_cons.mp member with rfl | member
    · exact recovery
    · exact recoveries write member

theorem recoverExpired_edits (valid : Valid tables) (ran : recoverExpired configuration tables.jobs timestamp = .ok jobs) :
    ∃ writes, Edits configuration writes tables {tables with jobs := jobs} ∧
      ∀ write ∈ writes, Recovery timestamp write := by
  refine recover_edits _ valid ?_ ?_ ?_ ran
  · intro row member
    exact (List.mem_filter.mp member).1
  · intro row member
    simpa using (List.mem_filter.mp member).2
  · exact valid.distinct.sublist (List.filter_sublist.map _)

/- Submission. -/

theorem submission_ok (accepted : submission goal priority origin correlationId = .ok request) :
    request = (goal,priority,origin,correlationId) := by
  obtain ⟨checked,goalChecked,accepted⟩ := bind_ok accepted
  obtain ⟨bounded,priorityChecked,accepted⟩ := bind_ok accepted
  obtain ⟨source,originChecked,accepted⟩ := bind_ok accepted
  obtain ⟨correlation,correlationChecked,accepted⟩ := bind_ok accepted
  rw [validatedGoal_goal] at goalChecked
  cases goalChecked
  have samePriority : bounded = priority := by
    unfold validatedPriority at priorityChecked
    split at priorityChecked <;> cases priorityChecked
    rfl
  rw [metadata_ok originChecked,metadata_ok correlationChecked,samePriority] at accepted
  exact (Except.ok.inj accepted).symm

theorem joinJob_edits (configuration : QueueConfiguration) (valid : Valid tables) (present : row ∈ tables.jobs) (active : row.status.isActive = true)
    (ran : joinJob tables row priority timestamp = .ok (after,job)) :
    (row.status = .queued ∧ job.status = .queued ∧ job.jobId = row.jobId ∧
      Edit configuration (.update row.jobId (.prioritize priority timestamp)) tables after) ∨
    (row.status = .running ∧ job.status = .running ∧ job.jobId = row.jobId ∧ after = tables) := by
  obtain ⟨first,read,ran⟩ := bind_ok ran
  obtain ⟨goal,rfl⟩ := jobFromRow_read read
  by_cases queued : row.status = .queued
  · left
    rw [if_pos (by simpa using queued)] at ran
    simp only [JobRow.read_jobId,execute_row valid.distinct present,Update.selects,if_true,
      read_replaced valid.distinct present] at ran
    obtain ⟨again,reread,ran⟩ := bind_ok ran
    cases reread
    obtain ⟨final,decoded,ran⟩ := bind_ok ran
    obtain ⟨goal,rfl⟩ := jobFromRow_read decoded
    cases ran
    exact ⟨queued,by simpa [Update.set] using queued,by simp,.update present queued⟩
  · right
    rw [if_neg (by simpa using queued)] at ran
    cases ran
    have running : row.status = .running := by
      cases status : row.status <;> simp_all [ProvisioningJobStatus.isActive]
    exact ⟨running,running,rfl,rfl⟩

theorem createJob_edits (configuration : QueueConfiguration) (ran : createJob tables new = .ok (after,row))
    (idle : ∀ row ∈ tables.jobs, row.status.isActive = true → row.goalIdentity ≠ new.goalIdentity)
    (shape : new = newJobRow goal priority origin correlationId timestamp uuid) :
    Edit configuration (.create new) tables after ∧ row.jobId = new.jobId := by
  obtain ⟨extended,inserted,ran⟩ := bind_ok ran
  obtain ⟨found,read,ran⟩ := bind_ok ran
  obtain ⟨rfl,absent⟩ := insertJob_ok inserted
  cases ran
  exact ⟨.create absent idle shape,(readJob_ok read).2⟩

-- A submission answers with a stored active row of its goal.
theorem joinJob_row (distinct : Rows.Distinct JobRow.jobId tables.jobs) (present : row ∈ tables.jobs)
    (active : row.status.isActive = true) (ran : joinJob tables row priority timestamp = .ok (after,job)) :
    ∃ stored ∈ after.jobs, stored.goalIdentity = row.goalIdentity ∧ stored.status.isActive = true ∧
      ∃ goal, job = stored.read goal := by
  obtain ⟨first,read,ran⟩ := bind_ok ran
  obtain ⟨goal,rfl⟩ := jobFromRow_read read
  by_cases queued : row.status = .queued
  · rw [if_pos (by simpa using queued)] at ran
    simp only [JobRow.read_jobId,execute_row distinct present,Update.selects,if_true,
      read_replaced distinct present] at ran
    obtain ⟨again,reread,ran⟩ := bind_ok ran
    cases reread
    obtain ⟨final,decoded,ran⟩ := bind_ok ran
    obtain ⟨goal,rfl⟩ := jobFromRow_read decoded
    cases ran
    exact ⟨_,replace_present present _,by simp,active,goal,rfl⟩
  · rw [if_neg (by simpa using queued)] at ran
    cases ran
    exact ⟨row,present,rfl,active,goal,rfl⟩

theorem submitOrJoin_row (valid : Valid tables)
    (ran : submitOrJoin tables goal priority origin correlationId timestamp uuid = (after,.ok result)) :
    ∃ stored ∈ after.jobs, stored.goalIdentity = goalIdentity goal ∧ stored.status.isActive = true ∧
      ∃ read, result.job = stored.read read := by
  unfold submitOrJoin at ran
  split at ran
  · cases ran
  · rename_i accepted
    cases submission_ok accepted
    split at ran
    · rename_i row found
      obtain ⟨present,same,active⟩ := activeJob_some found
      rcases committed_cases ran with ⟨_,_,_,impossible⟩ | ⟨job,joined,answer⟩
      · cases impossible
      · cases answer
        rw [← same]
        exact joinJob_row valid.distinct present active joined
    · rcases committed_cases ran with ⟨_,_,_,impossible⟩ | ⟨row,created,answer⟩
      · cases impossible
      · obtain ⟨extended,inserted,ran⟩ := bind_ok created
        obtain ⟨found,read,ran⟩ := bind_ok ran
        obtain ⟨rfl,absent⟩ := insertJob_ok inserted
        cases ran
        obtain ⟨listed,named⟩ := readJob_ok read
        have new : row = newJobRow goal priority origin correlationId timestamp uuid := by
          rcases List.mem_append.mp listed with earlier | added
          · exact absurd named (absent row earlier)
          · exact List.mem_singleton.mp added
        subst new
        rw [read_stored (new_holds _ _ _ _ _ _)] at answer
        cases answer
        exact ⟨_,listed,rfl,rfl,goal,rfl⟩

/- Leases. -/

theorem claimTransaction_edits (valid : Valid tables) (checked : boundedMetadata worker = true)
    (ran : claimTransaction configuration tables worker timestamp = .ok (after,claimed)) :
    ∃ writes, (∀ write ∈ writes, Recovery timestamp write) ∧ ((claimed = none ∧ Edits configuration writes tables after) ∨
      ∃ row, claimed = some row ∧ Edits configuration
        (writes ++ [.update row.jobId (.claim worker (timestamp + configuration.leaseMs) timestamp)]) tables after) := by
  obtain ⟨recovered,recovery,ran⟩ := bind_ok ran
  obtain ⟨writes,edits,recoveries⟩ := recoverExpired_edits valid recovery
  refine ⟨writes,recoveries,?_⟩
  split at ran
  · cases ran
    exact .inl ⟨rfl,edits⟩
  · rename_i chosen found
    right
    have listed := List.mem_filter.mp (Rows.firstBy_mem found)
    simp only [Bool.and_eq_true,beq_iff_eq,decide_eq_true_eq] at listed
    obtain ⟨present,queued,available⟩ := listed
    obtain ⟨job,decoded,ran⟩ := bind_ok ran
    obtain ⟨goal,rfl⟩ := jobFromRow_read decoded
    have distinct := (edits_valid valid edits).distinct
    have selects : (Update.claim worker (timestamp + configuration.leaseMs) timestamp).selects chosen = true := by
      simp [Update.selects,queued]
    simp only [JobRow.read_jobId,execute_row distinct present,selects,if_true,read_replaced distinct present] at ran
    obtain ⟨row,read,ran⟩ := bind_ok ran
    cases read
    cases ran
    refine ⟨_,rfl,edits.append (.single ?_)⟩
    rw [Update.set_jobId]
    exact .update present ⟨queued,available,rfl,checked⟩

theorem claimed_row (ran : claimTransaction configuration tables worker timestamp = .ok (after,some row)) :
    row ∈ after.jobs := by
  obtain ⟨recovered,_,ran⟩ := bind_ok ran
  split at ran
  · cases ran
  · obtain ⟨job,_,ran⟩ := bind_ok ran
    obtain ⟨found,read,ran⟩ := bind_ok ran
    cases ran
    exact (readJob_ok read).1

theorem heartbeatTransaction_edits (valid : Valid tables)
    (ran : heartbeatTransaction configuration tables jobId worker timestamp = .ok (after,row)) :
    row ∈ after.jobs ∧ row.jobId = jobId ∧ Edit configuration
      (.update jobId (.heartbeat worker (timestamp + configuration.leaseMs) timestamp)) tables after := by
  obtain ⟨jobs,updated,ran⟩ := bind_ok ran
  obtain ⟨old,present,rfl,selects,rfl⟩ := updateReturning_ok valid.distinct updated
  obtain ⟨found,read,ran⟩ := bind_ok ran
  cases ran
  exact ⟨(readJob_ok read).1,(readJob_ok read).2,.update present ⟨selects,rfl⟩⟩

theorem requeueTransaction_edits (valid : Valid tables)
    (ran : requeueTransaction configuration tables timestamp = .ok (after,rows)) :
    ∃ writes, (∀ write ∈ writes, Recovery timestamp write) ∧ Edits configuration writes tables after := by
  obtain ⟨recovered,recovery,ran⟩ := bind_ok ran
  obtain ⟨writes,edits,recoveries⟩ := recoverExpired_edits valid recovery
  cases ran
  exact ⟨writes,recoveries,edits⟩

/- Terminal writes. -/

theorem terminalTransaction_edits (valid : Valid tables) (stored : terminalDetail status value = .ok (result,error))
    (ran : terminalTransaction configuration tables jobId worker status result error timestamp retryable = .ok (after,row)) :
    row ∈ after.jobs ∧ row.jobId = jobId ∧ ((row.status = status ∧ Edit configuration
        (.update jobId (.terminalize worker status result error timestamp)) tables after) ∨
      (row.status = .queued ∧ status = .failed ∧ retryable = true ∧ Edit configuration
        (.update jobId (.retry worker error (timestamp + retryDelaySeconds * 1000) timestamp)) tables after)) := by
  unfold terminalTransaction at ran
  split at ran
  · cases ran
  · rename_i active found
    have met := List.find?_some found
    have present := List.mem_of_find?_eq_some found
    simp only [selected,Update.selects,Bool.and_eq_true,beq_iff_eq] at met
    obtain ⟨rfl,live,flag⟩ := met
    obtain ⟨job,decoded,ran⟩ := bind_ok ran
    obtain ⟨goal,rfl⟩ := jobFromRow_read decoded
    obtain ⟨jobs,updated,ran⟩ := bind_ok ran
    obtain ⟨old,member,same,selects,rfl⟩ := updateReturning_ok valid.distinct updated
    cases Rows.same_row valid.distinct member present same
    rw [read_replaced valid.distinct present] at ran
    cases ran
    refine ⟨replace_present present _,by simp,?_⟩
    by_cases again : status = .failed ∧ retryable = true ∧ active.attempts < configuration.maxAttempts
    · right
      have chosen : terminalUpdate configuration (active.read goal) worker status result error timestamp retryable =
          .retry worker error (timestamp + retryDelaySeconds * 1000) timestamp := if_pos again
      have clear : active.cancellationRequested = false := by rw [flag,again.1]; rfl
      obtain ⟨rfl,retry,remaining⟩ := again
      have detailed : error.isSome = true := by
        cases checked : detail value "error" with
        | error refused => simp [terminalDetail,checked,Except.map] at stored
        | ok text =>
          simp only [terminalDetail,checked,Except.map,Except.ok.injEq,Prod.mk.injEq] at stored
          simp [← stored.2]
      rw [chosen]
      exact ⟨rfl,rfl,retry,.update present ⟨live,clear,remaining,detailed,rfl⟩⟩
    · left
      have chosen : terminalUpdate configuration (active.read goal) worker status result error timestamp retryable =
          .terminalize worker status result error timestamp := if_neg again
      rw [chosen]
      exact ⟨rfl,.update present ⟨live,flag,value,stored⟩⟩

theorem cancelTransaction_edits (configuration : QueueConfiguration) (valid : Valid tables)
    (ran : cancelTransaction tables jobId timestamp = .ok (after,row)) : row ∈ after.jobs ∧ row.jobId = jobId ∧
      ((row.status = .cancelled ∧ Edit configuration (.update jobId (.cancelQueued timestamp)) tables after) ∨
      (row.status = .running ∧ Edit configuration (.update jobId (.cancelRunning timestamp)) tables after)) := by
  unfold cancelTransaction at ran
  split at ran
  · cases ran
  · rename_i found selectedRow
    obtain ⟨present,rfl⟩ := select_some selectedRow
    obtain ⟨job,decoded,ran⟩ := bind_ok ran
    obtain ⟨goal,rfl⟩ := jobFromRow_read decoded
    obtain ⟨statement,chosen,ran⟩ := bind_ok ran
    rcases cancelUpdate_ok chosen with ⟨queued,rfl⟩ | ⟨running,rfl⟩
    · have selects : (Update.cancelQueued timestamp).selects found = true := by simpa [Update.selects] using queued
      simp only [execute_row valid.distinct present,selects,if_true,read_replaced valid.distinct present] at ran
      cases ran
      exact ⟨replace_present present _,rfl,.inl ⟨rfl,.update present queued⟩⟩
    · have selects : (Update.cancelRunning timestamp).selects found = true := by simpa [Update.selects] using running
      simp only [execute_row valid.distinct present,selects,if_true,read_replaced valid.distinct present] at ran
      cases ran
      exact ⟨replace_present present _,rfl,.inr ⟨running,.update present running⟩⟩

/- Retention. -/

theorem prune_edits (configuration : QueueConfiguration) (snapshot : List JobRow) (state final : QueueTables × QueuePruneResult) (valid : Valid state.1)
    (inside : ∀ row ∈ snapshot, row ∈ state.1.jobs) (terminal : ∀ row ∈ snapshot, row.status.isTerminal = true)
    (distinct : Rows.Distinct JobRow.jobId snapshot) (ran : snapshot.foldlM (pruneRow retained completedAt) state = .ok final) :
    ∃ writes, Edits configuration writes state.1 final.1 ∧ ∀ write ∈ writes, ∃ jobId, write = .prune jobId := by
  induction snapshot generalizing state with
  | nil =>
    cases ran
    exact ⟨[],.nil,by simp⟩
  | cons row snapshot ih =>
    obtain ⟨fresh,later⟩ := List.nodup_cons.mp distinct
    have present := inside row List.mem_cons_self
    have ended := terminal row List.mem_cons_self
    rw [List.foldlM_cons] at ran
    obtain ⟨middle,first,rest⟩ := bind_ok ran
    rcases pruneRow_ok first with kept | ⟨unpruned,removed⟩
    · exact ih middle (kept ▸ valid) (fun other member => kept ▸ inside other (by simp [member]))
        (fun other member => terminal other (by simp [member])) later rest |>.imp (fun _ found => kept ▸ found)
    · rw [delete_terminal valid.distinct present ended] at removed
      have edit : Edit configuration (.prune row.jobId) state.1 middle.1 := removed ▸ .prune present ended unpruned
      have stay : ∀ other ∈ snapshot, other ∈ middle.1.jobs := by
        intro other member
        have differs : other.jobId ≠ row.jobId := fun same => fresh (same ▸ List.mem_map_of_mem member)
        rw [removed]
        exact Rows.mem_remove.mpr ⟨inside other (by simp [member]),differs⟩
      obtain ⟨writes,edits,removals⟩ := ih middle (edit_valid valid edit) stay
        (fun other member => terminal other (by simp [member])) later rest
      refine ⟨_ :: writes,.cons edit edits,?_⟩
      intro write member
      rcases List.mem_cons.mp member with rfl | member
      · exact ⟨_,rfl⟩
      · exact removals write member

/- Calls. -/

theorem read_member (valid : Valid tables) (present : row ∈ tables.jobs) :
    ∃ goal, row.Holds goal ∧ jobFromRow row = .ok (row.read goal) := by
  obtain ⟨goal,held⟩ := valid.stored row present
  exact ⟨goal,held,read_stored held⟩

theorem read_rows (valid : Valid tables) (rows : List JobRow) (inside : ∀ row ∈ rows, row ∈ tables.jobs) :
    ∃ jobs, rows.mapM jobFromRow = .ok jobs := by
  induction rows with
  | nil => exact ⟨[],rfl⟩
  | cons row rows ih =>
    obtain ⟨goal,_,read⟩ := read_member valid (inside row List.mem_cons_self)
    obtain ⟨jobs,rest⟩ := ih (fun other member => inside other (List.mem_cons_of_mem _ member))
    exact ⟨row.read goal :: jobs,by rw [List.mapM_cons,read,rest]; rfl⟩

-- The tables after a call are those before it with what the call performs.
abbrev Answers (configuration : QueueConfiguration) (tables : QueueTables) (call : Call)
    (reply : Except ProvisioningQueueError Outcome) (after : QueueTables) : Prop :=
  ∃ writes, Edits configuration writes tables after ∧ Performs configuration call reply writes

theorem submitOrJoin_performs (valid : Valid tables)
    (ran : submitOrJoin tables goal priority origin correlationId timestamp uuid = (after,reply)) :
    Answers configuration tables (.submitOrJoin goal priority origin correlationId timestamp uuid) (reply.map .submitted) after := by
  unfold submitOrJoin at ran
  split at ran
  · cases ran
    exact ⟨[],.nil,.refused⟩
  · rename_i accepted
    cases submission_ok accepted
    split at ran
    · rename_i row found
      obtain ⟨present,_,active⟩ := activeJob_some found
      rcases committed_cases ran with ⟨refused,_,rfl,rfl⟩ | ⟨job,joined,rfl⟩
      · exact ⟨[],.nil,.refused⟩
      · rcases joinJob_edits configuration valid present active joined with
          ⟨_,queued,named,edit⟩ | ⟨_,running,_,rfl⟩
        · rw [← named] at edit
          exact ⟨_,.single edit,.joinedQueued queued⟩
        · exact ⟨[],.nil,.joinedRunning running⟩
    · rename_i absent
      rcases committed_cases ran with ⟨refused,_,rfl,rfl⟩ | ⟨row,created,rfl⟩
      · exact ⟨[],.nil,.refused⟩
      · have idle := activeJob_none absent
        obtain ⟨edit,named⟩ := createJob_edits configuration created idle rfl
        have present : row ∈ after.jobs := by
          obtain ⟨extended,_,ran⟩ := bind_ok created
          obtain ⟨found,read,ran⟩ := bind_ok ran
          cases ran
          exact (readJob_ok read).1
        obtain ⟨goal,_,read⟩ := read_member (edit_valid valid edit) present
        rw [read]
        exact ⟨_,.single edit,.created named⟩

theorem claim_performs (valid : Valid tables) (ran : claim configuration tables worker timestamp = (after,reply)) :
    Answers configuration tables (.claim worker timestamp) (reply.map .claimed) after := by
  unfold claim at ran
  split at ran
  · cases ran
    exact ⟨[],.nil,.refused⟩
  · rename_i checked accepted
    obtain ⟨rfl,bounded⟩ := requiredMetadata_ok accepted
    rcases committed_cases ran with ⟨refused,_,rfl,rfl⟩ | ⟨claimed,done,rfl⟩
    · exact ⟨[],.nil,.refused⟩
    · obtain ⟨writes,recoveries,⟨rfl,edits⟩ | ⟨row,rfl,edits⟩⟩ := claimTransaction_edits valid bounded done
      · exact ⟨writes,edits,.idle recoveries⟩
      · obtain ⟨goal,_,decoded⟩ := read_member (edits_valid valid edits) (claimed_row done)
        simp only [decoded]
        exact ⟨_,edits,.claimed recoveries⟩

theorem heartbeat_performs (valid : Valid tables)
    (ran : heartbeat configuration tables jobId worker timestamp = (after,reply)) :
    Answers configuration tables (.heartbeat jobId worker timestamp) (reply.map .job) after := by
  unfold heartbeat at ran
  split at ran
  · cases ran
    exact ⟨[],.nil,.refused⟩
  · rename_i checked accepted
    obtain ⟨rfl,_⟩ := requiredMetadata_ok accepted
    rcases committed_cases ran with ⟨refused,_,rfl,rfl⟩ | ⟨row,done,rfl⟩
    · exact ⟨[],.nil,.refused⟩
    · obtain ⟨present,named,edit⟩ := heartbeatTransaction_edits valid done
      obtain ⟨goal,_,read⟩ := read_member (edit_valid valid edit) present
      rw [read]
      exact ⟨_,.single edit,.heartbeat named⟩

theorem requeue_performs (valid : Valid tables) (ran : requeueExpired configuration tables timestamp = (after,reply)) :
    Answers configuration tables (.requeueExpired timestamp) (reply.map .requeued) after := by
  rcases committed_cases ran with ⟨refused,_,rfl,rfl⟩ | ⟨rows,done,rfl⟩
  · exact ⟨[],.nil,.refused⟩
  · obtain ⟨writes,recoveries,edits⟩ := requeueTransaction_edits valid done
    have listed : ∀ row ∈ rows, row ∈ after.jobs := by
      obtain ⟨recovered,_,finish⟩ := bind_ok done
      cases finish
      intro row inside
      exact (List.mem_filter.mp ((List.perm_insertionSort _ _).mem_iff.mp inside)).1
    obtain ⟨jobs,read⟩ := read_rows (edits_valid valid edits) rows listed
    rw [read]
    exact ⟨writes,edits,.requeued recoveries⟩

-- The three terminal calls differ in the status they ask for.
theorem terminalize_performs (valid : Valid tables)
    (ran : terminalize configuration tables jobId worker status value timestamp retryable = (after,reply)) :
    (after = tables ∧ ∃ refused, reply = .error refused) ∨
    ∃ result error job, terminalDetail status value = .ok (result,error) ∧ reply = .ok job ∧ job.jobId = jobId ∧
      ((job.status = status ∧ Edit configuration
        (.update jobId (.terminalize worker status result error timestamp)) tables after) ∨
      (job.status = .queued ∧ status = .failed ∧ retryable = true ∧ Edit configuration
        (.update jobId (.retry worker error (timestamp + retryDelaySeconds * 1000) timestamp)) tables after)) := by
  unfold terminalize at ran
  dsimp only at ran
  split at ran
  · cases ran
    exact .inl ⟨rfl,_,rfl⟩
  · rename_i checked result error accepted
    obtain ⟨first,metadataChecked,accepted⟩ := bind_ok accepted
    obtain ⟨stored,detailChecked,accepted⟩ := bind_ok accepted
    have same := Except.ok.inj accepted
    simp only [Prod.mk.injEq] at same
    obtain ⟨rfl,rfl⟩ := same
    rw [(requiredMetadata_ok metadataChecked).1] at ran
    rcases committed_cases ran with ⟨refused,_,rfl,rfl⟩ | ⟨row,done,rfl⟩
    · exact .inl ⟨rfl,_,rfl⟩
    · right
      obtain ⟨present,named,ended | again⟩ := terminalTransaction_edits valid detailChecked done
      · obtain ⟨goal,_,read⟩ := read_member (edit_valid valid ended.2) present
        exact ⟨result,error,_,detailChecked,read,named,.inl ended⟩
      · obtain ⟨goal,_,read⟩ := read_member (edit_valid valid again.2.2.2) present
        exact ⟨result,error,_,detailChecked,read,named,.inr again⟩

theorem complete_performs (valid : Valid tables)
    (ran : complete configuration tables jobId worker value timestamp = (after,reply)) :
    Answers configuration tables (.complete jobId worker value timestamp) (reply.map .job) after := by
  rcases terminalize_performs valid ran with
    ⟨rfl,refused,rfl⟩ | ⟨result,error,job,detailed,rfl,named,⟨_,edit⟩ | ⟨_,impossible,_⟩⟩
  · exact ⟨[],.nil,.refused⟩
  · rcases terminalDetail_ok detailed with ⟨_,rfl,rfl⟩ | ⟨impossible | impossible,_⟩
    · exact ⟨_,.single edit,.completed named⟩
    · cases impossible
    · cases impossible
  · cases impossible

theorem fail_performs (valid : Valid tables)
    (ran : fail configuration tables jobId worker value timestamp retryable = (after,reply)) :
    Answers configuration tables (.fail jobId worker value timestamp retryable) (reply.map .job) after := by
  rcases terminalize_performs valid ran with
    ⟨rfl,refused,rfl⟩ | ⟨result,error,job,detailed,rfl,named,ending⟩
  · exact ⟨[],.nil,.refused⟩
  · rcases terminalDetail_ok detailed with ⟨impossible,_⟩ | ⟨_,rfl,rfl⟩
    · cases impossible
    · rcases ending with ⟨ended,edit⟩ | ⟨again,_,rfl,edit⟩
      · exact ⟨_,.single edit,.failed named ended⟩
      · exact ⟨_,.single edit,.retried named again⟩

theorem acknowledge_performs (valid : Valid tables)
    (ran : acknowledgeCancellation configuration tables jobId worker value timestamp = (after,reply)) :
    Answers configuration tables (.acknowledgeCancellation jobId worker value timestamp) (reply.map .job) after := by
  rcases terminalize_performs valid ran with
    ⟨rfl,refused,rfl⟩ | ⟨result,error,job,detailed,rfl,named,⟨_,edit⟩ | ⟨_,impossible,_⟩⟩
  · exact ⟨[],.nil,.refused⟩
  · rcases terminalDetail_ok detailed with ⟨impossible,_⟩ | ⟨_,rfl,rfl⟩
    · cases impossible
    · exact ⟨_,.single edit,.acknowledged named⟩
  · cases impossible

theorem cancel_performs (valid : Valid tables) (ran : cancel tables jobId timestamp = (after,reply)) :
    Answers configuration tables (.cancel jobId timestamp) (reply.map .job) after := by
  rcases committed_cases ran with ⟨refused,_,rfl,rfl⟩ | ⟨row,done,rfl⟩
  · exact ⟨[],.nil,.refused⟩
  · obtain ⟨present,named,⟨ended,edit⟩ | ⟨running,edit⟩⟩ :=
      cancelTransaction_edits configuration valid done
    · obtain ⟨goal,_,read⟩ := read_member (edit_valid valid edit) present
      rw [read]
      exact ⟨_,.single edit,.cancelledQueued named ended⟩
    · obtain ⟨goal,_,read⟩ := read_member (edit_valid valid edit) present
      rw [read]
      exact ⟨_,.single edit,.cancelledRunning named running⟩

theorem prune_performs (valid : Valid tables) (ran : prune tables olderThanDays retained completedAt = (after,reply)) :
    Answers configuration tables (.prune olderThanDays retained completedAt) (reply.map .pruned) after := by
  unfold prune at ran
  split at ran
  · rcases committed_cases ran with ⟨refused,_,rfl,rfl⟩ | ⟨result,done,rfl⟩
    · exact ⟨[],.nil,.refused⟩
    · obtain ⟨writes,edits,removals⟩ := prune_edits configuration _ _ _ valid
        (fun row inside => (prunable_rows inside).1) (fun row inside => (prunable_rows inside).2.1)
        (prunable_distinct valid.distinct) done
      exact ⟨writes,edits,.pruned removals⟩
  · cases ran
    exact ⟨[],.nil,.refused⟩

theorem run_performs (valid : Valid tables) (call : Call) (ran : call.run configuration tables = (after,reply)) :
    Answers configuration tables call reply after := by
  cases call with
  | submitOrJoin goal priority origin correlationId timestamp uuid =>
    obtain ⟨rfl,rfl⟩ := answered_cases ran
    exact submitOrJoin_performs valid rfl
  | claim workerId timestamp =>
    obtain ⟨rfl,rfl⟩ := answered_cases ran
    exact claim_performs valid rfl
  | heartbeat jobId workerId timestamp =>
    obtain ⟨rfl,rfl⟩ := answered_cases ran
    exact heartbeat_performs valid rfl
  | complete jobId workerId result timestamp =>
    obtain ⟨rfl,rfl⟩ := answered_cases ran
    exact complete_performs valid rfl
  | fail jobId workerId error timestamp retryable =>
    obtain ⟨rfl,rfl⟩ := answered_cases ran
    exact fail_performs valid rfl
  | acknowledgeCancellation jobId workerId reason timestamp =>
    obtain ⟨rfl,rfl⟩ := answered_cases ran
    exact acknowledge_performs valid rfl
  | cancel jobId timestamp =>
    obtain ⟨rfl,rfl⟩ := answered_cases ran
    exact cancel_performs valid rfl
  | requeueExpired timestamp =>
    obtain ⟨rfl,rfl⟩ := answered_cases ran
    exact requeue_performs valid rfl
  | prune olderThanDays retainedJobIds completedAt =>
    obtain ⟨rfl,rfl⟩ := answered_cases ran
    exact prune_performs valid rfl

end effects
end OpenStock.Queue
