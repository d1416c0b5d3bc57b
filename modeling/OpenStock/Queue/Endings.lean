import OpenStock.Queue.Leases

namespace OpenStock.Queue

/- Without pruning every row goes on: it keeps its goal, and only some calls make
it terminal. -/

structure JobRow.Follows (old next : JobRow) : Prop where
  jobId : next.jobId = old.jobId
  identity : next.goalIdentity = old.goalIdentity
  kind : next.goalType = old.goalType
  payload : next.payloadJson = old.payloadJson

theorem JobRow.Follows.refl (row : JobRow) : row.Follows row := ⟨rfl,rfl,rfl,rfl⟩

theorem JobRow.Follows.trans {first second third : JobRow} (left : first.Follows second) (right : second.Follows third) :
    first.Follows third :=
  ⟨right.jobId.trans left.jobId,right.identity.trans left.identity,right.kind.trans left.kind,
    right.payload.trans left.payload⟩

theorem set_follows (statement : Update) (row : JobRow) : row.Follows (statement.set row) :=
  ⟨by simp,by simp,by cases statement <;> rfl,by simp⟩

-- The rows a call may make terminal.
def Call.Ends (configuration : QueueConfiguration) : Call → JobRow → Prop
  | .claim _ timestamp,row | .requeueExpired timestamp,row =>
      row.expiredLease timestamp = true ∧ (row.cancellationRequested = true ∨ configuration.maxAttempts ≤ row.attempts)
  | .complete jobId _ _ _,row | .fail jobId _ _ _ _,row | .acknowledgeCancellation jobId _ _ _,row => row.jobId = jobId
  | .cancel jobId _,row => row.jobId = jobId ∧ row.status = .queued
  | _,_ => False

def Call.prunes : Call → Bool
  | .prune _ _ _ => true
  | _ => false

-- One row across a call: the row before it, and what ended it if it ended.
def Traced (configuration : QueueConfiguration) (call : Call) (before : QueueTables) (next : JobRow) : Prop :=
  ∃ old ∈ before.jobs, old.Follows next ∧
    (next.status.isTerminal = true → old.status.isTerminal = true ∨ call.Ends configuration old)

theorem kept_traced {before : QueueTables} {next : JobRow} (inside : next ∈ before.jobs) :
    Traced configuration call before next :=
  ⟨next,inside,.refl next,.inl⟩

theorem recovery_unpruned (recovery : Recovery timestamp write) (jobId : ProvisioningJobId) : write ≠ .prune jobId := by
  rintro rfl
  cases recovery

section rows
variable [Platform] {configuration : QueueConfiguration} {before after : QueueTables} {row next : JobRow}
  {call : Call} {id : ProvisioningJobId}

theorem follows_holds (follows : row.Follows next) : next.Holds goal ↔ row.Holds goal := by
  constructor
  · exact fun held => ⟨follows.payload ▸ held.payload,follows.identity ▸ held.identity,follows.kind ▸ held.kind⟩
  · exact fun held => ⟨follows.payload.trans held.payload,follows.identity.trans held.identity,
      follows.kind.trans held.kind⟩

-- The goal of a row is unique: its payload determines it.
theorem holds_unique (left : row.Holds first) (right : row.Holds second) : first = second := by
  have read := read_stored left
  rw [read_stored right] at read
  simp only [Except.ok.injEq] at read
  exact (congrArg ProvisioningJob.goal read).symm

theorem edit_follows (valid : Valid before) (edit : Edit configuration write before after)
    (unpruned : ∀ jobId, write ≠ .prune jobId) (inside : row ∈ before.jobs) :
    ∃ next ∈ after.jobs, row.Follows next ∧ (row.status.isTerminal = true → next = row) := by
  rcases edit_forth edit inside valid with kept | ⟨statement,_,permitted,written⟩ | ⟨removed,_⟩
  · exact ⟨row,kept,.refl row,fun _ => rfl⟩
  · refine ⟨_,written,set_follows statement row,fun ended => ?_⟩
    have active := permitted_active statement permitted
    cases status : row.status <;> simp_all [ProvisioningJobStatus.isActive,ProvisioningJobStatus.isTerminal]
  · exact absurd removed (unpruned _)

theorem edits_follow (valid : Valid before) (edits : Edits configuration writes before after)
    (unpruned : ∀ write ∈ writes, ∀ jobId, write ≠ .prune jobId) (inside : row ∈ before.jobs) :
    ∃ next ∈ after.jobs, row.Follows next ∧ (row.status.isTerminal = true → next = row) := by
  induction edits generalizing row with
  | nil => exact ⟨row,inside,.refl row,fun _ => rfl⟩
  | cons first rest ih =>
    obtain ⟨middle,member,follows,same⟩ := edit_follows valid first (unpruned _ List.mem_cons_self) inside
    obtain ⟨next,listed,later,still⟩ := ih (edit_valid valid first)
      (fun write inside => unpruned write (List.mem_cons_of_mem _ inside)) member
    refine ⟨next,listed,follows.trans later,fun ended => ?_⟩
    have now := same ended
    subst now
    exact still ended

theorem performs_unpruned (performed : Performs configuration call reply writes)
    (keeps : call.prunes = false) : ∀ write ∈ writes, ∀ jobId, write ≠ .prune jobId := by
  cases performed with
  | idle recoveries | requeued recoveries => exact fun write inside => recovery_unpruned (recoveries write inside)
  | claimed recoveries =>
    intro write inside
    rcases List.mem_append.mp inside with earlier | last
    · exact recovery_unpruned (recoveries write earlier)
    · rw [List.mem_singleton.mp last]
      exact fun jobId same => by cases same
  | pruned removals => cases keeps
  | refused | joinedRunning running => simp
  | _ => simp

theorem call_follows (valid : Valid before) (ran : call.run configuration before = (after,reply))
    (keeps : call.prunes = false) (inside : row ∈ before.jobs) :
    ∃ next ∈ after.jobs, row.Follows next ∧ (row.status.isTerminal = true → next = row) := by
  obtain ⟨writes,edits,performed⟩ := run_performs valid call ran
  exact edits_follow valid edits (performs_unpruned performed keeps) inside

/- Backwards. -/

-- Recovery ends what has no lease and may not be tried again.
theorem recoveries_ended (edits : Edits configuration writes before after)
    (recoveries : ∀ write ∈ writes, Recovery timestamp write) (inside : next ∈ after.jobs) :
    ∃ old ∈ before.jobs, old.Follows next ∧ (next = old ∨ (next.status ≠ .running ∧ old.expiredLease timestamp = true ∧
      (next.status.isTerminal = true → old.cancellationRequested = true ∨ configuration.maxAttempts ≤ old.attempts))) := by
  induction edits with
  | nil => exact ⟨next,inside,.refl next,.inl rfl⟩
  | cons first rest ih =>
    have recovery := recoveries _ List.mem_cons_self
    obtain ⟨middle,member,follows,ended⟩ := ih (fun write listed => recoveries write (List.mem_cons_of_mem _ listed)) inside
    rcases edit_back first member with ⟨earlier,_⟩ | ⟨old,present,statement,rfl,permitted,rfl⟩ | rfl
    · exact ⟨middle,earlier,follows,ended⟩
    · obtain ⟨lapsed,_,stopped⟩ := recovery_set recovery permitted
      rcases ended with rfl | ⟨_,again,_⟩
      · refine ⟨old,present,set_follows statement old,.inr ⟨stopped,lapsed,?_⟩⟩
        cases statement with
        | recoverCancelled at_ => exact fun _ => .inl permitted.2
        | recoverFailed at_ => exact fun _ => .inr permitted.2.2
        | recoverQueued at_ => exact fun terminal => by cases terminal
        | _ => cases recovery
      · exact absurd (expired_running again) stopped
    · cases recovery

theorem edit_traced (edit : Edit configuration (.update id statement) before after) (inside : next ∈ after.jobs)
    (ends : ∀ old ∈ before.jobs, old.jobId = id → statement.Permitted configuration old →
      (statement.set old).status.isTerminal = true → old.status.isTerminal = true ∨ call.Ends configuration old) :
    Traced configuration call before next := by
  rcases edit_back edit inside with ⟨kept,_⟩ | ⟨old,present,other,same,permitted,rfl⟩ | impossible
  · exact ⟨next,kept,.refl next,.inl⟩
  · cases same
    exact ⟨old,present,set_follows _ old,fun terminal => ends old present rfl permitted terminal⟩
  · cases impossible

theorem recovered_traced (edits : Edits configuration writes before after)
    (recoveries : ∀ write ∈ writes, Recovery timestamp write) (inside : next ∈ after.jobs)
    (ends : ∀ old : JobRow, old.expiredLease timestamp = true →
      old.cancellationRequested = true ∨ configuration.maxAttempts ≤ old.attempts → call.Ends configuration old) :
    Traced configuration call before next := by
  obtain ⟨old,present,follows,rfl | ⟨_,lapsed,spent⟩⟩ := recoveries_ended edits recoveries inside
  · exact kept_traced present
  · exact ⟨old,present,follows,fun terminal => .inr (ends old lapsed (spent terminal))⟩

theorem pruned_back (edits : Edits configuration writes before after)
    (removals : ∀ write ∈ writes, ∃ jobId, write = .prune jobId) (inside : next ∈ after.jobs) : next ∈ before.jobs := by
  induction edits with
  | nil => exact inside
  | cons first rest ih =>
    obtain ⟨jobId,rfl⟩ := removals _ List.mem_cons_self
    have kept := ih (fun write member => removals write (List.mem_cons_of_mem _ member)) inside
    rcases edit_back first kept with ⟨earlier,_⟩ | ⟨_,_,_,impossible,_⟩ | impossible
    · exact earlier
    · cases impossible
    · cases impossible

theorem performs_traced (edits : Edits configuration writes before after)
    (performed : Performs configuration call reply writes) (inside : next ∈ after.jobs) :
    Traced configuration call before next ∨ ∃ goal priority origin correlationId timestamp uuid,
      call = .submitOrJoin goal priority origin correlationId timestamp uuid ∧
      next = newJobRow goal priority origin correlationId timestamp uuid := by
  cases performed with
  | refused | joinedRunning running =>
    cases edits
    exact .inl (kept_traced inside)
  | created named =>
    rcases edit_back edits.only inside with ⟨kept,_⟩ | ⟨_,_,_,impossible,_⟩ | new
    · exact .inl (kept_traced kept)
    · cases impossible
    · cases new
      exact .inr ⟨_,_,_,_,_,_,rfl,rfl⟩
  | idle recoveries | requeued recoveries =>
    exact .inl (recovered_traced edits recoveries inside (fun old lapsed spent => ⟨lapsed,spent⟩))
  | claimed recoveries =>
    obtain ⟨middle,recovered,claiming⟩ := edits.split
    rcases edit_back claiming.only inside with ⟨kept,_⟩ | ⟨old,present,other,same,permitted,rfl⟩ | impossible
    · exact .inl (recovered_traced recovered recoveries kept (fun old lapsed spent => ⟨lapsed,spent⟩))
    · obtain ⟨_,rfl⟩ := (Write.update.injEq _ _ _ _).mp same
      obtain ⟨oldest,earlier,follows,_⟩ := recoveries_ended recovered recoveries present
      exact .inl ⟨oldest,earlier,follows.trans (set_follows _ old),fun terminal => by cases terminal⟩
    · cases impossible
  | joinedQueued queued | heartbeat named | cancelledRunning named running =>
    refine .inl (edit_traced edits.only inside ?_)
    exact fun old _ _ _ terminal => .inl terminal
  | retried named again =>
    refine .inl (edit_traced edits.only inside ?_)
    exact fun old _ _ _ terminal => by cases terminal
  | completed named | failed named terminal | acknowledged named =>
    refine .inl (edit_traced edits.only inside ?_)
    exact fun old _ same _ _ => .inr same
  | cancelledQueued named ended =>
    refine .inl (edit_traced edits.only inside ?_)
    exact fun old _ same permitted _ => .inr ⟨same,permitted⟩
  | pruned removals => exact .inl (kept_traced (pruned_back edits removals inside))

theorem call_traced (valid : Valid before) (ran : call.run configuration before = (after,reply))
    (inside : next ∈ after.jobs) : Traced configuration call before next ∨ ∃ goal priority origin correlationId timestamp uuid,
      call = .submitOrJoin goal priority origin correlationId timestamp uuid ∧
      next = newJobRow goal priority origin correlationId timestamp uuid := by
  obtain ⟨writes,edits,performed⟩ := run_performs valid call ran
  exact performs_traced edits performed inside

theorem call_valid (valid : Valid before) (ran : call.run configuration before = (after,reply)) : Valid after := by
  obtain ⟨writes,edits,_⟩ := run_performs valid call ran
  exact edits_valid valid edits

theorem call_refused (valid : Valid before) (ran : call.run configuration before = (after,.error refused)) :
    after = before := by
  obtain ⟨writes,edits,performed⟩ := run_performs valid call ran
  cases performed
  cases edits
  rfl

/- Answers. -/

theorem claim_holds (valid : Valid before) (ran : claim configuration before worker timestamp = (after,.ok (some job))) :
    ∃ row ∈ after.jobs, row.jobId = job.jobId ∧ row.Holds job.goal := by
  have called : (Call.claim worker timestamp).run configuration before = (after,.ok (.claimed (some job))) := by
    rw [Call.run,ran]
    rfl
  have still := call_valid valid called
  unfold claim at ran
  split at ran
  · cases ran
  · rcases committed_cases ran with ⟨_,_,_,impossible⟩ | ⟨claimed,done,answer⟩
    · cases impossible
    · cases claimed with
      | none => cases answer
      | some row =>
        obtain ⟨goal,held,read⟩ := read_member still (claimed_row done)
        simp only [read,Except.map,Except.ok.injEq,Option.some.injEq] at answer
        subst answer
        exact ⟨row,claimed_row done,rfl,held⟩

theorem terminalize_row (valid : Valid before)
    (ran : terminalize configuration before id worker status value timestamp retryable = (after,.ok job)) :
    ∃ row ∈ after.jobs, row.jobId = id ∧ ∃ goal, job = row.read goal := by
  unfold terminalize at ran
  dsimp only at ran
  split at ran
  · cases ran
  · rename_i checked result error accepted
    obtain ⟨_,_,accepted⟩ := bind_ok accepted
    obtain ⟨stored,detailChecked,accepted⟩ := bind_ok accepted
    cases accepted
    rcases committed_cases ran with ⟨_,_,_,impossible⟩ | ⟨row,done,answer⟩
    · cases impossible
    · obtain ⟨present,named,_⟩ := terminalTransaction_edits valid detailChecked done
      exact ⟨row,present,named,jobFromRow_read answer.symm⟩

theorem join_total (valid : Valid before) (present : row ∈ before.jobs) :
    ∃ after job, joinJob before row priority timestamp = .ok (after,job) := by
  obtain ⟨goal,held⟩ := valid.stored row present
  by_cases queued : row.status = .queued
  · have again := read_stored (set_holds (.prioritize priority timestamp) held)
    simp only [joinJob,read_stored held,bind,Except.bind,JobRow.read_status,queued,if_true,JobRow.read_jobId,
      execute_row valid.distinct present,Update.selects,read_replaced valid.distinct present,again]
    exact ⟨_,_,rfl⟩
  · simp only [joinJob,read_stored held,bind,Except.bind,JobRow.read_status,if_neg queued]
    exact ⟨_,_,rfl⟩

-- An unused job id, a bounded priority and bounded metadata are enough.
theorem submitOrJoin_total (goal : ProvisioningGoal) (valid : Valid before)
    (accepted : submission goal priority origin correlationId = .ok (goal,priority,origin,correlationId))
    (fresh : ∀ row ∈ before.jobs, row.jobId ≠ id) :
    ∃ after result, submitOrJoin before goal priority origin correlationId timestamp id = (after,.ok result) := by
  unfold submitOrJoin
  rw [accepted]
  dsimp only
  split
  · rename_i row found
    obtain ⟨after,job,joined⟩ := join_total valid (activeJob_some found).1
    exact ⟨after,_,by rw [joined,committed]⟩
  · rename_i absent
    have idle := activeJob_none absent
    generalize shape : newJobRow goal priority origin correlationId timestamp id = new
    have named : new.jobId = id := by rw [← shape]; rfl
    have unclashed : before.jobs.any (fun row => row.jobId == new.jobId ||
        (row.status.isActive && new.status.isActive && row.goalIdentity == new.goalIdentity)) = false := by
      rw [List.any_eq_false]
      intro row inside
      have differs : row.goalIdentity = new.goalIdentity → row.status.isActive = false := by
        intro same
        cases active : row.status.isActive with
        | false => rfl
        | true => exact absurd (same.trans (by rw [← shape]; rfl)) (idle row inside active)
      simp only [Bool.or_eq_true,Bool.and_eq_true,beq_iff_eq,not_or,not_and]
      refine ⟨named ▸ fresh row inside,fun active same => ?_⟩
      rw [differs same] at active
      exact absurd active.1 Bool.false_ne_true
    have distinct : Rows.Distinct JobRow.jobId (before.jobs ++ [new]) :=
      Rows.append_distinct valid.distinct (fun row inside => named ▸ fresh row inside)
    have selected := select_present distinct (List.mem_append_right _ (List.mem_singleton.mpr rfl))
    have created : createJob before new = .ok ({before with jobs := before.jobs ++ [new]},new) := by
      simp only [createJob,insertJob,unclashed,Bool.false_eq_true,if_false,bind,Except.bind,readJob,selected]
    rw [created,committed,← shape,read_stored (new_holds _ _ _ _ _ _)]
    exact ⟨_,_,rfl⟩

end rows
end OpenStock.Queue
