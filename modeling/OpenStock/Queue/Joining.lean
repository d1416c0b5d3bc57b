import OpenStock.Queue.Progress

namespace OpenStock.Queue

/- A row carries the cancellation flag exactly when a cancel call answered for
its job: no statement takes the flag back. -/

def Event.cancelled (event : Event) : Option ProvisioningJobId :=
  match event.call,event.reply with
  | .cancel jobId _,.ok _ => some jobId
  | _,_ => none

def Write.cancels : Write → Option ProvisioningJobId
  | .update jobId (.cancelQueued _) => some jobId
  | .update jobId (.cancelRunning _) => some jobId
  | _ => none

structure Flagged (history : List Event) (tables : QueueTables) : Prop where
  flag : ∀ row ∈ tables.jobs, row.cancellationRequested = true ↔
    ∃ event ∈ history, event.cancelled = some row.jobId
  known : ∀ event ∈ history, ∀ id, event.cancelled = some id → id ∈ createdIds history

theorem set_flag (statement : Update) (row : JobRow) : (statement.set row).cancellationRequested = true ↔
      row.cancellationRequested = true ∨ (Write.update row.jobId statement).cancels = some row.jobId := by
  cases statement <;> simp [Update.set,Write.cancels]

theorem cancels_update {id : ProvisioningJobId} (cancels : Write.cancels write = some id) :
    ∃ statement, write = .update id statement := by
  cases write with
  | create new | prune jobId => cases cancels
  | update jobId statement =>
    cases statement with
    | cancelQueued timestamp | cancelRunning timestamp =>
      cases cancels
      exact ⟨_,rfl⟩
    | _ => cases cancels

theorem recovery_cancels {writes : List Write} (recoveries : ∀ write ∈ writes, Recovery timestamp write) :
    writes.filterMap Write.cancels = [] := by
  rw [List.filterMap_eq_nil_iff]
  intro write inside
  have recovery := recoveries write inside
  cases write with
  | create new => rfl
  | prune jobId => rfl
  | update jobId statement => cases statement <;> first | rfl | cases recovery

theorem flag_recorded {before : QueueTables} {old row : JobRow} (flagged : Flagged history before) (same : old.jobId = row.jobId)
    (present : old ∈ before.jobs) (flag : row.cancellationRequested = true ↔
      old.cancellationRequested = true ∨ row.jobId ∈ event.cancelled.toList) :
    row.cancellationRequested = true ↔ ∃ earlier ∈ event :: history, earlier.cancelled = some row.jobId := by
  rw [flag,flagged.flag old present,same]
  simp only [List.mem_cons,exists_eq_or_imp,Option.mem_toList]
  exact or_comm

section flags
variable [Platform] {configuration : QueueConfiguration} {before after : QueueTables} {row : JobRow}
  {event : Event} {writes : List Write}

theorem flag_back (valid : Valid before) (edits : Edits configuration writes before after)
    (uncreating : writes.filterMap Write.createdId = []) (inside : row ∈ after.jobs) :
    ∃ old ∈ before.jobs, old.jobId = row.jobId ∧ (row.cancellationRequested = true ↔
        old.cancellationRequested = true ∨ row.jobId ∈ writes.filterMap Write.cancels) := by
  induction edits with
  | nil => exact ⟨row,inside,rfl,by simp⟩
  | @cons write before middle writes after first rest ih =>
    have split := List.filterMap_eq_nil_iff.mp uncreating
    obtain ⟨halfway,member,same,flag⟩ := ih (edit_valid valid first)
      (List.filterMap_eq_nil_iff.mpr (fun other listed => split other (List.mem_cons_of_mem _ listed))) inside
    have extended : row.jobId ∈ (write :: writes).filterMap Write.cancels ↔
        write.cancels = some row.jobId ∨ row.jobId ∈ writes.filterMap Write.cancels := by
      simp [List.mem_filterMap]
    rw [extended]
    rcases edit_back first member with ⟨kept,other⟩ | ⟨old,present,statement,rfl,permitted,rfl⟩ | rfl
    · have untargeted : write.cancels ≠ some row.jobId := by
        intro targeted
        obtain ⟨statement,shape⟩ := cancels_update targeted
        exact other statement (same ▸ shape)
      exact ⟨halfway,kept,same,by simp [flag,untargeted]⟩
    · refine ⟨old,present,by simpa using same,flag.trans ?_⟩
      rw [set_flag]
      have named : old.jobId = row.jobId := by simpa using same
      rw [named]
      tauto
    · have impossible := split (.create halfway) List.mem_cons_self
      cases impossible

theorem performs_cancels (performed : Performs configuration call reply writes) :
    writes.filterMap Write.cancels = (Event.cancelled ⟨call,reply⟩).toList := by
  cases performed with
  | idle recoveries => exact recovery_cancels recoveries
  | claimed recoveries =>
    rw [List.filterMap_append,recovery_cancels recoveries]
    rfl
  | requeued recoveries => exact recovery_cancels recoveries
  | pruned removals =>
    refine List.filterMap_eq_nil_iff.mpr ?_
    intro write inside
    obtain ⟨jobId,rfl⟩ := removals write inside
    rfl
  | refused => cases call <;> rfl
  | _ => rfl

theorem cancelled_known {id : ProvisioningJobId} (invariant : QueueInvariant configuration history before)
    (edits : Edits configuration writes before after) (performed : Performs configuration call reply writes)
    (cancelled : Event.cancelled ⟨call,reply⟩ = some id) : id ∈ createdIds history := by
  cases performed with
  | cancelledQueued named ended | cancelledRunning named running =>
    cases cancelled
    cases edits.only with
    | update present permitted => exact tables_known invariant _ (List.mem_map_of_mem present)
  | refused => cases call <;> cases cancelled
  | _ => cases cancelled

theorem step_flagged (invariant : QueueInvariant configuration history before) (flagged : Flagged history before)
    (step : QueueStep configuration history before event after) : Flagged (event :: history) after := by
  have next := step_invariant invariant step
  obtain ⟨writes,edits,performed⟩ := run_performs invariant.valid event.call step.ran
  have cancels := performs_cancels performed
  have created := performs_created performed
  refine ⟨?_,?_⟩
  · intro row inside
    cases creates : event.createdId with
    | none =>
      rw [show Event.createdId ⟨event.call,event.reply⟩ = none from creates] at created
      obtain ⟨old,present,same,flag⟩ := flag_back invariant.valid edits created inside
      rw [cancels] at flag
      exact flag_recorded flagged same present flag
    | some id =>
      have fresh : id ∉ createdIds history := by
        have distinct := next.distinct
        simp only [createdIds,List.filterMap_cons_some creates] at distinct
        exact (List.nodup_cons.mp distinct).1
      obtain ⟨call,reply⟩ := event
      cases performed with
      | created named =>
        cases edits.only with
        | create absent idle shape =>
          rcases List.mem_append.mp inside with kept | added
          · exact flag_recorded flagged rfl kept (by simp [Event.cancelled])
          · rw [List.mem_singleton.mp added]
            have uncancelled : ∀ earlier ∈ history, earlier.cancelled ≠ some id :=
              fun earlier listed cancelled => fresh (flagged.known earlier listed id cancelled)
            cases creates
            rw [named] at uncancelled
            simpa [newJobRow,Event.cancelled] using uncancelled
      | _ => cases creates
  · intro earlier listed id cancelled
    rcases List.mem_cons.mp listed with rfl | listed
    · exact created_grows (cancelled_known invariant edits performed cancelled)
    · exact created_grows (flagged.known earlier listed id cancelled)

theorem runs_flagged (path : QueueRuns configuration history before) : Flagged history before := by
  refine path.invariant ?_ (fun path flagged step => step_flagged (runs_invariant path) flagged step)
  exact ⟨by simp [emptyTables],by simp⟩

end flags

/- What a submission hands back, and what can become of it. -/

section joining
variable [Platform] {configuration : QueueConfiguration} {before after tables : QueueTables} {row : JobRow}
  {result : QueueSubmitResult}

theorem submitted_ran (ran : (Call.submitOrJoin goal priority origin correlationId timestamp uuid).run configuration before =
      (after,.ok (.submitted result))) :
    submitOrJoin before goal priority origin correlationId timestamp uuid = (after,.ok result) := by
  simp only [Call.run,answered,Prod.mk.injEq] at ran
  obtain ⟨rfl,answer⟩ := ran
  cases returned : (submitOrJoin before goal priority origin correlationId timestamp uuid).2 with
  | error refused =>
    rw [returned] at answer
    cases answer
  | ok found =>
    rw [returned] at answer
    cases answer
    exact Prod.ext rfl returned

-- An unflagged active row is one claim and one completion away from SUCCEEDED.
theorem unflagged_completed (path : QueueRuns configuration history before) (inside : row ∈ before.jobs)
    (active : row.status.isActive = true) (clear : row.cancellationRequested = false) :
    ∃ later final, QueueRuns configuration (later ++ history) final ∧
      ∃ next ∈ final.jobs, next.jobId = row.jobId ∧ next.status = .succeeded := by
  have sound := (runs_invariant path).sound row inside
  cases status : row.status with
  | running =>
    obtain ⟨worker,owned⟩ := Option.isSome_iff_exists.mp (sound.owner.mpr status)
    obtain ⟨expires,lasts⟩ := Option.isSome_iff_exists.mp (sound.expiry.mpr status)
    have live : row.liveLease worker (expires - 1) = true := by
      simp [JobRow.liveLease,status,owned,lasts]
    exact held_completed path (sound.named worker owned) inside live clear
  | queued =>
    have checked : boundedMetadata ['w'] = true := by decide
    obtain ⟨earlier,middle,longer,next,listed,same,live,flag⟩ :=
      queued_served checked _ path (Nat.le_refl _) inside status (Int.le_refl _)
    obtain ⟨later,final,whole,ended,present,named,succeeded⟩ :=
      held_completed longer checked listed live (flag.trans clear)
    exact ⟨later ++ earlier,final,by simpa using whole,ended,present,named.trans same,succeeded⟩
  | succeeded | failed | cancelled =>
    rw [status] at active
    cases active

theorem flagged_ends (path : QueueRuns configuration history tables) (inside : row ∈ tables.jobs)
    (flag : row.cancellationRequested = true) : row.status = .running ∨ row.status = .cancelled := by
  have sound := (runs_invariant path).sound row inside
  cases status : row.status with
  | running => exact .inl rfl
  | cancelled => exact .inr rfl
  | queued | succeeded | failed =>
    have clear := sound.unflagged (by simp [status])
    rw [flag] at clear
    cases clear

-- The returned job carries the flag exactly when the call joined a RUNNING job
-- that had been cancelled; such a job never succeeds, every other one still can.
theorem joined_submission_fate (path : QueueRuns configuration
      (⟨.submitOrJoin goal priority origin correlationId timestamp uuid,.ok (.submitted result)⟩ :: history) tables) :
    (result.job.cancellationRequested = true ↔ result.joinedExistingJob = true ∧ result.job.status = .running ∧
      ∃ event ∈ history, event.cancelled = some result.job.jobId) ∧
    (result.job.cancellationRequested = true → ∀ later final, QueueRuns configuration
      (later ++ ⟨.submitOrJoin goal priority origin correlationId timestamp uuid,.ok (.submitted result)⟩ :: history)
        final → ∀ row ∈ final.jobs, row.jobId = result.job.jobId → row.status = .running ∨ row.status = .cancelled) ∧
    (result.job.cancellationRequested = false → ∃ later final, QueueRuns configuration
      (later ++ ⟨.submitOrJoin goal priority origin correlationId timestamp uuid,.ok (.submitted result)⟩ :: history)
        final ∧ ∃ row ∈ final.jobs, row.jobId = result.job.jobId ∧ row.status = .succeeded) := by
  cases path with
  | @step _ before _ _ earlier step =>
    have path := Runs.step earlier step
    have flagged := runs_flagged path
    obtain ⟨stored,present,_,active,goal,read⟩ :=
      submitOrJoin_row (runs_invariant earlier).valid (submitted_ran step.ran)
    have cancelled : result.job.cancellationRequested = true ↔
        ∃ event ∈ history, event.cancelled = some result.job.jobId := by
      have flag := flagged.flag stored present
      rw [read]
      simpa [Event.cancelled] using flag
    refine ⟨⟨?_,fun told => cancelled.mpr told.2.2⟩,?_,?_⟩
    · intro flag
      obtain ⟨event,listed,named⟩ := cancelled.mp flag
      refine ⟨?_,?_,event,listed,named⟩
      · have known := (runs_flagged earlier).known event listed _ named
        have distinct := (runs_invariant path).distinct
        obtain ⟨job,joined⟩ := result
        cases joined with
        | true => rfl
        | false =>
          simp only [createdIds,List.filterMap_cons_some (show Event.createdId ⟨_,.ok (.submitted ⟨job,false⟩)⟩ =
            some job.jobId from rfl)] at distinct
          exact absurd known (List.nodup_cons.mp distinct).1
      · rw [read] at flag ⊢
        rcases flagged_ends path present flag with running | ended
        · exact running
        · rw [ended] at active
          cases active
    · intro flag later final longer row inside same
      obtain ⟨event,listed,named⟩ := cancelled.mp flag
      have marked := ((runs_flagged longer).flag row inside).mpr
        ⟨event,List.mem_append_right _ (List.mem_cons_of_mem _ listed),same ▸ named⟩
      exact flagged_ends longer inside marked
    · intro clear
      rw [read] at clear ⊢
      exact unflagged_completed path present active clear

end joining

/- A cancelled running job, joined afterwards. -/

def cancelledCalls : List Call :=
  [.submitOrJoin sampleGoal 5 none none 4000 ['b'],.cancel ['a'] 3000,.claim ['w'] 2000,
    .submitOrJoin sampleGoal 5 none none 1000 ['a']]

def Event.submission (event : Event) : Option QueueSubmitResult :=
  match event.reply with
  | .ok (.submitted result) => some result
  | _ => none

theorem submission_reply (submitted : Event.submission ⟨call,reply⟩ = some result) : reply = .ok (.submitted result) := by
  cases reply with
  | error refused => cases submitted
  | ok outcome =>
    cases outcome with
    | submitted stored =>
      cases submitted
      rfl
    | _ => cases submitted

theorem performed_head [Platform] (configuration : QueueConfiguration) (call : Call) (earlier : List Call) :
    (performed configuration (call :: earlier)).1.head? =
      some ⟨call,(call.run configuration (performed configuration earlier).2).2⟩ := rfl

-- The submission after the cancellation gets the doomed job.
theorem cancelled_joined : ∃ result, (@Call.run samplePlatform defaultConfiguration
    (@performed samplePlatform defaultConfiguration cancelledCalls.tail).2
      (.submitOrJoin sampleGoal 5 none none 4000 ['b'])).2 = .ok (.submitted result) ∧
    result.job.jobId = ['a'] ∧ result.job.cancellationRequested = true := by
  have flagged : ((@performed samplePlatform defaultConfiguration cancelledCalls).1.head?.bind Event.submission).map
      (fun result => (result.job.jobId,result.job.cancellationRequested)) = some (['a'],true) := by
    decide +kernel
  obtain ⟨result,submitted,shape⟩ := Option.map_eq_some_iff.mp flagged
  obtain ⟨named,flag⟩ := Prod.mk.injEq _ _ _ _ ▸ shape
  rw [cancelledCalls,@performed_head samplePlatform,Option.bind_some] at submitted
  exact ⟨result,submission_reply submitted,named,flag⟩

theorem cancelled_path : @QueueRuns samplePlatform defaultConfiguration
    (@performed samplePlatform defaultConfiguration cancelledCalls.tail).1
    (@performed samplePlatform defaultConfiguration cancelledCalls.tail).2 :=
  @performed_runs samplePlatform defaultConfiguration cancelledCalls.tail (by decide)

theorem joined_submission_doomed : ¬ ∀ (history : List Event) (tables : QueueTables) (goal : ProvisioningGoal) (priority : Int)
      (origin correlationId : Option Text) (timestamp : Int) (uuid : ProvisioningJobId) (result : QueueSubmitResult),
      @QueueRuns samplePlatform defaultConfiguration history tables → (∀ event ∈ history, event.call.uuid ≠ some uuid) →
      (@Call.run samplePlatform defaultConfiguration tables
        (.submitOrJoin goal priority origin correlationId timestamp uuid)).2 = .ok (.submitted result) →
      result.job.cancellationRequested = false := by
  intro clear
  obtain ⟨result,submitted,_,flag⟩ := cancelled_joined
  have fresh : ∀ event ∈ (@performed samplePlatform defaultConfiguration cancelledCalls.tail).1,
      event.call.uuid ≠ some ['b'] := by
    intro event inside
    have listed : event.call ∈ (@performed samplePlatform defaultConfiguration cancelledCalls.tail).1.map Event.call :=
      List.mem_map_of_mem inside
    rw [@performed_uuids samplePlatform] at listed
    revert listed
    generalize event.call = call
    simp only [cancelledCalls,List.tail_cons,List.mem_cons,List.not_mem_nil,or_false]
    rintro (rfl | rfl | rfl) <;> simp [Call.uuid]
  rw [clear _ _ _ _ _ _ _ _ result cancelled_path fresh submitted] at flag
  cases flag

theorem joined_submission_fate_sample : ∃ (history : List Event) (tables : QueueTables) (result : QueueSubmitResult),
    @QueueRuns samplePlatform defaultConfiguration history tables ∧ result.job.cancellationRequested = true ∧
    ∀ later final, @QueueRuns samplePlatform defaultConfiguration (later ++ history) final →
      ∀ row ∈ final.jobs, row.jobId = result.job.jobId → row.status = .running ∨ row.status = .cancelled := by
  obtain ⟨result,submitted,_,flag⟩ := cancelled_joined
  have whole := @performed_runs samplePlatform defaultConfiguration cancelledCalls (by decide)
  have shape : (@performed samplePlatform defaultConfiguration cancelledCalls).1 =
      ⟨.submitOrJoin sampleGoal 5 none none 4000 ['b'],.ok (.submitted result)⟩ ::
        (@performed samplePlatform defaultConfiguration cancelledCalls.tail).1 := by
    rw [← submitted]
    rfl
  rw [shape] at whole
  let platform := samplePlatform
  exact ⟨_,_,result,whole,flag,(joined_submission_fate whole).2.1 flag⟩

end OpenStock.Queue
