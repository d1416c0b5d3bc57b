import OpenStock.Foundations.Runs
import OpenStock.Queue.Effects

namespace OpenStock.Queue

/- What one row keeps under every permitted write. -/

structure JobRow.Sound (configuration : QueueConfiguration) (row : JobRow) : Prop where
  owner : row.leaseOwner.isSome = true ↔ row.status = .running
  expiry : row.leaseExpiresAtMs.isSome = true ↔ row.status = .running
  beat : row.leaseHeartbeatAtMs.isSome = true ↔ row.status = .running
  named : ∀ worker, row.leaseOwner = some worker → boundedMetadata worker = true
  bounded : row.attempts ≤ configuration.maxAttempts
  claimed : row.status = .running → 1 ≤ row.attempts
  remaining : row.status = .queued → row.attempts < configuration.maxAttempts
  flagged : row.status = .cancelled → row.cancellationRequested = true
  unflagged : row.status = .queued ∨ row.status = .succeeded ∨ row.status = .failed → row.cancellationRequested = false
  result : row.result.isSome = true ↔ row.status = .succeeded
  error : row.status = .failed → row.error.isSome = true

section rows
variable {configuration : QueueConfiguration} {row : JobRow}

theorem live_running (live : row.liveLease worker timestamp = true) : row.status = .running ∧ row.leaseOwner = some worker := by
  simp only [JobRow.liveLease,Bool.and_eq_true,beq_iff_eq] at live
  exact live.1

theorem terminal_stored (stored : terminalDetail status value = .ok (result,error)) :
    status.isTerminal = true ∧ (result.isSome = true ↔ status = .succeeded) ∧ (status = .failed → error.isSome = true) := by
  rcases terminalDetail_ok stored with ⟨rfl,rfl,rfl⟩ | ⟨rfl | rfl,rfl,rfl⟩
  all_goals simp [ProvisioningJobStatus.isTerminal]

theorem set_sound (sound : row.Sound configuration) (statement : Update)
    (permitted : statement.Permitted configuration row) : (statement.set row).Sound configuration := by
  obtain ⟨owner,expiry,beat,named,bounded,claimed,remaining,flagged,unflagged,result,error⟩ := sound
  cases statement with
  | prioritize priority timestamp =>
    exact ⟨owner,expiry,beat,named,bounded,claimed,remaining,flagged,unflagged,result,error⟩
  | claim worker expires timestamp =>
    obtain ⟨queued,_,_,checked⟩ := permitted
    have spare := remaining queued
    constructor <;> simp_all [Update.set]
  | heartbeat worker expires timestamp =>
    obtain ⟨running,owned⟩ := live_running permitted.1
    constructor <;> simp_all [Update.set]
  | recoverCancelled timestamp =>
    have running := expired_running permitted.1
    have flag := permitted.2
    constructor <;> simp_all [Update.set]
  | recoverFailed timestamp =>
    have running := expired_running permitted.1
    have clear := permitted.2.1
    constructor <;> simp_all [Update.set]
  | recoverQueued timestamp =>
    obtain ⟨lapsed,clear,spare⟩ := permitted
    have running := expired_running lapsed
    constructor <;> simp_all [Update.set]
  | retry worker stored available timestamp =>
    obtain ⟨live,clear,spare,_,_⟩ := permitted
    constructor <;> simp_all [Update.set]
  | terminalize worker status value stored timestamp =>
    obtain ⟨live,flag,text,detailed⟩ := permitted
    obtain ⟨terminal,resulted,errored⟩ := terminal_stored detailed
    cases status <;> simp [ProvisioningJobStatus.isTerminal] at terminal
    all_goals constructor <;> simp_all [Update.set]
  | cancelQueued timestamp =>
    have queued : row.status = .queued := permitted
    constructor <;> simp_all [Update.set]
  | cancelRunning timestamp =>
    have running : row.status = .running := permitted
    constructor <;> simp_all [Update.set]

theorem new_sound [Platform] (goal : ProvisioningGoal) (priority : Int) (origin correlationId : Option Text)
    (timestamp : Int) (uuid : ProvisioningJobId) :
    (newJobRow goal priority origin correlationId timestamp uuid).Sound configuration := by
  have positive := configuration.attemptsBounded.1
  constructor <;> simp_all [newJobRow]
  omega

theorem permitted_active (statement : Update) (permitted : statement.Permitted configuration row) :
    row.status.isActive = true := by
  have running : row.status = .running → row.status.isActive = true := by
    intro same
    rw [same]
    rfl
  have queued : row.status = .queued → row.status.isActive = true := by
    intro same
    rw [same]
    rfl
  cases statement with
  | prioritize priority timestamp => exact queued permitted
  | claim worker expires timestamp => exact queued permitted.1
  | heartbeat worker expires timestamp => exact running (live_running permitted.1).1
  | recoverCancelled timestamp | recoverFailed timestamp
  | recoverQueued timestamp => exact running (expired_running permitted.1)
  | retry worker error available timestamp
  | terminalize worker status result error timestamp => exact running (live_running permitted.1).1
  | cancelQueued timestamp => exact queued permitted
  | cancelRunning timestamp => exact running permitted

end rows

/- What the tables keep under every edit. -/

def OneActive (jobs : List JobRow) : Prop :=
  ∀ first ∈ jobs, ∀ second ∈ jobs, first.status.isActive = true → second.status.isActive = true →
    first.goalIdentity = second.goalIdentity → first.jobId = second.jobId

def QueueTables.ids (tables : QueueTables) : List ProvisioningJobId :=
  tables.jobs.map JobRow.jobId ++ tables.pruned.map PrunedRow.jobId

def Write.createdId : Write → Option ProvisioningJobId
  | .create new => some new.jobId
  | _ => none

section tables
variable [Platform] {configuration : QueueConfiguration} {tables before after : QueueTables} {row : JobRow}

theorem edit_sound (sound : ∀ row ∈ before.jobs, row.Sound configuration)
    (edit : Edit configuration write before after) : ∀ row ∈ after.jobs, row.Sound configuration := by
  cases edit with
  | @update _ row statement present permitted =>
    intro other inside
    rcases (Rows.mem_replace present (statement.set_jobId row).symm).mp inside with rfl | ⟨kept,_⟩
    · exact set_sound (sound row present) statement permitted
    · exact sound other kept
  | create absent idle shape =>
    intro other inside
    rcases List.mem_append.mp inside with kept | added
    · exact sound other kept
    · rw [List.mem_singleton.mp added,shape]
      exact new_sound _ _ _ _ _ _
  | prune present terminal unpruned => exact fun other inside => sound other (Rows.mem_remove.mp inside).1

-- A replaced row was active before, under the same job and identity.
theorem edit_oneActive (unique : OneActive before.jobs) (edit : Edit configuration write before after) :
    OneActive after.jobs := by
  cases edit with
  | @update _ row statement present permitted =>
    have source : ∀ other ∈ Rows.replace JobRow.jobId (statement.set row) before.jobs, other.status.isActive = true →
        ∃ old ∈ before.jobs, old.status.isActive = true ∧ old.jobId = other.jobId ∧
          old.goalIdentity = other.goalIdentity := by
      intro other inside active
      rcases (Rows.mem_replace present (statement.set_jobId row).symm).mp inside with rfl | ⟨kept,_⟩
      · exact ⟨row,present,permitted_active statement permitted,by simp,by simp⟩
      · exact ⟨other,kept,active,rfl,rfl⟩
    intro first firstIn second secondIn firstActive secondActive same
    obtain ⟨old,oldIn,oldActive,oldId,oldIdentity⟩ := source first firstIn firstActive
    obtain ⟨other,otherIn,otherActive,otherId,otherIdentity⟩ := source second secondIn secondActive
    rw [← oldId,← otherId]
    exact unique old oldIn other otherIn oldActive otherActive (by rw [oldIdentity,otherIdentity,same])
  | @create new _ _ _ _ _ _ _ absent idle shape =>
    intro first firstIn second secondIn firstActive secondActive same
    rcases List.mem_append.mp firstIn with firstKept | firstNew
    · rcases List.mem_append.mp secondIn with secondKept | secondNew
      · exact unique first firstKept second secondKept firstActive secondActive same
      · rw [List.mem_singleton.mp secondNew] at same
        exact absurd same (idle first firstKept firstActive)
    · rcases List.mem_append.mp secondIn with secondKept | secondNew
      · rw [List.mem_singleton.mp firstNew] at same
        exact absurd same.symm (idle second secondKept secondActive)
      · rw [List.mem_singleton.mp firstNew,List.mem_singleton.mp secondNew]
  | prune present terminal unpruned =>
    intro first firstIn second secondIn
    exact unique first (Rows.mem_remove.mp firstIn).1 second (Rows.mem_remove.mp secondIn).1

theorem edit_ids (valid : Valid before) (edit : Edit configuration write before after) :
    after.ids.Perm (write.createdId.toList ++ before.ids) := by
  cases edit with
  | update present permitted =>
    simp only [QueueTables.ids,Rows.replace_keys,Write.createdId,Option.toList_none,List.nil_append]
    exact .refl _
  | create absent idle shape =>
    simp only [QueueTables.ids,List.map_append,Write.createdId,Option.toList_some,List.map_cons,List.map_nil,
      List.append_assoc,List.singleton_append]
    exact List.perm_middle
  | @prune _ row completedAt present terminal unpruned =>
    have split := (Rows.remove_perm valid.distinct present).map JobRow.jobId
    simp only [QueueTables.ids,List.map_append,Write.createdId,Option.toList_none,List.nil_append,List.map_cons,
      List.map_nil]
    refine List.Perm.trans ?_ (split.append_right _)
    rw [← List.append_assoc,List.map_cons,List.cons_append]
    exact List.perm_append_singleton _ _

end tables

/- Runs from the empty queue. -/

structure Event where
  call : Call
  reply : Except ProvisioningQueueError Outcome

def Call.uuid : Call → Option ProvisioningJobId
  | .submitOrJoin _ _ _ _ _ uuid => some uuid
  | _ => none

-- `uuid4` never draws a value twice.
structure QueueStep [Platform] (configuration : QueueConfiguration) (history : List Event) (before : QueueTables)
    (event : Event) (after : QueueTables) : Prop where
  ran : event.call.run configuration before = (after,event.reply)
  fresh : ∀ uuid, event.call.uuid = some uuid → ∀ earlier ∈ history, earlier.call.uuid ≠ some uuid

abbrev QueueRuns [Platform] (configuration : QueueConfiguration) : List Event → QueueTables → Prop :=
  Runs (QueueStep configuration) emptyTables

-- The calls of a run decide its answers and its tables; latest call first.
def performed [Platform] (configuration : QueueConfiguration) : List Call → List Event × QueueTables
  | [] => ([],emptyTables)
  | call :: earlier =>
    let so := performed configuration earlier
    let ran := call.run configuration so.2
    (⟨call,ran.2⟩ :: so.1,ran.1)

theorem performed_uuids [Platform] (configuration : QueueConfiguration) (calls : List Call) :
    (performed configuration calls).1.map Event.call = calls := by
  induction calls with
  | nil => rfl
  | cons call calls ih => simp [performed,ih]

theorem performed_runs [Platform] (configuration : QueueConfiguration) (calls : List Call)
    (fresh : (calls.filterMap Call.uuid).Nodup) :
    QueueRuns configuration (performed configuration calls).1 (performed configuration calls).2 := by
  induction calls with
  | nil => exact .nil
  | cons call calls ih =>
    have earlier : (calls.filterMap Call.uuid).Nodup := by
      cases drawn : call.uuid with
      | none => rwa [List.filterMap_cons_none drawn] at fresh
      | some uuid =>
        rw [List.filterMap_cons_some drawn] at fresh
        exact (List.nodup_cons.mp fresh).2
    refine .step (ih earlier) ⟨rfl,?_⟩
    intro uuid drawn event inside again
    rw [List.filterMap_cons_some (show call.uuid = some uuid from drawn)] at fresh
    have listed : event.call ∈ calls := by
      rw [← performed_uuids configuration calls]
      exact List.mem_map_of_mem inside
    exact (List.nodup_cons.mp fresh).1 (List.mem_filterMap.mpr ⟨event.call,listed,again⟩)

-- The job id a creating submission returned.
def Event.createdId (event : Event) : Option ProvisioningJobId :=
  match event.reply with
  | .ok (.submitted ⟨job,false⟩) => some job.jobId
  | _ => none

def createdIds (history : List Event) : List ProvisioningJobId := history.filterMap Event.createdId

structure QueueInvariant [Platform] (configuration : QueueConfiguration) (history : List Event)
    (tables : QueueTables) : Prop where
  valid : Valid tables
  sound : ∀ row ∈ tables.jobs, row.Sound configuration
  oneActive : OneActive tables.jobs
  accounted : tables.ids.Perm (createdIds history)
  drawn : ∀ id ∈ createdIds history, ∃ event ∈ history, event.call.uuid = some id
  distinct : (createdIds history).Nodup

theorem recovery_creates {writes : List Write} (recoveries : ∀ write ∈ writes, Recovery timestamp write) :
    writes.filterMap Write.createdId = [] := by
  rw [List.filterMap_eq_nil_iff]
  intro write inside
  have recovery := recoveries write inside
  cases write with
  | create new => cases recovery
  | update jobId statement => rfl
  | prune jobId => rfl

theorem oneActive_count {tables : QueueTables} (distinct : Rows.Distinct JobRow.jobId tables.jobs) (unique : OneActive tables.jobs)
    (identity : Text) : (tables.jobs.filter (fun row => row.goalIdentity == identity && row.status.isActive)).length ≤ 1 := by
  have met : ∀ row ∈ tables.jobs.filter (fun row => row.goalIdentity == identity && row.status.isActive),
      row ∈ tables.jobs ∧ row.goalIdentity = identity ∧ row.status.isActive = true := by
    intro row inside
    simpa using List.mem_filter.mp inside
  have single : (tables.jobs.filter (fun row => row.goalIdentity == identity && row.status.isActive)).Nodup :=
    (List.Nodup.of_map _ distinct).filter _
  cases shape : tables.jobs.filter (fun row => row.goalIdentity == identity && row.status.isActive) with
  | nil => simp
  | cons first rest =>
    cases rest with
    | nil => simp
    | cons second rest =>
      rw [shape] at met single
      obtain ⟨firstIn,firstIdentity,firstActive⟩ := met first (by simp)
      obtain ⟨secondIn,secondIdentity,secondActive⟩ := met second (by simp)
      have same := unique first firstIn second secondIn firstActive secondActive
        (firstIdentity.trans secondIdentity.symm)
      have equal := Rows.same_row distinct firstIn secondIn same
      simp [equal] at single

section runs
variable [Platform] {configuration : QueueConfiguration} {tables before after : QueueTables} {row : JobRow}

theorem performs_created (performed : Performs configuration call reply writes) :
    writes.filterMap Write.createdId = (Event.createdId ⟨call,reply⟩).toList := by
  cases performed with
  | created named => simp [Write.createdId,Event.createdId,newJobRow,named]
  | idle recoveries => exact recovery_creates recoveries
  | claimed recoveries =>
    rw [List.filterMap_append,recovery_creates recoveries]
    rfl
  | requeued recoveries => exact recovery_creates recoveries
  | pruned removals =>
    rw [Event.createdId]
    refine List.filterMap_eq_nil_iff.mpr ?_
    intro write inside
    obtain ⟨jobId,rfl⟩ := removals write inside
    rfl
  | _ => rfl

theorem performs_drawn {id : ProvisioningJobId} (performed : Performs configuration call reply writes)
    (creates : Event.createdId ⟨call,reply⟩ = some id) : call.uuid = some id := by
  cases performed with
  | created named =>
    simp only [Event.createdId,Option.some.injEq] at creates
    simp [Call.uuid,← creates,named]
  | _ => cases creates

theorem edits_ids (valid : Valid before) (edits : Edits configuration writes before after) :
    after.ids.Perm ((writes.filterMap Write.createdId) ++ before.ids) := by
  induction edits with
  | nil => exact .refl _
  | @cons write _ _ writes _ first rest ih =>
    have later := ih (edit_valid valid first)
    have now := (edit_ids valid first).append_left (writes.filterMap Write.createdId)
    cases created : write.createdId with
    | none =>
      rw [created] at now
      rw [List.filterMap_cons_none created]
      exact later.trans now
    | some id =>
      rw [created] at now
      rw [List.filterMap_cons_some created]
      exact later.trans (now.trans List.perm_middle)

theorem edits_sound (sound : ∀ row ∈ before.jobs, row.Sound configuration)
    (edits : Edits configuration writes before after) : ∀ row ∈ after.jobs, row.Sound configuration := by
  induction edits with
  | nil => exact sound
  | cons first _ ih => exact ih (edit_sound sound first)

theorem edits_oneActive (unique : OneActive before.jobs) (edits : Edits configuration writes before after) :
    OneActive after.jobs := by
  induction edits with
  | nil => exact unique
  | cons first _ ih => exact ih (edit_oneActive unique first)

theorem initial_invariant : QueueInvariant configuration [] emptyTables :=
  ⟨⟨List.nodup_nil,by simp [emptyTables]⟩,by simp [emptyTables],by simp [OneActive,emptyTables],.refl _,
    by simp [createdIds],List.nodup_nil⟩

theorem step_invariant (invariant : QueueInvariant configuration history before)
    (step : QueueStep configuration history before event after) : QueueInvariant configuration (event :: history) after := by
  obtain ⟨writes,edits,performed⟩ := run_performs invariant.valid event.call step.ran
  have created := performs_created performed
  have ids := (edits_ids invariant.valid edits).trans (invariant.accounted.append_left _)
  rw [created] at ids
  have shape : createdIds (event :: history) = event.createdId.toList ++ createdIds history := by
    cases creates : event.createdId <;> simp [createdIds,creates]
  refine ⟨edits_valid invariant.valid edits,edits_sound invariant.sound edits,
    edits_oneActive invariant.oneActive edits,shape ▸ ids,?_,?_⟩
  · intro id inside
    rw [shape,List.mem_append,Option.mem_toList] at inside
    rcases inside with now | earlier
    · exact ⟨event,List.mem_cons_self,performs_drawn performed now⟩
    · obtain ⟨drawer,listed,drew⟩ := invariant.drawn id earlier
      exact ⟨drawer,List.mem_cons_of_mem _ listed,drew⟩
  · rw [shape]
    cases creates : event.createdId with
    | none => exact invariant.distinct
    | some id =>
      refine List.nodup_cons.mpr ⟨?_,invariant.distinct⟩
      intro earlier
      obtain ⟨drawer,listed,drew⟩ := invariant.drawn id earlier
      exact step.fresh id (performs_drawn performed creates) drawer listed drew

theorem runs_invariant (path : QueueRuns configuration history tables) : QueueInvariant configuration history tables :=
  path.invariant initial_invariant (fun _ invariant step => step_invariant invariant step)

-- The state invariant of the queue over every run of its operations.
theorem reachable_tables_consistent (path : QueueRuns configuration history tables) : (∀ identity, (tables.jobs.filter
      (fun row => row.goalIdentity == identity && row.status.isActive)).length ≤ 1) ∧ (∀ row ∈ tables.jobs,
      ((row.leaseOwner.isSome = true ↔ row.status = .running) ∧ (row.leaseExpiresAtMs.isSome = true ↔ row.status = .running) ∧
        (row.leaseHeartbeatAtMs.isSome = true ↔ row.status = .running)) ∧
      (row.status = .running → 1 ≤ row.attempts ∧ row.attempts ≤ configuration.maxAttempts) ∧
      (row.status = .queued → row.attempts < configuration.maxAttempts) ∧
      (row.status = .cancelled → row.cancellationRequested = true) ∧
      (row.status = .queued ∨ row.status = .succeeded ∨ row.status = .failed → row.cancellationRequested = false) ∧
      (row.result.isSome = true ↔ row.status = .succeeded) ∧ (row.status = .failed → row.error.isSome = true)) ∧
    ∀ id ∈ createdIds history, (tables.jobs.map JobRow.jobId).count id + (tables.pruned.map PrunedRow.jobId).count id = 1 := by
  have invariant := runs_invariant path
  refine ⟨oneActive_count invariant.valid.distinct invariant.oneActive,?_,?_⟩
  · intro row inside
    have sound := invariant.sound row inside
    exact ⟨⟨sound.owner,sound.expiry,sound.beat⟩,fun running => ⟨sound.claimed running,sound.bounded⟩,
      sound.remaining,sound.flagged,sound.unflagged,sound.result,sound.error⟩
  · intro id created
    rw [← List.count_append]
    have once := (invariant.accounted.count_eq id).trans (List.count_eq_one_of_mem invariant.distinct created)
    exact once

end runs

def sampleCalls : List Call :=
  [.claim ['w'] 2000,.submitOrJoin sampleGoal 7 none none 1500 ['b'],.submitOrJoin sampleGoal 5 none none 1000 ['a']]

theorem reachable_tables_consistent_sample : ∃ row ∈ (@performed samplePlatform defaultConfiguration sampleCalls).2.jobs,
      row.status = .running ∧ 1 ≤ row.attempts ∧ row.attempts ≤ 3 := by
  have running : ∃ row ∈ (@performed samplePlatform defaultConfiguration sampleCalls).2.jobs, row.status = .running := by
    decide +kernel
  have consistent := @reachable_tables_consistent samplePlatform _ _ _
    (@performed_runs samplePlatform defaultConfiguration sampleCalls (by decide))
  obtain ⟨row,inside,status⟩ := running
  exact ⟨row,inside,status,(consistent.2.1 row inside).2.1 status⟩

end OpenStock.Queue
