import OpenStock.Queue.GoalRoundTrip
import OpenStock.Queue.Operations

namespace OpenStock.Queue
open Text

/- Below the calls lie writes of single rows. A write is permitted by the WHERE
clause of its statement together with the tests made before it is chosen. -/

inductive Write where
  | update (jobId : ProvisioningJobId) (update : Update)
  | create (new : JobRow)
  | prune (jobId : ProvisioningJobId)

def Update.Permitted (configuration : QueueConfiguration) : Update → JobRow → Prop
  | .prioritize _ _,row => row.status = .queued
  | .claim worker expires timestamp,row =>
      row.status = .queued ∧ row.availableAtMs ≤ timestamp ∧ expires = timestamp + configuration.leaseMs ∧
        boundedMetadata worker = true
  | .heartbeat worker expires timestamp,row =>
      row.liveLease worker timestamp = true ∧ expires = timestamp + configuration.leaseMs
  | .recoverCancelled timestamp,row => row.expiredLease timestamp = true ∧ row.cancellationRequested = true
  | .recoverFailed timestamp,row =>
      row.expiredLease timestamp = true ∧ row.cancellationRequested = false ∧ configuration.maxAttempts ≤ row.attempts
  | .recoverQueued timestamp,row =>
      row.expiredLease timestamp = true ∧ row.cancellationRequested = false ∧ row.attempts < configuration.maxAttempts
  | .retry worker error available timestamp,row =>
      row.liveLease worker timestamp = true ∧ row.cancellationRequested = false ∧
        row.attempts < configuration.maxAttempts ∧ error.isSome = true ∧
        available = timestamp + retryDelaySeconds * 1000
  | .terminalize worker status result error timestamp,row =>
      row.liveLease worker timestamp = true ∧ row.cancellationRequested = (status == .cancelled) ∧
        ∃ value, terminalDetail status value = .ok (result,error)
  | .cancelQueued _,row => row.status = .queued
  | .cancelRunning _,row => row.status = .running

section journal
variable [Platform]

-- A row keeps the payload, the identity and the type of one goal.
structure JobRow.Holds (row : JobRow) (goal : ProvisioningGoal) : Prop where
  payload : row.payloadJson = goal.payloadJson
  identity : row.goalIdentity = Queue.goalIdentity goal
  kind : row.goalType = Queue.goalType goal

structure Valid (tables : QueueTables) : Prop where
  distinct : Rows.Distinct JobRow.jobId tables.jobs
  stored : ∀ row ∈ tables.jobs, ∃ goal, row.Holds goal

inductive Edit (configuration : QueueConfiguration) : Write → QueueTables → QueueTables → Prop where
  | update {row : JobRow} {statement : Update} (present : row ∈ tables.jobs)
      (permitted : statement.Permitted configuration row) :
      Edit configuration (.update row.jobId statement) tables
        {tables with jobs := Rows.replace JobRow.jobId (statement.set row) tables.jobs}
  | create (absent : ∀ row ∈ tables.jobs, row.jobId ≠ new.jobId)
      (idle : ∀ row ∈ tables.jobs, row.status.isActive = true → row.goalIdentity ≠ new.goalIdentity)
      (shape : new = newJobRow goal priority origin correlationId timestamp uuid) :
      Edit configuration (.create new) tables {tables with jobs := tables.jobs ++ [new]}
  | prune {row : JobRow} {completedAt : Int} (present : row ∈ tables.jobs)
      (terminal : row.status.isTerminal = true)
      (unpruned : ∀ earlier ∈ tables.pruned, earlier.jobId ≠ row.jobId) :
      Edit configuration (.prune row.jobId) tables
        ⟨Rows.remove JobRow.jobId row.jobId tables.jobs,tables.pruned ++ [⟨row.jobId,row.status,completedAt⟩]⟩

inductive Edits (configuration : QueueConfiguration) : List Write → QueueTables → QueueTables → Prop where
  | nil : Edits configuration [] tables tables
  | cons (first : Edit configuration write before middle) (rest : Edits configuration writes middle after) :
      Edits configuration (write :: writes) before after

end journal

section statements
variable {jobs : List JobRow} {row : JobRow}

theorem execute_row (distinct : Rows.Distinct JobRow.jobId jobs) (present : row ∈ jobs) (update : Update) :
    executeUpdate jobs row.jobId update =
      if update.selects row then Rows.replace JobRow.jobId (update.set row) jobs else jobs := by
  have keyed : ∀ other, selected row.jobId update other = true → other.jobId = row.jobId := by
    intro other met
    simp only [selected,Bool.and_eq_true,beq_iff_eq] at met
    exact met.1
  have same : selected row.jobId update row = update.selects row := by simp [selected]
  rw [executeUpdate,Rows.updateWhere_key distinct present keyed (update.set_jobId row),same]

theorem select_present (distinct : Rows.Distinct JobRow.jobId jobs) (present : row ∈ jobs) :
    selectJob jobs row.jobId = some row := Rows.select_key distinct present

theorem select_some (found : selectJob jobs jobId = some row) : row ∈ jobs ∧ row.jobId = jobId :=
  ⟨List.mem_of_find?_eq_some found,by simpa using List.find?_some found⟩

theorem replace_present (present : row ∈ jobs) (update : Update) :
    update.set row ∈ Rows.replace JobRow.jobId (update.set row) jobs :=
  (Rows.mem_replace present (update.set_jobId row).symm).mpr (.inl rfl)

theorem read_replaced (distinct : Rows.Distinct JobRow.jobId jobs) (present : row ∈ jobs) (update : Update) (lost : String) :
    readJob (Rows.replace JobRow.jobId (update.set row) jobs) row.jobId lost = .ok (update.set row) := by
  have found := select_present (Rows.replace_distinct distinct _) (replace_present present update)
  rw [Update.set_jobId] at found
  rw [readJob,found]

theorem readJob_ok (read : readJob jobs jobId lost = .ok row) : row ∈ jobs ∧ row.jobId = jobId := by
  unfold readJob at read
  split at read
  · cases read
  · rename_i found
    cases read
    exact select_some found

end statements

section journal
variable [Platform] {configuration : QueueConfiguration} {tables before after : QueueTables}
  {jobs : List JobRow} {row : JobRow}

theorem Edits.append (first : Edits configuration early before middle) (second : Edits configuration late middle after) :
    Edits configuration (early ++ late) before after := by
  induction first with
  | nil => exact second
  | cons edit _ ih => exact .cons edit (ih second)

theorem Edits.split (edits : Edits configuration (early ++ late) before after) :
    ∃ middle, Edits configuration early before middle ∧ Edits configuration late middle after := by
  induction early generalizing before with
  | nil => exact ⟨before,.nil,edits⟩
  | cons write early ih =>
    cases edits with
    | cons first rest =>
      obtain ⟨middle,earlier,later⟩ := ih rest
      exact ⟨middle,.cons first earlier,later⟩

theorem Edits.only (edits : Edits configuration [write] before after) : Edit configuration write before after := by
  cases edits with
  | cons first rest =>
    cases rest
    exact first

theorem Edits.single (edit : Edit configuration write before after) : Edits configuration [write] before after :=
  .cons edit .nil

theorem set_holds (update : Update) (held : row.Holds goal) : (update.set row).Holds goal := by
  refine ⟨by simpa using held.payload,by simpa using held.identity,?_⟩
  cases update <;> exact held.kind

theorem new_holds (goal : ProvisioningGoal) (priority : Int) (origin correlationId : Option Text) (timestamp : Int)
    (uuid : ProvisioningJobId) : (newJobRow goal priority origin correlationId timestamp uuid).Holds goal :=
  ⟨rfl,rfl,rfl⟩

theorem edit_valid (valid : Valid before) (edit : Edit configuration write before after) : Valid after := by
  cases edit with
  | @update _ row statement present permitted =>
    refine ⟨Rows.replace_distinct valid.distinct _,?_⟩
    intro other inside
    rcases (Rows.mem_replace present (statement.set_jobId row).symm).mp inside with rfl | ⟨kept,_⟩
    · obtain ⟨goal,held⟩ := valid.stored row present
      exact ⟨goal,set_holds statement held⟩
    · exact valid.stored other kept
  | create absent idle shape =>
    refine ⟨Rows.append_distinct valid.distinct absent,?_⟩
    intro other inside
    rcases List.mem_append.mp inside with kept | added
    · exact valid.stored other kept
    · rw [List.mem_singleton.mp added,shape]
      exact ⟨_,new_holds _ _ _ _ _ _⟩
  | prune present terminal unpruned =>
    refine ⟨Rows.remove_distinct valid.distinct _,?_⟩
    intro other inside
    exact valid.stored other (Rows.mem_remove.mp inside).1

theorem edits_valid (valid : Valid before) (edits : Edits configuration writes before after) : Valid after := by
  induction edits with
  | nil => exact valid
  | cons first _ ih => exact ih (edit_valid valid first)

/- Reading. -/

theorem read_stored (held : row.Holds goal) : jobFromRow row = .ok (row.read goal) := by
  rw [jobFromRow,held.payload,parse_payload]

theorem jobFromRow_read (read : jobFromRow row = .ok job) : ∃ goal, job = row.read goal := by
  unfold jobFromRow at read
  split at read
  · cases read
  · exact ⟨_,(Except.ok.inj read).symm⟩

theorem validatedGoal_goal (goal : ProvisioningGoal) : validatedGoal goal = .ok goal := by
  rw [validatedGoal,parse_payload]

end journal
end OpenStock.Queue
