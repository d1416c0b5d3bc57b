import Mathlib.Logic.Function.Basic
import OpenStock.Foundations.Runs
import OpenStock.Queue.Records

namespace OpenStock.Queue

/- The queue file as its migrations see it. -/

structure SchemaJob where
  createdAtMs : Int
  availableAtMs : Option Int

structure SchemaFile where
  userVersion : Int
  jobTable : Bool
  availableColumn : Bool
  metadataTable : Bool
  prunedTable : Bool
  jobs : List SchemaJob
  lastMigrationAtMs : Option Int

-- What `sqlite3.Error` stands for here.
inductive SqliteError where
  | noSuchTable (name : String)
  | noSuchColumn (name : String)
  | duplicateColumn (name : String)

def schemaVersion : Int := 3

def recordMigration (timestamp : Int) (file : SchemaFile) : Except SqliteError SchemaFile :=
  if file.metadataTable then .ok {file with lastMigrationAtMs := some timestamp}
  else .error (.noSuchTable "provisioning_queue_metadata")

-- `CREATE_SCHEMA_SQL`: every table only IF NOT EXISTS, then the index over the
-- column an older table lacks.
def createSchema (file : SchemaFile) : Except SqliteError SchemaFile :=
  if file.jobTable && !file.availableColumn then .error (.noSuchColumn "available_at_ms")
  else .ok {file with jobTable := true, availableColumn := true, metadataTable := true, prunedTable := true}

def migrateV1ToV2 (timestamp : Int) (file : SchemaFile) : Except SqliteError SchemaFile :=
  recordMigration timestamp {file with metadataTable := true, prunedTable := true, userVersion := 2}

def addAvailableColumn (file : SchemaFile) : Except SqliteError SchemaFile :=
  if !file.jobTable then .error (.noSuchTable "provision_job")
  else if file.availableColumn then .error (.duplicateColumn "available_at_ms")
  else .ok {file with availableColumn := true, jobs := file.jobs.map (fun job => {job with availableAtMs := none})}

-- `SET available_at_ms = created_at_ms WHERE available_at_ms IS NULL`
def SchemaJob.backfill (job : SchemaJob) : SchemaJob :=
  {job with availableAtMs := some (job.availableAtMs.getD job.createdAtMs)}

def migrateV2ToV3 (timestamp : Int) (file : SchemaFile) : Except SqliteError SchemaFile := do
  let file ← addAvailableColumn file
  recordMigration timestamp {file with jobs := file.jobs.map SchemaJob.backfill, userVersion := schemaVersion}

/- One call of `initialize` between its transactions. -/

inductive Initializer where
  | opening
  | creating
  | stamping
  | recording
  | migratingV1
  | migratingV2
  | returned
  | raised (error : ProvisioningQueueError)
  | faulted

def Initializer.finished : Initializer → Bool
  | .returned | .raised _ | .faulted => true
  | _ => false

def dispatch (version : Int) : Initializer :=
  if version = 0 then .creating
  else if version = 1 then .migratingV1
  else if version = 2 then .migratingV2
  else if version = schemaVersion then .returned
  else .raised (.storage "unsupported provisioning queue schema version")

-- A failed transaction is rolled back and ends the call.
def transacted (file : SchemaFile) (ran : Except SqliteError SchemaFile) (next : Initializer) : SchemaFile × Initializer :=
  match ran with
  | .ok changed => (changed,next)
  | .error _ => (file,.raised (.storage "provisioning queue storage is unavailable"))

def Initializer.advance (timestamp : Int) (file : SchemaFile) : Initializer → Option (SchemaFile × Initializer)
  | .opening => some (file,dispatch file.userVersion)
  | .creating => some (transacted file (createSchema file) .stamping)
  | .stamping => some ({file with userVersion := schemaVersion},.recording)
  | .recording => some (transacted file (recordMigration timestamp file) .returned)
  | .migratingV1 => some (transacted file (migrateV1ToV2 timestamp file) .migratingV2)
  | .migratingV2 => some (transacted file (migrateV2ToV3 timestamp file) .returned)
  | .returned | .raised _ | .faulted => none

structure SchemaState where
  file : SchemaFile
  calls : Nat → Initializer

def opened (file : SchemaFile) : SchemaState := ⟨file,fun _ => .opening⟩

-- Some call makes its next step, or hits a storage fault in it.
inductive SchemaEvent where
  | advance (caller : Nat) (timestamp : Int)
  | fault (caller : Nat)

def SchemaState.next (state : SchemaState) : SchemaEvent → Option SchemaState
  | .advance caller timestamp =>
      ((state.calls caller).advance timestamp state.file).map (fun moved =>
        ⟨moved.1,Function.update state.calls caller moved.2⟩)
  | .fault caller =>
      if (state.calls caller).finished then none
      else some {state with calls := Function.update state.calls caller .faulted}

abbrev SchemaStep (_history : List SchemaEvent) (before : SchemaState) (event : SchemaEvent) (after : SchemaState) :
    Prop := before.next event = some after

/- Files as the released versions leave them. -/

structure SchemaFile.Versioned (file : SchemaFile) : Prop where
  version : 1 ≤ file.userVersion ∧ file.userVersion ≤ schemaVersion
  jobs : file.jobTable = true
  column : file.availableColumn = true ↔ file.userVersion = schemaVersion
  metadata : 2 ≤ file.userVersion → file.metadataTable = true
  available : file.userVersion = schemaVersion → ∀ job ∈ file.jobs, job.availableAtMs.isSome = true

-- What a call knows of the file it works on.
def Initializer.Fits (file : SchemaFile) : Initializer → Prop
  | .opening | .migratingV1 | .faulted => True
  | .migratingV2 => 2 ≤ file.userVersion
  | .returned => file.userVersion = schemaVersion
  | .creating | .stamping | .recording | .raised _ => False

structure SchemaState.Sound (state : SchemaState) : Prop where
  file : state.file.Versioned
  calls : ∀ caller, (state.calls caller).Fits state.file

def Initializer.migrates : Initializer → Bool
  | .migratingV1 | .migratingV2 => true
  | _ => false

-- A migration starts only while the file is below the current version.
def SchemaState.Timely (state : SchemaState) : SchemaEvent → Prop
  | .advance caller _ => (state.calls caller).migrates = true → state.file.userVersion < schemaVersion
  | .fault _ => True

instance (state : SchemaState) (event : SchemaEvent) : Decidable (state.Timely event) :=
  match event with
  | .advance caller _ =>
      inferInstanceAs (Decidable ((state.calls caller).migrates = true → state.file.userVersion < schemaVersion))
  | .fault _ => .isTrue trivial

def TimelyStep (_history : List SchemaEvent) (before : SchemaState) (event : SchemaEvent) (after : SchemaState) : Prop :=
  before.Timely event ∧ before.next event = some after

section files
variable {file : SchemaFile}

theorem dispatch_fits (versioned : file.Versioned) : (dispatch file.userVersion).Fits file := by
  obtain ⟨low,high⟩ := versioned.version
  have known : file.userVersion = 1 ∨ file.userVersion = 2 ∨ file.userVersion = 3 := by
    simp only [schemaVersion] at high
    omega
  rcases known with one | two | three
  · simp [dispatch,one,Initializer.Fits]
  · simp [dispatch,two,Initializer.Fits]
  · simp [dispatch,three,Initializer.Fits,schemaVersion]

-- A later version carries every call that fitted an earlier one.
theorem fits_grows {call : Initializer} (fits : call.Fits file) (grows : file.userVersion ≤ later.userVersion)
    (versioned : later.Versioned) : call.Fits later := by
  cases call with
  | migratingV2 => exact fits.trans grows
  | returned => exact le_antisymm versioned.version.2 (fits ▸ grows)
  | opening | migratingV1 | faulted => trivial
  | creating | stamping | recording | raised error => exact fits

variable (timestamp : Int)

theorem migrateV1ToV2_ok (versioned : file.Versioned) (early : file.userVersion < schemaVersion) :
    ∃ changed, migrateV1ToV2 timestamp file = .ok changed ∧ changed.userVersion = 2 ∧ changed.Versioned := by
  have lacking : ¬ file.availableColumn = true := fun column => early.ne (versioned.column.mp column)
  refine ⟨_,rfl,rfl,⟨by simp [schemaVersion],versioned.jobs,?_,fun _ => rfl,?_⟩⟩
  · simp [lacking,schemaVersion]
  · simp [schemaVersion]

theorem migrateV2ToV3_ok (versioned : file.Versioned) (known : 2 ≤ file.userVersion)
    (early : file.userVersion < schemaVersion) :
    ∃ changed, migrateV2ToV3 timestamp file = .ok changed ∧ changed.userVersion = schemaVersion ∧ changed.Versioned := by
  have lacking : file.availableColumn = false := by
    simpa using fun column => early.ne (versioned.column.mp column)
  have recorded := versioned.metadata known
  refine ⟨⟨schemaVersion,true,true,true,file.prunedTable,
    (file.jobs.map (fun job => {job with availableAtMs := none})).map SchemaJob.backfill,some timestamp⟩,?_,rfl,?_⟩
  · simp [migrateV2ToV3,addAvailableColumn,versioned.jobs,lacking,recordMigration,recorded,bind,Except.bind]
  · refine ⟨by simp [schemaVersion],rfl,by simp,fun _ => rfl,fun _ job inside => ?_⟩
    obtain ⟨earlier,_,rfl⟩ := List.mem_map.mp inside
    rfl

end files

section runs
variable {file : SchemaFile} {state before after middle final : SchemaState}

theorem update_fits (sound : before.Sound) (grows : before.file.userVersion ≤ file.userVersion)
    (versioned : file.Versioned) (fits : call.Fits file) :
    SchemaState.Sound ⟨file,Function.update before.calls caller call⟩ := by
  refine ⟨versioned,fun other => ?_⟩
  by_cases same : other = caller
  · subst same
    simpa using fits
  · simpa [Function.update_of_ne same] using fits_grows (sound.calls other) grows versioned

theorem timely_step (sound : before.Sound) (step : TimelyStep history before event after) :
    after.Sound ∧ before.file.userVersion ≤ after.file.userVersion := by
  obtain ⟨timely,moved⟩ := step
  cases event with
  | fault caller =>
    simp only [SchemaState.next] at moved
    split at moved
    · cases moved
    · cases moved
      exact ⟨update_fits sound (le_refl _) sound.file trivial,le_refl _⟩
  | advance caller timestamp =>
    have fits := sound.calls caller
    simp only [SchemaState.next] at moved
    cases call : before.calls caller with
    | opening =>
      rw [call] at moved
      cases moved
      exact ⟨update_fits sound (le_refl _) sound.file (dispatch_fits sound.file),le_refl _⟩
    | migratingV1 =>
      have early := timely (by rw [call]; rfl)
      obtain ⟨changed,ran,version,versioned⟩ := migrateV1ToV2_ok timestamp sound.file early
      have grows : before.file.userVersion ≤ changed.userVersion := by
        simp only [schemaVersion] at early
        omega
      simp only [call,Initializer.advance,ran,transacted,Option.map_some,Option.some.injEq] at moved
      cases moved
      exact ⟨update_fits sound grows versioned version.ge,grows⟩
    | migratingV2 =>
      have early := timely (by rw [call]; rfl)
      rw [call] at fits
      obtain ⟨changed,ran,version,versioned⟩ := migrateV2ToV3_ok timestamp sound.file fits early
      have grows : before.file.userVersion ≤ changed.userVersion := by omega
      simp only [call,Initializer.advance,ran,transacted,Option.map_some,Option.some.injEq] at moved
      cases moved
      exact ⟨update_fits sound grows versioned version,grows⟩
    | returned | raised error | faulted =>
      rw [call] at moved
      cases moved
    | creating | stamping | recording =>
      rw [call] at fits
      cases fits

theorem timely_runs (sound : state.Sound) (path : Runs TimelyStep state history final) :
    final.Sound ∧ state.file.userVersion ≤ final.file.userVersion := by
  induction path with
  | nil => exact ⟨sound,le_refl _⟩
  | step path ran ih =>
    obtain ⟨still,grows⟩ := timely_step ih.1 ran
    exact ⟨still,ih.2.trans grows⟩

-- Concurrent calls are safe while no migration starts on a finished file.
theorem concurrent_initialization (versioned : file.Versioned) (path : Runs TimelyStep (opened file) earlier middle)
    (rest : Runs TimelyStep middle later final) : middle.file.userVersion ≤ final.file.userVersion ∧
    (∀ caller error, final.calls caller ≠ .raised error) ∧
    ∀ caller, final.calls caller = .returned → final.file.userVersion = schemaVersion ∧
      ∀ timestamp, Initializer.opening.advance timestamp final.file = some (final.file,.returned) := by
  have fresh : (opened file).Sound := ⟨versioned,fun _ => trivial⟩
  have sound := (timely_runs fresh path).1
  obtain ⟨still,grown⟩ := timely_runs sound rest
  refine ⟨grown,fun caller error raised => ?_,fun caller returned => ?_⟩
  · have fits := still.calls caller
    rw [raised] at fits
    exact fits
  · have fits := still.calls caller
    rw [returned] at fits
    have current : final.file.userVersion = schemaVersion := fits
    exact ⟨current,fun timestamp => by simp [Initializer.advance,current,dispatch,schemaVersion]⟩

end runs

def timelyRun (state : SchemaState) (events : List SchemaEvent) : Option SchemaState :=
  Runs.execute (fun _ before event => if before.Timely event then before.next event else none) [] state events

variable {state final : SchemaState}

theorem timelyRun_path (ran : timelyRun state events = some final) : Runs TimelyStep state events.reverse final := by
  have path : Runs TimelyStep state (events.reverse ++ []) final := Runs.executed ?_ .nil ran
  · simpa using path
  · intro _ _ _ _ accepted
    simp only [Option.ite_none_right_eq_some] at accepted
    exact accepted

def versionOneFile : SchemaFile := ⟨1,true,false,false,false,[⟨1000,none⟩],none⟩

theorem versionOneFile_versioned : versionOneFile.Versioned := ⟨by decide,rfl,by decide,by decide,by decide⟩

-- The second call opens the file between the migrations of the first.
theorem concurrent_initialization_sample : ∃ middle final,
    timelyRun (opened versionOneFile) [.advance 0 1,.advance 0 2,.advance 1 3] = some middle ∧
    timelyRun middle [.advance 0 4,.fault 1,.advance 2 5] = some final ∧ final.calls 0 = .returned ∧
    final.file.userVersion = 3 := by
  obtain ⟨middle,first⟩ : ∃ middle, timelyRun (opened versionOneFile) [.advance 0 1,.advance 0 2,.advance 1 3] =
    some middle := ⟨_,rfl⟩
  obtain ⟨final,second,returned⟩ : ∃ final, timelyRun middle [.advance 0 4,.fault 1,.advance 2 5] = some final ∧
      final.calls 0 = .returned := by
    cases first
    exact ⟨_,rfl,rfl⟩
  have safe := concurrent_initialization versionOneFile_versioned (timelyRun_path first) (timelyRun_path second)
  exact ⟨middle,final,first,second,returned,(safe.2.2 0 returned).1⟩

/- Two calls that open one file of version 1. -/

def overlappingCalls : List SchemaEvent :=
  [.advance 0 1,.advance 1 2,.advance 0 3,.advance 0 4,.advance 1 5,.advance 1 6]

def schemaRun (state : SchemaState) (events : List SchemaEvent) : Option SchemaState :=
  Runs.execute (fun _ before event => before.next event) [] state events

theorem schemaRun_path (ran : schemaRun state events = some final) : Runs SchemaStep state events.reverse final := by
  have path : Runs SchemaStep state (events.reverse ++ []) final := Runs.executed (fun accepted => accepted) .nil ran
  simpa using path

-- Both read version 1; the second takes the file from 3 back to 2 and then
-- finds its column there.
theorem overlapping_initialization :
    ¬ ∀ (file : SchemaFile) (earlier later : List SchemaEvent) (middle final : SchemaState), file.Versioned →
      Runs SchemaStep (opened file) earlier middle → Runs SchemaStep middle later final →
      middle.file.userVersion ≤ final.file.userVersion ∧ ∀ caller error, final.calls caller ≠ .raised error := by
  intro safe
  obtain ⟨middle,first,third⟩ : ∃ middle, schemaRun (opened versionOneFile) (overlappingCalls.take 4) = some middle ∧
      middle.file.userVersion = 3 := ⟨_,rfl,rfl⟩
  obtain ⟨final,second,back⟩ : ∃ final, schemaRun middle (overlappingCalls.drop 4) = some final ∧
      final.file.userVersion = 2 := by
    cases first
    exact ⟨_,rfl,rfl⟩
  have safely := (safe _ _ _ _ _ versionOneFile_versioned (schemaRun_path first) (schemaRun_path second)).1
  rw [third,back] at safely
  exact absurd safely (by decide)

end OpenStock.Queue
