import OpenStock.Foundations.Rows
import OpenStock.Foundations.Text

namespace OpenStock.Workspaces

inductive Status where
  | active
  | archived
  | corrupt
  | temporary
  deriving DecidableEq

def Status.value : Status → Text
  | active => "active".toList
  | archived => "archived".toList
  | corrupt => "corrupt".toList
  | temporary => "temporary".toList

-- What a record_* call adds is of any type; retention reads the rest.
structure ArtifactRef (ν : Type) where
  artifactId : Text
  pinned : Bool
  item : ν

structure TaskRef (ν : Type) where
  done : Bool
  item : ν

structure Workspace (ν : Type) where
  workspaceId : Text
  status : Status
  updatedAt : Text
  recentInputs : List ν
  activeArtifacts : List (ArtifactRef ν)
  openTasks : List (TaskRef ν)
  warnings : List ν
  errors : List ν

-- `redact_str` on what a call records, and the redaction of every saved item.
class Redaction (ν : Type) where
  message : ν → ν
  stored : ν → ν

-- Items with nothing to redact.
structure Plain where
  text : Text

instance : Redaction Plain where
  message := id
  stored := id

-- The retention archive of one workspace directory.
structure Archive (ν : Type) where
  inputs : List ν
  artifacts : List (ArtifactRef ν)
  tasks : List (TaskRef ν)
  warnings : List ν
  errors : List ν

def Archive.empty : Archive ν := ⟨[],[],[],[],[]⟩

-- A root directory: each workspace.json under the name of its directory, the
-- id in latest.json, the ids in index.json, the archives of the directories.
structure Root (ν : Type) where
  states : List (Workspace ν)
  distinct : Rows.Distinct Workspace.workspaceId states
  latest : Option Text
  index : List Text
  archives : Text → Archive ν

def Root.empty : Root ν where
  states := []
  distinct := List.nodup_nil
  latest := none
  index := []
  archives _ := Archive.empty

structure LifecycleError where
  workspaceId : Text
  operation : Text
  reason : Text
  deriving DecidableEq

inductive Raised where
  | fileNotFound
  | lifecycle (error : LifecycleError)
  deriving DecidableEq

/- Retention: what goes over a limit is appended to the archive, oldest first. -/

-- `max(int(raw), 1)` for a configured limit, and the defaults.
structure Limit where
  count : Nat
  positive : 1 ≤ count

structure WorkspaceLimits where
  maxInputs : Limit
  maxWarnings : Limit
  maxErrors : Limit
  maxActiveArtifacts : Limit
  maxDoneTasks : Limit

def workspaceLimits : WorkspaceLimits where
  maxInputs := ⟨200,by decide⟩
  maxWarnings := ⟨100,by decide⟩
  maxErrors := ⟨100,by decide⟩
  maxActiveArtifacts := ⟨100,by decide⟩
  maxDoneTasks := ⟨100,by decide⟩

-- `values[:-count]` and `values[-count:]`.
def older (count : Nat) (values : List α) : List α := values.take (values.length - count)
def newest (count : Nat) (values : List α) : List α := values.drop (values.length - count)

def keptArtifacts (limit : Limit) (artifacts : List (ArtifactRef ν)) : List (ArtifactRef ν) :=
  let pinned := artifacts.filter (fun artifact => artifact.pinned)
  let unpinned := artifacts.filter (fun artifact => !artifact.pinned)
  pinned ++ newest (limit.count - pinned.length) unpinned

def archivedArtifacts (limit : Limit) (artifacts : List (ArtifactRef ν)) : List (ArtifactRef ν) :=
  let retainedIds := (keptArtifacts limit artifacts).map ArtifactRef.artifactId
  artifacts.filter (fun artifact => decide (artifact.artifactId ∉ retainedIds))

section operations
variable {ν : Type} [Redaction ν]

def retained (limits : WorkspaceLimits) (state : Workspace ν) : Workspace ν :=
  let done := state.openTasks.filter (fun task => task.done)
  {state with
    recentInputs := newest limits.maxInputs.count state.recentInputs
    activeArtifacts := keptArtifacts limits.maxActiveArtifacts state.activeArtifacts
    openTasks := state.openTasks.filter (fun task => !task.done) ++ newest limits.maxDoneTasks.count done
    warnings := newest limits.maxWarnings.count (state.warnings.map Redaction.message)
    errors := newest limits.maxErrors.count (state.errors.map Redaction.message)}

def archiveWith (limits : WorkspaceLimits) (state : Workspace ν) (archive : Archive ν) : Archive ν where
  inputs := archive.inputs ++ older limits.maxInputs.count state.recentInputs
  artifacts := archive.artifacts ++ archivedArtifacts limits.maxActiveArtifacts state.activeArtifacts
  tasks := archive.tasks ++ older limits.maxDoneTasks.count (state.openTasks.filter (fun task => task.done))
  warnings := archive.warnings ++ older limits.maxWarnings.count (state.warnings.map Redaction.message)
  errors := archive.errors ++ older limits.maxErrors.count (state.errors.map Redaction.message)

/- Storage. -/

def persisted (state : Workspace ν) : Workspace ν :=
  {state with
    recentInputs := state.recentInputs.map Redaction.stored
    activeArtifacts := state.activeArtifacts.map (fun artifact => {artifact with item := Redaction.stored artifact.item})
    openTasks := state.openTasks.map (fun task => {task with item := Redaction.stored task.item})
    warnings := state.warnings.map Redaction.stored
    errors := state.errors.map Redaction.stored}

def indexWith (index : List Text) (workspaceId : Text) : List Text := (workspaceId :: index).dedup.insertionSort (· ≤ ·)

def saveWorkspaceState (root : Root ν) (state : Workspace ν) : Root ν :=
  {root with
    states := Rows.upsert Workspace.workspaceId root.states (persisted state)
    distinct := Rows.upsert_distinct root.distinct (persisted state)
    index := indexWith root.index state.workspaceId}

omit [Redaction ν] in
def loadWorkspaceState (root : Root ν) (workspaceId : Text) : Except Raised (Workspace ν) :=
  match root.states.find? (fun state => state.workspaceId = workspaceId) with
  | none => .error .fileNotFound
  | some state => .ok state

omit [Redaction ν] in
def saveLatestWorkspaceId (root : Root ν) (workspaceId : Text) : Root ν := {root with latest := some workspaceId}

omit [Redaction ν] in
def clearLatestWorkspaceId (root : Root ν) : Root ν := {root with latest := none}

def enforceRetention (limits : WorkspaceLimits) (root : Root ν) (state : Workspace ν) : Workspace ν × Root ν :=
  let archive := archiveWith limits state (root.archives state.workspaceId)
  (retained limits state,{root with archives := Function.update root.archives state.workspaceId archive})

/- What is saved and loaded. -/

@[simp] theorem persisted_workspaceId (state : Workspace ν) : (persisted state).workspaceId = state.workspaceId := rfl
@[simp] theorem retained_workspaceId (limits : WorkspaceLimits) (state : Workspace ν) :
    (retained limits state).workspaceId = state.workspaceId := rfl
variable (root : Root ν)

@[simp] theorem saved_latest (state : Workspace ν) : (saveWorkspaceState root state).latest = root.latest := rfl

theorem mem_saved (state other : Workspace ν) : other ∈ (saveWorkspaceState root state).states ↔
      other = persisted state ∨ other ∈ root.states ∧ other.workspaceId ≠ state.workspaceId :=
  Rows.mem_upsert_key root.states (persisted state) other

theorem load_saved (state : Workspace ν) :
    loadWorkspaceState (saveWorkspaceState root state) state.workspaceId = .ok (persisted state) := by
  unfold loadWorkspaceState saveWorkspaceState
  dsimp only
  rw [Rows.find_upsert,if_pos (persisted_workspaceId state).symm]

omit [Redaction ν] in
theorem loaded_iff (workspaceId : Text) (state : Workspace ν) :
    loadWorkspaceState root workspaceId = .ok state ↔ state ∈ root.states ∧ state.workspaceId = workspaceId := by
  unfold loadWorkspaceState
  constructor
  · intro loaded
    split at loaded
    · cases loaded
    · rename_i found
      cases loaded
      exact ⟨List.mem_of_find?_eq_some found,by simpa using List.find?_some found⟩
  · intro present
    obtain ⟨inside,rfl⟩ := present
    have found := Rows.select_key root.distinct inside
    simp only [beq_eq_decide] at found
    rw [found]

end operations

end OpenStock.Workspaces
