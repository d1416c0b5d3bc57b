import OpenStock.Foundations.Runs
import OpenStock.Workspaces.Lifecycle

namespace OpenStock.Workspaces

-- The calls of the processes that share a root.
inductive Call (ν : Type) where
  | record (mutation : Mutation ν) (workspaceId now : Text)
  | archive (workspaceId now : Text)
  | reactivate (workspaceId now : Text)
  | create (workspaceId now : Text)

-- The next access of a call to the files. Writing the retention archive and
-- workspace.json is one step: both are under the lock, and no call reads the archive.
inductive Phase where
  | loading
  | locking
  | saving
  | readingIndex
  | writingIndex
  | pointing
  | unlocking
  deriving DecidableEq

namespace Call
variable {ν : Type}

def workspaceId : Call ν → Text
  | record _ workspaceId _ => workspaceId
  | archive workspaceId _ => workspaceId
  | reactivate workspaceId _ => workspaceId
  | create workspaceId _ => workspaceId

def isRecord : Call ν → Bool
  | record _ _ _ => true
  | _ => false

def isCreate : Call ν → Bool
  | create _ _ => true
  | _ => false

-- The status that the call gives its workspace.
def gives : Call ν → Option Status
  | archive _ _ => some .archived
  | reactivate _ _ => some .active
  | record _ _ _ => none
  | create _ _ => none

-- record_* takes the lock before it loads, the lifecycle calls after it.
def start : Call ν → Phase
  | record _ _ _ => .locking
  | archive _ _ => .loading
  | reactivate _ _ => .loading
  | create _ _ => .locking

def afterLoading (call : Call ν) : Phase := if call.isRecord then .saving else .locking

def afterLocking (call : Call ν) : Phase := if call.isRecord then .loading else .saving

def accepts (call : Call ν) (state : Workspace ν) : Bool :=
  match call with
  | archive _ _ => decide (state.status = .active)
  | reactivate _ _ => decide (state.status = .archived)
  | record _ _ _ => true
  | create _ _ => true

end Call

structure Process (ν : Type) where
  call : Call ν
  phase : Phase
  loaded : Option (Workspace ν)
  seen : List Text

def Process.holds (process : Process ν) : Bool :=
  match process.phase with
  | .loading => process.call.isRecord
  | .locking => false
  | _ => true

-- Locks by workspace; no lock outlives the stale-lock age, so none is taken away.
structure System (ν : Type) where
  root : Root ν
  locks : Text → Option Nat
  running : Nat → Option (Process ν)
  returned : List (Nat × Call ν)
  made : List Text

def System.initial (root : Root ν) : System ν where
  root := root
  locks _ := none
  running _ := none
  returned := []
  made := []

namespace System
variable {ν : Type}

def put (system : System ν) (pid : Nat) (process : Process ν) : System ν :=
  {system with running := Function.update system.running pid (some process)}

-- `release_lock` looks for its own token.
def released (system : System ν) (pid : Nat) (workspaceId : Text) : Text → Option Nat :=
  if system.locks workspaceId = some pid then Function.update system.locks workspaceId none else system.locks

def ended (system : System ν) (pid : Nat) (process : Process ν) : System ν :=
  {system with
    running := Function.update system.running pid none
    locks := system.released pid process.call.workspaceId}

end System

section steps
variable {ν : Type} [Redaction ν]

theorem written_distinct (root : Root ν) (state : Workspace ν) :
    Rows.Distinct Workspace.workspaceId (Rows.upsert Workspace.workspaceId root.states (persisted state)) :=
  Rows.upsert_distinct root.distinct (persisted state)

def writeWorkspaceJson (root : Root ν) (state : Workspace ν) : Root ν :=
  {root with
    states := Rows.upsert Workspace.workspaceId root.states (persisted state)
    distinct := written_distinct root state}

def writeWorkspaceIndex (root : Root ν) (seen : List Text) (workspaceId : Text) : Root ν :=
  {root with index := indexWith seen workspaceId}

theorem save_writes (root : Root ν) (state : Workspace ν) :
    saveWorkspaceState root state = writeWorkspaceIndex (writeWorkspaceJson root state) root.index state.workspaceId := rfl

def Process.save (limits : WorkspaceLimits) (process : Process ν) (root : Root ν) : Option (Root ν) :=
  match process.call with
  | .record mutation _ now => process.loaded.map (fun current =>
      let (updated,archived) := enforceRetention limits root (mutation.apply now current)
      writeWorkspaceJson archived updated)
  | .archive _ now => process.loaded.map (fun state => writeWorkspaceJson root {state with status := .archived,updatedAt := now})
  | .reactivate _ now => process.loaded.map (fun state => writeWorkspaceJson root {state with status := .active,updatedAt := now})
  | .create workspaceId now => some (writeWorkspaceJson root (newState workspaceId now))

omit [Redaction ν] in
def Call.point (call : Call ν) (root : Root ν) : Root ν :=
  match call with
  | .archive workspaceId _ => if root.latest = some workspaceId then clearLatestWorkspaceId root else root
  | .record _ workspaceId _ => saveLatestWorkspaceId root workspaceId
  | .reactivate workspaceId _ => saveLatestWorkspaceId root workspaceId
  | .create workspaceId _ => saveLatestWorkspaceId root workspaceId

def act (limits : WorkspaceLimits) (system : System ν) (pid : Nat) (process : Process ν) : Option (System ν) :=
  match process.phase with
  | .loading =>
    match loadWorkspaceState system.root process.call.workspaceId with
    | .error _ => some (system.ended pid process)
    | .ok state =>
      if process.call.accepts state then
        some (system.put pid {process with loaded := some state,phase := process.call.afterLoading})
      else some (system.ended pid process)
  | .locking =>
    match system.locks process.call.workspaceId with
    | some _ => none
    | none => some {system.put pid {process with phase := process.call.afterLocking} with
        locks := Function.update system.locks process.call.workspaceId (some pid)}
  | .saving => (process.save limits system.root).map (fun root =>
      {system.put pid {process with phase := .readingIndex} with root := root})
  | .readingIndex => some (system.put pid {process with seen := system.root.index,phase := .writingIndex})
  | .writingIndex => some {system.put pid {process with phase := .pointing} with
      root := writeWorkspaceIndex system.root process.seen process.call.workspaceId}
  | .pointing => some {system.put pid {process with phase := .unlocking} with root := process.call.point system.root}
  | .unlocking => some {system.ended pid process with returned := (pid,process.call) :: system.returned}

inductive Move (ν : Type) where
  | start (pid : Nat) (call : Call ν)
  | act (pid : Nat)
  | giveUp (pid : Nat)

omit [Redaction ν] in
-- The made id of a workspace names no other.
def System.fresh (system : System ν) (call : Call ν) : Bool :=
  !call.isCreate || (decide (call.workspaceId ∉ system.made) &&
    system.root.states.all (fun state => decide (state.workspaceId ≠ call.workspaceId)))

def advance (limits : WorkspaceLimits) (system : System ν) : Move ν → Option (System ν)
  | .start pid call =>
    match system.running pid with
    | some _ => none
    | none =>
      if system.fresh call then
        some {system.put pid ⟨call,call.start,none,[]⟩ with
          made := if call.isCreate then call.workspaceId :: system.made else system.made}
      else none
  | .act pid => (system.running pid).bind (act limits system pid)
  -- The lock stayed taken until the timeout.
  | .giveUp pid => (system.running pid).bind (fun process =>
      if process.phase = .locking then some (system.ended pid process) else none)

/- What a move can do. -/

inductive Moved (limits : WorkspaceLimits) (before : System ν) : Move ν → System ν → Prop where
  | started (idle : before.running pid = none) (fresh : before.fresh call = true) :
      Moved limits before (.start pid call) {before.put pid ⟨call,call.start,none,[]⟩ with
        made := if call.isCreate then call.workspaceId :: before.made else before.made}
  | loaded (runs : before.running pid = some process) (phase : process.phase = .loading)
      (found : loadWorkspaceState before.root process.call.workspaceId = .ok state) (accepted : process.call.accepts state = true) :
      Moved limits before (.act pid) (before.put pid {process with loaded := some state,phase := process.call.afterLoading})
  | failed (runs : before.running pid = some process) (early : process.phase = .loading ∨ process.phase = .locking)
      (ends : move = .act pid ∨ move = .giveUp pid) : Moved limits before move (before.ended pid process)
  | locked (runs : before.running pid = some process) (phase : process.phase = .locking)
      (free : before.locks process.call.workspaceId = none) :
      Moved limits before (.act pid) {before.put pid {process with phase := process.call.afterLocking} with
        locks := Function.update before.locks process.call.workspaceId (some pid)}
  | saved (runs : before.running pid = some process) (phase : process.phase = .saving)
      (written : process.save limits before.root = some root) :
      Moved limits before (.act pid) {before.put pid {process with phase := .readingIndex} with root := root}
  | readIndex (runs : before.running pid = some process) (phase : process.phase = .readingIndex) :
      Moved limits before (.act pid) (before.put pid {process with seen := before.root.index,phase := .writingIndex})
  | wroteIndex (runs : before.running pid = some process) (phase : process.phase = .writingIndex) :
      Moved limits before (.act pid) {before.put pid {process with phase := .pointing} with
        root := writeWorkspaceIndex before.root process.seen process.call.workspaceId}
  | pointed (runs : before.running pid = some process) (phase : process.phase = .pointing) :
      Moved limits before (.act pid) {before.put pid {process with phase := .unlocking} with
        root := process.call.point before.root}
  | finished (runs : before.running pid = some process) (phase : process.phase = .unlocking) :
      Moved limits before (.act pid) {before.ended pid process with returned := (pid,process.call) :: before.returned}

theorem advance_moved {limits : WorkspaceLimits} {before after : System ν} {move : Move ν}
    (advanced : advance limits before move = some after) : Moved limits before move after := by
  cases move with
  | start pid call =>
    simp only [advance] at advanced
    split at advanced
    · cases advanced
    · rename_i idle
      split at advanced
      · rename_i fresh
        cases advanced
        exact .started idle fresh
      · cases advanced
  | act pid =>
    obtain ⟨process,runs,acted⟩ := Option.bind_eq_some_iff.mp advanced
    unfold act at acted
    split at acted
    · rename_i phase
      split at acted
      · cases acted
        exact .failed runs (.inl phase) (.inl rfl)
      · rename_i found
        split at acted
        · rename_i accepted
          cases acted
          exact .loaded runs phase found accepted
        · cases acted
          exact .failed runs (.inl phase) (.inl rfl)
    · rename_i phase
      split at acted
      · cases acted
      · rename_i free
        cases acted
        exact .locked runs phase free
    · rename_i phase
      obtain ⟨root,written,rfl⟩ := Option.map_eq_some_iff.mp acted
      exact .saved runs phase written
    · rename_i phase
      cases acted
      exact .readIndex runs phase
    · rename_i phase
      cases acted
      exact .wroteIndex runs phase
    · rename_i phase
      cases acted
      exact .pointed runs phase
    · rename_i phase
      cases acted
      exact .finished runs phase
  | giveUp pid =>
    obtain ⟨process,runs,ended⟩ := Option.bind_eq_some_iff.mp advanced
    split at ended
    · rename_i phase
      cases ended
      exact .failed runs (.inr phase) (.inr rfl)
    · cases ended

end steps

end OpenStock.Workspaces
