import OpenStock.Workspaces.Calls
import OpenStock.Workspaces.LifecycleRuns

namespace OpenStock.Workspaces

variable {ν : Type} [Redaction ν]

/- Calls of which none interrupts another are the operations of the lifecycle. -/

def Call.event : Call ν → Event ν
  | .record mutation workspaceId now => .record mutation workspaceId now
  | .archive workspaceId now => .archive workspaceId now
  | .reactivate workspaceId now => .reactivate workspaceId now
  | .create workspaceId now => .create workspaceId now

-- A process acts until its call has ended.
def drive (limits : WorkspaceLimits) (pid : Nat) : Nat → System ν → Option (System ν)
  | 0,system => some system
  | fuel+1,system =>
    match system.running pid with
    | none => some system
    | some process => (act limits system pid process).bind (drive limits pid fuel)

def turn (limits : WorkspaceLimits) (pid : Nat) (call : Call ν) (system : System ν) : Option (System ν) :=
  (advance limits system (.start pid call)).bind (drive limits pid 7)

def turns (limits : WorkspaceLimits) : List (Nat × Call ν) → System ν → Option (System ν)
  | [],system => some system
  | (pid,call) :: rest,system => (turn limits pid call system).bind (turns limits rest)

omit [Redaction ν] in
-- No process runs and no lock is taken.
def System.Quiet (system : System ν) : Prop := system.running = (fun _ => none) ∧ system.locks = fun _ => none

-- Only this process runs, with its lock or without it.
def System.Alone (system : System ν) (pid : Nat) (process : Process ν) (held : Bool) : Prop :=
  system.running = Function.update (fun _ => none) pid (some process) ∧
    system.locks = if held then Function.update (fun _ => none) process.call.workspaceId (some pid) else fun _ => none

section turns
variable {limits : WorkspaceLimits} {system after : System ν} {call : Call ν} {pid : Nat} {loaded : Option (Workspace ν)}
  {held : Bool}

theorem drive_acts {process : Process ν} (alone : system.Alone pid process held)
    (acts : act limits system pid process = some after) (fuel : Nat) :
    drive limits pid (fuel + 1) system = drive limits pid fuel after := by
  simp [drive,alone.1,acts]

theorem loading_ends (alone : system.Alone pid ⟨call,.loading,none,[]⟩ held) (fuel : Nat)
    (refused : ∀ state, loadWorkspaceState system.root call.workspaceId = .ok state → call.accepts state = false) :
    ∃ after, drive limits pid (fuel + 1) system = some after ∧ after.Quiet ∧ after.root = system.root := by
  have ends : act limits system pid ⟨call,.loading,none,[]⟩ = some (system.ended pid ⟨call,.loading,none,[]⟩) := by
    cases found : loadWorkspaceState system.root call.workspaceId with
    | error raised => simp [act,found]
    | ok state => simp [act,found,refused state found]
  rw [drive_acts alone ends]
  refine ⟨system.ended pid ⟨call,.loading,none,[]⟩,?_,⟨?_,?_⟩,rfl⟩
  · cases fuel <;> simp [drive,System.ended]
  · simp [System.ended,alone.1]
  · cases held <;> simp [System.ended,System.released,alone.2]

theorem locking_goes (alone : system.Alone pid ⟨call,.locking,loaded,[]⟩ false) (fuel : Nat) :
    ∃ next, drive limits pid (fuel + 1) system = drive limits pid fuel next ∧ next.root = system.root ∧
      next.Alone pid ⟨call,call.afterLocking,loaded,[]⟩ true := by
  refine ⟨_,drive_acts alone (by simp [act,alone.2]; rfl) fuel,?_,?_,?_⟩
  · rfl
  · simp [System.put,alone.1]
  · simp

theorem loading_goes (alone : system.Alone pid ⟨call,.loading,none,[]⟩ held) (fuel : Nat)
    (found : loadWorkspaceState system.root call.workspaceId = .ok state) (accepted : call.accepts state = true) :
    ∃ next, drive limits pid (fuel + 1) system = drive limits pid fuel next ∧ next.root = system.root ∧
      next.Alone pid ⟨call,call.afterLoading,some state,[]⟩ held := by
  refine ⟨_,drive_acts alone (by simp [act,found,accepted]; rfl) fuel,?_,?_,?_⟩
  · rfl
  · simp [System.put,alone.1]
  · simp [System.put,alone.2]

theorem saving_ends (alone : system.Alone pid ⟨call,.saving,loaded,[]⟩ true) (fuel : Nat)
    (written : Process.save limits ⟨call,.saving,loaded,[]⟩ system.root = some root) :
    ∃ after, drive limits pid (fuel + 5) system = some after ∧ after.Quiet ∧
      after.root = call.point (writeWorkspaceIndex root root.index call.workspaceId) := by
  simp [drive,act,alone.1,alone.2,written,System.put,System.ended,System.released,System.Quiet]
  cases fuel <;> simp [drive]

-- A lifecycle call loads before it takes the lock.
theorem shelving_ends (alone : system.Alone pid ⟨call,.loading,none,[]⟩ false) (late : call.isRecord = false)
    (found : loadWorkspaceState system.root call.workspaceId = .ok state) (accepted : call.accepts state = true)
    (written : Process.save limits ⟨call,.saving,some state,[]⟩ system.root = some root) :
    ∃ after, drive limits pid 7 system = some after ∧ after.Quiet ∧
      after.root = call.point (writeWorkspaceIndex root root.index call.workspaceId) := by
  obtain ⟨next,goes,same,alone⟩ := loading_goes alone 6 found accepted
  rw [Call.afterLoading,late] at alone
  obtain ⟨locked,again,still,alone⟩ := locking_goes alone 5
  rw [Call.afterLocking,late] at alone
  rw [goes,again]
  exact saving_ends alone 0 (by rw [still,same,written])

theorem perform_refused {root : Root ν} (reads : call.isCreate = false)
    (refused : ∀ state, loadWorkspaceState root call.workspaceId = .ok state → call.accepts state = false) :
    (call.event.perform limits root).2 = root := by
  cases call with
  | create workspaceId now => cases reads
  | record mutation workspaceId now | archive workspaceId now | reactivate workspaceId now =>
    cases found : loadWorkspaceState root workspaceId with
    | error raised => simp [Call.event,Event.perform,Workspaces.record,archiveWorkspace,reactivateWorkspace,found]
    | ok state =>
      have turned := refused state found
      simp [Call.accepts] at turned
      try simp [Call.event,Event.perform,archiveWorkspace,reactivateWorkspace,found,turned]

theorem perform_saves {root : Root ν} (reads : call.isCreate = false) (found : loadWorkspaceState root call.workspaceId = .ok state)
    (accepted : call.accepts state = true) (written : Process.save limits ⟨call,.saving,some state,[]⟩ root = some saved) :
    (call.event.perform limits root).2 = call.point (writeWorkspaceIndex saved saved.index call.workspaceId) := by
  have named := ((loaded_iff _ _ _).mp found).2
  cases call with
  | create workspaceId now => cases reads
  | record mutation workspaceId now | archive workspaceId now | reactivate workspaceId now =>
    cases written
    simp [Call.accepts,Call.workspaceId] at found accepted named
    simp [Call.event,Event.perform,Workspaces.record,archiveWorkspace,reactivateWorkspace,found,accepted,Call.point,Call.workspaceId,
      persistWorkspaceUnlocked,enforceRetention,apply_workspaceId,named,save_writes,writeWorkspaceJson,writeWorkspaceIndex]

theorem turn_performs (pid : Nat) (call : Call ν) (quiet : system.Quiet) (fresh : system.fresh call = true) :
    ∃ after, turn limits pid call system = some after ∧ after.Quiet ∧ after.root = (call.event.perform limits system.root).2 := by
  obtain ⟨started,begun,same,alone⟩ : ∃ started, turn limits pid call system = drive limits pid 7 started ∧
      started.root = system.root ∧ started.Alone pid ⟨call,call.start,none,[]⟩ false := by
    refine ⟨_,by simp [turn,advance,quiet.1,fresh]; rfl,?_,?_,?_⟩
    · rfl
    · simp [System.put,quiet.1]
    · simp [System.put,quiet.2]
  rw [begun,← same]
  have answers (root : Root ν) : (∀ state, loadWorkspaceState root call.workspaceId = .ok state → call.accepts state = false) ∨
      ∃ state, loadWorkspaceState root call.workspaceId = .ok state ∧ call.accepts state = true := by
    by_contra neither
    push Not at neither
    obtain ⟨⟨state,found,accepted⟩,never⟩ := neither
    exact accepted (Bool.eq_false_iff.mpr (never state found))
  cases call with
  | create workspaceId now =>
    obtain ⟨next,goes,root,alone⟩ := locking_goes alone 6
    rw [goes,← root]
    exact saving_ends alone 1 rfl
  | record mutation workspaceId now =>
    obtain ⟨locked,goes,root,alone⟩ := locking_goes alone 6
    rw [goes,← root]
    rcases answers locked.root with refused | ⟨state,found,accepted⟩
    · rw [perform_refused rfl refused]
      exact loading_ends alone 5 refused
    · obtain ⟨next,goes,root,alone⟩ := loading_goes alone 5 found accepted
      rw [goes,perform_saves rfl found accepted rfl]
      exact saving_ends alone 0 (by rw [root]; rfl)
  | archive workspaceId now | reactivate workspaceId now =>
    rcases answers started.root with refused | ⟨state,found,accepted⟩
    · rw [perform_refused rfl refused]
      exact loading_ends alone 6 refused
    · rw [perform_saves rfl found accepted rfl]
      exact shelving_ends alone rfl found accepted rfl

-- A schedule without overlaps ends where the operations end that run in its order.
theorem turns_perform {calls : List (Nat × Call ν)} (quiet : system.Quiet) (ran : turns limits calls system = some after) :
    after.Quiet ∧ after.root = calls.foldl (fun root call => (call.2.event.perform limits root).2) system.root := by
  induction calls generalizing system with
  | nil =>
    cases ran
    exact ⟨quiet,rfl⟩
  | cons first rest ih =>
    obtain ⟨between,turned,later⟩ := Option.bind_eq_some_iff.mp ran
    have fresh : system.fresh first.2 = true := by
      by_contra stale
      simp [turn,advance,quiet.1,stale] at turned
    obtain ⟨next,again,still,same⟩ := turn_performs first.1 first.2 quiet fresh
    obtain rfl := Option.some.inj (turned.symm.trans again)
    rw [List.foldl_cons,← same]
    exact ih still later

end turns

def sampleTurns : List (Nat × Call Plain) :=
  [(0,.create "ws-1".toList "1".toList),(1,.record (.warning ⟨"late".toList⟩) "ws-1".toList "2".toList)]

theorem turns_perform_sample : ∃ after, turns workspaceLimits sampleTurns (System.initial Root.empty) = some after ∧
    after.root = reached workspaceLimits sampleWork := by
  have goes : (turns workspaceLimits sampleTurns (System.initial Root.empty)).isSome = true := by decide
  obtain ⟨after,ran⟩ := Option.isSome_iff_exists.mp goes
  exact ⟨after,ran,(turns_perform ⟨rfl,rfl⟩ ran).2⟩

end OpenStock.Workspaces
