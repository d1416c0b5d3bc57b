import OpenStock.Workspaces.KeptItems

namespace OpenStock.Workspaces

/- Running processes after a move. -/

section frames
variable {ν : Type} {system : System ν} {pid other : Nat} {process found : Process ν} {running : Nat → Option (Process ν)}

theorem running_put (runs : Function.update running pid (some process) other = some found) :
    (other = pid ∧ found = process) ∨ (other ≠ pid ∧ running other = some found) := by
  by_cases same : other = pid
  · subst same
    rw [Function.update_self] at runs
    cases runs
    exact .inl ⟨rfl,rfl⟩
  · rw [Function.update_of_ne same] at runs
    exact .inr ⟨same,runs⟩

theorem running_ended (runs : Function.update running pid none other = some found) :
    other ≠ pid ∧ running other = some found := by
  by_cases same : other = pid
  · subst same
    rw [Function.update_self] at runs
    cases runs
  · rw [Function.update_of_ne same] at runs
    exact ⟨same,runs⟩

theorem released_other (held : system.locks workspaceId = some other) (differs : other ≠ pid) (given : Text) :
    system.released pid given workspaceId = some other := by
  unfold System.released
  by_cases mine : system.locks given = some pid
  · rw [if_pos mine]
    have apart : workspaceId ≠ given := by
      intro same
      rw [same,mine] at held
      exact differs (Option.some.inj held).symm
    rw [Function.update_of_ne apart]
    exact held
  · rw [if_neg mine]
    exact held

end frames

section invariants
variable {ν : Type} [Redaction ν] {limits : WorkspaceLimits} {before after : System ν} {move : Move ν}

/- Who is in a critical section holds the lock. -/

def Locked (system : System ν) : Prop :=
  ∀ pid process, system.running pid = some process → process.holds = true → system.locks process.call.workspaceId = some pid

variable {pid : Nat}

omit [Redaction ν] in
theorem locked_same {process next : Process ν} (locked : Locked before) (runs : before.running pid = some process)
    (running : after.running = Function.update before.running pid (some next)) (locks : after.locks = before.locks)
    (same : next.call = process.call) (held : next.holds = true → process.holds = true) : Locked after := by
  intro other found present holding
  rw [running] at present
  rw [locks]
  rcases running_put present with ⟨rfl,rfl⟩ | ⟨_,old⟩
  · rw [same]
    exact locked other process runs (held holding)
  · exact locked other found old holding

omit [Redaction ν] in
theorem locked_ended {process : Process ν} (locked : Locked before)
    (running : after.running = Function.update before.running pid none)
    (locks : after.locks = before.released pid process.call.workspaceId) : Locked after := by
  intro other found present holding
  rw [running] at present
  obtain ⟨differs,old⟩ := running_ended present
  rw [locks]
  exact released_other (locked other found old holding) differs _

theorem locked_moved (locked : Locked before) (moved : Moved limits before move after) : Locked after := by
  cases moved with
  | @started pid call idle fresh =>
    intro other found present holding
    rcases running_put present with ⟨rfl,rfl⟩ | ⟨_,old⟩
    · cases call <;> cases holding
    · exact locked other found old holding
  | @loaded pid process state runs phase loaded accepted =>
    refine locked_same locked runs rfl rfl rfl ?_
    intro holding
    cases recording : process.call.isRecord with
    | true => simp [Process.holds,phase,recording]
    | false => simp [Process.holds,Call.afterLoading,recording] at holding
  | failed runs early ends => exact locked_ended locked rfl rfl
  | @locked pid process runs phase free =>
    intro other found present holding
    rcases running_put present with ⟨rfl,rfl⟩ | ⟨differs,old⟩
    · exact Function.update_self _ _ _
    · have held := locked other found old holding
      have apart : found.call.workspaceId ≠ process.call.workspaceId := by
        intro same
        rw [same,free] at held
        cases held
      change Function.update before.locks process.call.workspaceId (some pid) found.call.workspaceId = some other
      rw [Function.update_of_ne apart]
      exact held
  | saved runs phase written
  | readIndex runs phase
  | wroteIndex runs phase
  | pointed runs phase => exact locked_same locked runs rfl rfl rfl (fun _ => by simp [Process.holds,phase])
  | finished runs phase => exact locked_ended locked rfl rfl

/- The condition on a step: what it overwrites is what its process has read. -/

def Undisturbed (limits : WorkspaceLimits) (system : System ν) (process : Process ν) : Prop :=
  match process.phase with
  | .saving =>
    match process.call with
    | .record mutation _ now => ∀ current ∈ process.loaded, KeepsArtifacts limits (mutation.apply now current)
    | .archive workspaceId _ => ∀ state ∈ process.loaded, loadWorkspaceState system.root workspaceId = .ok state
    | .reactivate workspaceId _ => ∀ state ∈ process.loaded, loadWorkspaceState system.root workspaceId = .ok state
    | .create _ _ => True
  | .writingIndex => process.seen = system.root.index
  | _ => True

def Quiet (limits : WorkspaceLimits) (system : System ν) (move : Move ν) : Prop :=
  ∀ pid process, move = .act pid → system.running pid = some process → Undisturbed limits system process

def Step (limits : WorkspaceLimits) (_ : List (Move ν)) (before : System ν) (move : Move ν) (after : System ν) : Prop :=
  advance limits before move = some after ∧ Quiet limits before move

/- What a save writes. -/

structure Saved (before after : Root ν) (workspaceId : Text) (state : Workspace ν) : Prop where
  own : loadWorkspaceState after workspaceId = .ok state
  others : ∀ other, other ≠ workspaceId → loadWorkspaceState after other = loadWorkspaceState before other
  archives : ∀ other, other ≠ workspaceId → after.archives other = before.archives other
  index : after.index = before.index

theorem written_saved (root : Root ν) (state : Workspace ν) :
    Saved root (writeWorkspaceJson root state) state.workspaceId (persisted state) where
  own := load_saved root state
  others other differs := by
    unfold loadWorkspaceState writeWorkspaceJson
    dsimp only
    rw [Rows.find_upsert,persisted_workspaceId,if_neg differs]
  archives _ _ := rfl
  index := rfl

inductive Wrote (limits : WorkspaceLimits) (before after : Root ν) : Call ν → Workspace ν → Prop where
  | record (found : loadWorkspaceState before workspaceId = .ok current) (keeps : KeepsArtifacts limits (mutation.apply now current))
      (archives : after.archives workspaceId = archiveWith limits (mutation.apply now current) (before.archives workspaceId)) :
      Wrote limits before after (.record mutation workspaceId now) (persisted (retained limits (mutation.apply now current)))
  | status (found : loadWorkspaceState before call.workspaceId = .ok current) (gives : call.gives = some status)
      (archives : after.archives = before.archives) :
      Wrote limits before after call (persisted {current with status := status,updatedAt := now})
  | create : Wrote limits before after (.create workspaceId now) (persisted (newState workspaceId now))

variable {root next : Root ν}

-- Only a creation writes where nothing is.
theorem wrote_over (wrote : Wrote limits root next call state) :
    call.isCreate = true ∨ ∃ present, loadWorkspaceState root call.workspaceId = .ok present := by
  cases wrote with
  | record found keeps archives | status found gives archives => exact .inr ⟨_,found⟩
  | create => exact .inl rfl

-- A record_* call that is about to save has loaded what is there.
def Current (system : System ν) : Prop :=
  ∀ pid process, system.running pid = some process → process.call.isRecord = true → process.phase = .saving →
    ∃ state, process.loaded = some state ∧ loadWorkspaceState system.root process.call.workspaceId = .ok state

theorem process_saved {process : Process ν} {root : Root ν} (current : Current before)
    (runs : before.running pid = some process) (phase : process.phase = .saving)
    (undisturbed : Undisturbed limits before process) (written : process.save limits before.root = some root) :
    ∃ state, Saved before.root root process.call.workspaceId state ∧ Wrote limits before.root root process.call state := by
  have reading := current pid process runs
  obtain ⟨call,phase',loaded,seen⟩ := process
  cases phase
  cases call with
  | record mutation workspaceId now =>
    obtain ⟨state,rfl,found⟩ := reading rfl rfl
    cases written
    have named := ((loaded_iff before.root workspaceId state).mp found).2
    have keeps : KeepsArtifacts limits (mutation.apply now state) := undisturbed state rfl
    have same : (mutation.apply now state).workspaceId = workspaceId := (apply_workspaceId mutation now state).trans named
    have saved := written_saved (enforceRetention limits before.root (mutation.apply now state)).2 (retained limits (mutation.apply now state))
    rw [retained_workspaceId,same] at saved
    refine ⟨_,⟨saved.own,saved.others,?_,rfl⟩,.record found keeps ?_⟩
    · intro other differs
      refine (saved.archives other differs).trans ?_
      change Function.update before.root.archives (mutation.apply now state).workspaceId _ other = _
      rw [same]
      exact Function.update_of_ne differs _ _
    · change Function.update before.root.archives (mutation.apply now state).workspaceId _ workspaceId = _
      rw [same,Function.update_self]
  | archive workspaceId now =>
    obtain ⟨state,rfl,rfl⟩ := Option.map_eq_some_iff.mp written
    have found : loadWorkspaceState before.root workspaceId = .ok state := undisturbed state rfl
    obtain ⟨_,rfl⟩ := (loaded_iff before.root workspaceId state).mp found
    exact ⟨_,written_saved before.root {state with status := .archived,updatedAt := now},.status found rfl rfl⟩
  | reactivate workspaceId now =>
    obtain ⟨state,rfl,rfl⟩ := Option.map_eq_some_iff.mp written
    have found : loadWorkspaceState before.root workspaceId = .ok state := undisturbed state rfl
    obtain ⟨_,rfl⟩ := (loaded_iff before.root workspaceId state).mp found
    exact ⟨_,written_saved before.root {state with status := .active,updatedAt := now},.status found rfl rfl⟩
  | create workspaceId now =>
    cases written
    exact ⟨_,written_saved before.root (newState workspaceId now),.create⟩

omit [Redaction ν] in
theorem point_same (call : Call ν) (root : Root ν) :
    (call.point root).states = root.states ∧ (call.point root).archives = root.archives ∧ (call.point root).index = root.index := by
  cases call with
  | archive workspaceId now =>
    unfold Call.point
    dsimp only
    split <;> exact ⟨rfl,rfl,rfl⟩
  | record mutation workspaceId now | reactivate workspaceId now | create workspaceId now => exact ⟨rfl,rfl,rfl⟩

-- No workspace is written and no archive: loading finds what it found.
structure Unwritten (before after : Root ν) : Prop where
  loads : ∀ workspaceId, loadWorkspaceState after workspaceId = loadWorkspaceState before workspaceId
  archives : after.archives = before.archives

omit [Redaction ν] in
theorem unwritten_states {before after : Root ν} (states : after.states = before.states) (archives : after.archives = before.archives) :
    Unwritten before after := by
  refine ⟨?_,archives⟩
  intro workspaceId
  unfold loadWorkspaceState
  rw [states]

-- A process about to save, and what its save has written.
def Saves (limits : WorkspaceLimits) (before : System ν) (move : Move ν) (after : System ν) : Prop :=
  ∃ pid process, move = .act pid ∧ before.running pid = some process ∧ process.phase = .saving ∧
    process.save limits before.root = some after.root

-- Only a save writes workspaces.
theorem root_moved (moved : Moved limits before move after) : Unwritten before.root after.root ∨ Saves limits before move after := by
  cases moved with
  | saved runs phase written => exact .inr ⟨_,_,rfl,runs,phase,written⟩
  | pointed runs phase =>
    left
    obtain ⟨states,archives,_⟩ := point_same _ before.root
    exact unwritten_states states archives
  | started idle fresh | loaded runs phase found accepted | failed runs early ends
  | locked runs phase free | readIndex runs phase | wroteIndex runs phase
  | finished runs phase => exact .inl (unwritten_states rfl rfl)

-- The workspace of the call has been written.
def Phase.saved : Phase → Bool
  | .loading => false
  | .locking => false
  | .saving => false
  | _ => true

omit [Redaction ν] in
theorem saved_holds {process : Process ν} (saved : process.phase.saved = true) : process.holds = true := by
  obtain ⟨call,phase,loaded,seen⟩ := process
  cases phase with
  | loading => cases saved
  | locking => cases saved
  | saving => cases saved
  | readingIndex => rfl
  | writingIndex => rfl
  | pointing => rfl
  | unlocking => rfl

-- Where a running process comes from.
inductive Advanced (before : System ν) (old : Process ν) : Process ν → Prop where
  | loaded (phase : old.phase = .loading) (found : loadWorkspaceState before.root old.call.workspaceId = .ok state) :
      Advanced before old {old with loaded := some state,phase := old.call.afterLoading}
  | locked (phase : old.phase = .locking) : Advanced before old {old with phase := old.call.afterLocking}
  | saved (phase : old.phase = .saving) : Advanced before old {old with phase := .readingIndex}
  | readIndex (phase : old.phase = .readingIndex) : Advanced before old {old with seen := before.root.index,phase := .writingIndex}
  | wroteIndex (phase : old.phase = .writingIndex) : Advanced before old {old with phase := .pointing}
  | pointed (phase : old.phase = .pointing) : Advanced before old {old with phase := .unlocking}

inductive CameFrom (before after : System ν) (move : Move ν) (pid : Nat) : Process ν → Prop where
  | same (runs : before.running pid = some process) (bystander : move ≠ .act pid) : CameFrom before after move pid process
  | started (starts : move = .start pid call) (idle : before.running pid = none) (fresh : before.fresh call = true)
      (made : after.made = if call.isCreate then call.workspaceId :: before.made else before.made) :
      CameFrom before after move pid ⟨call,call.start,none,[]⟩
  | advanced (acts : move = .act pid) (runs : before.running pid = some old) (advanced : Advanced before old process) :
      CameFrom before after move pid process

omit [Redaction ν] in
theorem put_came {pid other : Nat} {old next found : Process ν} (acting : before.running pid = some old)
    (put : after.running = Function.update before.running pid (some next)) (advanced : Advanced before old next)
    (runs : after.running other = some found) : CameFrom before after (.act pid) other found := by
  rw [put] at runs
  rcases running_put runs with ⟨rfl,rfl⟩ | ⟨differs,still⟩
  · exact .advanced rfl acting advanced
  · exact .same still (fun same => differs (by cases same; rfl))

variable {found : Process ν}

theorem running_moved {other : Nat} (moved : Moved limits before move after)
    (runs : after.running other = some found) : CameFrom before after move other found := by
  cases moved with
  | started idle fresh =>
    rcases running_put runs with ⟨rfl,rfl⟩ | ⟨_,old⟩
    · exact .started rfl idle fresh rfl
    · exact .same old (fun same => by cases same)
  | failed ran early ends =>
    obtain ⟨differs,old⟩ := running_ended runs
    refine .same old ?_
    intro same
    rcases ends with acting | leaving
    · rw [acting] at same
      exact differs (by cases same; rfl)
    · rw [leaving] at same
      cases same
  | loaded ran phase loaded accepted => exact put_came ran rfl (.loaded phase loaded) runs
  | locked ran phase free => exact put_came ran rfl (.locked phase) runs
  | saved ran phase written => exact put_came ran rfl (.saved phase) runs
  | readIndex ran phase => exact put_came ran rfl (.readIndex phase) runs
  | wroteIndex ran phase => exact put_came ran rfl (.wroteIndex phase) runs
  | pointed ran phase => exact put_came ran rfl (.pointed phase) runs
  | finished ran phase =>
    obtain ⟨differs,old⟩ := running_ended runs
    exact .same old (fun same => differs (by cases same; rfl))

theorem current_moved (locked : Locked before) (current : Current before) (ran : advance limits before move = some after)
    (quiet : Quiet limits before move) : Current after := by
  have moved := advance_moved ran
  intro other found runs recording phase
  -- what the process has loaded is there before the move, and the move does not write this workspace
  have kept : ∀ {state}, (∀ process, move = .act other → before.running other = some process → process.phase ≠ .saving) →
      (∀ process, before.running other = some process → process.call.workspaceId = found.call.workspaceId ∧ process.holds = true) →
      before.running other ≠ none →
      loadWorkspaceState before.root found.call.workspaceId = .ok state → loadWorkspaceState after.root found.call.workspaceId = .ok state := by
    intro state idle holding present here
    rcases root_moved moved with unwritten | saves
    · rw [unwritten.loads]
      exact here
    · obtain ⟨pid,process,acts,running,saving,written⟩ := saves
      obtain ⟨_,saved,_⟩ := process_saved current running saving (quiet pid process acts running) written
      have differs : found.call.workspaceId ≠ process.call.workspaceId := by
        intro same
        cases mine : before.running other with
        | none => exact present mine
        | some own =>
          have held := holding own mine
          have first := locked other own mine held.2
          have second := locked pid process running (by simp [Process.holds,saving])
          rw [held.1,same,second] at first
          cases first
          exact idle process acts running saving
      rw [saved.others _ differs]
      exact here
  cases running_moved moved runs with
  | same running bystander =>
    obtain ⟨state,loaded,here⟩ := current other found running recording phase
    refine ⟨state,loaded,kept ?_ ?_ (by rw [running]; simp) here⟩
    · intro process acts
      exact absurd acts bystander
    · intro process same
      rw [running] at same
      cases same
      exact ⟨rfl,by simp [Process.holds,phase]⟩
  | @started call starts idle fresh made =>
    cases call <;> cases phase
  | @advanced old _ acts running advanced =>
    cases advanced with
    | @loaded state reading here =>
      refine ⟨state,rfl,kept ?_ ?_ (by rw [running]; simp) here⟩
      · intro process _ same
        rw [running] at same
        cases same
        rw [reading]
        intro wrong
        cases wrong
      · intro process same
        rw [running] at same
        cases same
        refine ⟨rfl,?_⟩
        unfold Process.holds
        rw [reading]
        exact recording
    | locked waiting =>
      change old.call.afterLocking = .saving at phase
      unfold Call.afterLocking at phase
      rw [if_pos recording] at phase
      cases phase
    | saved saving => cases phase
    | readIndex reading => cases phase
    | wroteIndex writing => cases phase
    | pointed pointing => cases phase

-- A workspace under creation is nowhere yet, and no one else creates it.
structure Unborn (system : System ν) : Prop where
  made : ∀ pid process, system.running pid = some process → process.call.isCreate = true → process.call.workspaceId ∈ system.made
  apart : ∀ first second one two, system.running first = some one → system.running second = some two →
    one.call.isCreate = true → two.call.isCreate = true → one.call.workspaceId = two.call.workspaceId → first = second
  absent : ∀ pid process, system.running pid = some process → process.call.isCreate = true → process.phase.saved = false →
    ∀ state, loadWorkspaceState system.root process.call.workspaceId ≠ .ok state

theorem made_grows (moved : Moved limits before move after) : ∀ workspaceId ∈ before.made, workspaceId ∈ after.made := by
  intro workspaceId old
  cases moved with
  | started idle fresh =>
    dsimp only
    split
    · exact List.mem_cons_of_mem _ old
    · exact old
  | loaded runs phase found accepted => exact old
  | failed runs early ends => exact old
  | locked runs phase free => exact old
  | saved runs phase written => exact old
  | readIndex runs phase => exact old
  | wroteIndex runs phase => exact old
  | pointed runs phase => exact old
  | finished runs phase => exact old

omit [Redaction ν] in
theorem advanced_call {old found : Process ν} (advanced : Advanced before old found) : found.call = old.call := by
  cases advanced <;> rfl

omit [Redaction ν] in
theorem came_from (came : CameFrom before after move pid found) :
    (∃ old, before.running pid = some old ∧ old.call = found.call) ∨
      (move = .start pid found.call ∧ before.fresh found.call = true ∧
        after.made = if found.call.isCreate then found.call.workspaceId :: before.made else before.made) := by
  cases came with
  | same runs bystander => exact .inl ⟨found,runs,rfl⟩
  | started starts idle fresh made => exact .inr ⟨starts,fresh,made⟩
  | advanced acts runs advanced => exact .inl ⟨_,runs,(advanced_call advanced).symm⟩

omit [Redaction ν] in
theorem fresh_create (fresh : before.fresh call = true) (creates : call.isCreate = true) :
    call.workspaceId ∉ before.made ∧ ∀ state, loadWorkspaceState before.root call.workspaceId ≠ .ok state := by
  simp only [System.fresh,creates,Bool.not_true,Bool.false_or,Bool.and_eq_true,decide_eq_true_eq,List.all_eq_true] at fresh
  refine ⟨fresh.1,?_⟩
  intro state found
  obtain ⟨inside,named⟩ := (loaded_iff before.root call.workspaceId state).mp found
  exact fresh.2 state inside named

theorem unborn_moved (current : Current before) (unborn : Unborn before) (ran : advance limits before move = some after)
    (quiet : Quiet limits before move) : Unborn after := by
  have moved := advance_moved ran
  refine ⟨?_,?_,?_⟩
  · intro pid found runs creates
    rcases came_from (running_moved moved runs) with ⟨old,running,same⟩ | ⟨_,_,made⟩
    · rw [← same]
      exact made_grows moved _ (unborn.made pid old running (by rw [same]; exact creates))
    · rw [made,if_pos creates]
      exact List.mem_cons_self
  · intro first second one two left right creates also same
    rcases came_from (running_moved moved left) with ⟨old,running,call⟩ | ⟨starts,fresh,_⟩
    · rcases came_from (running_moved moved right) with ⟨other,ran',call'⟩ | ⟨_,fresh,_⟩
      · apply unborn.apart first second old other running ran'
        · rw [call]
          exact creates
        · rw [call']
          exact also
        · rw [call,call']
          exact same
      · have known := unborn.made first old running (by rw [call]; exact creates)
        rw [call,same] at known
        exact absurd known (fresh_create fresh also).1
    · rcases came_from (running_moved moved right) with ⟨other,ran',call'⟩ | ⟨starts',_,_⟩
      · have known := unborn.made second other ran' (by rw [call']; exact also)
        rw [call',← same] at known
        exact absurd known (fresh_create fresh creates).1
      · exact (Move.start.inj (starts.symm.trans starts')).1
  · intro pid found runs creates unsaved
    -- nothing under this name before the move, and a save of another process is of another name
    have still : ∀ {old}, before.running pid = some old → old.call = found.call → (move = .act pid → old.phase ≠ .saving) →
        (∀ state, loadWorkspaceState before.root found.call.workspaceId ≠ .ok state) →
        ∀ state, loadWorkspaceState after.root found.call.workspaceId ≠ .ok state := by
      intro old running call idle absent state
      rcases root_moved moved with unwritten | saves
      · rw [unwritten.loads]
        exact absent state
      · obtain ⟨other,process,acts,ran',saving,written⟩ := saves
        obtain ⟨_,saved,wrote⟩ := process_saved current ran' saving (quiet other process acts ran') written
        have differs : found.call.workspaceId ≠ process.call.workspaceId := by
          intro same
          rcases wrote_over wrote with creation | ⟨present,here⟩
          · have one := unborn.apart pid other old process running ran' (by rw [call]; exact creates) creation
              (by rw [call]; exact same)
            subst one
            rw [running] at ran'
            cases ran'
            exact idle acts saving
          · rw [← same] at here
            exact absent present here
        rw [saved.others _ differs]
        exact absent state
    cases running_moved moved runs with
    | same running bystander =>
      exact still running rfl (fun acts => absurd acts bystander) (unborn.absent pid found running creates unsaved)
    | started starts idle fresh made =>
      rcases root_moved moved with unwritten | saves
      · intro state
        rw [unwritten.loads]
        exact (fresh_create fresh creates).2 state
      · obtain ⟨other,process,acts,_⟩ := saves
        rw [starts] at acts
        cases acts
    | @advanced old _ acts running advanced =>
      have before' : ∀ phase, old.phase = phase → phase.saved = false → ∀ state, loadWorkspaceState before.root old.call.workspaceId ≠ .ok state := by
        intro phase is not
        apply unborn.absent pid old running
        · rw [← advanced_call advanced]
          exact creates
        · rw [is]
          exact not
      cases advanced with
      | loaded phase here => exact absurd here (before' _ phase rfl _)
      | locked phase => exact still running rfl (fun _ => by rw [phase]; simp) (before' _ phase rfl)
      | saved phase | readIndex phase | wroteIndex phase | pointed phase => cases unsaved

/- Recorded items stay. -/

variable {ι : Type} {identity : ν → ι} {mutation : Mutation ν}

omit [Redaction ν] in
theorem kept_unwritten (unwritten : Unwritten root next)
    (kept : Kept identity root workspaceId mutation) : Kept identity next workspaceId mutation := by
  obtain ⟨state,found,inside⟩ := kept
  refine ⟨state,by rw [unwritten.loads]; exact found,?_⟩
  unfold Root.holds at inside ⊢
  rw [unwritten.archives]
  exact inside

-- A record_* call keeps what was there and adds its own item.
theorem record_keeps (recognizable : Recognizable identity) (keeps : KeepsArtifacts limits state)
    (archive : Archive ν) (inside : known ∈ (state.items kind ++ archive.items kind).map identity) :
    known ∈ ((persisted (retained limits state)).items kind ++ (archiveWith limits state archive).items kind).map identity := by
  rw [persisted_items,List.map_append,List.map_map]
  obtain ⟨item,listed,rfl⟩ := List.mem_map.mp inside
  rcases List.mem_append.mp listed with present | old
  · obtain ⟨other,place,same⟩ := retained_items recognizable keeps archive present
    rw [← same]
    rcases place with here | there
    · apply List.mem_append_left
      rw [← recognizable.stored other]
      exact List.mem_map_of_mem here
    · exact List.mem_append_right _ (List.mem_map_of_mem there)
  · exact List.mem_append_right _ (List.mem_map_of_mem (archived_older limits state old))

theorem wrote_keeps (recognizable : Recognizable identity)
    (saved : Saved root next call.workspaceId state) (wrote : Wrote limits root next call state)
    (nowhere : call.isCreate = true → ∀ state, loadWorkspaceState root call.workspaceId ≠ .ok state)
    (kept : Kept identity root workspaceId mutation) : Kept identity next workspaceId mutation := by
  obtain ⟨present,found,inside⟩ := kept
  have named := ((loaded_iff root workspaceId present).mp found).2
  by_cases same : workspaceId = call.workspaceId
  · subst same
    have own := ((loaded_iff next call.workspaceId state).mp saved.own).2
    refine ⟨state,saved.own,?_⟩
    unfold Root.holds at inside ⊢
    rw [named] at inside
    rw [own]
    cases wrote with
    | @record _ current added now here keeps archives =>
      cases found.symm.trans here
      dsimp only [Call.workspaceId] at inside ⊢
      rw [archives]
      apply record_keeps recognizable keeps
      rw [List.map_append] at inside ⊢
      rcases List.mem_append.mp inside with listed | old
      · apply List.mem_append_left
        obtain ⟨item,member,is⟩ := List.mem_map.mp listed
        rw [← is]
        exact List.mem_map_of_mem (applied_older added now member)
      · exact List.mem_append_right _ old
    | status here gives archives =>
      cases found.symm.trans here
      rw [archives,List.map_append,persisted_items,List.map_map]
      rw [List.map_append] at inside
      rcases List.mem_append.mp inside with listed | old
      · apply List.mem_append_left
        obtain ⟨item,member,is⟩ := List.mem_map.mp listed
        rw [← is,← recognizable.stored item]
        exact List.mem_map_of_mem (by cases mutation <;> exact member)
      · exact List.mem_append_right _ old
    | create => exact absurd found (nowhere rfl present)
  · refine ⟨present,by rw [saved.others _ same]; exact found,?_⟩
    unfold Root.holds at inside ⊢
    rw [saved.archives _ (by rw [named]; exact same)]
    exact inside

theorem wrote_records (recognizable : Recognizable identity)
    (saved : Saved root next workspaceId state) (wrote : Wrote limits root next (.record mutation workspaceId now) state) :
    Kept identity next workspaceId mutation := by
  have own := ((loaded_iff next workspaceId state).mp saved.own).2
  refine ⟨state,saved.own,?_⟩
  unfold Root.holds
  rw [own]
  cases wrote with
  | record here keeps archives =>
    rw [archives]
    apply record_keeps recognizable keeps
    rw [List.map_append]
    exact List.mem_append_left _ (applied_item recognizable mutation now _)
  | status here gives archives => cases gives

theorem kept_moved (recognizable : Recognizable identity) (current : Current before) (unborn : Unborn before)
    (ran : advance limits before move = some after) (quiet : Quiet limits before move) {workspaceId : Text} {mutation : Mutation ν}
    (kept : Kept identity before.root workspaceId mutation) : Kept identity after.root workspaceId mutation := by
  rcases root_moved (advance_moved ran) with unwritten | saves
  · exact kept_unwritten unwritten kept
  · obtain ⟨pid,process,acts,runs,saving,written⟩ := saves
    obtain ⟨state,saved,wrote⟩ := process_saved current runs saving (quiet pid process acts runs) written
    refine wrote_keeps recognizable saved wrote ?_ kept
    intro creates
    exact unborn.absent pid process runs creates (by rw [saving]; rfl)

theorem mem_indexWith (index : List Text) (added workspaceId : Text) :
    workspaceId ∈ indexWith index added ↔ workspaceId = added ∨ workspaceId ∈ index := by
  simp [indexWith]

theorem index_moved (current : Current before) (ran : advance limits before move = some after) (quiet : Quiet limits before move)
    {workspaceId : Text} (listed : workspaceId ∈ before.root.index) : workspaceId ∈ after.root.index := by
  cases advance_moved ran with
  | saved runs phase written =>
    obtain ⟨_,saved,_⟩ := process_saved current runs phase (quiet _ _ rfl runs) written
    rw [saved.index]
    exact listed
  | @wroteIndex pid process runs phase =>
    have seen := quiet pid process rfl runs
    unfold Undisturbed at seen
    rw [phase] at seen
    change workspaceId ∈ indexWith process.seen _
    rw [mem_indexWith,seen]
    exact .inr listed
  | @pointed pid process runs phase =>
    change workspaceId ∈ (process.call.point before.root).index
    rw [(point_same process.call before.root).2.2]
    exact listed
  | started idle fresh | loaded runs phase found accepted | failed runs early ends | locked runs phase free
  | readIndex runs phase | finished runs phase => exact listed

theorem returned_kept (moved : Moved limits before move after) :
    after.returned = before.returned ∨ ∃ pid process, before.running pid = some process ∧ process.phase = .unlocking ∧
      after.root = before.root ∧ after.returned = (pid,process.call) :: before.returned := by
  cases moved with
  | finished runs phase => exact .inr ⟨_,_,runs,phase,rfl,rfl⟩
  | started idle fresh | loaded runs phase found accepted | failed runs early ends | locked runs phase free
  | saved runs phase written | readIndex runs phase | wroteIndex runs phase | pointed runs phase => exact .inl rfl

theorem returned_moved (moved : Moved limits before move after) (returned : (pid,call) ∈ after.returned) :
    (pid,call) ∈ before.returned ∨ ∃ process, before.running pid = some process ∧ process.phase = .unlocking ∧ process.call = call := by
  rcases returned_kept moved with same | ⟨ended,process,runs,phase,_,more⟩
  · rw [same] at returned
    exact .inl returned
  · rw [more] at returned
    rcases List.mem_cons.mp returned with now | old
    · cases now
      exact .inr ⟨process,runs,phase,rfl⟩
    · exact .inl old

-- A process acts in the phase it is in.
theorem act_moved {process : Process ν} (ran : advance limits before (.act pid) = some after)
    (runs : before.running pid = some process) : act limits before pid process = some after := by
  simp only [advance,runs,Option.bind_some] at ran
  exact ran

theorem saving_moved {process : Process ν} (ran : advance limits before (.act pid) = some after)
    (runs : before.running pid = some process) (saving : process.phase = .saving) :
    process.save limits before.root = some after.root := by
  have acted := act_moved ran runs
  unfold act at acted
  rw [saving] at acted
  obtain ⟨root,written,rfl⟩ := Option.map_eq_some_iff.mp acted
  exact written

theorem writing_moved {process : Process ν} (ran : advance limits before (.act pid) = some after)
    (runs : before.running pid = some process) (writing : process.phase = .writingIndex) :
    after.root = writeWorkspaceIndex before.root process.seen process.call.workspaceId := by
  have acted := act_moved ran runs
  unfold act at acted
  rw [writing] at acted
  cases acted
  rfl

def Phase.indexed : Phase → Bool
  | .pointing => true
  | .unlocking => true
  | _ => false

-- What a call that returned has brought about.
def Achieved (identity : ν → ι) (root : Root ν) : Call ν → Prop
  | .record mutation workspaceId _ => Kept identity root workspaceId mutation
  | .create workspaceId _ => workspaceId ∈ root.index
  | .archive _ _ => True
  | .reactivate _ _ => True

structure Achieving (identity : ν → ι) (system : System ν) : Prop where
  kept : ∀ pid process mutation workspaceId now, system.running pid = some process →
    process.call = .record mutation workspaceId now → process.phase.saved = true → Kept identity system.root workspaceId mutation
  listed : ∀ pid process, system.running pid = some process → process.call.isCreate = true → process.phase.indexed = true →
    process.call.workspaceId ∈ system.root.index
  done : ∀ pid call, (pid,call) ∈ system.returned → Achieved identity system.root call

theorem achieving_moved (recognizable : Recognizable identity) (current : Current before) (unborn : Unborn before)
    (achieving : Achieving identity before) (ran : advance limits before move = some after) (quiet : Quiet limits before move) :
    Achieving identity after := by
  have moved := advance_moved ran
  have keeps {workspaceId mutation} := @kept_moved ν _ limits before after move ι identity recognizable current unborn ran quiet workspaceId mutation
  refine ⟨?_,?_,?_⟩
  · intro pid found mutation workspaceId now runs records saved
    cases running_moved moved runs with
    | same running bystander => exact keeps (achieving.kept pid found mutation workspaceId now running records saved)
    | @started call starts idle fresh made =>
      cases records
      cases saved
    | @advanced old _ acts running advanced =>
      have call : old.call = .record mutation workspaceId now := (advanced_call advanced).symm.trans records
      have earlier : old.phase.saved = true → Kept identity after.root workspaceId mutation :=
        fun past => keeps (achieving.kept pid old mutation workspaceId now running call past)
      cases advanced with
      | loaded phase here =>
        change old.call.afterLoading.saved = true at saved
        rw [call] at saved
        cases saved
      | locked phase =>
        change old.call.afterLocking.saved = true at saved
        rw [call] at saved
        cases saved
      | saved phase =>
        subst acts
        obtain ⟨_,saved',wrote⟩ := process_saved current running phase (quiet pid old rfl running) (saving_moved ran running phase)
        rw [call] at saved' wrote
        exact wrote_records recognizable saved' wrote
      | readIndex phase | wroteIndex phase | pointed phase => exact earlier (by rw [phase]; rfl)
  · intro pid found runs creates indexed
    have listed {workspaceId} := @index_moved ν _ limits before after move current ran quiet workspaceId
    cases running_moved moved runs with
    | same running bystander => exact listed (achieving.listed pid found running creates indexed)
    | @started call starts idle fresh made => cases call <;> cases indexed
    | @advanced old _ acts running advanced =>
      cases advanced with
      | loaded phase here =>
        change old.call.afterLoading.indexed = true at indexed
        unfold Call.afterLoading at indexed
        split at indexed <;> cases indexed
      | locked phase =>
        change old.call.afterLocking.indexed = true at indexed
        unfold Call.afterLocking at indexed
        split at indexed <;> cases indexed
      | saved phase | readIndex phase => cases indexed
      | wroteIndex phase =>
        subst acts
        rw [writing_moved ran running phase]
        exact (mem_indexWith old.seen _ _).mpr (.inl rfl)
      | pointed phase => exact listed (achieving.listed pid old running creates (by rw [phase]; rfl))
  · intro pid call returned
    have stays : Achieved identity before.root call → Achieved identity after.root call := by
      intro achieved
      cases call with
      | record mutation workspaceId now => exact keeps achieved
      | create workspaceId now => exact index_moved current ran quiet achieved
      | archive workspaceId now => trivial
      | reactivate workspaceId now => trivial
    rcases returned_moved moved returned with old | ⟨process,running,phase,rfl⟩
    · exact stays (achieving.done pid call old)
    · apply stays
      cases is : process.call with
      | record mutation workspaceId now => exact achieving.kept pid process mutation workspaceId now running is (by rw [phase]; rfl)
      | create workspaceId now =>
        have listed := achieving.listed pid process running (by rw [is]; rfl) (by rw [phase]; rfl)
        rw [is] at listed
        exact listed
      | archive workspaceId now => trivial
      | reactivate workspaceId now => trivial

/- The status a call gave stays until another call changes it. -/

def Has (root : Root ν) (workspaceId : Text) (status : Status) : Prop :=
  ∃ state, loadWorkspaceState root workspaceId = .ok state ∧ state.status = status

-- The status given by the latest call that returned, if it gave one.
def verdict (workspaceId : Text) : List (Nat × Call ν) → Option Status
  | [] => none
  | (_,call) :: earlier =>
    if call.workspaceId = workspaceId ∧ call.gives.isSome then call.gives else verdict workspaceId earlier

structure Deciding (system : System ν) : Prop where
  under : ∀ pid process status, system.running pid = some process → process.call.gives = some status →
    process.phase.saved = true → Has system.root process.call.workspaceId status
  done : ∀ workspaceId status, verdict workspaceId system.returned = some status →
    Has system.root workspaceId status ∨
      ∃ pid process, system.running pid = some process ∧ process.call.workspaceId = workspaceId ∧
        process.call.gives.isSome = true ∧ process.phase.saved = true

-- A save of the same workspace is made by a call that gives a status, or keeps it.
theorem has_moved (current : Current before) (unborn : Unborn before) (ran : advance limits before move = some after)
    (quiet : Quiet limits before move) {workspaceId : Text} {status : Status} (has : Has before.root workspaceId status) :
    Has after.root workspaceId status ∨ ∃ pid process, move = .act pid ∧ before.running pid = some process ∧
      process.phase = .saving ∧ process.call.workspaceId = workspaceId ∧ process.call.gives.isSome = true := by
  obtain ⟨present,found,held⟩ := has
  rcases root_moved (advance_moved ran) with unwritten | saves
  · exact .inl ⟨present,by rw [unwritten.loads]; exact found,held⟩
  · obtain ⟨pid,process,acts,runs,saving,written⟩ := saves
    obtain ⟨state,saved,wrote⟩ := process_saved current runs saving (quiet pid process acts runs) written
    by_cases same : workspaceId = process.call.workspaceId
    · cases gives : process.call.gives with
      | some given => exact .inr ⟨pid,process,acts,runs,saving,same.symm,by rw [gives]; rfl⟩
      | none =>
        left
        refine ⟨state,by rw [same]; exact saved.own,?_⟩
        rw [same] at found
        have absent := unborn.absent pid process runs
        generalize process.call = call at wrote gives found absent
        cases wrote with
        | @record _ loaded mutation now here keeps archives =>
          cases found.symm.trans here
          exact (apply_status mutation now present).trans held
        | status here given archives =>
          rw [gives] at given
          cases given
        | create => exact absurd found (absent rfl (by rw [saving]; rfl) present)
    · exact .inl ⟨present,by rw [saved.others _ same]; exact found,held⟩

omit [Redaction ν] in
theorem saved_put {pid other : Nat} {process old next : Process ν} (runs : before.running pid = some process)
    (saved : process.phase.saved = true) (acting : before.running other = some old)
    (put : after.running = Function.update before.running other (some next))
    (goes : old.phase.saved = true → next.call = old.call ∧ next.phase.saved = true) :
    ∃ next, after.running pid = some next ∧ next.call = process.call ∧ next.phase.saved = true := by
  rw [put]
  by_cases same : pid = other
  · subst same
    cases runs.symm.trans acting
    exact ⟨_,Function.update_self _ _ _,goes saved⟩
  · exact ⟨process,(Function.update_of_ne same _ _).trans runs,rfl,saved⟩

-- A process that has saved goes on until it returns.
theorem saved_stays {process : Process ν} (ran : advance limits before move = some after)
    (runs : before.running pid = some process) (saved : process.phase.saved = true) :
    (∃ next, after.running pid = some next ∧ next.call = process.call ∧ next.phase.saved = true) ∨
      (move = .act pid ∧ after.returned = (pid,process.call) :: before.returned) := by
  cases advance_moved ran with
  | @started other call idle fresh =>
    have differs : pid ≠ other := fun same => by rw [same,idle] at runs; cases runs
    exact .inl ⟨process,(Function.update_of_ne differs _ _).trans runs,rfl,saved⟩
  | loaded running phase found accepted => exact .inl (saved_put runs saved running rfl (by rw [phase]; intro past; cases past))
  | @failed other old _ running early ends =>
    have differs : pid ≠ other := by
      intro same
      subst same
      cases runs.symm.trans running
      rcases early with phase | phase <;> rw [phase] at saved <;> cases saved
    exact .inl ⟨process,(Function.update_of_ne differs _ _).trans runs,rfl,saved⟩
  | locked running phase free
  | saved running phase written => exact .inl (saved_put runs saved running rfl (by rw [phase]; intro past; cases past))
  | readIndex running phase | wroteIndex running phase
  | pointed running phase => exact .inl (saved_put runs saved running rfl (fun _ => ⟨rfl,rfl⟩))
  | @finished other old running phase =>
    by_cases same : pid = other
    · subst same
      cases runs.symm.trans running
      exact .inr ⟨rfl,rfl⟩
    · exact .inl ⟨process,(Function.update_of_ne same _ _).trans runs,rfl,saved⟩

theorem deciding_moved (locked : Locked before) (current : Current before) (unborn : Unborn before) (deciding : Deciding before)
    (ran : advance limits before move = some after) (quiet : Quiet limits before move) : Deciding after := by
  have moved := advance_moved ran
  have has {workspaceId status} := @has_moved ν _ limits before after move current unborn ran quiet workspaceId status
  refine ⟨?_,?_⟩
  · intro pid found status runs gives saved
    -- who has saved holds the lock, so no other process saves this workspace
    have alone : ∀ old, before.running pid = some old → old.call = found.call → old.phase.saved = true →
        Has before.root found.call.workspaceId status → Has after.root found.call.workspaceId status := by
      intro old running call past held
      rcases has held with still | ⟨other,process,acts,running',saving,same,_⟩
      · exact still
      · have holding := saved_holds past
        have first := locked pid old running holding
        have second := locked other process running' (by simp [Process.holds,saving])
        rw [call,← same,second] at first
        cases first
        cases running.symm.trans running'
        rw [saving] at past
        cases past
    cases running_moved moved runs with
    | same running bystander => exact alone found running rfl saved (deciding.under pid found status running gives saved)
    | @started call starts idle fresh made => cases call <;> cases saved
    | @advanced old _ acts running advanced =>
      have call := advanced_call advanced
      have earlier : old.phase.saved = true → Has after.root found.call.workspaceId status := by
        intro past
        apply alone old running call.symm past
        rw [call]
        exact deciding.under pid old status running (by rw [← call]; exact gives) past
      cases advanced with
      | loaded phase here =>
        change old.call.afterLoading.saved = true at saved
        unfold Call.afterLoading at saved
        split at saved <;> cases saved
      | locked phase =>
        change old.call.afterLocking.saved = true at saved
        unfold Call.afterLocking at saved
        split at saved <;> cases saved
      | saved phase =>
        subst acts
        obtain ⟨state,wrote,kind⟩ := process_saved current running phase (quiet pid old rfl running) (saving_moved ran running phase)
        refine ⟨state,wrote.own,?_⟩
        change old.call.gives = some status at gives
        generalize old.call = made at kind gives
        cases kind with
        | record here keeps archives => cases gives
        | status here given archives =>
          cases given.symm.trans gives
          rfl
        | create => cases gives
      | readIndex phase | wroteIndex phase | pointed phase => exact earlier (by rw [phase]; rfl)
  · intro workspaceId status decided
    rcases returned_kept moved with kept | ⟨pid,process,running,phase,root,returned⟩
    · rw [kept] at decided
      rcases deciding.done workspaceId status decided with held | ⟨pid,process,running,named,gives,saved⟩
      · rcases has held with still | ⟨pid,process,acts,running,saving,named,gives⟩
        · exact .inl still
        · subst acts
          have acted := act_moved ran running
          unfold act at acted
          rw [saving] at acted
          obtain ⟨root,_,rfl⟩ := Option.map_eq_some_iff.mp acted
          exact .inr ⟨pid,_,Function.update_self _ _ _,named,gives,rfl⟩
      · rcases saved_stays ran running saved with ⟨next,runs,call,past⟩ | ⟨_,returned⟩
        · refine .inr ⟨pid,next,runs,?_,?_,past⟩
          · rw [call]
            exact named
          · rw [call]
            exact gives
        · rw [kept] at returned
          exact absurd returned.symm (List.cons_ne_self _ _)
    · rw [returned,verdict] at decided
      rw [root]
      split at decided
      · rename_i mine
        left
        rw [← mine.1]
        exact deciding.under pid process status running decided (by rw [phase]; rfl)
      · rename_i other
        rcases deciding.done workspaceId status decided with held | ⟨still,present,runs,named,gives,saved⟩
        · exact .inl held
        · right
          rcases saved_stays ran runs saved with ⟨next,runs',call,past⟩ | ⟨_,back⟩
          · refine ⟨still,next,runs',?_,?_,past⟩
            · rw [call]
              exact named
            · rw [call]
              exact gives
          · rw [returned] at back
            have same := congrArg Prod.snd (List.cons.inj back).1
            dsimp only at same
            exact absurd ⟨by rw [same]; exact named,by rw [same]; exact gives⟩ other

/- Whole runs. -/

structure Invariant (identity : ν → ι) (system : System ν) : Prop where
  locked : Locked system
  current : Current system
  unborn : Unborn system
  achieving : Achieving identity system
  deciding : Deciding system

omit [Redaction ν] in
theorem invariant_initial (root : Root ν) : Invariant identity (System.initial root) where
  locked := by
    intro pid process runs
    cases runs
  current := by
    intro pid process runs
    cases runs
  unborn := by
    refine ⟨?_,?_,?_⟩
    · intro pid process runs
      cases runs
    · intro first second one two runs
      cases runs
    · intro pid process runs
      cases runs
  achieving := by
    refine ⟨?_,?_,?_⟩
    · intro pid process mutation workspaceId now runs
      cases runs
    · intro pid process runs
      cases runs
    · intro pid call returned
      cases returned
  deciding := by
    refine ⟨?_,?_⟩
    · intro pid process status runs
      cases runs
    · intro workspaceId status decided
      cases decided

theorem invariant_moved (recognizable : Recognizable identity) (invariant : Invariant identity before)
    (ran : advance limits before move = some after) (quiet : Quiet limits before move) : Invariant identity after where
  locked := locked_moved invariant.locked (advance_moved ran)
  current := current_moved invariant.locked invariant.current ran quiet
  unborn := unborn_moved invariant.current invariant.unborn ran quiet
  achieving := achieving_moved recognizable invariant.current invariant.unborn invariant.achieving ran quiet
  deciding := deciding_moved invariant.locked invariant.current invariant.unborn invariant.deciding ran quiet

theorem run_invariant (recognizable : Recognizable identity) {root : Root ν} {system : System ν}
    (run : Runs (Step limits) (System.initial root) history system) : Invariant identity system := by
  induction run with
  | nil => exact invariant_initial root
  | step _ step invariant => exact invariant_moved recognizable invariant step.1 step.2

end invariants

/- A creation by itself, and an archiving that overwrites a warning. -/

def Unguarded (_ : List (Move Plain)) (before : System Plain) (move : Move Plain) (after : System Plain) : Prop :=
  advance workspaceLimits before move = some after

def creation : List (Move Plain) :=
  [.start 1 (.create "ws-1".toList "1".toList),.act 1,.act 1,.act 1,.act 1,.act 1,.act 1]

-- Enough for a step to be quiet: no save but of a creation, and an index that is what was read.
def evidentlyQuiet (system : System Plain) : Move Plain → Bool
  | .act pid => (system.running pid).all (fun process =>
      (process.call.isCreate || decide (process.phase ≠ .saving)) &&
      (decide (process.phase ≠ .writingIndex) || decide (process.seen = system.root.index)))
  | _ => true

variable {move : Move Plain}

theorem evidently_quiet {system : System Plain} (evident : evidentlyQuiet system move = true) :
    Quiet workspaceLimits system move := by
  intro pid process acts runs
  subst acts
  simp only [evidentlyQuiet,runs,Option.all_some,Bool.and_eq_true,Bool.or_eq_true,decide_eq_true_eq] at evident
  obtain ⟨call,phase,loaded,seen⟩ := process
  cases phase with
  | saving =>
    rcases evident.1 with creates | wrong
    · cases call with
      | create workspaceId now => trivial
      | record mutation workspaceId now | archive workspaceId now | reactivate workspaceId now => cases creates
    · exact absurd rfl wrong
  | writingIndex =>
    rcases evident.2 with wrong | same
    · exact absurd rfl wrong
    · exact same
  | loading => trivial
  | locking => trivial
  | readingIndex => trivial
  | pointing => trivial
  | unlocking => trivial

def quietAdvance (_ : List (Move Plain)) (system : System Plain) (move : Move Plain) : Option (System Plain) :=
  if evidentlyQuiet system move then advance workspaceLimits system move else none

theorem quietAdvance_step {before after : System Plain}
    (advanced : quietAdvance history before move = some after) : Step workspaceLimits history before move after := by
  unfold quietAdvance at advanced
  split at advanced
  · rename_i evident
    exact ⟨advanced,evidently_quiet evident⟩
  · cases advanced

theorem plain_recognizable : Recognizable Plain.text := ⟨fun _ => rfl,fun _ => rfl⟩

-- Process 1 loads the workspace to archive it, process 2 records a warning, process 1 goes on.
def overlap : List (Move Plain) :=
  [.start 1 (.archive "ws-1".toList "1".toList),.act 1,.start 2 (.record (.warning ⟨"late".toList⟩) "ws-1".toList "2".toList),
   .act 2,.act 2,.act 2,.act 2,.act 2,.act 2,.act 2,.act 1,.act 1,.act 1,.act 1,.act 1,.act 1]

def sharedRoot : Root Plain := (createWorkspace "ws-1".toList "0".toList Root.empty).2

end OpenStock.Workspaces
