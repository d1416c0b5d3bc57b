import OpenStock.Workspaces.Lifecycle

namespace OpenStock.Workspaces

variable {ν : Type} [Redaction ν]

/- What one operation does to the agreement of pointer and statuses. -/

theorem saved_agrees (root : Root ν) (state : Workspace ν) :
    Agrees (saveLatestWorkspaceId (saveWorkspaceState root state) state.workspaceId) ↔
      state.status = .active ∧ Alone state.workspaceId root := by
  have mine : persisted state ∈ (saveWorkspaceState root state).states := (mem_saved root state _).mpr (.inl rfl)
  constructor
  · intro agrees
    obtain ⟨⟨found,inside,same,active⟩,alone⟩ := agrees
    have one : found = persisted state :=
      Rows.same_row (saveWorkspaceState root state).distinct inside mine same
    refine ⟨?_,?_⟩
    · rw [one] at active
      exact active
    · intro other present busy
      by_contra apart
      exact apart (alone other ((mem_saved root state other).mpr (.inr ⟨present,apart⟩)) busy)
  · intro conditions
    obtain ⟨active,alone⟩ := conditions
    refine ⟨⟨persisted state,mine,rfl,active⟩,?_⟩
    intro other inside busy
    rcases (mem_saved root state other).mp inside with own | ⟨present,apart⟩
    · rw [own]
      rfl
    · exact absurd (alone other present busy) apart

variable {root : Root ν} {state : Workspace ν}

theorem saved_idle (inactive : state.status ≠ .active)
    (alone : Alone state.workspaceId root) : Idle (saveWorkspaceState root state) := by
  intro other inside busy
  rcases (mem_saved root state other).mp inside with own | ⟨present,apart⟩
  · rw [own] at busy
    exact inactive busy
  · exact apart (alone other present busy)

omit [Redaction ν] in
theorem idle_alone (idle : Idle root) (workspaceId : Text) : Alone workspaceId root :=
  fun state inside busy => absurd busy (idle state inside)

variable {latestId : Text}

omit [Redaction ν] in
theorem agrees_latest (agrees : Agrees root) (latest : root.latest = some latestId) :
    (∃ state, loadWorkspaceState root latestId = .ok state ∧ state.status = .active) ∧ Alone latestId root := by
  unfold Agrees at agrees
  rw [latest] at agrees
  obtain ⟨⟨state,inside,same,active⟩,alone⟩ := agrees
  exact ⟨⟨state,(loaded_iff root latestId state).mpr ⟨inside,same⟩,active⟩,alone⟩

omit [Redaction ν] in
theorem agrees_idle (agrees : Agrees root) (latest : root.latest = none) : Idle root := by
  unfold Agrees at agrees
  rw [latest] at agrees
  exact agrees

theorem created_agrees (idle : Idle root) (workspaceId now : Text) : Agrees (createWorkspace workspaceId now root).2 :=
  (saved_agrees root (newState workspaceId now)).mpr ⟨rfl,idle_alone idle workspaceId⟩

theorem compacted (limits : WorkspaceLimits) (now : Text) (agrees : Agrees root) (latest : root.latest = some latestId) :
    ∃ after, compactWorkspace limits latestId now root = (.ok (),after) ∧ Agrees after ∧ after.latest = some latestId := by
  obtain ⟨⟨state,loaded,active⟩,alone⟩ := agrees_latest agrees latest
  have named : state.workspaceId = latestId := ((loaded_iff root latestId state).mp loaded).2
  let updated := enforceRetention limits root {state with updatedAt:=now}
  have kept := (saved_agrees updated.2 updated.1).mpr ⟨active,by rw [← named] at alone; exact alone⟩
  have pointed : updated.2.latest = some updated.1.workspaceId := by
    change root.latest = some state.workspaceId
    rw [latest,named]
  have same : saveLatestWorkspaceId (saveWorkspaceState updated.2 updated.1) updated.1.workspaceId = saveWorkspaceState updated.2 updated.1 := by
    unfold saveLatestWorkspaceId
    rw [← pointed]
    rfl
  rw [same] at kept
  refine ⟨saveWorkspaceState updated.2 updated.1,?_,kept,latest⟩
  unfold compactWorkspace
  rw [loaded]

theorem archived (now : Text) (agrees : Agrees root) (latest : root.latest = some latestId) :
    ∃ state after, archiveWorkspace latestId now root = (.ok state,after) ∧ Idle after ∧ after.latest = none := by
  obtain ⟨⟨state,loaded,active⟩,alone⟩ := agrees_latest agrees latest
  have named : state.workspaceId = latestId := ((loaded_iff root latestId state).mp loaded).2
  let retired := {state with status:=.archived,updatedAt:=now}
  have idle : Idle (saveWorkspaceState root retired) := saved_idle (by simp [retired]) (by rw [← named] at alone; exact alone)
  refine ⟨retired,clearLatestWorkspaceId (saveWorkspaceState root retired),?_,idle,rfl⟩
  unfold archiveWorkspace
  rw [loaded]
  dsimp only
  rw [if_neg (fun inactive => inactive active),saved_latest,if_pos latest]

variable (limits : WorkspaceLimits)

theorem renewed (noCompact : Bool) (workspaceId : Text) (times : Times) (agrees : Agrees root) :
    ∃ state after, newWorkspace limits noCompact workspaceId times root = (.ok state,after) ∧ Agrees after := by
  unfold newWorkspace
  cases latest : root.latest with
  | none => exact ⟨_,_,rfl,created_agrees (agrees_idle agrees latest) workspaceId times.created⟩
  | some previousId =>
    have prepared : ∃ before, (if noCompact then (.ok (),root) else compactWorkspace limits previousId times.compacted root) =
        ((.ok () : Except Raised Unit),before) ∧ Agrees before ∧ before.latest = some previousId := by
      cases noCompact with
      | true => exact ⟨root,rfl,agrees,latest⟩
      | false => exact compacted limits times.compacted agrees latest
    obtain ⟨before,compact,agrees,latest⟩ := prepared
    obtain ⟨state,after,retire,idle,_⟩ := archived times.archived agrees latest
    dsimp only
    rw [compact]
    dsimp only
    rw [retire]
    exact ⟨_,_,rfl,created_agrees idle workspaceId times.created⟩

/- Sequences of operations. -/

inductive Event (ν : Type) where
  | create (workspaceId now : Text)
  | newWorkspace (noCompact : Bool) (workspaceId : Text) (times : Times)
  | resume (target : Option Text) (workspaceId now : Text)
  | archive (workspaceId now : Text)
  | reactivate (workspaceId now : Text)
  | getOrCreateLatest (workspaceId now : Text)
  | record (mutation : Mutation ν) (workspaceId now : Text)

namespace Event

def perform (limits : WorkspaceLimits) (event : Event ν) (root : Root ν) : Except Raised Unit × Root ν :=
  match event with
  | create workspaceId now => (.ok (),(createWorkspace workspaceId now root).2)
  | newWorkspace noCompact workspaceId times =>
    let (outcome,after) := Workspaces.newWorkspace limits noCompact workspaceId times root
    (outcome.map (fun _ => ()),after)
  | resume target workspaceId now =>
    let (outcome,after) := resumeWorkspace target workspaceId now root
    (outcome.map (fun _ => ()),after)
  | archive workspaceId now =>
    let (outcome,after) := archiveWorkspace workspaceId now root
    (outcome.map (fun _ => ()),after)
  | reactivate workspaceId now =>
    let (outcome,after) := reactivateWorkspace workspaceId now root
    (outcome.map (fun _ => ()),after)
  | getOrCreateLatest workspaceId now => (.ok (),(getOrCreateLatestWorkspace workspaceId now root).2)
  | record mutation workspaceId now => Workspaces.record limits mutation workspaceId now root

-- The id made for a workspace the operation may create.
def made : Event ν → Option Text
  | create workspaceId _ => some workspaceId
  | newWorkspace _ workspaceId _ => some workspaceId
  | resume _ workspaceId _ => some workspaceId
  | getOrCreateLatest workspaceId _ => some workspaceId
  | archive _ _ => none
  | reactivate _ _ => none
  | record _ _ _ => none

-- Made ids are fresh, and the operation ends normally or with a lifecycle error.
structure Ordinary (limits : WorkspaceLimits) (root : Root ν) (event : Event ν) : Prop where
  fresh : ∀ workspaceId ∈ event.made, ∀ state ∈ root.states, state.workspaceId ≠ workspaceId
  ended : (event.perform limits root).1 = .ok () ∨ ∃ error, (event.perform limits root).1 = .error (.lifecycle error)

-- Creating and reactivating need a root where no workspace is active, recording an active workspace.
def Permitted (root : Root ν) : Event ν → Prop
  | create _ _ => Idle root
  | reactivate workspaceId _ =>
    (∃ state ∈ root.states, state.workspaceId = workspaceId ∧ state.status = .archived) → Idle root
  | record _ workspaceId _ => ∃ state ∈ root.states, state.workspaceId = workspaceId ∧ state.status = .active
  | newWorkspace _ _ _ => True
  | resume _ _ _ => True
  | archive _ _ => True
  | getOrCreateLatest _ _ => True

end Event

section step
variable {limits : WorkspaceLimits} {root : Root ν} {workspaceId : Text}

omit [Redaction ν] in
theorem missing_only (failed : loadWorkspaceState root workspaceId = .error raised) : raised = .fileNotFound := by
  unfold loadWorkspaceState at failed
  split at failed
  · cases failed
    rfl
  · cases failed

variable {event : Event ν}

-- An operation on a workspace that ended as the runs allow has found it.
theorem ordinary_loaded (workspaceId : Text) (ordinary : event.Ordinary limits root)
    (reads : ∀ raised, loadWorkspaceState root workspaceId = .error raised → (event.perform limits root).1 = .error raised) :
    ∃ state, loadWorkspaceState root workspaceId = .ok state := by
  cases loaded : loadWorkspaceState root workspaceId with
  | ok state => exact ⟨state,rfl⟩
  | error raised =>
    have outcome := reads raised loaded
    rcases ordinary.ended with normal | refused
    · rw [outcome] at normal
      cases normal
    · obtain ⟨error,refused⟩ := refused
      rw [missing_only loaded] at outcome
      rw [outcome] at refused
      cases refused

omit [Redaction ν] in
theorem active_latest (agrees : Agrees root) (inside : state ∈ root.states) (active : state.status = .active) :
    root.latest = some state.workspaceId ∧ Alone state.workspaceId root := by
  cases latest : root.latest with
  | none => exact absurd active (agrees_idle agrees latest state inside)
  | some latestId =>
    obtain ⟨_,alone⟩ := agrees_latest agrees latest
    have named := alone state inside active
    exact ⟨by rw [named],by rw [named]; exact alone⟩

omit [Redaction ν] in
theorem latest_again (latest : root.latest = some workspaceId) : saveLatestWorkspaceId root workspaceId = root := by
  unfold saveLatestWorkspaceId
  rw [← latest]

variable {workspaceId now : Text}

theorem create_exactly (fresh : ∀ state ∈ root.states, state.workspaceId ≠ workspaceId) :
    Agrees (createWorkspace workspaceId now root).2 ↔ Idle root := by
  constructor
  · intro agrees
    have alone := ((saved_agrees root (newState workspaceId now)).mp agrees).2
    intro state inside busy
    exact fresh state inside (alone state inside busy)
  · intro idle
    exact created_agrees idle workspaceId now

theorem resume_agrees (agrees : Agrees root) : Agrees (resumeWorkspace target workspaceId now root).2 := by
  unfold resumeWorkspace
  cases named : target.or root.latest with
  | none =>
    have latest := (Option.or_eq_none_iff.mp named).2
    exact created_agrees (agrees_idle agrees latest) workspaceId now
  | some targetId =>
    dsimp only
    cases loaded : loadWorkspaceState root targetId with
    | error raised => exact agrees
    | ok state =>
      dsimp only
      by_cases active : state.status = .active
      · obtain ⟨inside,same⟩ := (loaded_iff root targetId state).mp loaded
        have latest := (active_latest agrees inside active).1
        rw [same] at latest
        rw [if_neg (fun inactive => inactive active),latest_again latest]
        exact agrees
      · rw [if_pos active]
        exact agrees

theorem archive_agrees (agrees : Agrees root) : Agrees (archiveWorkspace workspaceId now root).2 := by
  cases loaded : loadWorkspaceState root workspaceId with
  | error raised =>
    unfold archiveWorkspace
    rw [loaded]
    exact agrees
  | ok state =>
    by_cases active : state.status = .active
    · obtain ⟨inside,same⟩ := (loaded_iff root workspaceId state).mp loaded
      have latest := (active_latest agrees inside active).1
      rw [same] at latest
      obtain ⟨_,after,retired,idle,cleared⟩ := archived now agrees latest
      rw [retired]
      unfold Agrees
      rw [cleared]
      exact idle
    · unfold archiveWorkspace
      rw [loaded]
      dsimp only
      rw [if_pos active]
      exact agrees

theorem reactivate_exactly (loaded : loadWorkspaceState root workspaceId = .ok state) (agrees : Agrees root) :
    Agrees (reactivateWorkspace workspaceId now root).2 ↔
      ((∃ state ∈ root.states, state.workspaceId = workspaceId ∧ state.status = .archived) → Idle root) := by
  obtain ⟨inside,rfl⟩ := (loaded_iff root workspaceId state).mp loaded
  unfold reactivateWorkspace
  rw [loaded]
  dsimp only
  by_cases shelved : state.status = .archived
  · rw [if_neg (fun other => other shelved)]
    have saved := saved_agrees root {state with status:=.active,updatedAt:=now}
    simp only [true_and] at saved
    refine saved.trans ?_
    constructor
    · intro alone _ other present busy
      have one := Rows.same_row root.distinct present inside (alone other present busy)
      rw [one,shelved] at busy
      cases busy
    · intro idle
      exact idle_alone (idle ⟨state,inside,rfl,shelved⟩) state.workspaceId
  · rw [if_pos shelved]
    constructor
    · intro _ archived
      obtain ⟨other,present,named,retired⟩ := archived
      rw [Rows.same_row root.distinct present inside named] at retired
      exact absurd retired shelved
    · intro _
      exact agrees

theorem getOrCreate_agrees (agrees : Agrees root) : Agrees (getOrCreateLatestWorkspace workspaceId now root).2 := by
  unfold getOrCreateLatestWorkspace
  cases latest : root.latest with
  | none =>
    have idle := agrees_idle agrees latest
    dsimp only
    unfold selectOrCreate
    rw [(idle_iff root).mp idle]
    exact created_agrees idle workspaceId now
  | some latestId =>
    obtain ⟨⟨state,loaded,active⟩,_⟩ := agrees_latest agrees latest
    dsimp only
    rw [loaded]
    dsimp only
    rw [if_pos active]
    exact agrees

theorem record_exactly (loaded : loadWorkspaceState root workspaceId = .ok current) (agrees : Agrees root) :
    Agrees (record limits mutation workspaceId now root).2 ↔
      ∃ state ∈ root.states, state.workspaceId = workspaceId ∧ state.status = .active := by
  obtain ⟨inside,same⟩ := (loaded_iff root workspaceId current).mp loaded
  let updated := enforceRetention limits root (mutation.apply now current)
  have saved := saved_agrees updated.2 updated.1
  have status : updated.1.status = current.status := apply_status mutation now current
  have named : updated.1.workspaceId = current.workspaceId := apply_workspaceId mutation now current
  unfold record
  rw [loaded]
  change Agrees (saveLatestWorkspaceId (saveWorkspaceState updated.2 updated.1) updated.1.workspaceId) ↔ _
  rw [saved,status,named]
  constructor
  · intro conditions
    exact ⟨current,inside,same,conditions.1⟩
  · intro found
    obtain ⟨state,present,other,active⟩ := found
    have one := Rows.same_row root.distinct present inside (other.trans same.symm)
    rw [one] at active
    exact ⟨active,(active_latest agrees inside active).2⟩

-- From a root in agreement, exactly the permitted operations lead to one.
theorem step_exactly (agrees : Agrees root) (ordinary : event.Ordinary limits root) :
    Agrees (event.perform limits root).2 ↔ event.Permitted root := by
  cases event with
  | create workspaceId now => exact create_exactly (ordinary.fresh workspaceId rfl)
  | newWorkspace noCompact workspaceId times =>
    obtain ⟨state,after,ran,agreed⟩ := renewed limits noCompact workspaceId times agrees
    have reached : ((Event.newWorkspace noCompact workspaceId times : Event ν).perform limits root).2 = after := by
      simp only [Event.perform,ran]
    rw [reached]
    exact iff_of_true agreed trivial
  | resume target workspaceId now => exact iff_of_true (resume_agrees agrees) trivial
  | archive workspaceId now => exact iff_of_true (archive_agrees agrees) trivial
  | reactivate workspaceId now =>
    obtain ⟨state,loaded⟩ := ordinary_loaded workspaceId ordinary (by
      intro raised failed
      simp [Event.perform,reactivateWorkspace,failed,Except.map])
    exact reactivate_exactly loaded agrees
  | getOrCreateLatest workspaceId now => exact iff_of_true (getOrCreate_agrees agrees) trivial
  | record mutation workspaceId now =>
    obtain ⟨current,loaded⟩ := ordinary_loaded workspaceId ordinary (by
      intro raised failed
      simp [Event.perform,record,failed])
    exact record_exactly loaded agrees

end step

-- The checker passes, and a new workspace can be started.
structure Settled (limits : WorkspaceLimits) (root : Root ν) : Prop where
  checked : checkLifecycleInvariants root = .ok ()
  renewable : ∀ noCompact workspaceId times, ∃ state, (newWorkspace limits noCompact workspaceId times root).1 = .ok state

theorem settled_iff (root : Root ν) : Settled limits root ↔ Agrees root := by
  constructor
  · intro settled
    exact (check_iff root).mp settled.checked
  · intro agrees
    refine ⟨(check_iff root).mpr agrees,?_⟩
    intro noCompact workspaceId times
    obtain ⟨state,after,ran,_⟩ := renewed limits noCompact workspaceId times agrees
    exact ⟨state,by rw [ran]⟩

-- The root after some operations on an empty one.
def reached (limits : WorkspaceLimits) (events : List (Event ν)) : Root ν :=
  events.foldl (fun root event => (event.perform limits root).2) Root.empty

theorem reached_snoc (events : List (Event ν)) (event : Event ν) :
    reached limits (events ++ [event]) = (event.perform limits (reached limits events)).2 := by
  unfold reached
  rw [List.foldl_append]
  rfl

omit [Redaction ν] in
theorem empty_agrees : Agrees (Root.empty : Root ν) := by
  intro state inside
  cases inside

-- Every root on the way is settled exactly if every operation on the way is permitted where it runs.
theorem lifecycle_exactly (limits : WorkspaceLimits) (events : List (Event ν))
    (ordinary : ∀ front event, front ++ [event] <+: events → event.Ordinary limits (reached limits front)) :
    (∀ front, front <+: events → Settled limits (reached limits front)) ↔
      ∀ front event, front ++ [event] <+: events → event.Permitted (reached limits front) := by
  simp only [settled_iff]
  constructor
  · intro settled front event within
    have before := settled front ((List.prefix_append front [event]).trans within)
    have after := settled (front ++ [event]) within
    rw [reached_snoc] at after
    exact (step_exactly before (ordinary front event within)).mp after
  · intro permitted front
    induction front using List.reverseRecOn with
    | nil =>
      intro _
      exact empty_agrees
    | append_singleton front event ih =>
      intro within
      rw [reached_snoc]
      have before := ih ((List.prefix_append front [event]).trans within)
      exact (step_exactly before (ordinary front event within)).mpr (permitted front event within)

def sampleWork : List (Event Plain) := [.create "ws-1".toList "1".toList,.record (.warning ⟨"late".toList⟩) "ws-1".toList "2".toList]

theorem front_cons (within : front ++ [item] <+: first :: rest) :
    (front = [] ∧ item = first) ∨ ∃ tail, front = first :: tail ∧ tail ++ [item] <+: rest := by
  cases front with
  | nil =>
    left
    simpa using within
  | cons head front =>
    rw [List.cons_append,List.cons_prefix_cons] at within
    obtain ⟨rfl,within⟩ := within
    exact .inr ⟨front,rfl,within⟩

theorem front_nil (within : front ++ [item] <+: []) : False := by
  simp at within

theorem lifecycle_exactly_sample : Settled workspaceLimits (reached workspaceLimits sampleWork) := by
  have created : persisted (newState "ws-1".toList "1".toList : Workspace Plain) ∈
      (reached workspaceLimits [(.create "ws-1".toList "1".toList : Event Plain)]).states :=
    (mem_saved Root.empty (newState "ws-1".toList "1".toList) _).mpr (.inl rfl)
  apply (lifecycle_exactly workspaceLimits sampleWork ?_).mpr ?_ sampleWork List.prefix_rfl
  · intro front event within
    rcases front_cons within with ⟨rfl,rfl⟩ | ⟨front,rfl,later⟩
    · refine ⟨?_,.inl rfl⟩
      intro _ _ state inside
      cases inside
    · rcases front_cons later with ⟨rfl,rfl⟩ | ⟨front,rfl,next⟩
      · refine ⟨?_,.inl (by decide)⟩
        intro _ made
        cases made
      · exact absurd next front_nil
  · intro front event within
    rcases front_cons within with ⟨rfl,rfl⟩ | ⟨front,rfl,later⟩
    · intro state inside
      cases inside
    · rcases front_cons later with ⟨rfl,rfl⟩ | ⟨front,rfl,next⟩
      · exact ⟨_,created,rfl,rfl⟩
      · exact absurd next front_nil

-- A warning recorded in a workspace that was archived.
def sampleAfterwards : List (Event Plain) :=
  [.create "ws-1".toList "1".toList,.archive "ws-1".toList "2".toList,.record (.warning ⟨"late".toList⟩) "ws-1".toList "3".toList]

theorem late_record_unsettles :
    (∀ front event, front ++ [event] <+: sampleAfterwards → event.Ordinary workspaceLimits (reached workspaceLimits front)) ∧
      checkLifecycleInvariants (reached workspaceLimits sampleAfterwards) ≠ .ok () ∧
      ∃ raised, (newWorkspace workspaceLimits false "ws-2".toList ⟨"4".toList,"5".toList,"6".toList⟩
        (reached workspaceLimits sampleAfterwards)).1.map Workspace.workspaceId = .error raised := by
  refine ⟨?_,by decide,_,by rfl⟩
  intro front event within
  rcases front_cons within with ⟨rfl,rfl⟩ | ⟨front,rfl,later⟩
  · refine ⟨?_,.inl rfl⟩
    intro _ _ state inside
    cases inside
  · rcases front_cons later with ⟨rfl,rfl⟩ | ⟨front,rfl,next⟩
    · refine ⟨?_,.inl (by decide)⟩
      intro _ made
      cases made
    · rcases front_cons next with ⟨rfl,rfl⟩ | ⟨front,rfl,none⟩
      · refine ⟨?_,.inl (by decide)⟩
        intro _ made
        cases made
      · exact absurd none front_nil

end OpenStock.Workspaces
