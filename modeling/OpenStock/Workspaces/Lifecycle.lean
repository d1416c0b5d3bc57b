import OpenStock.Workspaces.Storage

namespace OpenStock.Workspaces

-- What a record_* call adds to a workspace.
inductive Mutation (ν : Type) where
  | input (item : ν)
  | artifact (artifactRef : ArtifactRef ν)
  | warning (message : ν)
  | error (message : ν)

section operations
variable {ν : Type} [Redaction ν]

def Mutation.apply (mutation : Mutation ν) (now : Text) (current : Workspace ν) : Workspace ν :=
  match mutation with
  | input item => {current with updatedAt := now,recentInputs := current.recentInputs ++ [Redaction.message item]}
  | artifact artifactRef => {current with updatedAt := now,activeArtifacts := current.activeArtifacts ++ [artifactRef]}
  | warning message => {current with updatedAt := now,warnings := current.warnings ++ [Redaction.message message]}
  | error message => {current with updatedAt := now,errors := current.errors ++ [Redaction.message message]}

variable (mutation : Mutation ν) (now : Text) (current : Workspace ν)

theorem apply_workspaceId : (mutation.apply now current).workspaceId = current.workspaceId := by
  cases mutation <;> rfl

theorem apply_status : (mutation.apply now current).status = current.status := by
  cases mutation <;> rfl

def persistWorkspaceUnlocked (root : Root ν) (state : Workspace ν) : Root ν :=
  saveLatestWorkspaceId (saveWorkspaceState root state) state.workspaceId

def record (limits : WorkspaceLimits) (mutation : Mutation ν) (workspaceId now : Text) (root : Root ν) :
    Except Raised Unit × Root ν :=
  match loadWorkspaceState root workspaceId with
  | .error raised => (.error raised,root)
  | .ok current =>
    let (updated,archived) := enforceRetention limits root (mutation.apply now current)
    (.ok (),persistWorkspaceUnlocked archived updated)

def newState (workspaceId now : Text) : Workspace ν where
  workspaceId := workspaceId
  status := .active
  updatedAt := now
  recentInputs := []
  activeArtifacts := []
  openTasks := []
  warnings := []
  errors := []

def createWorkspace (workspaceId now : Text) (root : Root ν) : Workspace ν × Root ν :=
  (newState workspaceId now,
    saveLatestWorkspaceId (saveWorkspaceState root (newState workspaceId now)) workspaceId)

omit [Redaction ν] in
-- Sorted by time and id, descending; the ids differ.
def Later (left right : Workspace ν) : Prop :=
  right.updatedAt < left.updatedAt ∨ right.updatedAt = left.updatedAt ∧ right.workspaceId ≤ left.workspaceId

omit [Redaction ν] in
instance (left right : Workspace ν) : Decidable (Later left right) :=
  inferInstanceAs (Decidable (_ ∨ _ ∧ _))

omit [Redaction ν] in
def listWorkspaces (root : Root ν) : List (Workspace ν) := root.states.insertionSort Later

omit [Redaction ν] in
def activeWorkspaces (root : Root ν) : List (Workspace ν) := (listWorkspaces root).filter (fun state => state.status = .active)

def selectOrCreate (workspaceId now : Text) (root : Root ν) : Workspace ν × Root ν :=
  match activeWorkspaces root with
  | selected :: _ => (selected,saveLatestWorkspaceId root selected.workspaceId)
  | [] => createWorkspace workspaceId now root

def getOrCreateLatestWorkspace (workspaceId now : Text) (root : Root ν) : Workspace ν × Root ν :=
  match root.latest with
  | none => selectOrCreate workspaceId now root
  | some latestId =>
    match loadWorkspaceState root latestId with
    | .error _ => selectOrCreate workspaceId now (clearLatestWorkspaceId root)
    | .ok latest =>
      if latest.status = .active then (latest,root) else selectOrCreate workspaceId now (clearLatestWorkspaceId root)

omit [Redaction ν] in
def refusal (workspaceId : Text) (operation : String) (reason : Text) : Raised :=
  .lifecycle ⟨workspaceId,operation.toList,reason⟩

omit [Redaction ν] in
def statusReason (state : Workspace ν) : Text := "workspace status is ".toList ++ state.status.value

def resumeWorkspace (target : Option Text) (workspaceId now : Text) (root : Root ν) : Except Raised (Workspace ν) × Root ν :=
  match target.or root.latest with
  | none =>
    let (created,after) := createWorkspace workspaceId now root
    (.ok created,after)
  | some targetId =>
    match loadWorkspaceState root targetId with
    | .error raised => (.error raised,root)
    | .ok state =>
      if state.status ≠ .active then
        (.error (refusal targetId "resume" (statusReason state ++ "; reactivate it explicitly first".toList)),root)
      else (.ok state,saveLatestWorkspaceId root targetId)

def archiveWorkspace (workspaceId now : Text) (root : Root ν) : Except Raised (Workspace ν) × Root ν :=
  match loadWorkspaceState root workspaceId with
  | .error raised => (.error raised,root)
  | .ok state =>
    if state.status ≠ .active then (.error (refusal workspaceId "archive" (statusReason state)),root) else
      let archived := {state with status := .archived,updatedAt := now}
      let saved := saveWorkspaceState root archived
      (.ok archived,if saved.latest = some workspaceId then clearLatestWorkspaceId saved else saved)

def reactivateWorkspace (workspaceId now : Text) (root : Root ν) : Except Raised (Workspace ν) × Root ν :=
  match loadWorkspaceState root workspaceId with
  | .error raised => (.error raised,root)
  | .ok state =>
    if state.status ≠ .archived then (.error (refusal workspaceId "reactivate" (statusReason state)),root) else
      let reactivated := {state with status := .active,updatedAt := now}
      (.ok reactivated,saveLatestWorkspaceId (saveWorkspaceState root reactivated) workspaceId)

def compactWorkspace (limits : WorkspaceLimits) (workspaceId now : Text) (root : Root ν) : Except Raised Unit × Root ν :=
  match loadWorkspaceState root workspaceId with
  | .error raised => (.error raised,root)
  | .ok state =>
    let (updated,archived) := enforceRetention limits root {state with updatedAt := now}
    (.ok (),saveWorkspaceState archived updated)

-- The clock is read by each part of the operation.
structure Times where
  compacted : Text
  archived : Text
  created : Text

def newWorkspace (limits : WorkspaceLimits) (noCompact : Bool) (workspaceId : Text) (times : Times) (root : Root ν) :
    Except Raised (Workspace ν) × Root ν :=
  match root.latest with
  | none =>
    let (created,after) := createWorkspace workspaceId times.created root
    (.ok created,after)
  | some previousId =>
    match (if noCompact then (.ok (),root) else compactWorkspace limits previousId times.compacted root) with
    | (.error raised,compacted) => (.error raised,compacted)
    | (.ok _,compacted) =>
      match archiveWorkspace previousId times.archived compacted with
      | (.error raised,archived) => (.error raised,archived)
      | (.ok _,archived) =>
        let (created,after) := createWorkspace workspaceId times.created archived
        (.ok created,after)

end operations

/- The checker. -/

def checkOneActive (root : Root ν) : Except Raised Unit :=
  if 1 < (activeWorkspaces root).length then
    .error (refusal "*".toList "validate lifecycle" "more than one active workspace exists".toList)
  else .ok ()

def checkActiveIsLatest (root : Root ν) : Except Raised Unit :=
  match activeWorkspaces root with
  | [] => .ok ()
  | state :: _ =>
    if root.latest ≠ some state.workspaceId then
      .error (refusal state.workspaceId "validate lifecycle" "latest pointer does not reference the active workspace".toList)
    else .ok ()

def checkLatestIsActive (root : Root ν) : Except Raised Unit :=
  match root.latest with
  | none => .ok ()
  | some latestId =>
    if (listWorkspaces root).any (fun state => state.workspaceId = latestId ∧ state.status = .active) then .ok () else
      .error (refusal latestId "validate lifecycle" "latest pointer does not reference a valid active workspace".toList)

def checkLifecycleInvariants (root : Root ν) : Except Raised Unit := do
  checkOneActive root
  checkActiveIsLatest root
  checkLatestIsActive root

-- No workspace is active but this one.
def Alone (workspaceId : Text) (root : Root ν) : Prop :=
  ∀ state ∈ root.states, state.status = .active → state.workspaceId = workspaceId

def Idle (root : Root ν) : Prop := ∀ state ∈ root.states, state.status ≠ .active

-- The pointer and the statuses agree.
def Agrees (root : Root ν) : Prop :=
  match root.latest with
  | none => Idle root
  | some workspaceId =>
    (∃ state ∈ root.states, state.workspaceId = workspaceId ∧ state.status = .active) ∧ Alone workspaceId root

variable (root : Root ν)

theorem mem_active (state : Workspace ν) : state ∈ activeWorkspaces root ↔ state ∈ root.states ∧ state.status = .active := by
  simp [activeWorkspaces,listWorkspaces]

theorem active_nodup : (activeWorkspaces root).Nodup := by
  apply List.Nodup.filter
  rw [listWorkspaces,(List.perm_insertionSort _ _).nodup_iff]
  exact List.Nodup.of_map _ root.distinct

theorem idle_iff : Idle root ↔ activeWorkspaces root = [] := by
  rw [List.eq_nil_iff_forall_not_mem]
  simp only [mem_active,not_and]
  rfl

theorem oneActive_iff :
    checkOneActive root = .ok () ↔ ∀ first ∈ activeWorkspaces root, ∀ second ∈ activeWorkspaces root, first = second := by
  have nodup := active_nodup root
  unfold checkOneActive
  generalize activeWorkspaces root = active at nodup ⊢
  cases active with
  | nil =>
    rw [if_neg (by simp)]
    simp
  | cons first others =>
    cases others with
    | nil =>
      rw [if_neg (by simp)]
      simp
    | cons second others =>
      have apart : first ≠ second := by
        intro same
        apply (List.nodup_cons.mp nodup).1
        rw [same]
        exact List.mem_cons_self
      rw [if_pos (by simp)]
      constructor
      · intro wrong
        cases wrong
      · intro all
        exact absurd (all first List.mem_cons_self second (List.mem_cons_of_mem _ List.mem_cons_self)) apart

theorem activeIsLatest_iff :
    checkActiveIsLatest root = .ok () ↔ ∀ state ∈ (activeWorkspaces root).head?, root.latest = some state.workspaceId := by
  unfold checkActiveIsLatest
  cases activeWorkspaces root with
  | nil => simp
  | cons state others =>
    dsimp only
    by_cases same : root.latest = some state.workspaceId
    · rw [if_neg (fun differs => differs same)]
      simp [same]
    · rw [if_pos same]
      simp [same]

theorem latestIsActive_iff : checkLatestIsActive root = .ok () ↔
      ∀ latestId ∈ root.latest, ∃ state ∈ root.states, state.workspaceId = latestId ∧ state.status = .active := by
  unfold checkLatestIsActive
  cases root.latest with
  | none => simp
  | some latestId =>
    dsimp only
    have listed : ((listWorkspaces root).any (fun state => state.workspaceId = latestId ∧ state.status = .active) = true) ↔
        ∃ state ∈ root.states, state.workspaceId = latestId ∧ state.status = .active := by
      simp [listWorkspaces]
    by_cases found : (listWorkspaces root).any (fun state => state.workspaceId = latestId ∧ state.status = .active) = true
    · rw [if_pos found]
      simpa using listed.mp found
    · rw [if_neg found]
      rw [listed] at found
      constructor
      · intro wrong
        cases wrong
      · intro all
        exact absurd (all latestId rfl) found

theorem check_iff : checkLifecycleInvariants root = .ok () ↔ Agrees root := by
  have parts : checkLifecycleInvariants root = .ok () ↔ checkOneActive root = .ok () ∧ checkActiveIsLatest root = .ok () ∧
      checkLatestIsActive root = .ok () := by
    unfold checkLifecycleInvariants
    cases checkOneActive root with
    | error raised => simp [bind,Except.bind]
    | ok _ => cases checkActiveIsLatest root <;> simp [bind,Except.bind]
  rw [parts,oneActive_iff,activeIsLatest_iff,latestIsActive_iff]
  unfold Agrees
  constructor
  · intro checked
    obtain ⟨one,pointed,active⟩ := checked
    have first : ∀ state ∈ activeWorkspaces root, root.latest = some state.workspaceId := by
      intro state inside
      cases listed : activeWorkspaces root with
      | nil =>
        rw [listed] at inside
        cases inside
      | cons head others =>
        rw [one state inside head (by rw [listed]; exact List.mem_cons_self)]
        exact pointed head (by rw [listed]; rfl)
    cases latest : root.latest with
    | none =>
      intro state inside busy
      have named := first state ((mem_active root state).mpr ⟨inside,busy⟩)
      rw [latest] at named
      cases named
    | some latestId =>
      refine ⟨active latestId latest,?_⟩
      intro state inside busy
      have named := first state ((mem_active root state).mpr ⟨inside,busy⟩)
      rw [latest] at named
      exact (Option.some.inj named).symm
  · intro agrees
    cases latest : root.latest with
    | none =>
      rw [latest] at agrees
      have listed := (idle_iff root).mp agrees
      rw [listed]
      simp
    | some latestId =>
      rw [latest] at agrees
      obtain ⟨present,alone⟩ := agrees
      refine ⟨?_,?_,?_⟩
      · intro first left second right
        have one := (mem_active root first).mp left
        have two := (mem_active root second).mp right
        exact Rows.same_row root.distinct one.1 two.1 ((alone first one.1 one.2).trans (alone second two.1 two.2).symm)
      · intro state head
        have inside := (mem_active root state).mp (List.mem_of_mem_head? head)
        rw [alone state inside.1 inside.2]
      · intro other named
        cases named
        exact present

end OpenStock.Workspaces
