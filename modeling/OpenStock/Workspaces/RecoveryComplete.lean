import OpenStock.Workspaces.Recovery

namespace OpenStock.Workspaces.Recovery
open Text Json

variable {β : Type}

/- Directories of a root. -/

variable {root : Root β} {directory : Directory β}

theorem mem_listed : directory ∈ root.listed ↔ directory ∈ root.directories :=
  (List.perm_insertionSort _ root.directories).mem_iff

def Root.Has (root : Root β) (name : Text) : Prop := ∃ directory ∈ root.directories, directory.name = name

variable {name : Text}

theorem has_found : (root.directories.find? (fun directory => directory.name == name)).isSome = true ↔ root.Has name := by
  simp only [List.find?_isSome,beq_iff_eq]
  rfl

theorem make_present (present : root.Has name) : root.make name = root := by
  have found := has_found.mpr present
  cases root
  simp only [Root.make] at found ⊢
  simp only [found,if_true]

theorem mem_make {directory : Directory β} :
    directory ∈ (root.make name).directories ↔ directory ∈ root.directories ∨ ¬ root.Has name ∧ directory = ⟨name,none⟩ := by
  by_cases present : root.Has name
  · simp [make_present present,present]
  · have found : ¬ (root.directories.find? (fun directory => directory.name == name)).isSome = true :=
      fun found => present (has_found.mp found)
    have fresh : ∀ other ∈ root.directories, other.name ≠ name := fun other inside same => present ⟨other,inside,same⟩
    simp only [Root.make,if_neg found,Rows.mem_upsert_key,present,not_false_eq_true,true_and]
    constructor
    · rintro (rfl | ⟨inside,_⟩)
      · exact .inr rfl
      · exact .inl inside
    · rintro (inside | rfl)
      · exact .inr ⟨inside,fresh directory inside⟩
      · exact .inl rfl

variable {names : List Text}

theorem make_keeps {directory : Directory β} (inside : directory ∈ root.directories) :
    directory ∈ (names.foldl Root.make root).directories := by
  induction names generalizing root with
  | nil => exact inside
  | cons name names ih => exact ih (mem_make.mpr (.inl inside))

theorem makes_present (present : ∀ name ∈ names, root.Has name) : names.foldl Root.make root = root := by
  induction names generalizing root with
  | nil => rfl
  | cons name names ih =>
    simp only [List.forall_mem_cons] at present
    rw [List.foldl_cons,make_present present.1,ih present.2]

-- A directory that had to be made holds no workspace.json.
theorem makes_missing (listed : name ∈ names) (absent : ¬ root.Has name) :
    ⟨name,none⟩ ∈ (names.foldl Root.make root).directories := by
  induction names generalizing root with
  | nil => cases listed
  | cons head names ih =>
    rw [List.foldl_cons]
    by_cases here : head = name
    · subst here
      exact make_keeps (mem_make.mpr (.inr ⟨absent,rfl⟩))
    · have later : name ∈ names := by simpa [Ne.symm here] using listed
      by_cases made : (root.make head).Has name
      · obtain ⟨directory,inside,same⟩ := made
        rcases mem_make.mp inside with old | ⟨_,rfl⟩
        · exact absurd ⟨directory,old,same⟩ absent
        · exact absurd same here
      · exact ih later made

theorem mem_put {directory : Directory β} :
    directory ∈ (root.put name content).directories ↔ directory = ⟨name,content⟩ ∨ directory ∈ root.directories ∧ directory.name ≠ name :=
  Rows.mem_upsert_key root.directories ⟨name,content⟩ directory

/- Inspection. -/

section reading
variable [Reading β]

-- The id that latest.json holds.
def pointed (root : Root β) : Option Text :=
  match root.latest with
  | none => none
  | some content =>
    match content.loads with
    | .ok payload => workspaceIdOf payload
    | .error _ => none

-- No latest.json, or one with an id.
def Valid (root : Root β) : Prop := root.latest = none ∨ (pointed root).isSome = true

def Loads (directory : Directory β) : Prop := ∃ state, directory.load = .ok state

theorem invalidLatest_clean : invalidLatest root = .ok [] ↔ Valid root := by
  unfold invalidLatest Valid pointed
  cases root.latest with
  | none => simp
  | some content =>
    dsimp only
    cases content.loads with
    | ok payload => simp [Option.isSome_iff_ne_none]
    | error failure => cases failure <;> simp

theorem invalidWorkspace_clean : invalidWorkspace directory = .ok [] ↔ Loads directory := by
  unfold invalidWorkspace Loads
  cases directory.load with
  | ok state => simp
  | error failure =>
    by_cases bad : malformed failure = true
    · simp [bad]
    · simp [bad]

theorem inspect_clean : inspectWorkspace root = .ok [] ↔ Valid root ∧ ∀ directory ∈ root.directories, Loads directory := by
  have none_left : ∀ {texts : List Text}, texts.insertionSort (· ≤ ·) = [] ↔ texts = [] := by
    intro texts
    constructor
    · intro empty
      have perm := List.perm_insertionSort (· ≤ ·) texts
      rw [empty] at perm
      exact perm.nil_eq.symm
    · rintro rfl
      rfl
  rw [← invalidLatest_clean]
  simp only [← invalidWorkspace_clean,← mem_listed]
  unfold inspectWorkspace
  constructor
  · intro clean
    cases latest : invalidLatest root with
    | error failure => simp [latest,bind,Except.bind] at clean
    | ok first =>
      cases each : root.listed.mapM invalidWorkspace with
      | error failure => simp [latest,each,bind,Except.bind] at clean
      | ok paths =>
        simp only [latest,each,bind,Except.bind,pure,Except.pure,Except.ok.injEq,none_left,List.append_eq_nil_iff,
          List.flatten_eq_nil_iff] at clean
        refine ⟨by rw [clean.1],?_⟩
        intro directory listed
        obtain ⟨path,inside,read⟩ := Rows.each_value each directory listed
        rw [read,clean.2 path inside]
  · intro ⟨latest,each⟩
    have paths : root.listed.mapM invalidWorkspace = .ok (root.listed.map (fun _ => [])) := Rows.each_map each
    simp [latest,paths,bind,Except.bind,pure,Except.pure]

/- The loop over the directories. -/

variable {directories : List (Directory β)}

theorem sweep_loads {root : Root β} (loads : ∀ directory ∈ directories, Loads directory) :
    sweep directories root = .ok (root,[]) := by
  induction directories with
  | nil => rfl
  | cons directory rest ih =>
    simp only [List.forall_mem_cons] at loads
    obtain ⟨state,loaded⟩ := loads.1
    simp only [sweep,loaded]
    exact ih loads.2

omit [Reading β] in
theorem quarantine_latest (root : Root β) (directory : Directory β) : (quarantineFile root directory).1.latest = root.latest := by
  unfold quarantineFile
  split <;> rfl

-- One malformed directory: what follows sees the root without its workspace.json.
theorem sweep_moved {root after : Root β} {names : List Text}
    (swept : sweep (directory :: rest) root = .ok (after,names)) (broken : ¬ Loads directory) :
    ∃ next later, next.directories = (quarantineFile root directory).1.directories ∧
      (next.latest = root.latest ∨ next.latest = none) ∧ sweep rest next = .ok (after,later) := by
  cases loaded : directory.load with
  | ok state => exact absurd ⟨state,loaded⟩ broken
  | error failure =>
    simp only [sweep,loaded] at swept
    split at swept
    · simp only [bind,Except.bind] at swept
      split at swept
      · cases swept
      · rename_i latest _
        split at swept
        · cases swept
        · rename_i hit ran
          cases swept
          refine ⟨_,_,?_,?_,ran⟩
          · split <;> rfl
          · split
            · exact .inr rfl
            · exact .inl (quarantine_latest root directory)
    · cases swept

omit [Reading β] in
theorem quarantine_missing {root : Root β} {directory : Directory β} {name : Text}
    (there : ⟨name,none⟩ ∈ root.directories ∨ directory ∈ root.directories ∧ directory.name = name) :
    ⟨name,none⟩ ∈ (quarantineFile root directory).1.directories := by
  cases given : directory.workspaceJson with
  | none =>
    simp only [quarantineFile,given]
    rcases there with inside | ⟨inside,rfl⟩
    · exact inside
    · have same : directory = ⟨directory.name,none⟩ := by rw [← given]
      exact same ▸ inside
  | some content =>
    simp only [quarantineFile,given]
    by_cases same : name = directory.name
    · exact mem_put.mpr (.inl (by rw [same]))
    · rcases there with inside | ⟨_,named⟩
      · exact mem_put.mpr (.inr ⟨inside,same⟩)
      · exact absurd named.symm same

omit [Reading β] in
theorem quarantine_keeps {directory other : Directory β} (inside : other ∈ root.directories)
    (apart : other.name ≠ directory.name) : other ∈ (quarantineFile root directory).1.directories := by
  cases given : directory.workspaceJson with
  | none =>
    simp only [quarantineFile,given]
    exact inside
  | some content =>
    simp only [quarantineFile,given]
    exact mem_put.mpr (.inr ⟨inside,apart⟩)

theorem sweep_missing {root after : Root β} {names : List Text} {name : Text}
    (swept : sweep directories root = .ok (after,names)) (inside : ⟨name,none⟩ ∈ root.directories) : ⟨name,none⟩ ∈ after.directories := by
  induction directories generalizing root names with
  | nil =>
    cases swept
    exact inside
  | cons directory rest ih =>
    by_cases loads : Loads directory
    · obtain ⟨state,loaded⟩ := loads
      simp only [sweep,loaded] at swept
      exact ih swept inside
    · obtain ⟨next,later,moved,_,ran⟩ := sweep_moved swept loads
      apply ih ran
      rw [moved]
      exact quarantine_missing (.inl inside)

-- The directory of what is malformed stays, without a workspace.json.
theorem sweep_broken {root after : Root β} {names : List Text} {directory : Directory β}
    (swept : sweep directories root = .ok (after,names)) (there : ∀ listed ∈ directories, listed ∈ root.directories)
    (distinct : Rows.Distinct Directory.name directories) (listed : directory ∈ directories) (broken : ¬ Loads directory) :
    ⟨directory.name,none⟩ ∈ after.directories := by
  induction directories generalizing root names with
  | nil => cases listed
  | cons first rest ih =>
    simp only [List.forall_mem_cons] at there
    obtain ⟨fresh,apart⟩ := List.nodup_cons.mp distinct
    have others : ∀ other ∈ rest, other.name ≠ first.name := by
      intro other inside same
      exact fresh (same ▸ List.mem_map_of_mem inside)
    by_cases loads : Loads first
    · obtain ⟨state,loaded⟩ := loads
      simp only [sweep,loaded] at swept
      rcases List.mem_cons.mp listed with rfl | later
      · exact absurd ⟨state,loaded⟩ broken
      · exact ih swept there.2 apart later
    · obtain ⟨next,later,moved,_,ran⟩ := sweep_moved swept loads
      rcases List.mem_cons.mp listed with rfl | behind
      · apply sweep_missing ran
        rw [moved]
        exact quarantine_missing (.inr ⟨there.1,rfl⟩)
      · apply ih ran _ apart behind
        intro other inside
        rw [moved]
        exact quarantine_keeps (there.2 other inside) (others other inside)

theorem sweep_valid {root after : Root β} {names : List Text}
    (swept : sweep directories root = .ok (after,names)) (valid : Valid root) : Valid after := by
  induction directories generalizing root names with
  | nil =>
    cases swept
    exact valid
  | cons directory rest ih =>
    by_cases loads : Loads directory
    · obtain ⟨state,loaded⟩ := loads
      simp only [sweep,loaded] at swept
      exact ih swept valid
    · obtain ⟨next,later,_,pointer,ran⟩ := sweep_moved swept loads
      apply ih ran
      rcases pointer with same | empty
      · simp only [Valid,pointed,same]
        exact valid
      · exact .inl empty

theorem sweep_listed {root after : Root β} {names : List Text} {directory : Directory β}
    (swept : sweep root.listed root = .ok (after,names)) (inside : directory ∈ root.directories) (broken : ¬ Loads directory) :
    ⟨directory.name,none⟩ ∈ after.directories := by
  apply sweep_broken swept (fun listed => mem_listed.mp) _ (mem_listed.mpr inside) broken
  exact ((List.perm_insertionSort _ root.directories).map Directory.name).nodup_iff.mpr root.distinct

end reading

/- Selecting a workspace, or making one. -/

-- A fresh uuid4 is the name of nothing in the root.
structure World.Fresh [Reading β] (world : World) (root : Root β) : Prop where
  absent : ¬ root.Has world.workspaceId
  unpointed : pointed root ≠ some world.workspaceId
  unmade : ∀ workspaceId, world.workspaceId ∉ (world.elsewhere workspaceId).made

-- The states can be put in order, and the first active one has a text as its id; where none is active,
-- a new workspace can be entered in the index.
def Selectable [Reading β] [Numbers] (root : Root β) : Prop :=
  ∃ states, listWorkspaces root = .ok states ∧
    match states.find? (fun state => state.status == .active) with
    | some selected => ∃ workspaceId, selected.workspaceId = .str workspaceId
    | none => ∃ index ids, loadWorkspaceIndex root = .ok index ∧ idTexts index.workspaceIds = .ok ids

section selecting
variable [Reading β] [Numbers] {world : World} {root after : Root β} {outcome : Except Raise WorkspaceState}

-- An active workspace that the pointer names, in a root with nothing malformed.
def Settled (after : Root β) (workspace : WorkspaceState) : Prop :=
  workspace.status = .active ∧ (∃ workspaceId, pointed after = some workspaceId ∧ workspace.workspaceId = .str workspaceId) ∧
    inspectWorkspace after = .ok []

omit [Numbers] in
theorem document_loads (workspaceId title mode now : Text) (status : Status) (events : Int) :
    (⟨workspaceId,some (.written (newDocument workspaceId title mode now status events))⟩ : Directory β).load =
      .ok (newState workspaceId title mode now status events) := by
  cases status <;> rfl

variable {workspaceId : Text}

theorem index_directories : (updateIndex root workspaceId).1.directories = root.directories := by
  unfold updateIndex
  split
  · rfl
  · split <;> rfl

theorem index_updated : (updateIndex root workspaceId).2 = .ok () ↔
    ∃ index ids, loadWorkspaceIndex root = .ok index ∧ idTexts index.workspaceIds = .ok ids := by
  unfold updateIndex
  split
  · rename_i failure read
    simp [read]
  · rename_i index read
    split
    · rename_i failure texts
      simp [read,texts]
    · rename_i ids texts
      simp [read,texts]

-- The root with the new workspace.json, before its id is in the index.
def entered (world : World) (root : Root β) : Root β :=
  (root.make world.workspaceId).put world.workspaceId (some (.written (newDocument world.workspaceId
    (world.title ("Workspace ".toList ++ world.workspaceId)) "general".toList world.now .active 1)))

theorem create_updated : createWorkspace world root = match updateIndex (entered world root) world.workspaceId with
    | (saved,.error failure) => (saved,.error failure)
    | (saved,.ok _) => (saveLatestWorkspaceId saved (.str world.workspaceId),.ok (newState world.workspaceId
        ("Workspace ".toList ++ world.workspaceId) "general".toList world.now .active 1)) := rfl

theorem create_directories : (createWorkspace world root).1.directories = (entered world root).directories := by
  have same := @index_directories β _ _ (entered world root) world.workspaceId
  rw [create_updated]
  generalize updateIndex (entered world root) world.workspaceId = updated at same ⊢
  obtain ⟨saved,ended⟩ := updated
  cases ended <;> exact same

theorem create_keeps (inside : directory ∈ root.directories) (apart : directory.name ≠ world.workspaceId) :
    directory ∈ (createWorkspace world root).1.directories := by
  rw [create_directories]
  exact mem_put.mpr (.inr ⟨mem_make.mpr (.inl inside),apart⟩)

theorem select_keeps (inside : directory ∈ root.directories) (apart : directory.name ≠ world.workspaceId) :
    directory ∈ (selectOrCreate world root).1.directories := by
  unfold selectOrCreate
  split
  · exact inside
  · split
    · exact inside
    · exact create_keeps inside apart

variable (world) in
theorem index_usable : (updateIndex (entered world root) world.workspaceId).2 = .ok () ↔
    ∃ index ids, loadWorkspaceIndex root = .ok index ∧ idTexts index.workspaceIds = .ok ids :=
  index_updated

variable (world) in
theorem created_loads (loads : ∀ directory ∈ root.directories, Loads directory) :
    ∀ directory ∈ (createWorkspace world root).1.directories, Loads directory := by
  rw [create_directories]
  intro directory inside
  rcases mem_put.mp inside with rfl | ⟨old,apart⟩
  · exact ⟨_,document_loads ..⟩
  · rcases mem_make.mp old with before | ⟨_,rfl⟩
    · exact loads directory before
    · exact absurd rfl apart

-- Where every workspace.json loads, this ends well exactly where a workspace can be selected.
theorem select_settled (loads : ∀ directory ∈ root.directories, Loads directory) :
    (∃ after workspace, selectOrCreate world root = (after,.ok workspace) ∧ Settled after workspace) ↔ Selectable root := by
  unfold selectOrCreate Selectable
  cases listed : listWorkspaces root with
  | error failure => simp
  | ok states =>
    simp only [Except.ok.injEq,exists_eq_left']
    cases found : states.find? (fun state => state.status == .active) with
    | some selected =>
      dsimp only
      constructor
      · rintro ⟨after,workspace,ran,_,⟨workspaceId,_,named⟩,_⟩
        cases ran
        exact ⟨workspaceId,named⟩
      · rintro ⟨workspaceId,named⟩
        have active : selected.status = .active := by simpa using List.find?_some found
        have points : pointed (saveLatestWorkspaceId root selected.workspaceId) = some workspaceId := by
          rw [named]
          rfl
        exact ⟨_,selected,rfl,active,⟨workspaceId,points,named⟩,inspect_clean.mpr ⟨.inr (by rw [points]; rfl),loads⟩⟩
    | none =>
      dsimp only
      have fine := created_loads world loads
      rw [← index_usable world]
      rw [create_updated] at fine ⊢
      generalize updateIndex (entered world root) world.workspaceId = updated at fine ⊢
      obtain ⟨saved,ended⟩ := updated
      cases ended with
      | error failure => simp
      | ok _ =>
        refine iff_of_true ?_ rfl
        exact ⟨_,_,rfl,rfl,⟨world.workspaceId,rfl,rfl⟩,inspect_clean.mpr ⟨.inr rfl,fine⟩⟩

/- The latest pointer. -/

-- Loading under the id makes no new directory in the root.
def Resting (world : World) (root : Root β) (workspaceId : Text) : Prop :=
  if directoryName workspaceId then root.Has workspaceId else ∀ name ∈ (world.elsewhere workspaceId).made, root.Has name

-- A workspace that the pointer names is in the root; an active one names itself so, and without an active one
-- there, a workspace can be selected.
def Reaches (world : World) (root : Root β) : Prop :=
  match pointed root with
  | none => Selectable root
  | some workspaceId => Resting world root workspaceId ∧
    match (loadWorkspaceState world root workspaceId).2 with
    | .ok latest => if latest.status = .active then latest.workspaceId = .str workspaceId else Selectable root
    | .error failure => unusable failure = true ∧ Selectable root

omit [Numbers] in
theorem latest_read (valid : Valid root) : loadLatestWorkspaceId root = .ok (pointed root) := by
  unfold Valid pointed at valid
  unfold loadLatestWorkspaceId pointed
  cases given : root.latest with
  | none => rfl
  | some content =>
    simp only [given,reduceCtorEq,false_or] at valid ⊢
    cases read : content.loads with
    | error failure => simp [read] at valid
    | ok payload =>
      cases payload with
      | obj members => simp only [bind,Except.bind,pure,Except.pure]
      | _ => simp [read,workspaceIdOf] at valid

omit [Numbers] in
theorem load_keeps {directory : Directory β} (inside : directory ∈ root.directories) :
    directory ∈ (loadWorkspaceState world root workspaceId).1.directories := by
  unfold loadWorkspaceState
  split
  · dsimp only
    split
    · exact mem_make.mpr (.inl inside)
    · exact mem_make.mpr (.inl inside)
  · exact make_keeps inside

omit [Numbers] in
theorem load_rests (rests : Resting world root workspaceId) : (loadWorkspaceState world root workspaceId).1 = root := by
  unfold Resting at rests
  unfold loadWorkspaceState
  split
  · rename_i named
    rw [if_pos named] at rests
    dsimp only
    split
    · exact make_present rests
    · exact make_present rests
  · rename_i named
    rw [if_neg named] at rests
    exact makes_present rests

omit [Numbers] in
theorem load_makes (moves : ¬ Resting world root workspaceId) : ∃ name,
    (name = workspaceId ∨ name ∈ (world.elsewhere workspaceId).made) ∧
    ⟨name,none⟩ ∈ (loadWorkspaceState world root workspaceId).1.directories := by
  unfold Resting at moves
  unfold loadWorkspaceState
  split
  · rename_i named
    rw [if_pos named] at moves
    refine ⟨workspaceId,.inl rfl,?_⟩
    dsimp only
    split
    · exact mem_make.mpr (.inr ⟨moves,rfl⟩)
    · exact mem_make.mpr (.inr ⟨moves,rfl⟩)
  · rename_i named
    rw [if_neg named] at moves
    simp only [not_forall] at moves
    obtain ⟨name,listed,absent⟩ := moves
    exact ⟨name,.inr listed,makes_missing listed absent⟩

-- What is in the root once the pointer is followed, stays.
theorem latest_keeps {directory : Directory β} (read : loadLatestWorkspaceId root = .ok (some workspaceId))
    (inside : directory ∈ (loadWorkspaceState world root workspaceId).1.directories) (apart : directory.name ≠ world.workspaceId) :
    directory ∈ (getOrCreateLatestWorkspace world root).1.directories := by
  simp only [getOrCreateLatestWorkspace,read]
  obtain ⟨made,ended,ran⟩ : ∃ made ended, loadWorkspaceState world root workspaceId = (made,ended) := ⟨_,_,rfl⟩
  rw [ran] at inside ⊢
  have selected : directory ∈ (selectOrCreate world (clearLatestWorkspaceId made)).1.directories := select_keeps inside apart
  cases ended with
  | error failure =>
    dsimp only
    split
    · exact selected
    · exact inside
  | ok latest =>
    dsimp only
    split
    · exact inside
    · exact selected

theorem getOrCreate_keeps {directory : Directory β} (valid : Valid root)
    (inside : directory ∈ root.directories) (apart : directory.name ≠ world.workspaceId) :
    directory ∈ (getOrCreateLatestWorkspace world root).1.directories := by
  have read := latest_read valid
  cases points : pointed root with
  | none =>
    rw [points] at read
    simp only [getOrCreateLatestWorkspace,read]
    exact select_keeps inside apart
  | some workspaceId =>
    rw [points] at read
    exact latest_keeps read (load_keeps inside) apart

omit [Numbers] in
theorem missing_broken {name : Text} : ¬ Loads (⟨name,none⟩ : Directory β) := by
  intro ⟨state,loaded⟩
  cases loaded

theorem getOrCreate_settled (fresh : world.Fresh root) (valid : Valid root)
    (loads : ∀ directory ∈ root.directories, Loads directory) :
    (∃ after workspace, getOrCreateLatestWorkspace world root = (after,.ok workspace) ∧ Settled after workspace) ↔ Reaches world root := by
  have read := latest_read valid
  unfold Reaches
  cases points : pointed root with
  | none =>
    rw [points] at read
    simp only [getOrCreateLatestWorkspace,read]
    exact select_settled loads
  | some workspaceId =>
    rw [points] at read
    by_cases rests : Resting world root workspaceId
    · have same := load_rests rests
      obtain ⟨ended,ran⟩ : ∃ ended, loadWorkspaceState world root workspaceId = (root,ended) := ⟨_,Prod.ext same rfl⟩
      have cleared : (∃ after workspace, selectOrCreate world (clearLatestWorkspaceId root) = (after,.ok workspace) ∧
          Settled after workspace) ↔ Selectable root := select_settled loads
      simp only [getOrCreateLatestWorkspace,read,ran,rests,true_and]
      cases ended with
      | error failure =>
        dsimp only
        split
        · rename_i usable
          simp only [usable,true_and]
          exact cleared
        · rename_i usable
          simp [usable]
      | ok latest =>
        dsimp only
        split
        · rename_i active
          constructor
          · intro ⟨after,workspace,done,_,⟨named,there,same⟩,_⟩
            cases done
            rw [points] at there
            rw [same,Option.some.inj there]
          · intro named
            exact ⟨root,latest,rfl,active,⟨workspaceId,points,named⟩,inspect_clean.mpr ⟨valid,loads⟩⟩
        · exact cleared
    · simp only [rests,false_and,iff_false]
      intro ⟨after,workspace,ran,_,_,clean⟩
      obtain ⟨name,origin,made⟩ := load_makes rests
      have apart : name ≠ world.workspaceId := by
        rintro rfl
        rcases origin with same | listed
        · exact fresh.unpointed (points.trans (congrArg some same.symm))
        · exact fresh.unmade _ listed
      have kept := latest_keeps read made apart
      rw [ran] at kept
      exact missing_broken ((inspect_clean.mp clean).2 _ kept)

/- The whole recovery. -/

-- latest.json, where it is there, decodes or is refused as JSON.
def Readable (root : Root β) : Prop :=
  ∀ content failure, root.latest = some content → content.loads = .error failure → failure = .jsonDecode

structure Intact (world : World) (root : Root β) : Prop where
  directories : ∀ directory ∈ root.directories, Loads directory
  readable : Readable root
  reaches : Reaches world root

-- Recovery returns an active workspace that the pointer names, leaves every workspace.json that loads,
-- and inspection finds nothing malformed.
def Recovered (world : World) (root : Root β) : Prop :=
  ∃ after result, recoverWorkspace world root = .ok (after,result) ∧ Settled after result.workspace ∧
    ∀ directory ∈ root.directories, Loads directory → directory ∈ after.directories

variable {next : Root β}

omit [Numbers] in
theorem quarantine_readable (quarantined : quarantineInvalidLatest root = .ok (next,moved)) : Readable root := by
  intro content failure given refused
  unfold quarantineInvalidLatest at quarantined
  rw [given] at quarantined
  dsimp only at quarantined
  rw [refused] at quarantined
  cases failure with
  | jsonDecode => rfl
  | _ => cases quarantined

omit [Numbers] in
-- A pointer that can be used stays; another one is moved, and then there is none.
theorem quarantine_cases (readable : Readable root) : ∃ next moved, quarantineInvalidLatest root = .ok (next,moved) ∧
    next.directories = root.directories ∧ next.index = root.index ∧
    (next = root ∧ Valid root ∨ next.latest = none ∧ pointed root = none) := by
  unfold quarantineInvalidLatest pointed
  cases given : root.latest with
  | none => exact ⟨root,false,rfl,rfl,rfl,.inl ⟨rfl,.inl given⟩⟩
  | some content =>
    dsimp only
    cases read : content.loads with
    | error failure =>
      obtain rfl := readable content failure given read
      refine ⟨quarantineLatestWorkspacePointer root,true,rfl,?_,?_,.inr ⟨?_,rfl⟩⟩
      all_goals simp only [quarantineLatestWorkspacePointer,given]
    | ok payload =>
      dsimp only
      cases usable : workspaceIdOf payload with
      | some workspaceId =>
        have points : pointed root = some workspaceId := by simp only [pointed,given,read,usable]
        exact ⟨root,false,rfl,rfl,rfl,.inl ⟨rfl,.inr (by rw [points]; rfl)⟩⟩
      | none =>
        refine ⟨quarantineLatestWorkspacePointer root,true,rfl,?_,?_,.inr ⟨?_,rfl⟩⟩
        all_goals simp only [quarantineLatestWorkspacePointer,given]

theorem selectable_same (directories : next.directories = root.directories) (index : next.index = root.index) :
    Selectable next ↔ Selectable root := by
  simp only [Selectable,listWorkspaces,Root.listed,loadWorkspaceIndex,directories,index]

theorem temporary_status (ran : temporaryWorkspace world root = (next,.ok workspace)) : workspace.status = .temporary := by
  unfold temporaryWorkspace at ran
  dsimp only at ran
  split at ran
  · cases ran
  · cases ran
    rfl

-- The root that the loop over the directories begins with.
structure Follows (world : World) (root next : Root β) : Prop where
  directories : next.directories = root.directories
  valid : Valid next
  fresh : world.Fresh next
  reaches : Reaches world next ↔ Reaches world root

theorem quarantine_follows (fresh : world.Fresh root) (readable : Readable root) :
    ∃ next moved, quarantineInvalidLatest root = .ok (next,moved) ∧ Follows world root next := by
  obtain ⟨next,moved,ran,directories,index,⟨rfl,valid⟩ | ⟨empty,unusable⟩⟩ := quarantine_cases readable
  · exact ⟨next,moved,ran,rfl,valid,fresh,Iff.rfl⟩
  · have points : pointed next = none := by simp only [pointed,empty]
    refine ⟨next,moved,ran,directories,.inl empty,⟨?_,?_,fresh.unmade⟩,?_⟩
    · intro ⟨directory,inside,same⟩
      exact fresh.absent ⟨directory,directories ▸ inside,same⟩
    · rw [points]
      exact fun same => nomatch same
    · simp only [Reaches,points,unusable]
      exact selectable_same directories index

theorem recovery_exact (fresh : world.Fresh root) : Recovered world root ↔ Intact world root := by
  constructor
  · intro ⟨after,result,ran,settled,_⟩
    unfold recoverWorkspace at ran
    cases pointer : quarantineInvalidLatest root with
    | error failure => simp [pointer,bind,Except.bind] at ran
    | ok hit =>
      have readable := quarantine_readable pointer
      obtain ⟨next,moved,same,follows⟩ := quarantine_follows fresh readable
      obtain rfl := Except.ok.inj (pointer.symm.trans same)
      simp only [pointer,bind,Except.bind] at ran
      cases looped : sweep next.listed next with
      | error failure => simp [looped] at ran
      | ok swept =>
        obtain ⟨swept,names⟩ := swept
        simp only [looped] at ran
        -- A workspace that is returned as a temporary one is not active.
        obtain ⟨left,workspace,chosen,active⟩ : ∃ left workspace, getOrCreateLatestWorkspace world swept = (left,.ok workspace) ∧
            Settled left workspace := by
          obtain ⟨left,ended,chosen⟩ : ∃ left ended, getOrCreateLatestWorkspace world swept = (left,ended) := ⟨_,_,rfl⟩
          rw [chosen] at ran ⊢
          cases ended with
          | ok workspace =>
            cases ran
            exact ⟨_,_,rfl,settled⟩
          | error failure =>
            dsimp only at ran
            split at ran
            · split at ran
              · rename_i saved workspace made
                cases ran
                have status := temporary_status made
                rw [settled.1] at status
                cases status
              · cases ran
            · cases ran
        have clean := (inspect_clean.mp active.2.2).2
        have loads : ∀ directory ∈ next.directories, Loads directory := by
          intro directory inside
          by_contra broken
          have missing := sweep_listed looped inside broken
          have apart : directory.name ≠ world.workspaceId := fun same => follows.fresh.absent ⟨directory,inside,same⟩
          have kept := getOrCreate_keeps (sweep_valid looped follows.valid) missing apart
          rw [chosen] at kept
          exact missing_broken (clean _ kept)
        obtain ⟨rfl,_⟩ := Prod.mk.inj (Except.ok.inj (looped.symm.trans
          (sweep_loads (fun directory listed => loads directory (mem_listed.mp listed)))))
        refine ⟨follows.directories ▸ loads,readable,follows.reaches.mp ?_⟩
        exact (getOrCreate_settled follows.fresh follows.valid loads).mp ⟨left,workspace,chosen,active⟩
  · intro intact
    obtain ⟨next,moved,pointer,follows⟩ := quarantine_follows fresh intact.readable
    have loads : ∀ directory ∈ next.directories, Loads directory := follows.directories ▸ intact.directories
    have looped : sweep next.listed next = .ok (next,[]) := sweep_loads (fun directory listed => loads directory (mem_listed.mp listed))
    obtain ⟨after,workspace,chosen,settled⟩ :=
      (getOrCreate_settled follows.fresh follows.valid loads).mpr (follows.reaches.mpr intact.reaches)
    obtain ⟨result,ran,same⟩ : ∃ result, recoverWorkspace world root = .ok (after,result) ∧ result.workspace = workspace := by
      simp only [recoverWorkspace,pointer,looped,chosen,bind,Except.bind,pure,Except.pure]
      exact ⟨_,rfl,rfl⟩
    refine ⟨after,result,ran,same ▸ settled,?_⟩
    · intro directory inside _
      have apart : directory.name ≠ world.workspaceId := fun same => fresh.absent ⟨directory,inside,same⟩
      have kept := getOrCreate_keeps follows.valid (follows.directories ▸ inside) apart
      rw [chosen] at kept
      exact kept

end selecting

-- Bytes that are not UTF-8, and numbers that nothing here compares.
inductive Scrap where
  | bytes

instance : Reading Scrap := ⟨fun _ => .error .value⟩

instance : Numbers := ⟨Json.same,fun _ _ => false,fun _ => .error .value,fun _ => .error .value⟩

def sampleWorld : World := ⟨"ws-2".toList,"ws-3".toList,"2026-03-02T09:00:00+00:00".toList,id,fun _ => ⟨[],.error .fileNotFound⟩⟩

def firstDirectory : Directory Scrap :=
  ⟨"ws-1".toList,some (.written (newDocument "ws-1".toList "First".toList "general".toList "2026-03-02T08:00:00+00:00".toList .active 1))⟩

def firstRoot : Root Scrap where
  latest := some (.written (pointerTo (.str "ws-1".toList)))
  index := none
  directories := [firstDirectory]
  distinct := List.nodup_singleton _
  quarantined := []

theorem recovery_exact_sample : Recovered sampleWorld firstRoot := by
  have fresh : sampleWorld.Fresh firstRoot := by
    refine ⟨?_,by decide,by simp [sampleWorld]⟩
    rintro ⟨directory,inside,same⟩
    obtain rfl := List.mem_singleton.mp inside
    exact absurd same (by decide)
  apply (recovery_exact fresh).mpr
  refine ⟨?_,?_,⟨firstDirectory,List.mem_singleton_self _,rfl⟩,rfl⟩
  · intro directory inside
    obtain rfl := List.mem_singleton.mp inside
    exact ⟨_,document_loads ..⟩
  · intro content failure given refused
    cases given
    cases refused

-- A latest.json that is not UTF-8.
def unreadableRoot : Root Scrap where
  latest := some (.found .bytes)
  index := none
  directories := []
  distinct := List.nodup_nil
  quarantined := []

theorem recovery_raises : ¬ ∀ (β : Type) [Reading β] [Numbers] (world : World) (root : Root β), world.Fresh root → Recovered world root := by
  intro claimed
  have fresh : sampleWorld.Fresh unreadableRoot := by
    refine ⟨?_,by decide,by simp [sampleWorld]⟩
    rintro ⟨directory,inside,_⟩
    cases inside
  obtain ⟨after,result,ran,_⟩ := claimed Scrap sampleWorld unreadableRoot fresh
  cases ran

end OpenStock.Workspaces.Recovery
