import OpenStock.Workspaces.RecoveryComplete
import OpenStock.Workspaces.Secrets

namespace OpenStock.Workspaces.Documents
open Json

/- What `from_dict` makes of a saved state. -/

def JsonDict.read (dict : JsonDict) : List (Json × Json) := (sortedMembers dict).map (fun member => (.str member.1,member.2))

def WorkspaceArtifactRef.read (artifact : WorkspaceArtifactRef) : Recovery.WorkspaceArtifactRef :=
  ⟨.str artifact.artifactId,.str artifact.artifactType,.str artifact.path,.str artifact.summary,.str artifact.createdAt,
    artifact.sourceRefs.map .str,artifact.metadata.read,.bool artifact.pinned⟩

def WorkspaceInputRef.read (input : WorkspaceInputRef) : Recovery.WorkspaceInputRef :=
  ⟨.str input.inputId,.str input.inputKind,.str input.summary,.str input.redactionStatus,.str input.createdAt,.str input.source,
    optionalText input.content,input.metadata.read⟩

def WorkspaceTask.read (task : WorkspaceTask) : Recovery.WorkspaceTask :=
  ⟨.str task.taskId,.str task.text,.str task.status,.str task.priority,.str task.createdAt,.str task.updatedAt,
    task.sourceRefs.map .str⟩

def WorkspaceState.read (state : WorkspaceState) : Recovery.WorkspaceState where
  workspaceId := .str state.workspaceId
  title := .str state.title
  status := state.status
  mode := .str state.mode
  createdAt := .str state.createdAt
  updatedAt := .str state.updatedAt
  activeDate := optionalText state.activeDate
  activeSymbols := state.activeSymbols.map .str
  activeArtifacts := state.activeArtifacts.map WorkspaceArtifactRef.read
  recentInputs := state.recentInputs.map WorkspaceInputRef.read
  openTasks := state.openTasks.map WorkspaceTask.read
  assumptions := state.assumptions.map .str
  warnings := state.warnings.map .str
  errors := state.errors.map .str
  dataFreshness := state.dataFreshness.read
  lastCompactedAt := optionalText state.lastCompactedAt
  contextSize := state.contextSize.read

/- A document answers every lookup as its members do, whatever their order. -/

def written (members : List (String × Json)) : List (Text × Json) :=
  (sortMembers (members.map (fun member => (member.1.toList,member.2)))).insertionSort keyBefore

section lookups
variable {members : List (String × Json)}

theorem lookup_written (distinct : (members.map Prod.fst).Nodup) (key : String) :
    lookup (written members) key.toList = (members.lookup key).map sortKeys := by
  have keys : ((members.map (fun member => (member.1.toList,member.2))).map Prod.fst).Nodup := by
    have injective : Function.Injective String.toList := fun _ _ => String.toList_inj.mp
    simpa [Function.comp_def] using distinct.map injective
  rw [written,lookup_sorted keys]
  congr 1
  clear distinct keys
  induction members with
  | nil => rfl
  | cons member members ih =>
    obtain ⟨name,value⟩ := member
    by_cases same : key = name
    · simp [lookup,same]
    · simpa [lookup,List.lookup_cons,beq_false_of_ne same,String.toList_inj,Ne.symm same] using ih

theorem required_written (distinct : (members.map Prod.fst).Nodup) (key : String) :
    Recovery.required (written members) key = ((members.lookup key).map sortKeys).elim (.error .key) .ok := by
  rw [Recovery.required,lookup_written distinct]
  cases members.lookup key <;> rfl

theorem optional_written (distinct : (members.map Prod.fst).Nodup) (key : String) (default : Json) :
    Recovery.optional (written members) key default = ((members.lookup key).map sortKeys).getD default := by
  rw [Recovery.optional,lookup_written distinct]

theorem members_written (members : List (String × Json)) : Recovery.membersOf (sortKeys (named members)) = .ok (written members) := rfl

end lookups

theorem list_texts (values : List Text) : Recovery.listOf (sortKeys (texts values)) = .ok (values.map .str) := by
  rw [texts_sorted]
  rfl

theorem list_written (items : List Json) : Recovery.listOf (sortKeys (.arr items)) = .ok (items.map sortKeys) := by
  rw [sortKeys,sortItems_map]
  rfl

theorem dict_read (dict : JsonDict) : Recovery.dictOf (sortKeys (.obj dict.members)) = .ok dict.read := by
  rw [sortKeys]
  rfl

theorem items_read {fromDict : Json → Except Recovery.Raise ρ} {toDict : α → Json} {read : α → ρ}
    (each : ∀ item, fromDict (sortKeys (toDict item)) = .ok (read item)) (items : List α) :
    items.mapM (fromDict ∘ sortKeys ∘ toDict) = .ok (items.map read) := Rows.each_map (fun item _ => each item)

theorem artifact_read (artifact : WorkspaceArtifactRef) :
    Recovery.WorkspaceArtifactRef.fromDict (sortKeys artifact.toDict) = .ok artifact.read := by
  simp [Recovery.WorkspaceArtifactRef.fromDict,WorkspaceArtifactRef.toDict,members_written,required_written,optional_written,
    List.lookup_cons,list_texts,dict_read,WorkspaceArtifactRef.read,text_sorted,bind,Except.bind,pure,Except.pure]
  rfl

theorem input_read (input : WorkspaceInputRef) : Recovery.WorkspaceInputRef.fromDict (sortKeys input.toDict) = .ok input.read := by
  simp [Recovery.WorkspaceInputRef.fromDict,WorkspaceInputRef.toDict,members_written,required_written,optional_written,
    List.lookup_cons,dict_read,WorkspaceInputRef.read,text_sorted,optional_sorted,bind,Except.bind,pure,Except.pure]

theorem task_read (task : WorkspaceTask) : Recovery.WorkspaceTask.fromDict (sortKeys task.toDict) = .ok task.read := by
  simp [Recovery.WorkspaceTask.fromDict,WorkspaceTask.toDict,members_written,required_written,optional_written,
    List.lookup_cons,list_texts,WorkspaceTask.read,text_sorted,bind,Except.bind,pure,Except.pure]

-- Whatever state is saved, reading it back gives every field of what was persisted.
theorem state_read (state : WorkspaceState) : Recovery.WorkspaceState.fromDict (sortKeys state.toDict) = .ok state.read := by
  have status : Recovery.statusOf (.str state.status.value) = .ok state.status := by
    cases state.status <;> rfl
  simp [Recovery.WorkspaceState.fromDict,WorkspaceState.toDict,members_written,required_written,optional_written,
    List.lookup_cons,list_texts,list_written,dict_read,items_read artifact_read,items_read input_read,items_read task_read,
    WorkspaceState.read,text_sorted,optional_sorted,status,bind,Except.bind,pure,Except.pure]

theorem persisted_twice (state : WorkspaceState) : persistedState (persistedState state) = persistedState state := by
  have dicts (dict : JsonDict) : dict.redact.redact = dict.redact := by
    simp only [JsonDict.redact,Redact.redactMapping_twice]
  simp [persistedState,WorkspaceArtifactRef.saved,WorkspaceInputRef.saved,WorkspaceTask.saved,Redact.redactText_twice,dicts,
    Function.comp_def]

-- What was saved once is saved again as the same bytes.
theorem saved_again (state : WorkspaceState) : saveWorkspaceState (persistedState state) = saveWorkspaceState state := by
  rw [saveWorkspaceState,saveWorkspaceState,workspaceJson,workspaceJson,persisted_twice]

end OpenStock.Workspaces.Documents

namespace OpenStock.Workspaces.Recovery
open Json Documents

/- A load gives what the last save of the workspace persisted. -/

section saves
variable {β : Type} [Reading β]

-- A state under the name of a directory in the root.
abbrev Storable := {state : Documents.WorkspaceState // directoryName state.workspaceId = true}

def document (state : Documents.WorkspaceState) : Content β := .written (sortKeys (persistedState state).toDict)

-- `save_workspace_state`: workspace.json is written before the index is read.
def saveWorkspaceState (root : Root β) (state : Documents.WorkspaceState) : Root β × Except Raise Unit :=
  updateIndex ((root.make state.workspaceId).put state.workspaceId (some (document state))) state.workspaceId

-- Saves one after the other, whether or not they end by a raise; latest first.
def saved (root : Root β) : List Storable → Root β
  | [] => root
  | state :: earlier => (saveWorkspaceState (saved root earlier) state.val).1

def Root.directory (root : Root β) (name : Text) : Directory β :=
  (root.directories.find? (fun directory => directory.name = name)).getD ⟨name,none⟩

variable {root : Root β} {name sought : Text} {content : Option (Content β)}

omit [Reading β] in
theorem directory_upsert : ((Rows.upsert Directory.name root.directories ⟨name,content⟩).find?
    (fun directory => directory.name = sought)).getD ⟨sought,none⟩ = if sought = name then ⟨name,content⟩ else root.directory sought := by
  rw [Rows.find_upsert,Root.directory]
  split <;> rfl

omit [Reading β] in
theorem directory_make : (root.make name).directory sought = root.directory sought := by
  unfold Root.directory Root.make
  dsimp only
  split
  · rfl
  · rename_i absent
    rw [directory_upsert]
    split
    · rename_i same
      subst same
      have missing := Option.not_isSome_iff_eq_none.mp absent
      simp only [beq_eq_decide] at missing
      rw [missing]
      rfl
    · rfl

theorem load_directory {world : World} (plain : directoryName sought = true) :
    (loadWorkspaceState world root sought).2 = (root.directory sought).load := by
  have there : ((root.make sought).directories.find? (fun directory => directory.name == sought)).isSome = true := by
    rw [has_found]
    by_cases present : root.Has sought
    · rwa [make_present present]
    · exact ⟨_,mem_make.mpr (.inr ⟨present,rfl⟩),rfl⟩
  obtain ⟨directory,found⟩ := Option.isSome_iff_exists.mp there
  rw [← @directory_make β root sought sought,Root.directory]
  simp only [beq_eq_decide] at found
  rw [loadWorkspaceState,if_pos plain]
  simp only [beq_eq_decide,found]
  rfl

theorem saved_directory (root : Root β) (states : List Storable) : (saved root states).directory sought =
    ((states.find? (fun state => state.val.workspaceId = sought)).map (fun state =>
      ⟨sought,some (document state.val)⟩)).getD (root.directory sought) := by
  induction states with
  | nil => rfl
  | cons state earlier ih =>
    have kept : (saved root (state :: earlier)).directory sought =
        if sought = state.val.workspaceId then ⟨state.val.workspaceId,some (document state.val)⟩
        else (saved root earlier).directory sought := by
      rw [saved,saveWorkspaceState,Root.directory,index_directories]
      exact directory_upsert.trans (by rw [directory_make])
    rw [kept,List.find?_cons]
    by_cases same : sought = state.val.workspaceId
    · simp [same]
    · simp [same,Ne.symm same,ih]

-- Saves of other workspaces in between do not matter, nor does a save that ends by a raise.
theorem saved_loads (world : World) (root : Root β) (states : List Storable) (plain : directoryName sought = true) :
    (loadWorkspaceState world (saved root states) sought).2 =
      match states.find? (fun state => state.val.workspaceId = sought) with
      | some state => .ok (persistedState state.val).read
      | none => (loadWorkspaceState world root sought).2 := by
  rw [load_directory plain,load_directory plain,saved_directory]
  cases states.find? (fun state => state.val.workspaceId = sought) with
  | none => rfl
  | some state =>
    simp only [Option.map_some,Option.getD_some,Directory.load,document,Content.loads,bind,Except.bind]
    exact state_read _

end saves

def warnedStates : List Storable :=
  [⟨{warnedState "password=a" with workspaceId := "ws-2".toList},by decide⟩,⟨warnedState "late",by decide⟩,⟨warnedState "early",by decide⟩]

theorem saved_loads_sample : (loadWorkspaceState sampleWorld (saved firstRoot warnedStates) "ws-1".toList).2 =
    .ok (persistedState (warnedState "late")).read :=
  saved_loads sampleWorld firstRoot warnedStates (by decide)

/- The index lists what was saved. -/

theorem idTexts_texts (ids : List Text) : idTexts (ids.map .str) = .ok ids := by
  induction ids with
  | nil => rfl
  | cons id ids ih =>
    rw [List.map_cons,idTexts,ih]
    rfl

section index
variable {β : Type} [Reading β] {root : Root β} {ids : List Text}

-- index.json can be read, and lists these ids.
def Indexed (root : Root β) (ids : List Text) : Prop :=
  ∃ index, loadWorkspaceIndex root = .ok index ∧ idTexts index.workspaceIds = .ok ids

theorem save_indexed (held : Indexed root ids) (state : Documents.WorkspaceState) :
    (saveWorkspaceState root state).2 = .ok () ∧
      Indexed (saveWorkspaceState root state).1 ((state.workspaceId :: ids).dedup.insertionSort (· ≤ ·)) := by
  obtain ⟨index,read,texts⟩ := held
  have same (content : Option (Content β)) :
      loadWorkspaceIndex ((root.make state.workspaceId).put state.workspaceId content) = .ok index := read
  simp only [saveWorkspaceState,updateIndex,same,texts]
  exact ⟨trivial,_,rfl,idTexts_texts _⟩

-- No save raises or loses an id.
theorem saves_indexed (states : List Storable) (held : Indexed root ids) : ∃ listed, Indexed (saved root states) listed ∧
    (∀ id, id ∈ listed ↔ id ∈ ids ∨ ∃ state ∈ states, state.val.workspaceId = id) ∧
      ∀ state, (saveWorkspaceState (saved root states) state).2 = .ok () := by
  induction states with
  | nil => exact ⟨ids,held,by simp,fun state => (save_indexed held state).1⟩
  | cons state states ih =>
    obtain ⟨listed,held,members,_⟩ := ih
    have next := (save_indexed held state.val).2
    refine ⟨_,next,fun id => ?_,fun other => (save_indexed next other).1⟩
    simp only [List.mem_insertionSort,List.mem_dedup,List.mem_cons,members,exists_eq_or_imp]
    tauto

end index

theorem saves_indexed_sample : ∃ listed, Indexed (saved firstRoot warnedStates) listed ∧ "ws-2".toList ∈ listed := by
  obtain ⟨listed,held,members,_⟩ := saves_indexed warnedStates (show Indexed firstRoot [] from ⟨⟨[],0⟩,rfl,rfl⟩)
  exact ⟨listed,held,(members _).mpr (.inr ⟨_,List.mem_cons_self,rfl⟩)⟩

end OpenStock.Workspaces.Recovery
