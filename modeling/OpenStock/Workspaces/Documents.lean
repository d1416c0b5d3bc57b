import OpenStock.Workspaces.Redaction
import OpenStock.Workspaces.Storage
import Mathlib.Tactic.MkIffOfInductiveProp

namespace OpenStock.Workspaces.Documents
open Redact

-- A dict that `json.dumps` can write.
structure JsonDict where
  members : List (Text × Json)
  printable : Json.PrintableMembers members

structure WorkspaceArtifactRef where
  artifactId : Text
  artifactType : Text
  path : Text
  summary : Text
  createdAt : Text
  sourceRefs : List Text
  metadata : JsonDict
  pinned : Bool

structure WorkspaceInputRef where
  inputId : Text
  inputKind : Text
  summary : Text
  redactionStatus : Text
  createdAt : Text
  source : Text
  content : Option Text
  metadata : JsonDict

structure WorkspaceTask where
  taskId : Text
  text : Text
  status : Text
  priority : Text
  createdAt : Text
  updatedAt : Text
  sourceRefs : List Text

structure WorkspaceState where
  workspaceId : Text
  title : Text
  status : Status
  mode : Text
  createdAt : Text
  updatedAt : Text
  schemaVersion : Int
  activeDate : Option Text
  activeSymbols : List Text
  activeArtifacts : List WorkspaceArtifactRef
  recentInputs : List WorkspaceInputRef
  openTasks : List WorkspaceTask
  assumptions : List Text
  warnings : List Text
  errors : List Text
  dataFreshness : JsonDict
  lastCompactedAt : Option Text
  contextSize : JsonDict

def workspaceSchemaVersion : Int := 2

/- `to_dict`. -/

def named (members : List (String × Json)) : Json := .obj (members.map (fun member => (member.1.toList,member.2)))

def optionalText (value : Option Text) : Json := (value.map Json.str).getD .null

def texts (values : List Text) : Json := .arr (values.map .str)

def WorkspaceArtifactRef.toDict (artifact : WorkspaceArtifactRef) : Json :=
  named [("artifact_id",.str artifact.artifactId),("artifact_type",.str artifact.artifactType),
    ("path",.str artifact.path),("summary",.str artifact.summary),("created_at",.str artifact.createdAt),
    ("source_refs",texts artifact.sourceRefs),("metadata",.obj artifact.metadata.members),("pinned",.bool artifact.pinned)]

def WorkspaceInputRef.toDict (input : WorkspaceInputRef) : Json :=
  named [("input_id",.str input.inputId),("input_kind",.str input.inputKind),("summary",.str input.summary),
    ("redaction_status",.str input.redactionStatus),("created_at",.str input.createdAt),("source",.str input.source),
    ("content",optionalText input.content),("metadata",.obj input.metadata.members)]

def WorkspaceTask.toDict (task : WorkspaceTask) : Json :=
  named [("task_id",.str task.taskId),("text",.str task.text),("status",.str task.status),("priority",.str task.priority),
    ("created_at",.str task.createdAt),("updated_at",.str task.updatedAt),("source_refs",texts task.sourceRefs)]

def WorkspaceState.toDict (state : WorkspaceState) : Json :=
  named [("workspace_id",.str state.workspaceId),("title",.str state.title),("status",.str state.status.value),
    ("mode",.str state.mode),("created_at",.str state.createdAt),("updated_at",.str state.updatedAt),
    ("schema_version",.int state.schemaVersion),("active_date",optionalText state.activeDate),
    ("active_symbols",texts state.activeSymbols),
    ("active_artifacts",.arr (state.activeArtifacts.map WorkspaceArtifactRef.toDict)),
    ("recent_inputs",.arr (state.recentInputs.map WorkspaceInputRef.toDict)),
    ("open_tasks",.arr (state.openTasks.map WorkspaceTask.toDict)),("assumptions",texts state.assumptions),
    ("warnings",texts state.warnings),("errors",texts state.errors),("data_freshness",.obj state.dataFreshness.members),
    ("last_compacted_at",optionalText state.lastCompactedAt),("context_size",.obj state.contextSize.members)]

/- What is saved. -/

theorem redactItem_printable (item : Json) (printable : Json.Printable item) : Json.Printable (redactItem item) := by
  cases item <;> exact printable

mutual
theorem redactValue_printable : ∀ (sensitive : Bool) (value : Json), Json.Printable value →
    Json.Printable (redactValue sensitive value)
  | _,.str _,_ | _,.null,_ | _,.bool _,_ | _,.int _,_ => trivial
  | _,.float _,printable => printable
  | _,.arr items,printable => by
    rw [redactValue,Json.Printable,Json.printableItems_iff]
    rw [Json.Printable,Json.printableItems_iff] at printable
    intro item inside
    obtain ⟨source,member,rfl⟩ := List.mem_map.mp inside
    exact redactItem_printable source (printable source member)
  | _,.obj members,printable => redactMapping_printable members printable
theorem redactMapping_printable : ∀ members : List (Text × Json), Json.PrintableMembers members →
    Json.PrintableMembers (redactWorkspaceMapping members)
  | [],_ => trivial
  | (_,value) :: members,printable =>
    ⟨redactValue_printable _ value printable.1,redactMapping_printable members printable.2⟩
end

def JsonDict.redact (dict : JsonDict) : JsonDict where
  members := redactWorkspaceMapping dict.members
  printable := redactMapping_printable dict.members dict.printable

def WorkspaceArtifactRef.saved (artifact : WorkspaceArtifactRef) : WorkspaceArtifactRef :=
  {artifact with summary := redactText artifact.summary, metadata := artifact.metadata.redact}

def WorkspaceInputRef.saved (input : WorkspaceInputRef) : WorkspaceInputRef :=
  {input with summary := redactText input.summary, content := input.content.map redactText}

def WorkspaceTask.saved (task : WorkspaceTask) : WorkspaceTask := {task with text := redactText task.text}

-- The state that `from_dict` builds from the redacted payload.
def persistedState (state : WorkspaceState) : WorkspaceState :=
  {state with
    title := redactText state.title
    schemaVersion := workspaceSchemaVersion
    activeArtifacts := state.activeArtifacts.map WorkspaceArtifactRef.saved
    recentInputs := state.recentInputs.map WorkspaceInputRef.saved
    openTasks := state.openTasks.map WorkspaceTask.saved
    assumptions := state.assumptions.map redactText
    warnings := state.warnings.map redactText
    errors := state.errors.map redactText}

def workspaceJson (state : WorkspaceState) : Text :=
  Json.write (Json.indented 2) 0 (Json.sortKeys (persistedState state).toDict)

def bullets (items : List Text) : List Text :=
  if items = [] then ["- None".toList] else items.map (fun item => "- ".toList ++ item)

def quoted (text : Text) : Text := "`".toList ++ text ++ "`".toList

def activeDateLine (state : WorkspaceState) : List Text :=
  match state.activeDate with
  | none | some [] => []
  | some date => ["Active Date: ".toList ++ date]

def heading (title : String) : List Text := [[],"## ".toList ++ title.toList]

def renderContextMarkdown (state : WorkspaceState) : Text :=
  List.intercalate ['\n']
    (["# Workspace Context".toList,[],"Workspace ID: ".toList ++ quoted state.workspaceId,
        "Title: ".toList ++ state.title,"Status: ".toList ++ state.status.value,"Mode: ".toList ++ state.mode] ++
      activeDateLine state ++
      heading "Active Symbols" ++ bullets (state.activeSymbols.map quoted) ++
      heading "Open Tasks" ++ bullets (state.openTasks.map WorkspaceTask.text) ++
      heading "Recent Inputs" ++ bullets (state.recentInputs.map WorkspaceInputRef.summary) ++
      heading "Artifacts" ++ bullets (state.activeArtifacts.map (fun artifact =>
        artifact.summary ++ " (".toList ++ quoted artifact.path ++ ")".toList)) ++
      heading "Assumptions" ++ bullets state.assumptions ++
      heading "Warnings" ++ bullets state.warnings ++ [[]])

-- The texts of workspace.json and context.md.
def saveWorkspaceState (state : WorkspaceState) : Text × Text :=
  (workspaceJson state,renderContextMarkdown (persistedState state))

-- The line that is appended to events.jsonl.
def appendWorkspaceEvent (event : JsonDict) : Text :=
  Json.write Json.spaced 0 (Json.sortKeys (.obj event.redact.members)) ++ ['\n']

/- Two documents with the same text. -/

theorem named_iff (keys : left.map Prod.fst = right.map Prod.fst)
    (distinct : (left.map Prod.fst).Nodup) : Json.sortKeys (named left) = Json.sortKeys (named right) ↔
      left.map (fun member => Json.sortKeys member.2) = right.map (fun member => Json.sortKeys member.2) := by
  have names : ∀ members : List (String × Json), (members.map (fun member => (member.1.toList,member.2))).map Prod.fst =
      (members.map Prod.fst).map String.toList := by
    intro members
    simp
  have apart : ((left.map Prod.fst).map String.toList).Nodup := distinct.map (fun _ _ same => String.toList_injective same)
  rw [named,named,Json.sorted_iff (by rw [names,names,keys]) (by rw [names]; exact apart),Json.sortMembers_map,
    Json.sortMembers_map,List.map_map,List.map_map]
  have zipped : ∀ members : List (String × Json), members.map (((fun member : Text × Json => (member.1,Json.sortKeys member.2)) ∘
      (fun member => (member.1.toList,member.2)))) = ((members.map Prod.fst).map String.toList).zip
        (members.map (fun member => Json.sortKeys member.2)) := by
    intro members
    simp [List.zip_map',Function.comp_def]
  rw [zipped,zipped,← keys]
  constructor
  · intro same
    have values := congrArg (List.map Prod.snd) same
    have sizes := congrArg List.length keys
    simp only [List.length_map] at sizes
    rwa [List.map_snd_zip (by simp),List.map_snd_zip (by simp [sizes])] at values
  · intro same
    rw [same]

def sortedMembers (dict : JsonDict) : List (Text × Json) := (Json.sortMembers dict.members).insertionSort Json.keyBefore

theorem text_sorted (text : Text) : Json.sortKeys (.str text) = .str text := rfl

theorem number_sorted (number : Int) : Json.sortKeys (.int number) = .int number := rfl

theorem texts_sorted (values : List Text) : Json.sortKeys (texts values) = texts values := by
  rw [texts,Json.sortKeys,Json.sortItems_map,List.map_map]
  rfl

theorem texts_iff (left right : List Text) : texts left = texts right ↔ left = right := by
  rw [texts,texts,Json.arr.injEq]
  exact List.map_inj_right (fun _ _ same => Json.str.inj same)

variable (value : Option Text)

theorem optional_sorted : Json.sortKeys (optionalText value) = optionalText value := by
  cases value <;> rfl

theorem optional_iff (left right : Option Text) : optionalText left = optionalText right ↔ left = right := by
  cases left <;> cases right <;> simp [optionalText]

theorem dict_iff (left right : JsonDict) :
    Json.sortKeys (.obj left.members) = Json.sortKeys (.obj right.members) ↔ sortedMembers left = sortedMembers right := by
  rw [Json.sortKeys,Json.sortKeys,Json.obj.injEq]
  rfl

theorem sortedMembers_redact (dict : JsonDict) : sortedMembers dict.redact = redactWorkspaceMapping (sortedMembers dict) := by
  rw [sortedMembers,sortedMembers,redactMapping_insertion,redactMapping_sorted]
  rfl

theorem redactTexts_iff (left right : List Text) :
    left.map redactText = right.map redactText ↔ List.Forall₂ AlikeText left right := by
  rw [← List.forall₂_eq_eq_eq,List.forall₂_map_left_iff,List.forall₂_map_right_iff]
  simp only [redactText_iff]

theorem items_iff (dict : α → Json)
    (each : ∀ left right, Json.sortKeys (dict left) = Json.sortKeys (dict right) ↔ alike left right) (left right : List α) :
    Json.sortKeys (.arr (left.map dict)) = Json.sortKeys (.arr (right.map dict)) ↔ List.Forall₂ alike left right := by
  rw [Json.sortKeys,Json.sortKeys,Json.arr.injEq,Json.sortItems_map,Json.sortItems_map,List.map_map,List.map_map,
    ← List.forall₂_eq_eq_eq,List.forall₂_map_left_iff,List.forall₂_map_right_iff]
  simp only [Function.comp_apply,each]

/- Two states, and two events, that differ only in what is replaced before they are written. -/

def AlikeDicts (left right : JsonDict) : Prop := AlikeMembers (sortedMembers left) (sortedMembers right)

def SameDicts (left right : JsonDict) : Prop := sortedMembers left = sortedMembers right

@[mk_iff] structure AlikeArtifacts (left right : WorkspaceArtifactRef) : Prop where
  artifactId : left.artifactId = right.artifactId
  artifactType : left.artifactType = right.artifactType
  path : left.path = right.path
  summary : AlikeText left.summary right.summary
  createdAt : left.createdAt = right.createdAt
  sourceRefs : left.sourceRefs = right.sourceRefs
  metadata : AlikeDicts left.metadata right.metadata
  pinned : left.pinned = right.pinned

@[mk_iff] structure AlikeInputs (left right : WorkspaceInputRef) : Prop where
  inputId : left.inputId = right.inputId
  inputKind : left.inputKind = right.inputKind
  summary : AlikeText left.summary right.summary
  redactionStatus : left.redactionStatus = right.redactionStatus
  createdAt : left.createdAt = right.createdAt
  source : left.source = right.source
  content : Option.Rel AlikeText left.content right.content
  metadata : SameDicts left.metadata right.metadata

@[mk_iff] structure AlikeTasks (left right : WorkspaceTask) : Prop where
  taskId : left.taskId = right.taskId
  text : AlikeText left.text right.text
  status : left.status = right.status
  priority : left.priority = right.priority
  createdAt : left.createdAt = right.createdAt
  updatedAt : left.updatedAt = right.updatedAt
  sourceRefs : left.sourceRefs = right.sourceRefs

@[mk_iff] structure AlikeStates (left right : WorkspaceState) : Prop where
  workspaceId : left.workspaceId = right.workspaceId
  title : AlikeText left.title right.title
  status : left.status = right.status
  mode : left.mode = right.mode
  createdAt : left.createdAt = right.createdAt
  updatedAt : left.updatedAt = right.updatedAt
  activeDate : left.activeDate = right.activeDate
  activeSymbols : left.activeSymbols = right.activeSymbols
  activeArtifacts : List.Forall₂ AlikeArtifacts left.activeArtifacts right.activeArtifacts
  recentInputs : List.Forall₂ AlikeInputs left.recentInputs right.recentInputs
  openTasks : List.Forall₂ AlikeTasks left.openTasks right.openTasks
  assumptions : List.Forall₂ AlikeText left.assumptions right.assumptions
  warnings : List.Forall₂ AlikeText left.warnings right.warnings
  errors : List.Forall₂ AlikeText left.errors right.errors
  dataFreshness : SameDicts left.dataFreshness right.dataFreshness
  lastCompactedAt : left.lastCompactedAt = right.lastCompactedAt
  contextSize : SameDicts left.contextSize right.contextSize

theorem artifact_iff (left right : WorkspaceArtifactRef) :
    Json.sortKeys left.saved.toDict = Json.sortKeys right.saved.toDict ↔ AlikeArtifacts left right := by
  rw [WorkspaceArtifactRef.toDict,WorkspaceArtifactRef.toDict]
  refine Iff.trans (named_iff ?_ ?_) ?_
  · rfl
  · simp only [List.map_cons,List.map_nil]
    decide
  simp only [List.map_cons,List.map_nil,List.cons.injEq,and_true,texts_sorted,texts_iff,dict_iff]
  simp only [WorkspaceArtifactRef.saved,Json.sortKeys,Json.str.injEq,Json.bool.injEq,redactText_iff,sortedMembers_redact,
    redactMapping_iff]
  exact (alikeArtifacts_iff _ _).symm

theorem content_iff (left right : Option Text) :
    left.map redactText = right.map redactText ↔ Option.Rel AlikeText left right := by
  cases left with
  | none =>
    cases right with
    | none => simp
    | some right =>
      constructor
      · intro same; cases same
      · intro related; cases related
  | some left =>
    cases right with
    | none =>
      constructor
      · intro same; cases same
      · intro related; cases related
    | some right =>
      rw [Option.map_some,Option.map_some,Option.some.injEq,redactText_iff]
      constructor
      · exact Option.Rel.some
      · intro related
        cases related with
        | some alike => exact alike

theorem input_iff (left right : WorkspaceInputRef) :
    Json.sortKeys left.saved.toDict = Json.sortKeys right.saved.toDict ↔ AlikeInputs left right := by
  rw [WorkspaceInputRef.toDict,WorkspaceInputRef.toDict]
  refine Iff.trans (named_iff ?_ ?_) ?_
  · rfl
  · simp only [List.map_cons,List.map_nil]
    decide
  simp only [List.map_cons,List.map_nil,List.cons.injEq,and_true,optional_sorted,optional_iff,dict_iff]
  simp only [WorkspaceInputRef.saved,Json.sortKeys,Json.str.injEq,redactText_iff,content_iff]
  exact (alikeInputs_iff _ _).symm

theorem task_iff (left right : WorkspaceTask) :
    Json.sortKeys left.saved.toDict = Json.sortKeys right.saved.toDict ↔ AlikeTasks left right := by
  rw [WorkspaceTask.toDict,WorkspaceTask.toDict]
  refine Iff.trans (named_iff ?_ ?_) ?_
  · rfl
  · simp only [List.map_cons,List.map_nil]
    decide
  simp only [List.map_cons,List.map_nil,List.cons.injEq,and_true,texts_sorted,texts_iff]
  simp only [WorkspaceTask.saved,Json.sortKeys,Json.str.injEq,redactText_iff]
  exact (alikeTasks_iff _ _).symm

theorem status_iff (left right : Status) : left.value = right.value ↔ left = right := by
  cases left <;> cases right <;> decide

theorem document_iff (left right : WorkspaceState) :
    Json.sortKeys (persistedState left).toDict = Json.sortKeys (persistedState right).toDict ↔ AlikeStates left right := by
  have artifacts := items_iff _ artifact_iff left.activeArtifacts right.activeArtifacts
  have inputs := items_iff _ input_iff left.recentInputs right.recentInputs
  have tasks := items_iff _ task_iff left.openTasks right.openTasks
  rw [WorkspaceState.toDict,WorkspaceState.toDict]
  refine Iff.trans (named_iff ?_ ?_) ?_
  · rfl
  · simp only [List.map_cons,List.map_nil]
    decide
  simp only [List.map_cons,List.map_nil,List.cons.injEq,and_true,texts_sorted,texts_iff,optional_sorted,optional_iff,
    dict_iff,text_sorted,number_sorted]
  simp only [persistedState,List.map_map,Function.comp_def,artifacts,inputs,tasks,Json.str.injEq,redactText_iff,
    redactTexts_iff,status_iff,true_and]
  exact (alikeStates_iff _ _).symm

/- The written texts. -/

theorem texts_printable (values : List Text) : Json.Printable (texts values) := by
  rw [texts,Json.Printable,Json.printableItems_iff]
  intro item inside
  obtain ⟨text,_,rfl⟩ := List.mem_map.mp inside
  trivial

theorem optional_printable : Json.Printable (optionalText value) := by
  cases value <;> trivial

theorem named_printable (members : List (String × Json)) (values : ∀ member ∈ members, Json.Printable member.2) :
    Json.Printable (named members) := by
  rw [named,Json.Printable,Json.printableMembers_iff]
  intro member inside
  obtain ⟨source,member,rfl⟩ := List.mem_map.mp inside
  exact values source member

theorem items_printable (dict : α → Json) (each : ∀ item, Json.Printable (dict item)) (items : List α) :
    Json.Printable (.arr (items.map dict)) := by
  rw [Json.Printable,Json.printableItems_iff]
  intro item inside
  obtain ⟨source,_,rfl⟩ := List.mem_map.mp inside
  exact each source

theorem artifact_printable (artifact : WorkspaceArtifactRef) : Json.Printable artifact.toDict := by
  apply named_printable
  simp only [List.forall_mem_cons]
  exact ⟨trivial,trivial,trivial,trivial,trivial,texts_printable _,artifact.metadata.printable,trivial,by simp⟩

theorem input_printable (input : WorkspaceInputRef) : Json.Printable input.toDict := by
  apply named_printable
  simp only [List.forall_mem_cons]
  exact ⟨trivial,trivial,trivial,trivial,trivial,trivial,optional_printable _,input.metadata.printable,by simp⟩

theorem task_printable (task : WorkspaceTask) : Json.Printable task.toDict := by
  apply named_printable
  simp only [List.forall_mem_cons]
  exact ⟨trivial,trivial,trivial,trivial,trivial,trivial,texts_printable _,by simp⟩

theorem state_printable (state : WorkspaceState) : Json.Printable state.toDict := by
  apply named_printable
  simp only [List.forall_mem_cons]
  exact ⟨trivial,trivial,trivial,trivial,trivial,trivial,trivial,optional_printable _,texts_printable _,
    items_printable _ artifact_printable _,items_printable _ input_printable _,items_printable _ task_printable _,
    texts_printable _,texts_printable _,texts_printable _,state.dataFreshness.printable,optional_printable _,
    state.contextSize.printable,by simp⟩

theorem workspaceJson_iff (left right : WorkspaceState) : workspaceJson left = workspaceJson right ↔ AlikeStates left right := by
  rw [workspaceJson,workspaceJson,
    Json.write_sorted _ (persistedState left).toDict (persistedState right).toDict (state_printable _) (state_printable _),
    document_iff]

-- context.md shows nothing that workspace.json does not tell apart.
theorem contextMarkdown_alike (alike : AlikeStates left right) :
    renderContextMarkdown (persistedState left) = renderContextMarkdown (persistedState right) := by
  have tasks : left.openTasks.map (fun task => redactText task.text) = right.openTasks.map (fun task => redactText task.text) := by
    rw [← List.forall₂_eq_eq_eq,List.forall₂_map_left_iff,List.forall₂_map_right_iff]
    exact alike.openTasks.imp (fun _ _ same => (redactText_iff _ _).mpr same.text)
  have inputs : left.recentInputs.map (fun input => redactText input.summary) =
      right.recentInputs.map (fun input => redactText input.summary) := by
    rw [← List.forall₂_eq_eq_eq,List.forall₂_map_left_iff,List.forall₂_map_right_iff]
    exact alike.recentInputs.imp (fun _ _ same => (redactText_iff _ _).mpr same.summary)
  have artifacts : left.activeArtifacts.map (fun artifact => (redactText artifact.summary,artifact.path)) =
      right.activeArtifacts.map (fun artifact => (redactText artifact.summary,artifact.path)) := by
    rw [← List.forall₂_eq_eq_eq,List.forall₂_map_left_iff,List.forall₂_map_right_iff]
    exact alike.activeArtifacts.imp (fun _ _ same => Prod.ext ((redactText_iff _ _).mpr same.summary) same.path)
  have lines := congrArg (List.map (fun entry : Text × Text => entry.1 ++ " (".toList ++ quoted entry.2 ++ ")".toList)) artifacts
  have title := (redactText_iff _ _).mpr alike.title
  have assumptions := (redactTexts_iff _ _).mpr alike.assumptions
  have warnings := (redactTexts_iff _ _).mpr alike.warnings
  simp only [List.map_map,Function.comp_def] at lines
  simp only [renderContextMarkdown,activeDateLine,persistedState,List.map_map,Function.comp_def,WorkspaceTask.saved,
    WorkspaceInputRef.saved,WorkspaceArtifactRef.saved]
  rw [alike.workspaceId,alike.status,alike.mode,alike.activeDate,alike.activeSymbols,title,assumptions,warnings,tasks,
    inputs,lines]

theorem saveWorkspaceState_iff (left right : WorkspaceState) :
    saveWorkspaceState left = saveWorkspaceState right ↔ AlikeStates left right := by
  rw [saveWorkspaceState,saveWorkspaceState,Prod.mk.injEq,workspaceJson_iff]
  constructor
  · exact fun same => same.1
  · exact fun alike => ⟨alike,contextMarkdown_alike alike⟩

theorem appendWorkspaceEvent_iff (left right : JsonDict) :
    appendWorkspaceEvent left = appendWorkspaceEvent right ↔ AlikeDicts left right := by
  rw [appendWorkspaceEvent,appendWorkspaceEvent,List.append_left_inj,
    Json.write_sorted _ (.obj left.redact.members) (.obj right.redact.members) left.redact.printable right.redact.printable,
    dict_iff,sortedMembers_redact,sortedMembers_redact,redactMapping_iff]
  rfl

end OpenStock.Workspaces.Documents
