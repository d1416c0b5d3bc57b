import OpenStock.Foundations.Json
import OpenStock.Workspaces.Storage

namespace OpenStock.Workspaces.Recovery
open Text Json

/- A decoded workspace.json of any shape. -/

-- What reading, converting or comparing ends by raising.
inductive Raise where
  | fileNotFound
  | os
  | key
  | type
  | attribute
  | jsonDecode
  | value
  | overflow
  | recursion

-- What Python's numbers say of decoded ones, and `int` of a float and of a text.
class Numbers where
  equal : Json → Json → Bool
  less : Json → Json → Bool
  truncate : Text → Except Raise Int
  parse : Text → Except Raise Int

def isNumber : Json → Bool
  | .bool _ | .int _ | .float _ => true
  | _ => false

def hashable : Json → Bool
  | .arr _ | .obj _ => false
  | _ => true

section comparing
variable [Numbers]

-- `==` on decoded values.
mutual
def equal : Json → Json → Bool
  | .null,.null => true
  | .str left,.str right => left == right
  | .arr left,.arr right => equalItems left right
  | .obj left,.obj right => left.length == right.length && equalMembers left right
  | left,right => isNumber left && isNumber right && Numbers.equal left right
def equalItems : List Json → List Json → Bool
  | [],[] => true
  | left :: lefts,right :: rights => equal left right && equalItems lefts rights
  | _,_ => false
def equalMembers : List (Text × Json) → List (Text × Json) → Bool
  | [],_ => true
  | (key,left) :: lefts,rights =>
    (match lookup rights key with
      | some right => equal left right
      | none => false) && equalMembers lefts rights
end

-- `<`; none where Python raises a TypeError.
mutual
def lessThan : Json → Json → Option Bool
  | .str left,.str right => some (decide (left < right))
  | .arr left,.arr right => lessItems left right
  | left,right => if isNumber left && isNumber right then some (Numbers.less left right) else none
def lessItems : List Json → List Json → Option Bool
  | _,[] => some false
  | [],_ :: _ => some true
  | left :: lefts,right :: rights => if equal left right then lessItems lefts rights else lessThan left right
end

end comparing

/- `from_dict`. -/

def listOf : Json → Except Raise (List Json)
  | .arr items => .ok items
  | .str text => .ok (text.map (fun c => .str [c]))
  | .obj members => .ok (members.map (fun member => .str member.1))
  | _ => .error .type

def pairOf (item : Json) : Except Raise (Json × Json) := do
  match ← listOf item with
  | [key,value] => if hashable key then return (key,value) else throw .type
  | _ => throw .value

def dictOf : Json → Except Raise (List (Json × Json))
  | .obj members => .ok (members.map (fun member => (.str member.1,member.2)))
  | .arr items => items.mapM pairOf
  | .str text => if text = [] then .ok [] else .error .value
  | _ => .error .type

-- `payload[key]`, first on what is no dict.
def membersOf : Json → Except Raise (List (Text × Json))
  | .obj members => .ok members
  | _ => .error .type

def required (members : List (Text × Json)) (key : String) : Except Raise Json :=
  match lookup members key.toList with
  | some value => .ok value
  | none => .error .key

def optional (members : List (Text × Json)) (key : String) (default : Json) : Json := (lookup members key.toList).getD default

structure WorkspaceArtifactRef where
  artifactId : Json
  artifactType : Json
  path : Json
  summary : Json
  createdAt : Json
  sourceRefs : List Json
  metadata : List (Json × Json)
  pinned : Json

structure WorkspaceInputRef where
  inputId : Json
  inputKind : Json
  summary : Json
  redactionStatus : Json
  createdAt : Json
  source : Json
  content : Json
  metadata : List (Json × Json)

structure WorkspaceTask where
  taskId : Json
  text : Json
  status : Json
  priority : Json
  createdAt : Json
  updatedAt : Json
  sourceRefs : List Json

structure WorkspaceState where
  workspaceId : Json
  title : Json
  status : Status
  mode : Json
  createdAt : Json
  updatedAt : Json
  activeDate : Json
  activeSymbols : List Json
  activeArtifacts : List WorkspaceArtifactRef
  recentInputs : List WorkspaceInputRef
  openTasks : List WorkspaceTask
  assumptions : List Json
  warnings : List Json
  errors : List Json
  dataFreshness : List (Json × Json)
  lastCompactedAt : Json
  contextSize : List (Json × Json)

def WorkspaceArtifactRef.fromDict (payload : Json) : Except Raise WorkspaceArtifactRef := do
  let members ← membersOf payload
  return ⟨← required members "artifact_id",← required members "artifact_type",← required members "path",
    ← required members "summary",← required members "created_at",← listOf (optional members "source_refs" (.arr [])),
    ← dictOf (optional members "metadata" (.obj [])),optional members "pinned" (.bool false)⟩

def WorkspaceInputRef.fromDict (payload : Json) : Except Raise WorkspaceInputRef := do
  let members ← membersOf payload
  return ⟨← required members "input_id",← required members "input_kind",← required members "summary",
    ← required members "redaction_status",← required members "created_at",← required members "source",
    optional members "content" .null,← dictOf (optional members "metadata" (.obj []))⟩

def WorkspaceTask.fromDict (payload : Json) : Except Raise WorkspaceTask := do
  let members ← membersOf payload
  return ⟨← required members "task_id",← required members "text",← required members "status",← required members "priority",
    ← required members "created_at",← required members "updated_at",← listOf (optional members "source_refs" (.arr []))⟩

-- `str(status)` of what is no text is none of the four.
def statusOf : Json → Except Raise Status
  | .str text =>
    match [Status.active,.archived,.corrupt,.temporary].find? (fun status => status.value == text) with
    | some status => .ok status
    | none => .error .value
  | _ => .error .value

def WorkspaceState.fromDict (payload : Json) : Except Raise WorkspaceState := do
  let members ← membersOf payload
  let status ← statusOf (← required members "status")
  return {
    workspaceId := ← required members "workspace_id"
    title := ← required members "title"
    status := status
    mode := ← required members "mode"
    createdAt := ← required members "created_at"
    updatedAt := ← required members "updated_at"
    activeDate := optional members "active_date" .null
    activeSymbols := ← listOf (optional members "active_symbols" (.arr []))
    activeArtifacts := ← (← listOf (optional members "active_artifacts" (.arr []))).mapM WorkspaceArtifactRef.fromDict
    recentInputs := ← (← listOf (optional members "recent_inputs" (.arr []))).mapM WorkspaceInputRef.fromDict
    openTasks := ← (← listOf (optional members "open_tasks" (.arr []))).mapM WorkspaceTask.fromDict
    assumptions := ← listOf (optional members "assumptions" (.arr []))
    warnings := ← listOf (optional members "warnings" (.arr []))
    errors := ← listOf (optional members "errors" (.arr []))
    dataFreshness := ← dictOf (optional members "data_freshness" (.obj []))
    lastCompactedAt := optional members "last_compacted_at" .null
    contextSize := ← dictOf (optional members "context_size" (.obj []))}

/- A list of states, the latest first. -/

section sorting
variable [Numbers]

-- `(updated_at, workspace_id)` of two states, compared as tuples.
def earlier (left right : WorkspaceState) : Except Raise Bool :=
  let verdict :=
    if !equal left.updatedAt right.updatedAt then lessThan left.updatedAt right.updatedAt
    else if !equal left.workspaceId right.workspaceId then lessThan left.workspaceId right.workspaceId
    else some false
  match verdict with
  | some less => .ok less
  | none => .error .type

-- `reverse=True` keeps the order of equal states.
def insertState (state : WorkspaceState) : List WorkspaceState → Except Raise (List WorkspaceState)
  | [] => .ok [state]
  | first :: rest => do
    if ← earlier state first then return first :: (← insertState state rest)
    else return state :: first :: rest

def sortStates : List WorkspaceState → Except Raise (List WorkspaceState)
  | [] => .ok []
  | state :: states => do insertState state (← sortStates states)

end sorting

end OpenStock.Workspaces.Recovery
