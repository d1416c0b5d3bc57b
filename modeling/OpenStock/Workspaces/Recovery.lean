import OpenStock.Workspaces.Payloads

namespace OpenStock.Workspaces.Recovery
open Text Json

/- The files of a workspace root, whatever they hold. -/

inductive LoadFailure where
  | decode
  | value
  | recursion

-- `json.loads(path.read_text(encoding="utf-8"))` of bytes.
class Reading (β : Type) where
  loads : β → Except LoadFailure Json

-- What a file was found with, or a document written since: reading it gives the document.
inductive Content (β : Type) where
  | found (bytes : β)
  | written (document : Json)

def latestPointerName : Text := "latest.json".toList

def indexName : Text := "index.json".toList

-- The name of a directory in the root, but for its archive and its two files.
def directoryName (name : Text) : Bool :=
  name ≠ [] && name ≠ ".".toList && name ≠ "..".toList && name ≠ "archive".toList && name ≠ latestPointerName &&
    name ≠ indexName && !name.contains '/' && !name.contains (Char.ofNat 0) && decide ((name.map Char.utf8Size).sum ≤ 255)

structure Directory (β : Type) where
  name : Text
  workspaceJson : Option (Content β)

-- `quarantined` is what was moved to archive/quarantine, under what it was.
structure Root (β : Type) where
  latest : Option (Content β)
  index : Option (Content β)
  directories : List (Directory β)
  distinct : Rows.Distinct Directory.name directories
  quarantined : List (Text × Content β)

-- What comes of loading a workspace under an id that is no name of a directory in the root: the
-- directories that this makes there, and what the load ends by.
structure Visit where
  made : List Text
  outcome : Except Raise WorkspaceState

-- Ids are fresh uuid4s. `title` is what the redaction leaves of a title.
structure World where
  workspaceId : Text
  temporaryId : Text
  now : Text
  title : Text → Text
  elsewhere : Text → Visit

variable {β : Type}

section files
variable [Reading β]

def Content.loads : Content β → Except Raise Json
  | .written document => .ok document
  | .found bytes =>
    match Reading.loads bytes with
    | .ok payload => .ok payload
    | .error .decode => .error .jsonDecode
    | .error .value => .error .value
    | .error .recursion => .error .recursion

-- `load_workspace_state` in a directory that is there.
def Directory.load (directory : Directory β) : Except Raise WorkspaceState :=
  match directory.workspaceJson with
  | none => .error .fileNotFound
  | some content => do WorkspaceState.fromDict (← content.loads)

end files

-- `mkdir(exist_ok=True)`.
def Root.make (root : Root β) (name : Text) : Root β where
  latest := root.latest
  index := root.index
  directories := if (root.directories.find? (fun directory => directory.name == name)).isSome then root.directories
    else Rows.upsert Directory.name root.directories ⟨name,none⟩
  distinct := by
    split
    · exact root.distinct
    · exact Rows.upsert_distinct root.distinct _
  quarantined := root.quarantined

def Root.put (root : Root β) (name : Text) (content : Option (Content β)) : Root β :=
  {root with
    directories := Rows.upsert Directory.name root.directories ⟨name,content⟩
    distinct := Rows.upsert_distinct root.distinct _}

-- In the order of their names.
def Root.listed (root : Root β) : List (Directory β) := root.directories.insertionSort (fun left right => left.name ≤ right.name)

/- The latest pointer. -/

def workspaceIdOf : Json → Option Text
  | .obj members =>
    match lookup members "workspace_id".toList with
    | some (.str workspaceId) => some workspaceId
    | _ => none
  | _ => none

def pointerTo (workspaceId : Json) : Json := .obj [("workspace_id".toList,workspaceId)]

def saveLatestWorkspaceId (root : Root β) (workspaceId : Json) : Root β :=
  {root with latest := some (.written (pointerTo workspaceId))}

def clearLatestWorkspaceId (root : Root β) : Root β := {root with latest := none}

def quarantineLatestWorkspacePointer (root : Root β) : Root β :=
  match root.latest with
  | none => root
  | some content => {root with latest := none,quarantined := root.quarantined ++ [("latest".toList,content)]}

section pointers
variable [Reading β]

def loadLatestWorkspaceId (root : Root β) : Except Raise (Option Text) :=
  match root.latest with
  | none => .ok none
  | some content => do
    match ← content.loads with
    | .obj members => return workspaceIdOf (.obj members)
    | _ => throw .attribute

-- `_latest_id`.
def latestId (root : Root β) : Except Raise (Option Text) :=
  match root.latest with
  | none => .ok none
  | some content =>
    match content.loads with
    | .ok payload => .ok (workspaceIdOf payload)
    | .error .jsonDecode => .ok none
    | .error failure => .error failure

-- `_quarantine_invalid_latest`: whether it was.
def quarantineInvalidLatest (root : Root β) : Except Raise (Root β × Bool) :=
  match root.latest with
  | none => .ok (root,false)
  | some content =>
    match content.loads with
    | .ok payload => if (workspaceIdOf payload).isSome then .ok (root,false) else .ok (quarantineLatestWorkspacePointer root,true)
    | .error .jsonDecode => .ok (quarantineLatestWorkspacePointer root,true)
    | .error failure => .error failure

end pointers

/- The index. -/

section indexes
variable [Reading β] [Numbers]

def intOf : Json → Except Raise Int
  | .int value => .ok value
  | .bool value => .ok (if value then 1 else 0)
  | .float lexeme => Numbers.truncate lexeme
  | .str text => Numbers.parse text
  | _ => .error .type

structure WorkspaceIndex where
  workspaceIds : List Json
  count : Int

def loadWorkspaceIndex (root : Root β) : Except Raise WorkspaceIndex :=
  match root.index with
  | none => .ok ⟨[],0⟩
  | some content => do
    match ← content.loads with
    | .obj members =>
      let workspaceIds ← listOf (optional members "workspace_ids" (.arr []))
      let count ← intOf (optional members "count" (.int workspaceIds.length))
      return ⟨workspaceIds,count⟩
    | _ => throw .attribute

-- A set of texts sorts; with an id that is no text beside one that is, sorting raises.
def idTexts : List Json → Except Raise (List Text)
  | [] => .ok []
  | .str text :: items => do return text :: (← idTexts items)
  | _ :: _ => .error .type

def updateIndex (root : Root β) (workspaceId : Text) : Root β × Except Raise Unit :=
  match loadWorkspaceIndex root with
  | .error failure => (root,.error failure)
  | .ok index =>
    match idTexts index.workspaceIds with
    | .error failure => (root,.error failure)
    | .ok ids =>
      let sorted := (workspaceId :: ids).dedup.insertionSort (· ≤ ·)
      ({root with index := some (.written (.obj [("count".toList,.int sorted.length),
          ("workspace_ids".toList,.arr (sorted.map .str))]))},.ok ())

end indexes

/- New workspaces. -/

def countsOf (events : Int) : List (Text × Json) := [("events".toList,.int events),("inputs".toList,.int 0),("artifacts".toList,.int 0)]

def newState (workspaceId title mode now : Text) (status : Status) (events : Int) : WorkspaceState where
  workspaceId := .str workspaceId
  title := .str title
  status := status
  mode := .str mode
  createdAt := .str now
  updatedAt := .str now
  activeDate := .null
  activeSymbols := []
  activeArtifacts := []
  recentInputs := []
  openTasks := []
  assumptions := []
  warnings := []
  errors := []
  dataFreshness := []
  lastCompactedAt := .null
  contextSize := (countsOf events).map (fun member => (.str member.1,member.2))

-- `to_dict` of a new state.
def newDocument (workspaceId title mode now : Text) (status : Status) (events : Int) : Json :=
  .obj [("workspace_id".toList,.str workspaceId),("title".toList,.str title),("status".toList,.str status.value),
    ("mode".toList,.str mode),("created_at".toList,.str now),("updated_at".toList,.str now),("schema_version".toList,.int 2),
    ("active_date".toList,.null),("active_symbols".toList,.arr []),("active_artifacts".toList,.arr []),
    ("recent_inputs".toList,.arr []),("open_tasks".toList,.arr []),("assumptions".toList,.arr []),("warnings".toList,.arr []),
    ("errors".toList,.arr []),("data_freshness".toList,.obj []),("last_compacted_at".toList,.null),
    ("context_size".toList,.obj (countsOf events))]

section recovery
variable [Reading β] [Numbers] (world : World)

-- `save_workspace_state` of a new state: workspace.json is written before the index is read.
def saveNew (root : Root β) (workspaceId title mode : Text) (status : Status) (events : Int) : Root β × Except Raise Unit :=
  updateIndex (root.put workspaceId (some (.written (newDocument workspaceId (world.title title) mode world.now status events)))) workspaceId

def createWorkspace (root : Root β) : Root β × Except Raise WorkspaceState :=
  let workspaceId := world.workspaceId
  let title := "Workspace ".toList ++ workspaceId
  match saveNew world (root.make workspaceId) workspaceId title "general".toList .active 1 with
  | (saved,.error failure) => (saved,.error failure)
  | (saved,.ok _) =>
    (saveLatestWorkspaceId saved (.str workspaceId),.ok (newState workspaceId title "general".toList world.now .active 1))

def temporaryWorkspace (root : Root β) : Root β × Except Raise WorkspaceState :=
  let workspaceId := world.temporaryId
  let title := "Temporary recovery workspace".toList
  match saveNew world (root.make workspaceId) workspaceId title "recovery".toList .temporary 0 with
  | (saved,.error failure) => (saved,.error failure)
  | (saved,.ok _) => (saved,.ok (newState workspaceId title "recovery".toList world.now .temporary 0))

/- `get_or_create_latest_workspace`. -/

def loadWorkspaceState (root : Root β) (workspaceId : Text) : Root β × Except Raise WorkspaceState :=
  if directoryName workspaceId then
    let made := root.make workspaceId
    match made.directories.find? (fun directory => directory.name == workspaceId) with
    | some directory => (made,directory.load)
    | none => (made,.error .fileNotFound)
  else
    let visit := world.elsewhere workspaceId
    (visit.made.foldl Root.make root,visit.outcome)

-- `except (OSError, KeyError, TypeError, ValueError, json.JSONDecodeError)`.
def malformed : Raise → Bool
  | .fileNotFound | .os | .key | .type | .value | .jsonDecode => true
  | _ => false

-- Of one directory: skipped without a workspace.json, or with a malformed one.
def stateOf (directory : Directory β) : Except Raise (Option WorkspaceState) :=
  match directory.workspaceJson with
  | none => .ok none
  | some _ =>
    match directory.load with
    | .ok state => .ok (some state)
    | .error failure => if malformed failure then .ok none else .error failure

def listWorkspaces (root : Root β) : Except Raise (List WorkspaceState) := do
  let states ← root.listed.mapM stateOf
  sortStates (states.filterMap id)

-- `except (FileNotFoundError, KeyError, TypeError, ValueError, json.JSONDecodeError)`.
def unusable : Raise → Bool
  | .fileNotFound | .key | .type | .value | .jsonDecode => true
  | _ => false

def selectOrCreate (root : Root β) : Root β × Except Raise WorkspaceState :=
  match listWorkspaces root with
  | .error failure => (root,.error failure)
  | .ok states =>
    match states.find? (fun state => state.status == .active) with
    | some selected => (saveLatestWorkspaceId root selected.workspaceId,.ok selected)
    | none => createWorkspace world root

def getOrCreateLatestWorkspace (root : Root β) : Root β × Except Raise WorkspaceState :=
  match loadLatestWorkspaceId root with
  | .error .jsonDecode => selectOrCreate world (quarantineLatestWorkspacePointer root)
  | .error failure => (root,.error failure)
  | .ok none => selectOrCreate world root
  | .ok (some workspaceId) =>
    match loadWorkspaceState world root workspaceId with
    | (made,.error failure) =>
      if unusable failure then selectOrCreate world (clearLatestWorkspaceId made) else (made,.error failure)
    | (made,.ok latest) =>
      if latest.status = .active then (made,.ok latest) else selectOrCreate world (clearLatestWorkspaceId made)

/- `recover_workspace` and `inspect_workspace`. -/

inductive Warning where
  | latestQuarantined
  | workspaceQuarantined (name : Text)
  | canonicalUnavailable (failure : Raise)

structure WorkspaceRecoveryResult where
  workspace : WorkspaceState
  warnings : List Warning
  quarantinedPaths : List Text
  temporary : Bool

-- `_quarantine_file` of the workspace.json in a directory.
def quarantineFile (root : Root β) (directory : Directory β) : Root β × Bool :=
  match directory.workspaceJson with
  | none => (root,false)
  | some content =>
    ({root.put directory.name none with quarantined := root.quarantined ++ [(directory.name,content)]},true)

-- The loop over the directories; what it collects are the names of the quarantined files.
def sweep : List (Directory β) → Root β → Except Raise (Root β × List Text)
  | [],root => .ok (root,[])
  | directory :: rest,root =>
    match directory.load with
    | .ok _ => sweep rest root
    | .error failure =>
      if malformed failure then do
        let (moved,there) := quarantineFile root directory
        let latest ← latestId moved
        let (swept,names) ← sweep rest (if latest = some directory.name then clearLatestWorkspaceId moved else moved)
        return (swept,if there then directory.name :: names else names)
      else .error failure

-- `except (OSError, PermissionError, RuntimeError, ValueError)`.
def unavailable : Raise → Bool
  | .fileNotFound | .os | .value | .jsonDecode | .recursion => true
  | _ => false

def recoverWorkspace (root : Root β) : Except Raise (Root β × WorkspaceRecoveryResult) := do
  let (pointed,moved) ← quarantineInvalidLatest root
  let (swept,names) ← sweep pointed.listed pointed
  let quarantined := (if moved then ["latest".toList] else []) ++ names
  let warnings := (if moved then [.latestQuarantined] else []) ++ names.map .workspaceQuarantined
  match getOrCreateLatestWorkspace world swept with
  | (after,.ok workspace) => return (after,⟨workspace,warnings,quarantined,false⟩)
  | (after,.error failure) =>
    if unavailable failure then
      match temporaryWorkspace world after with
      | (saved,.ok workspace) => return (saved,⟨workspace,warnings ++ [.canonicalUnavailable failure],quarantined,true⟩)
      | (_,.error later) => throw later
    else throw failure

end recovery

section inspection
variable [Reading β]

-- The paths in the root of what is malformed: the pointer, and each workspace.json.
def invalidLatest (root : Root β) : Except Raise (List Text) :=
  match root.latest with
  | none => .ok []
  | some content =>
    match content.loads with
    | .ok payload => .ok (if (workspaceIdOf payload).isSome then [] else [latestPointerName])
    | .error .jsonDecode => .ok [latestPointerName]
    | .error failure => .error failure

def invalidWorkspace (directory : Directory β) : Except Raise (List Text) :=
  match directory.load with
  | .ok _ => .ok []
  | .error failure => if malformed failure then .ok [directory.name ++ "/workspace.json".toList] else .error failure

def inspectWorkspace (root : Root β) : Except Raise (List Text) := do
  let latest ← invalidLatest root
  let invalid ← root.listed.mapM invalidWorkspace
  return (latest ++ invalid.flatten).insertionSort (· ≤ ·)

end inspection

end OpenStock.Workspaces.Recovery
