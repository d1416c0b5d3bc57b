import OpenStock.Foundations.Interruption
import OpenStock.Foundations.Validation
import OpenStock.Workspaces.Storage

namespace OpenStock.Workspaces.Migration
open Interruption

/- What the files of a workspace root say. -/

-- A file's names below a root. A workspace id is taken as one name.
abbrev Location := List Text

structure Loaded (δ : Type) where
  workspaceId : Text
  status : Status
  body : δ

structure Marker where
  sourceRoot : Text
  backupRoot : Nat
  workspaceIds : List Text

-- What the code writes is kept as it was meant; other files are texts.
inductive Content (δ : Type) where
  | text (content : Text)
  | state (kept : Loaded δ)
  | context (kept : Loaded δ)
  | index (workspaceIds : List Text)
  | latest (workspaceId : Text)
  | marker (written : Marker)

inductive Raised where
  | migrationConflict (roots : List Text)
  | legacyNotFound (searchedFrom : Text)
  | fileNotFound
  | missingKey
  | wrongType
  | notJson
  | badValue
  | badAttribute
  | osError
  | copyError
  | killed
  deriving DecidableEq

-- The JSON documents that a text can be, what redaction leaves of a state, and SHA-256.
class Reading (δ : Type) where
  index : Text → Except Raised (List Text)
  latest : Text → Except Raised (Option Text)
  state : Text → Except Raised (Loaded δ)
  marker : Text → Except Raised (Option Marker)
  redacted : Loaded δ → Except Raised δ
  digest : Content δ → Text

def workspaceJsonName : Text := "workspace.json".toList
def eventsJsonlName : Text := "events.jsonl".toList
def contextMdName : Text := "context.md".toList
def indexName : Text := "index.json".toList
def latestPointerName : Text := "latest.json".toList
def migrationName : Text := "migration.json".toList

abbrev Files (δ : Type) := List (Location × Content δ)

section Model

variable {δ : Type}

def find (files : Files δ) (path : Location) : Option (Content δ) := (files.find? (fun file => file.1 = path)).map Prod.snd

def put (path : Location) (content : Content δ) (files : Files δ) : Files δ := Rows.upsert Prod.fst files (path,content)

def touch (path : Location) (files : Files δ) : Files δ := Rows.insertNew Prod.fst files (path,.text [])

variable (path sought : Location)

theorem find_put (content : Content δ) (files : Files δ) :
    find (put path content files) sought = if sought = path then some content else find files sought := by
  unfold find put
  have found := @Rows.find_upsert _ _ Prod.fst _ files (path,content) sought
  rw [found]
  split <;> rfl

theorem find_touch (files : Files δ) :
    find (touch path files) sought = if sought = path then some ((find files path).getD (.text [])) else find files sought := by
  unfold find touch
  have found := @Rows.find_insertNew _ _ Prod.fst _ files (path,.text []) sought
  rw [found,List.find?_append]
  by_cases same : sought = path
  · subst same
    cases files.find? (fun file => file.1 = sought) <;> simp
  · simp [same,Ne.symm same]

theorem find_touch_other {path sought : Location} (differs : sought ≠ path) (files : Files δ) :
    find (touch path files) sought = find files sought := by
  rw [find_touch,if_neg differs]

-- Both roots, with the backups below the destination apart, and the stamps given out.
structure Disk (δ : Type) where
  source : Files δ
  linked : Bool
  destination : Files δ
  backups : Nat → Files δ
  stamp : Nat

inductive Root where
  | source
  | destination

def Disk.files (disk : Disk δ) : Root → Files δ
  | .source => disk.source
  | .destination => disk.destination

def Disk.touch (root : Root) (path : Location) (disk : Disk δ) : Disk δ :=
  match root with
  | .source => {disk with source := Migration.touch path disk.source}
  | .destination => {disk with destination := Migration.touch path disk.destination}

def Disk.write (path : Location) (content : Content δ) (disk : Disk δ) : Disk δ :=
  {disk with destination := put path content disk.destination}

def Disk.saveCopy (stamp : Nat) (file : Location × Content δ) (disk : Disk δ) : Disk δ :=
  {disk with backups := Function.update disk.backups stamp (disk.backups stamp ++ [file])}

variable [Reading δ]

def Content.readIndex : Content δ → Except Raised (List Text)
  | .text content => Reading.index δ content
  | .index workspaceIds => .ok workspaceIds
  | .marker written => .ok written.workspaceIds
  | .state _ => .ok []
  | .latest _ => .ok []
  | .context _ => .error .notJson

def Content.readLatest : Content δ → Except Raised (Option Text)
  | .text content => Reading.latest δ content
  | .latest workspaceId => .ok (some workspaceId)
  | .state kept => .ok (some kept.workspaceId)
  | .index _ => .ok none
  | .marker _ => .ok none
  | .context _ => .error .notJson

def Content.readState : Content δ → Except Raised (Loaded δ)
  | .text content => Reading.state content
  | .state kept => .ok kept
  | .context _ => .error .notJson
  | _ => .error .missingKey

-- A missing or malformed marker is none, and so is a document of another kind.
def Content.readMarker : Content δ → Except Raised (Option Marker)
  | .text content =>
    match Reading.marker δ content with
    | .error .notJson => .ok none
    | other => other
  | .marker written => .ok (some written)
  | _ => .ok none

/- storage.py -/

abbrev Change (δ α : Type) := Action (Disk δ) Raised α

def ensureWorkspaceLayout (world : World Raised) (root : Root) (workspaceId : Text) : Change δ Unit :=
  change world (Disk.touch root [workspaceId,eventsJsonlName])

def loadWorkspaceIndex (files : Files δ) : Except Raised (List Text) :=
  match find files [indexName] with
  | none => .ok []
  | some content => content.readIndex

def writeWorkspaceIndex (world : World Raised) (workspaceIds : List Text) : Change δ Unit :=
  change world (Disk.write [indexName] (.index (workspaceIds.dedup.insertionSort (· ≤ ·))))

def readState (files : Files δ) (workspaceId : Text) : Except Raised (Loaded δ) :=
  match find files [workspaceId,workspaceJsonName] with
  | none => .error .fileNotFound
  | some content => content.readState

def loadWorkspaceState (world : World Raised) (root : Root) (workspaceId : Text) : Change δ (Loaded δ) := do
  ensureWorkspaceLayout world root workspaceId
  let disk ← look
  settle (readState (disk.files root) workspaceId)

def saveWorkspaceState (world : World Raised) (state : Loaded δ) : Change δ Unit := do
  ensureWorkspaceLayout world .destination state.workspaceId
  let body ← settle (Reading.redacted state)
  change world (Disk.write [state.workspaceId,workspaceJsonName] (.state {state with body := body}))
  change world (Disk.write [state.workspaceId,contextMdName] (.context {state with body := body}))
  let disk ← look
  let existing ← settle (loadWorkspaceIndex disk.destination)
  writeWorkspaceIndex world (state.workspaceId :: existing)

def loadLatestWorkspaceId (files : Files δ) : Except Raised (Option Text) :=
  match find files [latestPointerName] with
  | none => .ok none
  | some content => content.readLatest

def saveLatestWorkspaceId (world : World Raised) (workspaceId : Text) : Change δ Unit :=
  change world (Disk.write [latestPointerName] (.latest workspaceId))

/- migration.py -/

structure WorkspaceMigrationResult where
  sourceRoot : Text
  destinationRoot : Text
  backupRoot : Nat
  workspaceIds : List Text
  activeWorkspaceId : Option Text
  checksums : List (Location × Text)

-- The arguments of a call. Without a source root, `others` are the legacy roots found beside the source.
structure Call where
  explicit : Bool
  source : Text
  destination : Text
  cwd : Text
  others : List Text

def notActive : Raised → Bool
  | .fileNotFound => true
  | .missingKey => true
  | .wrongType => true
  | .notJson => true
  | _ => false

def loadsActive (world : World Raised) (latestId : Text) : Change δ Bool := do
  let state ← loadWorkspaceState world .destination latestId
  pure (decide (state.status = .active))

def isActiveWorkspace (world : World Raised) : Change δ Bool := do
  let disk ← look
  let latest ← settle (loadLatestWorkspaceId disk.destination)
  match latest with
  | none => pure false
  | some latestId => handle (loadsActive world latestId) (fun raised => if notActive raised then pure false else fail raised)

-- `detect_legacy_workspace_roots` and what the call makes of the roots.
def locateSource (world : World Raised) (call : Call) : Change δ Unit :=
  if call.explicit then pure () else do
    let active ← isActiveWorkspace world
    if active then fail (.legacyNotFound call.cwd)
    else if call.others ≠ [] then fail (.migrationConflict ((call.source :: call.others).insertionSort (· ≤ ·)))
    else pure ()

def childNames (files : Files δ) : List Text :=
  files.filterMap (fun file =>
    match file.1 with
    | [child,name] => if name = workspaceJsonName then some child else none
    | _ => none)

def workspaceIds (files : Files δ) : Except Raised (List Text) := do
  let indexed ← loadWorkspaceIndex files
  .ok (((indexed ++ childNames files).filter
    (fun workspaceId => (find files [workspaceId,workspaceJsonName]).isSome)).dedup.insertionSort (· ≤ ·))

def sha256Files (files : Files δ) : List (Location × Text) := files.map (fun file => (file.1,Reading.digest file.2))

def isOsError (raised : Raised) : Bool := decide (raised = .osError)

-- `copytree` goes on after a file that it cannot copy and raises at its end.
def backUp (world : World Raised) (stamp : Nat) : Change δ Unit := do
  change world (fun disk => {disk with stamp := stamp + 1})
  let disk ← look
  tryAll world isOsError (Disk.saveCopy stamp) .copyError disk.source

def below (files : Files δ) (workspaceId directory : Text) : Files δ :=
  files.filter (fun file => decide ([workspaceId,directory] <+: file.1 ∧ 3 ≤ file.1.length))

def copyDirectory (world : World Raised) (workspaceId directory : Text) : Change δ Unit := do
  let disk ← look
  tryAll world isOsError (fun file => Disk.write file.1 file.2) .copyError (below disk.source workspaceId directory)

def migrateWorkspace (world : World Raised) (workspaceId : Text) : Change δ Unit := do
  let state ← loadWorkspaceState world .source workspaceId
  saveWorkspaceState world state
  each ["artifacts".toList,"exports".toList] (copyDirectory world workspaceId)

def migrateLatest (world : World Raised) (migrated : List Text) : Change δ (Option Text) := do
  let disk ← look
  let sourceLatest ← settle (loadLatestWorkspaceId disk.source)
  match sourceLatest with
  | none => pure none
  | some latestId =>
    if latestId ∈ migrated then do
      let state ← loadWorkspaceState world .source latestId
      if state.status = .active then do
        saveLatestWorkspaceId world latestId
        pure (some latestId)
      else pure none
    else pure none

def migrateAll (world : World Raised) (call : Call) (stamp : Nat) : Change δ (List Text × Option Text) := do
  backUp world stamp
  let disk ← look
  let migrated ← settle (workspaceIds disk.source)
  if migrated = [] then fail (.legacyNotFound call.source) else do
    each migrated (migrateWorkspace world)
    let active ← migrateLatest world migrated
    pure (migrated,active)

def resultOf (call : Call) (stamp : Nat) (migrated : List Text) (active : Option Text) (disk : Disk δ) : WorkspaceMigrationResult where
  sourceRoot := call.source
  destinationRoot := call.destination
  backupRoot := stamp
  workspaceIds := migrated
  activeWorkspaceId := active
  checksums := sha256Files (disk.backups stamp)

def carryOver (world : World Raised) (call : Call) : Change δ WorkspaceMigrationResult := do
  let before ← look
  if before.linked then fail (.migrationConflict [call.source]) else do
    let (migrated,active) ← migrateAll world call before.stamp
    change world (Disk.write [migrationName] (.marker ⟨call.source,before.stamp,migrated⟩))
    let disk ← look
    pure (resultOf call before.stamp migrated active disk)

def loadMarker (files : Files δ) : Except Raised (Option Marker) :=
  match find files [migrationName] with
  | none => .ok none
  | some content => content.readMarker

-- A destination that holds workspaces is accepted where the marker says that they came from this source.
def acceptExisting (call : Call) (existing : List Text) : Change δ WorkspaceMigrationResult := do
  let disk ← look
  let marker ← settle (loadMarker disk.destination)
  match marker with
  | none => fail (.migrationConflict [call.destination])
  | some written =>
    if written.sourceRoot = call.source ∧ written.workspaceIds = existing then do
      let latest ← settle (loadLatestWorkspaceId disk.destination)
      pure (resultOf call written.backupRoot existing latest disk)
    else fail (.migrationConflict [call.destination])

def migrateLegacyWorkspaces (world : World Raised) (call : Call) : Change δ WorkspaceMigrationResult := do
  locateSource world call
  if call.source = call.destination then fail (.migrationConflict [call.source]) else do
    let disk ← look
    let existing ← settle (workspaceIds disk.destination)
    if existing = [] then carryOver world call else acceptExisting call existing

/- The ids of a root: the names of the directories with a state, each once and in order. -/

theorem sorted_ids {left right : List Text} (same : ∀ workspaceId, workspaceId ∈ left ↔ workspaceId ∈ right) :
    left.dedup.insertionSort (· ≤ ·) = right.dedup.insertionSort (· ≤ ·) := by
  apply List.Perm.eq_of_pairwise' (List.pairwise_insertionSort _ _) (List.pairwise_insertionSort _ _)
  have listed : left.dedup.Perm right.dedup := by
    apply (List.perm_ext_iff_of_nodup (List.nodup_dedup left) (List.nodup_dedup right)).mpr
    intro workspaceId
    rw [List.mem_dedup,List.mem_dedup]
    exact same workspaceId
  exact (List.perm_insertionSort _ _).trans (listed.trans (List.perm_insertionSort _ _).symm)

variable {files : Files δ}

omit [Reading δ] in
theorem mem_childNames (present : (find files [workspaceId,workspaceJsonName]).isSome) : workspaceId ∈ childNames files := by
  unfold find at present
  rw [Option.isSome_map] at present
  obtain ⟨file,found⟩ := Option.isSome_iff_exists.mp present
  have named : file.1 = [workspaceId,workspaceJsonName] := by simpa using List.find?_some found
  apply List.mem_filterMap.mpr
  exact ⟨file,List.mem_of_find?_eq_some found,by simp [named]⟩

variable {ids : List Text}

theorem mem_workspaceIds (read : workspaceIds files = .ok ids) (workspaceId : Text) :
    workspaceId ∈ ids ↔ (find files [workspaceId,workspaceJsonName]).isSome := by
  unfold workspaceIds at read
  obtain ⟨indexed,_,listed⟩ := bind_ok read
  cases listed
  rw [List.mem_insertionSort,List.mem_dedup,List.mem_filter]
  constructor
  · intro both
    exact both.2
  · intro present
    exact ⟨List.mem_append_right indexed (mem_childNames present),present⟩

theorem ids_of_index (read : loadWorkspaceIndex files = .ok indexed) : ∃ ids, workspaceIds files = .ok ids := by
  unfold workspaceIds
  rw [read]
  exact ⟨_,rfl⟩

theorem ids_unique {left right : Files δ} {one other : List Text} (first : workspaceIds left = .ok one)
    (second : workspaceIds right = .ok other) (same : ∀ workspaceId, workspaceId ∈ one ↔ workspaceId ∈ other) : one = other := by
  unfold workspaceIds at first second
  obtain ⟨_,_,listed⟩ := bind_ok first
  obtain ⟨_,_,listedOther⟩ := bind_ok second
  cases listed
  cases listedOther
  apply sorted_ids
  intro workspaceId
  have both := same workspaceId
  rw [List.mem_insertionSort,List.mem_dedup,List.mem_insertionSort,List.mem_dedup] at both
  exact both

theorem ids_nodup (read : workspaceIds files = .ok ids) : ids.Nodup := by
  unfold workspaceIds at read
  obtain ⟨_,_,listed⟩ := bind_ok read
  cases listed
  exact (List.perm_insertionSort _ _).nodup_iff.mpr (List.nodup_dedup _)

end Model

end OpenStock.Workspaces.Migration
