import OpenStock.Foundations.FileTrees
import OpenStock.Workspaces.Documents

namespace OpenStock.Workspaces.Cleaning
open Documents FileTrees

/- What is kept, and what a file's relative path says about it. -/

def isResolvedError (artifact : WorkspaceArtifactRef) : Bool :=
  decide (artifact.artifactType = "error".toList) &&
    match artifact.metadata.members.lookup "status".toList with
    | some (.str status) => decide (status = "resolved".toList)
    | _ => false

def activeArtifacts (artifacts : List WorkspaceArtifactRef) : List Text :=
  (artifacts.map WorkspaceArtifactRef.path).filter (fun path => !path.isEmpty)

def resolvedErrorArtifacts (artifacts : List WorkspaceArtifactRef) : List Text := activeArtifacts (artifacts.filter isResolvedError)

def protectedArtifacts (artifacts : List WorkspaceArtifactRef) (resolvedErrors : Bool) : List Text :=
  if resolvedErrors then
    (activeArtifacts artifacts).filter (fun path => decide (path ∉ resolvedErrorArtifacts artifacts))
  else activeArtifacts artifacts

def keepNames : List Text := ["workspace.json","events.jsonl","compact.md","context.md"].map String.toList

def protectedNames : List Text := ["audit.jsonl".toList]

def startsWith (text : Text) (beginning : String) : Bool := decide (beginning.toList <+: text)
def endsWith (text : Text) (ending : String) : Bool := decide (ending.toList <:+ text)

inductive Fate where
  | keep
  | confirm
  | remove
  | archive
  | leave
  deriving DecidableEq

def fate (keep : List Text) (path : RelativePath) : Fate :=
  if path.text ∈ keep then .keep
  else if path.text ∈ protectedNames then .keep
  else if startsWith path.text "notes/" then .confirm
  else if startsWith path.text "artifacts/" then .remove
  else if endsWith path.text ".old.jsonl" then .archive
  else .leave

-- The paths that a run may take away when nothing keeps them.
def Cleanable (path : RelativePath) : Bool := fate keepNames path == .remove || fate keepNames path == .archive

structure CleanPlan (γ : Type) where
  keep : List Text
  archive : List (RelativePath × γ)
  remove : List (RelativePath × γ)
  needsConfirmation : List (RelativePath × γ)
  protectedFiles : List Text

section Runs

variable {γ : Type}

-- `sorted(workspace_dir.rglob("*"))` without the directories.
def sortedFiles (tree : FileTree γ) : List (RelativePath × γ) :=
  tree.files.insertionSort (fun left right => left.1.parts.map FileName.text ≤ right.1.parts.map FileName.text)

def classifyWorkspace (tree : FileTree γ) (active : List Text) : CleanPlan γ :=
  let keep := keepNames ++ active
  let files := sortedFiles tree
  let having := fun kind => files.filter (fun file => decide (fate keep file.1 = kind))
  { keep := keep.dedup.insertionSort (· ≤ ·)
    archive := having .archive
    remove := having .remove
    needsConfirmation := having .confirm
    protectedFiles := protectedNames }

-- A run over the files of its plan; it stops at the first copy that fails.
structure Cleaned (γ : Type) where
  tree : FileTree γ
  archive : List (RelativePath × γ)
  done : List (RelativePath × γ)
  raised : Bool

def archiveFile (cleaned : Cleaned γ) (file : RelativePath × γ) : Cleaned γ :=
  if cleaned.raised then cleaned else
    match place cleaned.archive file.1 with
    | none => {cleaned with raised := true}
    | some target => ⟨cleaned.tree.remove file.1,put target file.2 cleaned.archive,cleaned.done ++ [file],false⟩

structure CleanResult where
  archived : List Text
  removed : List Text
  kept : List Text

-- A file that a run removed, with the artifacts of the state it read.
structure Removal (γ : Type) where
  file : RelativePath × γ
  artifacts : List WorkspaceArtifactRef

-- A workspace directory, the artifacts in its state, its archive, and all that was removed so far.
structure World (γ : Type) where
  tree : FileTree γ
  artifacts : List WorkspaceArtifactRef
  archive : List (RelativePath × γ)
  removals : List (Removal γ)

def planOf (world : World γ) (resolvedErrors : Bool) : CleanPlan γ :=
  classifyWorkspace world.tree (protectedArtifacts world.artifacts resolvedErrors)

def planned (world : World γ) (resolvedErrors : Bool) : List (RelativePath × γ) :=
  (planOf world resolvedErrors).archive ++ (planOf world resolvedErrors).remove

def cleaned (world : World γ) (resolvedErrors : Bool) : Cleaned γ :=
  (planned world resolvedErrors).foldl archiveFile ⟨world.tree,world.archive,[],false⟩

-- `clean_workspace` with dry_run=False; no result where it raises.
def cleanWorkspace (world : World γ) (resolvedErrors : Bool) : World γ × Option CleanResult :=
  let plan := planOf world resolvedErrors
  let after := cleaned world resolvedErrors
  ({world with
      tree := after.tree
      archive := after.archive
      removals := world.removals ++ after.done.map (fun file => ⟨file,world.artifacts⟩)},
    if after.raised then none else
      some ⟨(plan.archive ++ plan.remove).map (fun file => "archive/".toList ++ file.1.text),
        plan.remove.map (fun file => file.1.text),plan.keep⟩)

-- What happens to a workspace: runs, and files and states written by others.
inductive Event (γ : Type) where
  | clean (resolvedErrors : Bool)
  | create (path : RelativePath) (content : γ)
  | delete (path : RelativePath)
  | save (artifacts : List WorkspaceArtifactRef)

def World.step (world : World γ) : Event γ → World γ
  | .clean resolvedErrors => (cleanWorkspace world resolvedErrors).1
  | .create path content => {world with tree := world.tree.write path content}
  | .delete path => {world with tree := world.tree.remove path}
  | .save artifacts => {world with artifacts := artifacts}

def World.run (world : World γ) (events : List (Event γ)) : World γ := events.foldl World.step world

def World.started (tree : FileTree γ) (artifacts : List WorkspaceArtifactRef) (archive : List (RelativePath × γ)) : World γ :=
  ⟨tree,artifacts,archive,[]⟩

/- Which file a stored path means. -/

def resolve (start parts : List Text) : List Text :=
  parts.foldl (fun reached part =>
    if part = [] ∨ part = ['.'] then reached
    else if part = ['.','.'] then reached.dropLast
    else reached ++ [part]) start

-- Absolute paths start at the root, the others in the workspace directory.
def denoted (location : List Text) (stored : Text) : List Text :=
  resolve (if stored.head? = some '/' then [] else location) (stored.splitOn '/')

def Denotes (location : List Text) (stored : Text) (path : RelativePath) : Prop :=
  denoted location stored = location ++ path.parts.map FileName.text

instance (location : List Text) (stored : Text) (path : RelativePath) : Decidable (Denotes location stored path) :=
  inferInstanceAs (Decidable (_ = _))

def ActiveFile (location : List Text) (artifacts : List WorkspaceArtifactRef) (path : RelativePath) : Prop :=
  ∃ artifact ∈ artifacts, isResolvedError artifact = false ∧ Denotes location artifact.path path

instance (location : List Text) (artifacts : List WorkspaceArtifactRef) (path : RelativePath) :
    Decidable (ActiveFile location artifacts path) := inferInstanceAs (Decidable (∃ _ ∈ _, _ ∧ _))

-- When a run is safe: no copy covers another content, and a file that an active artifact means is kept
-- under the very text of its path.
structure Safe [DecidableEq γ] (location : List Text) (world : World γ) (resolvedErrors : Bool) : Prop where
  uncovered : ∀ file ∈ planned world resolvedErrors, ∀ target ∈ (place world.archive file.1).toList,
    ∀ copy ∈ world.archive, copy.1 = target → copy.2 = file.2
  written : ∀ file ∈ world.tree.files, Cleanable file.1 = true → ActiveFile location world.artifacts file.1 →
    file.1.text ∈ protectedArtifacts world.artifacts resolvedErrors

def SafeEvents [DecidableEq γ] (location : List Text) : World γ → List (Event γ) → Prop
  | _,[] => True
  | world,.clean resolvedErrors :: events =>
    Safe location world resolvedErrors ∧ SafeEvents location (world.step (.clean resolvedErrors)) events
  | world,event :: events => SafeEvents location (world.step event) events

-- Nothing that was removed is lost, and none of it was in use.
structure Kept (location : List Text) (world : World γ) : Prop where
  archived : ∀ removal ∈ world.removals, ∃ path, (path,removal.file.2) ∈ world.archive
  unused : ∀ removal ∈ world.removals, ¬ ActiveFile location removal.artifacts removal.file.1

/- One run. -/

variable {file : RelativePath × γ}

theorem mem_sortedFiles : file ∈ sortedFiles tree ↔ file ∈ tree.files := List.mem_insertionSort _

theorem sorted_apart (tree : FileTree γ) : (sortedFiles tree).Pairwise (fun left right => Apart left.1 right.1) :=
  ((List.perm_insertionSort _ tree.files).pairwise_iff (fun apart => Apart.symm apart)).mpr tree.apart

theorem planned_fate (listed : file ∈ planned world resolvedErrors) :
    file ∈ world.tree.files ∧ (fate (keepNames ++ protectedArtifacts world.artifacts resolvedErrors) file.1 = .archive ∨
        fate (keepNames ++ protectedArtifacts world.artifacts resolvedErrors) file.1 = .remove) := by
  rcases List.mem_append.mp listed with old | removed
  · obtain ⟨inside,kind⟩ := List.mem_filter.mp old
    exact ⟨mem_sortedFiles.mp inside,.inl (by simpa using kind)⟩
  · obtain ⟨inside,kind⟩ := List.mem_filter.mp removed
    exact ⟨mem_sortedFiles.mp inside,.inr (by simpa using kind)⟩

theorem planned_apart (world : World γ) (resolvedErrors : Bool) :
    (planned world resolvedErrors).Pairwise (fun left right => Apart left.1 right.1) := by
  have sorted := sorted_apart world.tree
  rw [planned,List.pairwise_append]
  refine ⟨sorted.filter _,sorted.filter _,?_⟩
  intro old archived other removed
  obtain ⟨oldInside,oldKind⟩ := List.mem_filter.mp archived
  obtain ⟨otherInside,otherKind⟩ := List.mem_filter.mp removed
  have differs : old ≠ other := by
    rintro rfl
    simp only [decide_eq_true_eq] at oldKind otherKind
    rw [oldKind] at otherKind
    cases otherKind
  have symmetric : Std.Symm (fun left right : RelativePath × γ => Apart left.1 right.1) := ⟨fun _ _ apart => apart.symm⟩
  exact sorted.forall oldInside otherInside differs

def Uncovered (archive : List (RelativePath × γ)) (file : RelativePath × γ) : Prop :=
  ∀ target, place archive file.1 = some target → ∀ copy ∈ archive, copy.1 = target → copy.2 = file.2

-- A copy leaves the other files of the plan as safe as they were.
theorem uncovered_after {file other : RelativePath × γ} (apart : Apart file.1 other.1)
    (placed : place archive file.1 = some target) (safe : Uncovered archive other) :
    Uncovered (put target file.2 archive) other := by
  intro found otherPlaced copy inside here
  have stable := @place_stable _ _ _ _ _ file.2 apart placed
  rcases mem_put.mp inside with rfl | ⟨before,_⟩
  · exact absurd here.symm (place_apart apart placed otherPlaced)
  · exact safe found (stable.symm.trans otherPlaced) copy before here

-- One file of the plan: the run has stopped, it stops here, or the file is copied and unlinked.
theorem archive_cases (before : Cleaned γ) (file : RelativePath × γ) :
    archiveFile before file = before ∨ archiveFile before file = {before with raised := true} ∨
      ∃ target, place before.archive file.1 = some target ∧
        archiveFile before file = ⟨before.tree.remove file.1,put target file.2 before.archive,before.done ++ [file],false⟩ := by
  unfold archiveFile
  split
  · exact .inl rfl
  · split
    · exact .inr (.inl rfl)
    · rename_i target placed
      exact .inr (.inr ⟨target,placed,rfl⟩)

structure Copied (before after : Cleaned γ) (pending : List (RelativePath × γ)) : Prop where
  archive : ∀ copy ∈ before.archive, copy ∈ after.archive
  done : ∃ moved, after.done = before.done ++ moved ∧
    ∀ file ∈ moved, file ∈ pending ∧ ∃ path, (path,file.2) ∈ after.archive

theorem archive_all (pending : List (RelativePath × γ)) (before : Cleaned γ)
    (apart : pending.Pairwise (fun left right => Apart left.1 right.1)) (safe : ∀ file ∈ pending, Uncovered before.archive file) :
    Copied before (pending.foldl archiveFile before) pending := by
  induction pending generalizing before with
  | nil => exact ⟨fun _ inside => inside,[],by simp,fun _ inside => nomatch inside⟩
  | cons file pending ih =>
    obtain ⟨beside,rest⟩ := List.pairwise_cons.mp apart
    have later : ∀ other ∈ pending, Uncovered before.archive other := fun other inside => safe other (List.mem_cons_of_mem _ inside)
    have unmoved : ∀ after, Copied before after pending → Copied before after (file :: pending) := by
      rintro after ⟨archive,moved,shape,moves⟩
      exact ⟨archive,moved,shape,fun other inside => ⟨List.mem_cons_of_mem _ (moves other inside).1,(moves other inside).2⟩⟩
    rw [List.foldl_cons]
    rcases archive_cases before file with same | same | ⟨target,placed,same⟩
    · rw [same]
      exact unmoved _ (ih before rest later)
    · rw [same]
      obtain ⟨archive,done⟩ := ih {before with raised := true} rest later
      exact unmoved _ ⟨archive,done⟩
    · rw [same]
      have own := safe file List.mem_cons_self target placed
      obtain ⟨archive,moved,shape,moves⟩ := ih
        ⟨before.tree.remove file.1,put target file.2 before.archive,before.done ++ [file],false⟩ rest
        (fun other inside => uncovered_after (beside other inside) placed (later other inside))
      refine ⟨fun copy inside => archive copy (put_keeps own inside),file :: moved,?_,?_⟩
      · rw [shape]
        simp
      · intro other inside
        rcases List.mem_cons.mp inside with rfl | further
        · exact ⟨List.mem_cons_self,target,archive _ (mem_put.mpr (.inl rfl))⟩
        · exact ⟨List.mem_cons_of_mem _ (moves other further).1,(moves other further).2⟩

variable {path : RelativePath}

theorem fate_kept (listed : path.text ∈ keep) : fate keep path = .keep := if_pos listed

-- The kept names of artifacts only ever take a path out of the plan.
theorem fate_cleanable
    (goes : fate (keepNames ++ active) path = .archive ∨ fate (keepNames ++ active) path = .remove) : Cleanable path = true := by
  have unlisted : path.text ∉ keepNames ++ active := by
    intro listed
    rw [fate_kept listed] at goes
    rcases goes with goes | goes <;> cases goes
  have unnamed : path.text ∉ keepNames := fun listed => unlisted (List.mem_append_left _ listed)
  have same : fate keepNames path = fate (keepNames ++ active) path := by
    unfold fate
    rw [if_neg unlisted,if_neg unnamed]
  unfold Cleanable
  rw [same]
  rcases goes with goes | goes <;> simp [goes]

variable [DecidableEq γ] {location : List Text}

theorem clean_keeps {world : World γ} {resolvedErrors : Bool} (safe : Safe location world resolvedErrors)
    (kept : Kept location world) : Kept location (cleanWorkspace world resolvedErrors).1 := by
  have uncovered : ∀ file ∈ planned world resolvedErrors, Uncovered world.archive file := by
    intro file listed target placed copy inside here
    exact safe.uncovered file listed target (by simp [placed]) copy inside here
  obtain ⟨archive,moved,shape,moves⟩ := archive_all (planned world resolvedErrors) ⟨world.tree,world.archive,[],false⟩
    (planned_apart world resolvedErrors) uncovered
  have done : (cleaned world resolvedErrors).done = moved := shape
  constructor
  · intro removal listed
    rcases List.mem_append.mp listed with early | late
    · obtain ⟨path,inside⟩ := kept.archived removal early
      exact ⟨path,archive _ inside⟩
    · obtain ⟨file,among,rfl⟩ := List.mem_map.mp late
      rw [done] at among
      exact (moves file among).2
  · intro removal listed
    rcases List.mem_append.mp listed with early | late
    · exact kept.unused removal early
    · obtain ⟨file,among,rfl⟩ := List.mem_map.mp late
      rw [done] at among
      obtain ⟨inside,goes⟩ := planned_fate (moves file among).1
      intro active
      have listed := safe.written file inside (fate_cleanable goes) active
      rw [fate_kept (List.mem_append_right _ listed)] at goes
      rcases goes with goes | goes <;> cases goes

/- Every run of a workspace. -/

theorem events_keep (events : List (Event γ)) (world : World γ) (safe : SafeEvents location world events)
    (kept : Kept location world) : Kept location (world.run events) := by
  induction events generalizing world with
  | nil => exact kept
  | cons event events ih =>
    cases event with
    | clean resolvedErrors => exact ih _ safe.2 (clean_keeps safe.1 kept)
    | create path content | delete path | save artifacts => exact ih _ safe ⟨kept.archived,kept.unused⟩

theorem cleaning_keeps (location : List Text) (tree : FileTree γ) (artifacts : List WorkspaceArtifactRef)
    (archive : List (RelativePath × γ)) (events : List (Event γ))
    (safe : SafeEvents location (World.started tree artifacts archive) events) :
    Kept location ((World.started tree artifacts archive).run events) :=
  events_keep events _ safe ⟨(fun _ listed => nomatch listed),(fun _ listed => nomatch listed)⟩

end Runs

/- Runs over one directory. -/

def artifactsDirectory : FileName := ⟨"artifacts".toList,by decide⟩
def draft : RelativePath := ⟨[artifactsDirectory],⟨"draft".toList,by decide⟩⟩
def chart : RelativePath := ⟨[artifactsDirectory],⟨"chart".toList,by decide⟩⟩

def workspaceLocation : List Text := ["srv".toList,"ws-1".toList]

def storedAt (path : String) : WorkspaceArtifactRef where
  artifactId := "a-1".toList
  artifactType := "analysis".toList
  path := path.toList
  summary := "Draft".toList
  createdAt := "2026-01-01".toList
  sourceRefs := []
  metadata := ⟨[],trivial⟩
  pinned := false

def oneFile (path : RelativePath) (content : Nat) : FileTree Nat := ⟨[(path,content)],List.pairwise_singleton _ _⟩

theorem cleaning_keeps_sample : Kept workspaceLocation ((World.started (oneFile draft 1) [storedAt "artifacts/draft"] []).run
      [.create chart 2,.clean false,.create chart 2,.clean true]) :=
  cleaning_keeps workspaceLocation (oneFile draft 1) [storedAt "artifacts/draft"] [] _
    ⟨⟨by decide,by decide⟩,⟨by decide,by decide⟩,trivial⟩

-- A file that is created again replaces its own archive copy; another spelling of a path keeps nothing.
theorem content_lost :
    ¬ Kept workspaceLocation ((World.started (oneFile draft 1) [] []).run [.clean false,.create draft 2,.clean false]) ∧
    ¬ Kept workspaceLocation ((World.started (oneFile draft 1) [storedAt "./artifacts/draft"] []).run [.clean false]) := by
  constructor
  · intro kept
    have archived := kept.archived ⟨(draft,1),[]⟩ (.head _)
    obtain ⟨path,inside⟩ := archived
    have left : ((World.started (oneFile draft 1) [] []).run [.clean false,.create draft 2,.clean false]).archive = [(draft,2)] := by
      decide
    rw [left] at inside
    cases List.mem_singleton.mp inside
  · intro kept
    have removed : ⟨(draft,1),[storedAt "./artifacts/draft"]⟩ ∈
        ((World.started (oneFile draft 1) [storedAt "./artifacts/draft"] []).run [.clean false]).removals :=
      List.mem_singleton.mpr rfl
    exact kept.unused _ removed (by decide)

end OpenStock.Workspaces.Cleaning
