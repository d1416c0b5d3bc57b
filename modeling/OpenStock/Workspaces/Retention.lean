import OpenStock.Foundations.TextLines
import OpenStock.Workspaces.Documents

namespace OpenStock.Workspaces.Retention
open Documents TextLines

structure RetentionLimits extends WorkspaceLimits where
  maxEvents : Limit

-- The files archive/<name>.jsonl of a workspace directory.
inductive ArchiveName where
  | inputs
  | warnings
  | errors
  | artifacts
  | tasks
  | events
  deriving DecidableEq

def ArchiveName.file : ArchiveName → Text
  | .inputs => "inputs.jsonl".toList
  | .warnings => "warnings.jsonl".toList
  | .errors => "errors.jsonl".toList
  | .artifacts => "artifacts.jsonl".toList
  | .tasks => "tasks.jsonl".toList
  | .events => "events.jsonl".toList

-- `hashlib.sha256(...).hexdigest()` of a file's text.
class Hexdigest where
  hexdigest : Text → Text

-- events.jsonl, the archive files and the checksum beside each; a file that does not exist is empty.
structure Directory where
  events : Text
  archive : ArchiveName → Text
  checksums : ArchiveName → Text

def archiveLine (value : Json) : Text := Json.write Json.spaced 0 (Json.sortKeys value) ++ ['\n']

section Files

variable [Hexdigest]

def appendArchive (name : ArchiveName) (values : List Json) (directory : Directory) : Directory :=
  if values.isEmpty then directory else
    let text := directory.archive name ++ values.flatMap archiveLine
    {directory with
      archive := Function.update directory.archive name text
      checksums := Function.update directory.checksums name
        (Hexdigest.hexdigest text ++ "  ".toList ++ name.file ++ ['\n'])}

structure Rotation where
  directory : Directory
  archived : List Text
  count : Nat

def rotateEvents (limit : Limit) (directory : Directory) : Rotation :=
  let lines := splitlines (universalNewlines directory.events)
  if lines.length ≤ limit.count then ⟨directory,[],lines.length⟩ else
    let archivedLines := older limit.count lines
    let appended := appendArchive .events (archivedLines.map (fun line => named [("event",.str line)])) directory
    ⟨{appended with events := List.intercalate ['\n'] (newest limit.count lines) ++ ['\n']},archivedLines,limit.count⟩

end Files

structure Trimmed (α : Type) where
  kept : List α
  archived : List α

-- Limits are at least one, so that `values[:-limit]` and `values[-limit:]` are two parts of the list.
def trim (limit : Limit) (values : List α) : Trimmed α :=
  if values.length ≤ limit.count then ⟨values,[]⟩ else ⟨newest limit.count values,older limit.count values⟩

def trimRecentInputs (state : WorkspaceState) (limit : Limit) : Trimmed WorkspaceInputRef := trim limit state.recentInputs

def trimMessages [Redaction Text] (values : List Text) (limit : Limit) : Trimmed Text :=
  trim limit (values.map Redaction.message)

def pinnedOf (artifacts : List WorkspaceArtifactRef) : List WorkspaceArtifactRef := artifacts.filter (fun artifact => artifact.pinned)
def unpinnedOf (artifacts : List WorkspaceArtifactRef) : List WorkspaceArtifactRef := artifacts.filter (fun artifact => !artifact.pinned)

def trimArtifacts (state : WorkspaceState) (limit : Limit) : Trimmed WorkspaceArtifactRef :=
  let pinned := pinnedOf state.activeArtifacts
  let unpinned := unpinnedOf state.activeArtifacts
  let keepCount := limit.count - pinned.length
  -- `newest 0` is empty, as the branch of the source for `keep_count == 0`.
  let retained := pinned ++ newest keepCount unpinned
  let retainedIds := retained.map WorkspaceArtifactRef.artifactId
  ⟨retained,state.activeArtifacts.filter (fun artifact => decide (artifact.artifactId ∉ retainedIds))⟩

def isDone (task : WorkspaceTask) : Bool :=
  decide (task.status = "completed".toList) || decide (task.status = "done".toList)

def doneOf (tasks : List WorkspaceTask) : List WorkspaceTask := tasks.filter isDone
def pendingOf (tasks : List WorkspaceTask) : List WorkspaceTask := tasks.filter (fun task => !isDone task)

def trimTasks (state : WorkspaceState) (limit : Limit) : Trimmed WorkspaceTask :=
  let done := doneOf state.openTasks
  ⟨pendingOf state.openTasks ++ newest limit.count done,older limit.count done⟩

structure Trims where
  inputs : Trimmed WorkspaceInputRef
  warnings : Trimmed Text
  errors : Trimmed Text
  artifacts : Trimmed WorkspaceArtifactRef
  tasks : Trimmed WorkspaceTask

def trims [Redaction Text] (limits : RetentionLimits) (state : WorkspaceState) : Trims where
  inputs := trimRecentInputs state limits.maxInputs
  warnings := trimMessages state.warnings limits.maxWarnings
  errors := trimMessages state.errors limits.maxErrors
  artifacts := trimArtifacts state limits.maxActiveArtifacts
  tasks := trimTasks state limits.maxDoneTasks

-- The records that an archive file gets.
def Trims.records (parts : Trims) : ArchiveName → List Json
  | .inputs => parts.inputs.archived.map WorkspaceInputRef.toDict
  | .warnings => parts.warnings.archived.map (fun value => named [("text",.str value)])
  | .errors => parts.errors.archived.map (fun value => named [("text",.str value)])
  | .artifacts => parts.artifacts.archived.map WorkspaceArtifactRef.toDict
  | .tasks => parts.tasks.archived.map (fun task => named [("task",task.toDict)])
  | .events => []

-- `mapping[key] = value`.
def setMember (key : Text) (value : Json) : List (Text × Json) → List (Text × Json)
  | [] => [(key,value)]
  | member :: members => if member.1 = key then (key,value) :: members else member :: setMember key value members

theorem setMember_printable (value_ : Json.Printable value)
    (printable : Json.PrintableMembers members) : Json.PrintableMembers (setMember key value members) := by
  induction members with
  | nil => exact ⟨value_,trivial⟩
  | cons member members ih =>
    unfold setMember
    split
    · exact ⟨value_,printable.2⟩
    · exact ⟨printable.1,ih printable.2⟩

def counted (dict : JsonDict) (key : Text) (count : Nat) : JsonDict where
  members := setMember key (.int count) dict.members
  printable := setMember_printable trivial dict.printable

structure RetentionResult where
  state : WorkspaceState
  archivedCounts : List (ArchiveName × Nat)

def countOf (name : ArchiveName) (records : List α) : List (ArchiveName × Nat) :=
  if records.isEmpty then [] else [(name,records.length)]

def trimmedNames : List ArchiveName := [.inputs,.warnings,.errors,.artifacts,.tasks]

def enforceRetention [Redaction Text] [Hexdigest] (limits : RetentionLimits) (directory : Directory)
    (state : WorkspaceState) : RetentionResult × Directory :=
  let rotated := rotateEvents limits.maxEvents directory
  let parts := trims limits state
  (⟨{state with
      schemaVersion := workspaceSchemaVersion
      recentInputs := parts.inputs.kept
      warnings := parts.warnings.kept
      errors := parts.errors.kept
      activeArtifacts := parts.artifacts.kept
      openTasks := parts.tasks.kept
      contextSize := counted state.contextSize "events".toList rotated.count},
    countOf .events rotated.archived ++ trimmedNames.flatMap (fun name => countOf name (parts.records name))⟩,
    trimmedNames.foldl (fun directory name => appendArchive name (parts.records name) directory) rotated.directory)

/- Parts of a list. -/

variable (count : Nat) (values : List α)

theorem older_newest : older count values ++ newest count values = values :=
  List.take_append_drop _ values

theorem newest_perm : (newest count values ++ older count values).Perm values := by
  refine List.perm_append_comm.trans ?_
  rw [older_newest]

theorem newest_sublist : (newest count values).Sublist values := List.drop_sublist _ values

theorem newest_length : (newest count values).length ≤ count := by
  simp only [newest,List.length_drop]
  omega

theorem newest_all {count : Nat} {values : List α} (few : values.length ≤ count) : newest count values = values := by
  simp [newest,Nat.sub_eq_zero_of_le few]

theorem older_none {count : Nat} {values : List α} (few : values.length ≤ count) : older count values = [] := by
  simp [older,Nat.sub_eq_zero_of_le few]

-- Both branches of the source take the same parts.
theorem trim_parts (limit : Limit) (values : List α) : trim limit values = ⟨newest limit.count values,older limit.count values⟩ := by
  unfold trim
  split
  · rename_i few
    rw [newest_all few,older_none few]
  · rfl

theorem pinned_perm (artifacts : List WorkspaceArtifactRef) : (pinnedOf artifacts ++ unpinnedOf artifacts).Perm artifacts :=
  List.filter_append_perm _ artifacts

theorem pending_perm (tasks : List WorkspaceTask) : (pendingOf tasks ++ doneOf tasks).Perm tasks := by
  have parts := List.filter_append_perm isDone tasks
  exact List.perm_append_comm.trans parts

variable {test : α → Bool}

theorem filter_split {values : List α} (part : List α) (first : ∀ item ∈ values, test item = true)
    (second : ∀ item ∈ part, test item = false) : (values ++ part).filter test = values := by
  rw [List.filter_append,List.filter_eq_self.mpr first,List.filter_eq_nil_iff.mpr (by simpa using second),List.append_nil]

theorem filter_second {values part : List α} (first : ∀ item ∈ values, test item = false)
    (second : ∀ item ∈ part, test item = true) : (values ++ part).filter test = part := by
  rw [List.filter_append,List.filter_eq_nil_iff.mpr (by simpa using first),List.filter_eq_self.mpr second,List.nil_append]

/- Artifacts: pinned ones first, then the newest of the others. -/

variable (state : WorkspaceState)

theorem kept_pinned (limit : Limit) : pinnedOf (trimArtifacts state limit).kept = pinnedOf state.activeArtifacts := by
  apply filter_split
  · intro artifact inside
    simpa using (List.mem_filter.mp inside).2
  · intro artifact inside
    have unpinned := (newest_sublist _ _).subset inside
    simpa using (List.mem_filter.mp unpinned).2

theorem kept_unpinned (limit : Limit) : unpinnedOf (trimArtifacts state limit).kept =
      newest (limit.count - (pinnedOf state.activeArtifacts).length) (unpinnedOf state.activeArtifacts) := by
  apply filter_second
  · intro artifact inside
    simpa using (List.mem_filter.mp inside).2
  · intro artifact inside
    have unpinned := (newest_sublist _ _).subset inside
    simpa using (List.mem_filter.mp unpinned).2

-- No artifact that falls out of the limit has the id of one that stays.
def Apart (limit : Limit) (artifacts : List WorkspaceArtifactRef) : Prop :=
  let room := limit.count - (pinnedOf artifacts).length
  ∀ artifact ∈ older room (unpinnedOf artifacts), ∀ other ∈ pinnedOf artifacts ++ newest room (unpinnedOf artifacts),
    artifact.artifactId ≠ other.artifactId

-- The archive gets what falls out, less the artifacts whose id stays.
theorem artifacts_conserved (limit : Limit) :
    ((trimArtifacts state limit).kept ++ (trimArtifacts state limit).archived).Perm state.activeArtifacts ↔
      Apart limit state.activeArtifacts := by
  let room := limit.count - (pinnedOf state.activeArtifacts).length
  let kept := pinnedOf state.activeArtifacts ++ newest room (unpinnedOf state.activeArtifacts)
  let fallen := older room (unpinnedOf state.activeArtifacts)
  let unnamed : WorkspaceArtifactRef → Bool := fun artifact => decide (artifact.artifactId ∉ kept.map WorkspaceArtifactRef.artifactId)
  have all_ : (kept ++ fallen).Perm state.activeArtifacts := by
    rw [List.append_assoc]
    exact ((newest_perm room _).append_left _).trans (pinned_perm _)
  have archived : ((trimArtifacts state limit).archived).Perm (fallen.filter unnamed) := by
    have none_ : kept.filter unnamed = [] := by
      apply List.filter_eq_nil_iff.mpr
      intro artifact inside
      simp only [unnamed,decide_eq_true_eq,not_not]
      exact List.mem_map_of_mem inside
    have parts := all_.filter unnamed
    rw [List.filter_append,none_,List.nil_append] at parts
    exact parts.symm
  have conserved : ((trimArtifacts state limit).kept ++ (trimArtifacts state limit).archived).Perm state.activeArtifacts ↔
      (fallen.filter unnamed).Perm fallen := by
    constructor
    · intro whole
      have same := whole.trans all_.symm
      exact archived.symm.trans ((List.perm_append_left_iff kept).mp same)
    · intro same
      exact ((archived.trans same).append_left kept).trans all_
  rw [conserved]
  constructor
  · intro same artifact inside other stays equal
    have listed := same.mem_iff.mpr inside
    have absent := (List.mem_filter.mp listed).2
    simp only [unnamed,decide_eq_true_eq] at absent
    exact absent (equal ▸ List.mem_map_of_mem stays)
  · intro apart
    rw [List.filter_eq_self.mpr]
    intro artifact inside
    simp only [unnamed,decide_eq_true_eq,List.mem_map,not_exists,not_and]
    intro other stays equal
    exact apart artifact inside other stays equal.symm

/- Tasks: pending ones first, then the newest of the others. -/

theorem kept_pending (limit : Limit) : pendingOf (trimTasks state limit).kept = pendingOf state.openTasks := by
  apply filter_split
  · intro task inside
    simpa using (List.mem_filter.mp inside).2
  · intro task inside
    have done := (newest_sublist _ _).subset inside
    simpa using (List.mem_filter.mp done).2

theorem kept_done (limit : Limit) : doneOf (trimTasks state limit).kept = newest limit.count (doneOf state.openTasks) := by
  apply filter_second
  · intro task inside
    simpa using (List.mem_filter.mp inside).2
  · intro task inside
    have done := (newest_sublist _ _).subset inside
    simpa using (List.mem_filter.mp done).2

theorem tasks_conserved (limit : Limit) :
    ((trimTasks state limit).kept ++ (trimTasks state limit).archived).Perm state.openTasks := by
  have parts := (newest_perm limit.count (doneOf state.openTasks)).append_left (pendingOf state.openTasks)
  rw [← List.append_assoc] at parts
  exact parts.trans (pending_perm _)

/- Nothing is left over for a second run. -/

theorem messages_settled [Redaction Text] (limit : Limit) (values : List Text) :
    (trimMessages (trimMessages values limit).kept limit).archived = [] := by
  simp only [trimMessages,trim_parts]
  apply older_none
  rw [List.length_map]
  exact newest_length _ _

theorem artifacts_settled (state next : WorkspaceState) (limit : Limit)
    (kept : next.activeArtifacts = (trimArtifacts state limit).kept) : (trimArtifacts next limit).archived = [] := by
  have same : (trimArtifacts next limit).kept = next.activeArtifacts := by
    have few := newest_length (limit.count - (pinnedOf state.activeArtifacts).length) (unpinnedOf state.activeArtifacts)
    unfold trimArtifacts
    rw [kept,kept_pinned,kept_unpinned]
    dsimp only
    rw [newest_all few]
    rfl
  have archived : (trimArtifacts next limit).archived = next.activeArtifacts.filter
      (fun artifact => decide (artifact.artifactId ∉ (trimArtifacts next limit).kept.map WorkspaceArtifactRef.artifactId)) := rfl
  rw [archived,same]
  apply List.filter_eq_nil_iff.mpr
  intro artifact inside
  simp only [decide_eq_true_eq,not_not]
  exact List.mem_map_of_mem inside

theorem tasks_settled (state next : WorkspaceState) (limit : Limit)
    (kept : next.openTasks = (trimTasks state limit).kept) : (trimTasks next limit).archived = [] := by
  have archived : (trimTasks next limit).archived = older limit.count (doneOf next.openTasks) := rfl
  rw [archived,kept,kept_done]
  exact older_none (newest_length _ _)

/- Events. -/

def eventLines (directory : Directory) : List Text := splitlines (universalNewlines directory.events)

section Runs

variable [Hexdigest] (name : ArchiveName)

@[simp] theorem appended_events (values : List Json) (directory : Directory) :
    (appendArchive name values directory).events = directory.events := by
  unfold appendArchive
  split <;> rfl

theorem appended_archive (values : List Json) (directory : Directory) (other : ArchiveName) :
    (appendArchive name values directory).archive other =
      directory.archive other ++ if other = name then values.flatMap archiveLine else [] := by
  unfold appendArchive
  split
  · rename_i empty
    simp [List.isEmpty_iff.mp empty]
  · by_cases same : other = name
    · subst same
      simp
    · simp [same]

theorem appended_nothing (directory : Directory) : appendArchive name [] directory = directory := rfl

-- What is written back is read as the lines that were kept.
theorem rotated_lines (limit : Limit) (directory : Directory) :
    eventLines (rotateEvents limit directory).directory = newest limit.count (eventLines directory) := by
  unfold rotateEvents
  dsimp only
  split
  · rename_i few
    exact (newest_all few).symm
  · rename_i many
    have positive := limit.positive
    have unbroken : ∀ line ∈ newest limit.count (eventLines directory), Unbroken line := by
      intro line inside
      exact splitlines_unbroken _ line ((newest_sublist _ _).subset inside)
    have some' : newest limit.count (eventLines directory) ≠ [] := by
      apply List.ne_nil_of_length_pos
      simp only [newest,eventLines,List.length_drop]
      omega
    obtain ⟨line,lines,shape⟩ := List.exists_cons_of_ne_nil some'
    have read := splitlines_unlines unbroken []
    rw [List.append_nil] at read
    have written : splitlines (universalNewlines (List.intercalate ['\n'] (newest limit.count (eventLines directory)) ++ ['\n'])) =
        newest limit.count (eventLines directory) := by
      rw [shape,joined_unlines,← shape,universal_kept (unlines_plain unbroken),read]
      exact List.append_nil _
    exact written

theorem rotated_few {directory : Directory} (few : (eventLines directory).length ≤ limit.count) :
    rotateEvents limit directory = ⟨directory,[],(eventLines directory).length⟩ := by
  unfold rotateEvents
  exact if_pos few

theorem rotated_archive (limit : Limit) (directory : Directory) {name : ArchiveName} (other : name ≠ .events) :
    (rotateEvents limit directory).directory.archive name = directory.archive name := by
  unfold rotateEvents
  dsimp only
  split
  · rfl
  · have kept := appended_archive .events
      ((older limit.count (splitlines (universalNewlines directory.events))).map (fun line => named [("event",.str line)]))
      directory name
    rw [if_neg other,List.append_nil] at kept
    exact kept

variable [Redaction Text] (limits : RetentionLimits) (directory : Directory)

theorem retained_events (state : WorkspaceState) :
    (enforceRetention limits directory state).2.events = (rotateEvents limits.maxEvents directory).directory.events := by
  simp [enforceRetention,trimmedNames]

theorem retained_archive (state : WorkspaceState) {name : ArchiveName}
    (other : name ≠ .events) : (enforceRetention limits directory state).2.archive name =
      directory.archive name ++ ((trims limits state).records name).flatMap archiveLine := by
  have before := rotated_archive limits.maxEvents directory other
  cases name with
  | events => exact absurd rfl other
  | _ => simp [enforceRetention,trimmedNames,appended_archive,before]

/- The run that follows. -/

theorem inputs_settled (state : WorkspaceState) :
    (trims limits (enforceRetention limits directory state).1.state).inputs.archived = [] := by
  simp only [trims,enforceRetention,trimRecentInputs,trim_parts]
  exact older_none (newest_length _ _)

theorem records_settled (state : WorkspaceState) (name : ArchiveName) :
    (trims limits (enforceRetention limits directory state).1.state).records name = [] := by
  cases name with
  | inputs => exact congrArg _ (inputs_settled limits directory state)
  | warnings => exact congrArg (List.map _) (messages_settled limits.maxWarnings state.warnings)
  | errors => exact congrArg (List.map _) (messages_settled limits.maxErrors state.errors)
  | artifacts => exact congrArg _ (artifacts_settled state _ limits.maxActiveArtifacts rfl)
  | tasks => exact congrArg (List.map _) (tasks_settled state _ limits.maxDoneTasks rfl)
  | events => rfl

theorem second_archives_nothing (limits : RetentionLimits) (directory : Directory) (state : WorkspaceState) :
    let first := enforceRetention limits directory state
    let second := enforceRetention limits first.2 first.1.state
    second.1.archivedCounts = [] ∧ second.2 = first.2 := by
  intro first second
  have few : (eventLines first.2).length ≤ limits.maxEvents.count := by
    have lines : eventLines first.2 = newest limits.maxEvents.count (eventLines directory) := by
      rw [← rotated_lines,eventLines,retained_events,eventLines]
    rw [lines]
    exact newest_length _ _
  have settled := records_settled limits directory state
  have rotated := rotated_few few
  constructor
  · simp only [second,enforceRetention,rotated]
    simp [countOf,trimmedNames,first,settled]
  · simp only [second]
    unfold enforceRetention
    simp [rotated,trimmedNames,first,settled,appended_nothing]

end Runs

/- What retention promises. -/

-- Of one run, and of the run that follows it. What a kind of items loses is in the archive, messages as
-- they are redacted; the records that an archive file gets are appended to it.
structure Conserves [Redaction Text] [Hexdigest] (limits : RetentionLimits) (directory : Directory)
    (state : WorkspaceState) : Prop where
  inputs : ((enforceRetention limits directory state).1.state.recentInputs ++ (trims limits state).inputs.archived).Perm
    state.recentInputs
  warnings : ((enforceRetention limits directory state).1.state.warnings ++ (trims limits state).warnings.archived).Perm
    (state.warnings.map Redaction.message)
  errors : ((enforceRetention limits directory state).1.state.errors ++ (trims limits state).errors.archived).Perm
    (state.errors.map Redaction.message)
  tasks : ((enforceRetention limits directory state).1.state.openTasks ++ (trims limits state).tasks.archived).Perm
    state.openTasks
  artifacts : ((enforceRetention limits directory state).1.state.activeArtifacts ++ (trims limits state).artifacts.archived).Perm
    state.activeArtifacts
  appended : ∀ name, name ≠ .events → (enforceRetention limits directory state).2.archive name =
    directory.archive name ++ ((trims limits state).records name).flatMap archiveLine
  inputOrder : (enforceRetention limits directory state).1.state.recentInputs.Sublist state.recentInputs
  warningOrder : (enforceRetention limits directory state).1.state.warnings.Sublist (state.warnings.map Redaction.message)
  errorOrder : (enforceRetention limits directory state).1.state.errors.Sublist (state.errors.map Redaction.message)
  pinned : pinnedOf (enforceRetention limits directory state).1.state.activeArtifacts = pinnedOf state.activeArtifacts
  unpinnedOrder : (unpinnedOf (enforceRetention limits directory state).1.state.activeArtifacts).Sublist
    (unpinnedOf state.activeArtifacts)
  pending : pendingOf (enforceRetention limits directory state).1.state.openTasks = pendingOf state.openTasks
  doneOrder : (doneOf (enforceRetention limits directory state).1.state.openTasks).Sublist (doneOf state.openTasks)
  inputLimit : (enforceRetention limits directory state).1.state.recentInputs.length ≤ limits.maxInputs.count
  warningLimit : (enforceRetention limits directory state).1.state.warnings.length ≤ limits.maxWarnings.count
  errorLimit : (enforceRetention limits directory state).1.state.errors.length ≤ limits.maxErrors.count
  doneLimit : (doneOf (enforceRetention limits directory state).1.state.openTasks).length ≤ limits.maxDoneTasks.count
  eventLimit : (eventLines (enforceRetention limits directory state).2).length ≤ limits.maxEvents.count
  second : (enforceRetention limits (enforceRetention limits directory state).2
      (enforceRetention limits directory state).1.state).1.archivedCounts = [] ∧
    (enforceRetention limits (enforceRetention limits directory state).2
      (enforceRetention limits directory state).1.state).2 = (enforceRetention limits directory state).2

-- All of it holds but for artifacts that share an id.
theorem retention_exact [Redaction Text] [Hexdigest] (limits : RetentionLimits) (directory : Directory)
    (state : WorkspaceState) : Conserves limits directory state ↔ Apart limits.maxActiveArtifacts state.activeArtifacts := by
  constructor
  · intro conserves
    exact (artifacts_conserved state limits.maxActiveArtifacts).mp conserves.artifacts
  · intro apart
    have trimmed : ∀ (limit : Limit) {α : Type} (values : List α), ((trim limit values).kept ++ (trim limit values).archived).Perm values := by
      intro limit α values
      rw [trim_parts]
      exact newest_perm _ _
    have ordered : ∀ (limit : Limit) {α : Type} (values : List α), (trim limit values).kept.Sublist values := by
      intro limit α values
      rw [trim_parts]
      exact newest_sublist _ _
    have bounded : ∀ (limit : Limit) {α : Type} (values : List α), (trim limit values).kept.length ≤ limit.count := by
      intro limit α values
      rw [trim_parts]
      exact newest_length _ _
    have events : eventLines (enforceRetention limits directory state).2 =
        newest limits.maxEvents.count (eventLines directory) := by
      rw [← rotated_lines,eventLines,retained_events,eventLines]
    have unpinned := kept_unpinned state limits.maxActiveArtifacts
    have done := kept_done state limits.maxDoneTasks
    exact {
      inputs := trimmed _ _
      warnings := trimmed _ _
      errors := trimmed _ _
      tasks := tasks_conserved state limits.maxDoneTasks
      artifacts := (artifacts_conserved state limits.maxActiveArtifacts).mpr apart
      appended := fun _ other => retained_archive limits directory state other
      inputOrder := ordered _ _
      warningOrder := ordered _ _
      errorOrder := ordered _ _
      pinned := kept_pinned state limits.maxActiveArtifacts
      unpinnedOrder := unpinned ▸ newest_sublist _ _
      pending := kept_pending state limits.maxDoneTasks
      doneOrder := done ▸ newest_sublist _ _
      inputLimit := bounded _ _
      warningLimit := bounded _ _
      errorLimit := bounded _ _
      doneLimit := done ▸ newest_length _ _
      eventLimit := events ▸ newest_length _ _
      second := second_archives_nothing limits directory state}

/- Two reports under one id, with room for one. -/

def report (summary : String) : WorkspaceArtifactRef where
  artifactId := "report".toList
  artifactType := "analysis".toList
  path := "artifacts/report.md".toList
  summary := summary.toList
  createdAt := "2026-01-01".toList
  sourceRefs := []
  metadata := ⟨[],trivial⟩
  pinned := false

def reportedState : WorkspaceState where
  workspaceId := "ws-1".toList
  title := "Research".toList
  status := .active
  mode := "research".toList
  createdAt := "2026-01-01".toList
  updatedAt := "2026-01-01".toList
  schemaVersion := workspaceSchemaVersion
  activeDate := none
  activeSymbols := []
  activeArtifacts := [report "first",report "second"]
  recentInputs := []
  openTasks := []
  assumptions := []
  warnings := []
  errors := []
  dataFreshness := ⟨[],trivial⟩
  lastCompactedAt := none
  contextSize := ⟨[],trivial⟩

def one : Limit := ⟨1,by decide⟩

def singleLimits : RetentionLimits := ⟨⟨one,one,one,one,one⟩,one⟩

def newDirectory : Directory := ⟨[],fun _ => [],fun _ => []⟩

-- Whatever redaction and digest do, the first report is gone.
theorem shared_id_lost : ¬ ∃ (_ : Redaction Text) (_ : Hexdigest), Conserves singleLimits newDirectory reportedState := by
  rintro ⟨redaction,digest,conserves⟩
  have kept : (trimArtifacts reportedState one).kept = [report "second"] := rfl
  have archived : (trimArtifacts reportedState one).archived = [] := rfl
  have whole : ((trimArtifacts reportedState one).kept ++ (trimArtifacts reportedState one).archived).Perm
    reportedState.activeArtifacts := conserves.artifacts
  rw [kept,archived] at whole
  have sizes := whole.length_eq
  simp [reportedState] at sizes

end OpenStock.Workspaces.Retention
