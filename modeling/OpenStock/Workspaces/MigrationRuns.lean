import OpenStock.Workspaces.Migration

namespace OpenStock.Workspaces.Migration
open Interruption

variable {δ : Type} [Reading δ]

/- The files that a migration writes below the destination before its pointer and its marker. -/

inductive Allowed (files : Files δ) (ids : List Text) : Location → Content δ → Prop where
  | state {directory : Text} {read kept : Loaded δ} (listed : directory ∈ ids) (loaded : readState files directory = .ok read)
      (named : kept.workspaceId = read.workspaceId) (status : kept.status = read.status) :
      Allowed files ids [kept.workspaceId,workspaceJsonName] (.state kept)
  | context {kept : Loaded δ} : Allowed files ids [kept.workspaceId,contextMdName] (.context kept)
  | index {listed : List Text} : Allowed files ids [indexName] (.index listed)
  | copied {path : Location} {content : Content δ} (deep : 3 ≤ path.length) : Allowed files ids path content

-- What the migration of one workspace keeps.
structure Closed (files : Files δ) (ids : List Text) (invariant : Disk δ → Prop) : Prop where
  touched : ∀ root workspaceId disk, invariant disk → invariant (disk.touch root [workspaceId,eventsJsonlName])
  written : ∀ path content disk, Allowed files ids path content → invariant disk → invariant (disk.write path content)

def EventsPath (path : Location) : Prop := ∃ workspaceId, path = [workspaceId,eventsJsonlName]

theorem names_apart : workspaceJsonName ≠ eventsJsonlName ∧ contextMdName ≠ eventsJsonlName ∧ contextMdName ≠ workspaceJsonName ∧
    indexName ≠ latestPointerName ∧ indexName ≠ migrationName ∧ latestPointerName ≠ migrationName := by decide

theorem state_path (workspaceId : Text) : ¬ EventsPath [workspaceId,workspaceJsonName] := by
  rintro ⟨other,same⟩
  simp only [List.cons.injEq,and_true] at same
  exact names_apart.1 same.2

theorem short_path (name : Text) : ¬ EventsPath [name] := by
  rintro ⟨other,same⟩
  simp at same

variable {path : Location}

theorem deep_path (deep : 3 ≤ path.length) : ¬ EventsPath path := by
  rintro ⟨other,rfl⟩
  simp at deep

variable {content : Content δ} {name : Text}

-- A root file that is not the index is not among them.
theorem allowed_root {files : Files δ} {ids : List Text} (allowed : Allowed files ids [name] content) : name = indexName := by
  cases allowed with
  | index => rfl
  | copied deep => simp at deep

omit [Reading δ] in
theorem find_touched {path sought : Location} (elsewhere : ¬ EventsPath sought) (workspaceId : Text) (files : Files δ)
    (here : path = [workspaceId,eventsJsonlName]) : find (touch path files) sought = find files sought :=
  find_touch_other (fun same => elsewhere ⟨workspaceId,same.trans here⟩) files

variable {disk : Disk δ}

section Invariants

variable {files : Files δ} {ids : List Text}

theorem closed_and (first : Closed files ids one) (second : Closed files ids other) :
    Closed files ids (fun disk => one disk ∧ other disk) where
  touched root workspaceId disk both := ⟨first.touched root workspaceId disk both.1,second.touched root workspaceId disk both.2⟩
  written path content disk allowed both := ⟨first.written path content disk allowed both.1,second.written path content disk allowed both.2⟩

-- The source as it was, but for new event files.
def SourceKept (files : Files δ) (disk : Disk δ) : Prop := ∀ path, ¬ EventsPath path → find disk.source path = find files path

theorem sourceKept_closed : Closed files ids (SourceKept files) where
  touched root workspaceId disk kept path elsewhere := by
    cases root with
    | source => exact (find_touched elsewhere workspaceId disk.source rfl).trans (kept path elsewhere)
    | destination => exact kept path elsewhere
  written _ _ _ _ kept := kept

def Present (path : Location) (disk : Disk δ) : Prop := (find disk.destination path).isSome

def HasWorkspace (disk : Disk δ) : Prop := ∃ workspaceId, Present [workspaceId,workspaceJsonName] disk

omit [Reading δ] in
theorem present_touch (present : Present path disk) (root : Root) (workspaceId : Text) :
    Present path (disk.touch root [workspaceId,eventsJsonlName]) := by
  cases root with
  | source => exact present
  | destination =>
    unfold Present Disk.touch
    dsimp only
    rw [find_touch]
    split
    · rfl
    · exact present

omit [Reading δ] in
theorem present_write (present : Present path disk) (sought : Location) (content : Content δ) :
    Present path (disk.write sought content) := by
  unfold Present Disk.write
  dsimp only
  rw [find_put]
  split
  · rfl
  · exact present

theorem present_closed (path : Location) : Closed files ids (Present path) where
  touched root workspaceId _ present := present_touch present root workspaceId
  written path content _ _ present := present_write present path content

omit [Reading δ] in
theorem hasWorkspace_write (saved : HasWorkspace disk) (path : Location) (content : Content δ) :
    HasWorkspace (disk.write path content) :=
  saved.imp (fun _ present => present_write present path content)

theorem hasWorkspace_closed : Closed files ids (fun disk : Disk δ => HasWorkspace disk) where
  touched root workspaceId _ saved := saved.imp (fun _ present => present_touch present root workspaceId)
  written path content _ _ saved := hasWorkspace_write saved path content

-- A root file of the destination that only the end of the migration writes.
def RootFile (name : Text) (content : Option (Content δ)) (disk : Disk δ) : Prop := find disk.destination [name] = content

theorem rootFile_closed (late : name ≠ indexName) (content : Option (Content δ)) :
    Closed files ids (RootFile name content) where
  touched root workspaceId disk holds := by
    cases root with
    | source => exact holds
    | destination => exact (find_touched (short_path name) workspaceId disk.destination rfl).trans holds
  written path written disk allowed holds := by
    unfold RootFile Disk.write
    dsimp only
    rw [find_put,if_neg]
    · exact holds
    · rintro rfl
      exact late (allowed_root allowed)

-- What lies in the places that are read again: an index, and states of the migrated directories.
structure Landed (files : Files δ) (ids : List Text) (disk : Disk δ) : Prop where
  index : find disk.destination [indexName] = none ∨ ∃ listed, find disk.destination [indexName] = some (.index listed)
  states : ∀ workspaceId content, find disk.destination [workspaceId,workspaceJsonName] = some content →
    ∃ kept directory read, content = .state kept ∧ directory ∈ ids ∧ readState files directory = .ok read ∧
      read.workspaceId = workspaceId ∧ read.status = kept.status

theorem landed_write (landed : Landed files ids disk)
    (index : path ≠ [indexName]) (states : ∀ workspaceId, path ≠ [workspaceId,workspaceJsonName]) :
    Landed files ids (disk.write path content) where
  index := by
    unfold Disk.write
    dsimp only
    rw [find_put,if_neg (Ne.symm index)]
    exact landed.index
  states workspaceId written found := by
    unfold Disk.write at found
    dsimp only at found
    rw [find_put,if_neg (Ne.symm (states workspaceId))] at found
    exact landed.states workspaceId written found

theorem landed_closed : Closed files ids (Landed files ids) where
  touched root workspaceId disk landed := by
    cases root with
    | source => exact ⟨landed.index,landed.states⟩
    | destination =>
      constructor
      · have same : find (touch [workspaceId,eventsJsonlName] disk.destination) [indexName] = find disk.destination [indexName] :=
          find_touched (short_path indexName) workspaceId disk.destination rfl
        rw [show (disk.touch Root.destination [workspaceId,eventsJsonlName]).destination = touch _ disk.destination from rfl,same]
        exact landed.index
      · intro other content found
        apply landed.states other content
        exact (find_touched (state_path other) workspaceId disk.destination rfl).symm.trans found
  written path content disk allowed landed := by
    cases allowed with
    | @state directory read kept listed loaded named status =>
      constructor
      · unfold Disk.write
        dsimp only
        rw [find_put,if_neg (by simp)]
        exact landed.index
      · intro other found
        unfold Disk.write
        dsimp only
        rw [find_put]
        split
        · rename_i same
          intro written
          cases written
          simp only [List.cons.injEq,and_true] at same
          exact ⟨kept,directory,read,rfl,listed,loaded,named.symm.trans same.symm,status.symm⟩
        · exact landed.states other found
    | context =>
      apply landed_write landed (by simp)
      intro other same
      simp only [List.cons.injEq,and_true] at same
      exact names_apart.2.2.1 same.2
    | @index listed =>
      constructor
      · right
        exact ⟨listed,by simp [Disk.write,find_put]⟩
      · intro other content found
        apply landed.states other content
        simpa [Disk.write,find_put] using found
    | copied deep =>
      apply landed_write landed
      · rintro rfl
        simp at deep
      · rintro other rfl
        simp at deep

end Invariants

/- One workspace, in any world. -/

section Workspace

variable {files : Files δ} {ids : List Text} {invariant : Disk δ → Prop} {world : World Raised}

theorem layout_keeps (closed : Closed files ids invariant) (root : Root) (workspaceId : Text) :
    Leads invariant (ensureWorkspaceLayout world root workspaceId) (fun _ => invariant) invariant :=
  leads_change (closed.touched root workspaceId) (fun _ start => start)

theorem write_keeps (closed : Closed files ids invariant) (allowed : Allowed files ids path content) :
    Leads invariant (change world (Disk.write path content)) (fun _ => invariant) invariant :=
  leads_change (fun disk => closed.written path content disk allowed) (fun _ start => start)

omit [Reading δ] in
theorem settle_keeps {α : Type} (result : Except Raised α) : Leads invariant (settle result : Change δ α) (fun _ => invariant) invariant :=
  leads_settle (fun _ _ start _ => start) (fun _ start => start)

theorem readState_kept (kept : SourceKept files disk) (workspaceId : Text) :
    readState disk.source workspaceId = readState files workspaceId := by
  unfold readState
  rw [kept _ (state_path workspaceId)]

theorem loadState_keeps (closed : Closed files ids invariant) (source : ∀ disk, invariant disk → SourceKept files disk) (workspaceId : Text) :
    Leads invariant (loadWorkspaceState world .source workspaceId)
      (fun read disk => invariant disk ∧ readState files workspaceId = .ok read) invariant := by
  refine leads_bind _ (layout_keeps closed .source workspaceId) (fun _ => ?_)
  have shown : Leads invariant (look : Change δ (Disk δ)) (fun seen disk => invariant disk ∧ seen = disk) invariant :=
    leads_look
  refine leads_bind _ shown (fun seen => ?_)
  apply leads_settle
  · rintro disk read ⟨start,rfl⟩ ran
    exact ⟨start,(readState_kept (source seen start) workspaceId).symm.trans ran⟩
  · exact fun _ start => start.1

-- Everything after the state's own file.
theorem publish_keeps (closed : Closed files ids invariant) (kept : Loaded δ) : Leads invariant (do
      change world (Disk.write [kept.workspaceId,contextMdName] (.context kept)) let disk ← look
      let existing ← settle (loadWorkspaceIndex disk.destination)
      writeWorkspaceIndex world (kept.workspaceId :: existing)) (fun _ => invariant) invariant := by
  refine leads_bind _ (write_keeps closed .context) (fun _ => ?_)
  refine leads_bind _ leads_unseen (fun seen => ?_)
  refine leads_bind _ (settle_keeps _) (fun existing => ?_)
  exact write_keeps closed .index

theorem copies_keep (closed : Closed files ids invariant) (workspaceId : Text) :
    Leads invariant (each ["artifacts".toList,"exports".toList] (copyDirectory world workspaceId)) (fun _ => invariant) invariant := by
  apply leads_each
  intro directory _
  refine leads_bind _ leads_unseen (fun seen => ?_)
  apply leads_tryAll
  · intro file inside disk
    apply closed.written
    apply Allowed.copied
    exact (of_decide_eq_true (List.mem_filter.mp inside).2).2
  · exact fun _ start => start

variable {directory : Text}

-- Saving a state leaves it and its events file.
theorem saveState_keeps (closed : Closed files ids invariant) (listed : directory ∈ ids)
    (loaded : readState files directory = .ok state) :
    Leads invariant (saveWorkspaceState world state) (fun _ disk => invariant disk ∧ Present [state.workspaceId,workspaceJsonName] disk ∧
      Present [state.workspaceId,eventsJsonlName] disk) invariant := by
  have events : Closed files ids (fun disk => invariant disk ∧ Present [state.workspaceId,eventsJsonlName] disk) :=
    closed_and closed (present_closed _)
  have saved : Closed files ids (fun disk => invariant disk ∧ Present [state.workspaceId,workspaceJsonName] disk ∧
      Present [state.workspaceId,eventsJsonlName] disk) := closed_and closed (closed_and (present_closed _) (present_closed _))
  have laid : Leads invariant (ensureWorkspaceLayout world .destination state.workspaceId)
      (fun _ disk => invariant disk ∧ Present [state.workspaceId,eventsJsonlName] disk) invariant := by
    apply leads_change
    · intro disk start
      refine ⟨closed.touched .destination state.workspaceId disk start,?_⟩
      simp [Present,Disk.touch,find_touch]
    · exact fun _ start => start
  refine leads_bind _ laid (fun _ => ?_)
  refine leads_bind (fun _ disk => invariant disk ∧ Present [state.workspaceId,eventsJsonlName] disk)
    (leads_settle (fun _ _ start _ => start) (fun _ start => start.1)) (fun body => ?_)
  have written : Leads (fun disk => invariant disk ∧ Present [state.workspaceId,eventsJsonlName] disk)
      (change world (Disk.write [state.workspaceId,workspaceJsonName] (.state {state with body := body})))
      (fun _ disk => invariant disk ∧ Present [state.workspaceId,workspaceJsonName] disk ∧ Present [state.workspaceId,eventsJsonlName] disk)
      invariant := by
    apply leads_change
    · intro disk start
      have allowed : Allowed files ids [state.workspaceId,workspaceJsonName] (.state {state with body := body}) :=
        @Allowed.state δ _ files ids directory state {state with body := body} listed loaded rfl rfl
      have both := events.written _ _ disk allowed start
      exact ⟨both.1,by simp [Present,Disk.write,find_put],both.2⟩
    · exact fun _ start => start.1
  refine leads_bind _ written (fun _ => ?_)
  exact leads_mono (publish_keeps saved {state with body := body}) (fun _ start => start) (fun _ _ ends => ends) (fun _ ends => ends.1)

def Saved (files : Files δ) (directory : Text) (disk : Disk δ) : Prop :=
  ∃ read, readState files directory = .ok read ∧ Present [read.workspaceId,workspaceJsonName] disk ∧
    Present [read.workspaceId,eventsJsonlName] disk

theorem saved_closed (files : Files δ) (ids : List Text) (directory : Text) : Closed files ids (Saved files directory) where
  touched root workspaceId _ := fun ⟨read,loaded,state,events⟩ =>
    ⟨read,loaded,present_touch state root workspaceId,present_touch events root workspaceId⟩
  written path content _ _ := fun ⟨read,loaded,state,events⟩ =>
    ⟨read,loaded,present_write state path content,present_write events path content⟩

theorem migrateWorkspace_keeps (closed : Closed files ids invariant) (source : ∀ disk, invariant disk → SourceKept files disk)
    (listed : directory ∈ ids) :
    Leads invariant (migrateWorkspace world directory) (fun _ disk => invariant disk ∧ Saved files directory disk) invariant := by
  refine leads_bind _ (loadState_keeps closed source directory) (fun state => ?_)
  intro asked disk start
  obtain ⟨start,loaded⟩ := start
  refine leads_bind _ (saveState_keeps closed listed loaded) (fun _ => ?_) asked disk start
  have finished := closed_and closed (saved_closed files ids directory)
  refine leads_mono (copies_keep finished directory) ?_ (fun _ _ ends => ends) (fun _ ends => ends.1)
  rintro reached ⟨holds,present,events⟩
  exact ⟨holds,state,loaded,present,events⟩

theorem migrateEach_keeps (closed : Closed files ids invariant) (source : ∀ disk, invariant disk → SourceKept files disk) :
    Leads invariant (each ids (migrateWorkspace world))
      (fun _ disk => invariant disk ∧ ∀ directory ∈ ids, Saved files directory disk) invariant := by
  apply leads_each_all
  · intro directory listed
    exact migrateWorkspace_keeps closed source listed
  · intro directory listed other
    have both := closed_and closed (saved_closed files ids other)
    exact leads_mono (migrateWorkspace_keeps both (fun disk start => source disk start.1) listed) (fun _ start => start)
      (fun _ _ ends => ends.1) (fun _ ends => ends.1)

end Workspace

/- Before the first state is written: a destination with at most empty event files, and what the source has gained. -/

def Quiet (files : Files δ) : Prop :=
  (∀ path, ¬ EventsPath path → find files path = none) ∧
    ∀ workspaceId, find files [workspaceId,eventsJsonlName] = none ∨ find files [workspaceId,eventsJsonlName] = some (.text [])

def Grown (files now : Files δ) : Prop :=
  ∃ extra, now = files ++ extra ∧ ∀ file ∈ extra, EventsPath file.1 ∧ find files file.1 = none

structure Untouched (files : Files δ) (disk : Disk δ) : Prop where
  quiet : Quiet disk.destination
  source : Grown files disk.source
  numbered : ∀ stamp, disk.stamp ≤ stamp → disk.backups stamp = []

section Starts

variable {files : Files δ} {disk : Disk δ}

omit [Reading δ] in
theorem quiet_touch (quiet : Quiet files) (workspaceId : Text) : Quiet (touch [workspaceId,eventsJsonlName] files) := by
  constructor
  · intro path elsewhere
    exact (find_touched elsewhere workspaceId files rfl).trans (quiet.1 path elsewhere)
  · intro other
    rw [find_touch]
    split
    · right
      rcases quiet.2 workspaceId with absent | blank
      · simp [absent]
      · simp [blank]
    · exact quiet.2 other

omit [Reading δ] in
theorem find_append (left right : Files δ) (path : Location) : find (left ++ right) path = (find left path).or (find right path) := by
  unfold find
  rw [List.find?_append]
  cases left.find? (fun file => file.1 = path) <;> rfl

omit [Reading δ] in
theorem find_none : find files path = none ↔ ∀ file ∈ files, file.1 ≠ path := by
  unfold find
  rw [Option.map_eq_none_iff,List.find?_eq_none]
  simp

omit [Reading δ] in
theorem grown_touch (grown : Grown files now) (workspaceId : Text) : Grown files (touch [workspaceId,eventsJsonlName] now) := by
  obtain ⟨extra,rfl,events⟩ := grown
  unfold touch Rows.insertNew
  split
  · exact ⟨extra,rfl,events⟩
  · rename_i absent
    refine ⟨extra ++ [([workspaceId,eventsJsonlName],.text [])],by rw [List.append_assoc],?_⟩
    intro file inside
    rcases List.mem_append.mp inside with earlier | last
    · exact events file earlier
    · cases List.mem_singleton.mp last
      refine ⟨⟨workspaceId,rfl⟩,find_none.mpr ?_⟩
      intro other stored same
      exact absent (List.any_eq_true.mpr ⟨other,List.mem_append_left extra stored,decide_eq_true same⟩)

omit [Reading δ] in
theorem grown_kept (grown : Grown files disk.source) : SourceKept files disk := by
  obtain ⟨extra,same,events⟩ := grown
  intro path elsewhere
  have absent : find extra path = none := by
    apply find_none.mpr
    rintro file inside rfl
    exact elsewhere (events file inside).1
  rw [same,find_append,absent,Option.or_none]

omit [Reading δ] in
theorem untouched_touch (untouched : Untouched files disk) (root : Root) (workspaceId : Text) :
    Untouched files (disk.touch root [workspaceId,eventsJsonlName]) := by
  cases root with
  | source => exact ⟨untouched.quiet,grown_touch untouched.source workspaceId,untouched.numbered⟩
  | destination => exact ⟨quiet_touch untouched.quiet workspaceId,untouched.source,untouched.numbered⟩

end Starts

/- What an attempt leaves, wherever it is broken off. -/

section Attempts

variable {files : Files δ} {ids : List Text} {world : World Raised}

theorem started_closed (files : Files δ) (ids : List Text) : Closed files ids (fun disk => HasWorkspace disk ∧ SourceKept files disk) :=
  closed_and hasWorkspace_closed sourceKept_closed

def Left (files : Files δ) (disk : Disk δ) : Prop := Untouched files disk ∨ HasWorkspace disk

omit [Reading δ] in
theorem layout_untouched (root : Root) (workspaceId : Text) :
    Leads (Untouched files) (ensureWorkspaceLayout world root workspaceId) (fun _ => Untouched files) (Left files) :=
  leads_change (fun _ start => untouched_touch start root workspaceId) (fun _ start => .inl start)

theorem firstWorkspace_leaves (directory : Text) :
    Leads (Untouched files) (migrateWorkspace world directory) (fun _ disk => HasWorkspace disk ∧ SourceKept files disk) (Left files) := by
  refine leads_bind (fun read disk => Untouched files disk) ?_ (fun state => ?_)
  · refine leads_bind _ (layout_untouched .source directory) (fun _ => ?_)
    refine leads_bind _ leads_unseen (fun seen => ?_)
    exact leads_settle (fun _ _ start _ => start) (fun _ start => .inl start)
  · refine leads_bind (fun _ disk => HasWorkspace disk ∧ SourceKept files disk) ?_ (fun _ => ?_)
    · refine leads_bind _ (layout_untouched .destination state.workspaceId) (fun _ => ?_)
      refine leads_bind (fun _ => Untouched files)
        (leads_settle (fun _ _ start _ => start) (fun _ start => .inl start)) (fun body => ?_)
      have written : Leads (Untouched files)
          (change world (Disk.write [state.workspaceId,workspaceJsonName] (.state {state with body := body})))
          (fun _ disk => HasWorkspace disk ∧ SourceKept files disk) (Left files) := by
        apply leads_change
        · intro disk start
          exact ⟨⟨state.workspaceId,by simp [Present,Disk.write,find_put]⟩,grown_kept start.source⟩
        · exact fun _ start => .inl start
      refine leads_bind _ written (fun _ => ?_)
      exact leads_mono (publish_keeps (started_closed files [directory]) {state with body := body}) (fun _ start => start)
        (fun _ _ ends => ends) (fun _ ends => .inr ends.1)
    · exact leads_mono (copies_keep (started_closed files [directory]) directory) (fun _ start => start) (fun _ _ ends => ends)
        (fun _ ends => .inr ends.1)

theorem migrateEach_leaves (some : ids ≠ []) :
    Leads (Untouched files) (each ids (migrateWorkspace world)) (fun _ disk => HasWorkspace disk ∧ SourceKept files disk) (Left files) := by
  cases ids with
  | nil => exact absurd rfl some
  | cons directory rest =>
    refine leads_bind _ (firstWorkspace_leaves directory) (fun _ => ?_)
    apply leads_each
    intro other inside
    have kept : Leads _ (migrateWorkspace world other) _ _ :=
      migrateWorkspace_keeps (started_closed files rest) (fun disk start => start.2) inside
    exact leads_mono kept (fun _ start => start) (fun _ _ ends => ends.1) (fun _ ends => .inr ends.1)

-- The pointer, with whatever its write keeps.
theorem migrateLatest_keeps {invariant : Disk δ → Prop} (closed : Closed files ids invariant)
    (source : ∀ disk, invariant disk → SourceKept files disk)
    (pointed : ∀ disk workspaceId, invariant disk → invariant (disk.write [latestPointerName] (.latest workspaceId))) (migrated : List Text) :
    Leads invariant (migrateLatest world migrated) (fun _ => invariant) invariant := by
  refine leads_bind _ leads_unseen (fun seen => ?_)
  refine leads_bind _ (settle_keeps _) (fun latest => ?_)
  cases latest with
  | none => exact leads_pure (fun _ start => start)
  | some latestId =>
    dsimp only
    split
    · have loaded : Leads invariant (loadWorkspaceState world .source latestId) _ _ := loadState_keeps closed source latestId
      refine leads_bind _ (leads_mono loaded (fun _ start => start) (fun _ _ ends => ends.1) (fun _ ends => ends)) (fun state => ?_)
      split
      · refine leads_bind (fun _ => invariant) (leads_change (fun disk start => pointed disk latestId start) (fun _ start => start)) ?_
        exact fun _ => leads_pure (fun _ start => start)
      · exact leads_pure (fun _ start => start)
    · exact leads_pure (fun _ start => start)

structure Starting (files : Files δ) (stamp : Nat) (disk : Disk δ) : Prop where
  untouched : Untouched files disk
  source : disk.source = files
  stamped : disk.stamp = stamp

omit [Reading δ] in
theorem backUp_untouched : Leads (Starting files stamp) (backUp world stamp)
    (fun _ disk => Untouched files disk ∧ disk.source = files) (Left files) := by
  have counted : Leads (Starting files stamp) (change world (fun disk : Disk δ => {disk with stamp := stamp + 1}))
      (fun _ => Starting files (stamp + 1)) (Left files) := by
    apply leads_change
    · intro disk start
      refine ⟨⟨start.untouched.quiet,start.untouched.source,fun other later => ?_⟩,start.source,rfl⟩
      have stamped := start.stamped
      dsimp only at later
      exact start.untouched.numbered other (by omega)
    · exact fun _ start => .inl start.untouched
  refine leads_bind _ counted (fun _ => ?_)
  refine leads_bind _ leads_unseen (fun seen => ?_)
  have copied : Leads (Starting files (stamp + 1)) (tryAll world isOsError (Disk.saveCopy stamp) .copyError seen.source)
      (fun _ => Starting files (stamp + 1)) (Left files) := by
    apply leads_tryAll
    · intro file _ disk start
      refine ⟨⟨start.untouched.quiet,start.untouched.source,fun other later => ?_⟩,start.source,start.stamped⟩
      have stamped := start.stamped
      have later : disk.stamp ≤ other := later
      have differs : other ≠ stamp := by omega
      exact (Function.update_of_ne differs ..).trans (start.untouched.numbered other later)
    · exact fun _ start => .inl start.untouched
  exact leads_mono copied (fun _ start => start) (fun _ _ ends => ⟨ends.untouched,ends.source⟩) (fun _ ends => ends)

theorem migrateAll_leaves (call : Call) : Leads (Starting files stamp) (migrateAll world call stamp)
    (fun _ => HasWorkspace) (Left files) := by
  refine leads_bind _ backUp_untouched (fun _ => ?_)
  refine leads_bind (fun _ => Untouched files) (fun _ _ start => start.1) (fun seen => ?_)
  refine leads_bind (fun _ => Untouched files) (leads_settle (fun _ _ start _ => start) (fun _ start => .inl start)) (fun migrated => ?_)
  split
  · exact leads_fail (fun _ start => .inl start)
  · rename_i some
    refine leads_bind _ (migrateEach_leaves some) (fun _ => ?_)
    have pointed : Leads _ (migrateLatest world migrated) _ _ := migrateLatest_keeps (started_closed files migrated) (fun disk start => start.2)
      (fun disk workspaceId start => ⟨hasWorkspace_write start.1 _ _,start.2⟩) migrated
    refine leads_bind _ (leads_mono pointed (fun _ start => start) (fun _ _ ends => ends) (fun _ ends => .inr ends.1)) ?_
    exact fun _ => leads_pure (fun _ start => start.1)

end Attempts

end OpenStock.Workspaces.Migration
