import OpenStock.Workspaces.MigrationRuns

namespace OpenStock.Workspaces.Migration
open Interruption

variable {δ : Type} [Reading δ]

/- A migration that ended in some world made the changes of the calm one. -/

omit [Reading δ] in
theorem layout_steady (root : Root) (workspaceId : Text) : Steady (fun world => ensureWorkspaceLayout (δ := δ) world root workspaceId) :=
  steady_change _

theorem loadState_steady (root : Root) (workspaceId : Text) : Steady (fun world => loadWorkspaceState (δ := δ) world root workspaceId) :=
  steady_bind (layout_steady root workspaceId) (fun _ => steady_const _)

theorem saveState_steady (state : Loaded δ) : Steady (fun world => saveWorkspaceState world state) := by
  refine steady_bind (layout_steady .destination state.workspaceId) (fun _ => ?_)
  refine steady_bind (steady_const _) (fun body => ?_)
  refine steady_bind (steady_change _) (fun _ => ?_)
  refine steady_bind (steady_change _) (fun _ => ?_)
  refine steady_bind (steady_const _) (fun seen => ?_)
  exact steady_bind (steady_const _) (fun existing => steady_change _)

omit [Reading δ] in
theorem copyDirectory_steady (workspaceId directory : Text) : Steady (fun world => copyDirectory (δ := δ) world workspaceId directory) :=
  steady_bind (steady_const _) (fun _ => steady_tryAll _ _ _ _)

theorem migrateWorkspace_steady (workspaceId : Text) : Steady (fun world => migrateWorkspace (δ := δ) world workspaceId) := by
  refine steady_bind (loadState_steady .source workspaceId) (fun state => ?_)
  exact steady_bind (saveState_steady state) (fun _ => steady_each (copyDirectory_steady workspaceId))

theorem migrateLatest_steady (migrated : List Text) : Steady (fun world => migrateLatest (δ := δ) world migrated) := by
  refine steady_bind (steady_const _) (fun seen => ?_)
  refine steady_bind (steady_const _) (fun latest => ?_)
  cases latest with
  | none => exact steady_const _
  | some latestId =>
    dsimp only
    split
    · refine steady_bind (loadState_steady .source latestId) (fun state => ?_)
      split
      · exact steady_bind (steady_change _) (fun _ => steady_const _)
      · exact steady_const _
    · exact steady_const _

theorem migrateAll_steady (call : Call) (stamp : Nat) : Steady (fun world => migrateAll (δ := δ) world call stamp) := by
  refine steady_bind (steady_bind (steady_change _) (fun _ => steady_bind (steady_const _) (fun seen => steady_tryAll _ _ _ _))) (fun _ => ?_)
  refine steady_bind (steady_const _) (fun seen => ?_)
  refine steady_bind (steady_const _) (fun migrated => ?_)
  split
  · exact steady_const _
  · exact steady_bind (steady_each migrateWorkspace_steady) (fun _ => steady_bind (migrateLatest_steady migrated) (fun _ => steady_const _))

/- What the call sees of a destination without workspaces. -/

theorem quiet_ids {files : Files δ} (quiet : Quiet files) : workspaceIds files = .ok [] := by
  have index : loadWorkspaceIndex files = .ok [] := by simp [loadWorkspaceIndex,quiet.1 _ (short_path indexName)]
  obtain ⟨ids,read⟩ := ids_of_index index
  have empty : ids = [] := by
    apply List.eq_nil_iff_forall_not_mem.mpr
    intro workspaceId listed
    have present := (mem_workspaceIds read workspaceId).mp listed
    rw [quiet.1 _ (state_path workspaceId)] at present
    cases present
  rw [read,empty]

variable {disk : Disk δ}

theorem ids_hold (none : workspaceIds disk.destination = .ok []) : ¬ HasWorkspace disk := by
  rintro ⟨workspaceId,present⟩
  exact List.not_mem_nil ((mem_workspaceIds none workspaceId).mpr present)

def Barred (call : Call) : Prop := (call.explicit = false ∧ call.others ≠ []) ∨ call.source = call.destination

theorem inactive_quiet (quiet : Quiet disk.destination) (world : World Raised) (asked : Nat) :
    isActiveWorkspace world asked disk = (.ok false,asked,disk) := by
  have latest : loadLatestWorkspaceId disk.destination = .ok none := by
    simp [loadLatestWorkspaceId,quiet.1 _ (short_path latestPointerName)]
  unfold isActiveWorkspace
  rw [look_bind,settle_ok latest]
  rfl

variable {call : Call}

theorem locate_quiet (quiet : Quiet disk.destination) (alone : ¬ (call.explicit = false ∧ call.others ≠ []))
    (world : World Raised) (asked : Nat) : locateSource world call asked disk = (.ok (),asked,disk) := by
  unfold locateSource
  split
  · rfl
  · rename_i found
    have none : call.others = [] := by
      by_contra others
      exact alone ⟨by simpa using found,others⟩
    rw [bind_of (inactive_quiet quiet world asked)]
    simp [none,pure_run]

theorem migrate_quiet (quiet : Quiet disk.destination) (allowed : ¬ Barred call) (world : World Raised)
    (asked : Nat) : migrateLegacyWorkspaces world call asked disk = carryOver world call asked disk := by
  unfold migrateLegacyWorkspaces
  rw [bind_of (locate_quiet quiet (fun found => allowed (.inl found)) world asked),if_neg (fun same => allowed (.inr same)),look_bind,
    settle_ok (quiet_ids quiet),if_pos rfl]

theorem migrate_barred (quiet : Quiet disk.destination) (barred : Barred call) (world : World Raised)
    (asked : Nat) : ∃ raised, migrateLegacyWorkspaces world call asked disk = (.error raised,asked,disk) := by
  unfold migrateLegacyWorkspaces
  by_cases passed : call.explicit = false ∧ call.others ≠ []
  · refine ⟨.migrationConflict ((call.source :: call.others).insertionSort (· ≤ ·)),bind_failed ?_ _⟩
    unfold locateSource
    rw [if_neg (by simp [passed.1]),bind_of (inactive_quiet quiet world asked)]
    simp only [Bool.false_eq_true,if_false,if_pos passed.2]
    rfl
  · refine ⟨.migrationConflict [call.source],?_⟩
    rw [bind_of (locate_quiet quiet passed world asked),if_pos (barred.resolve_left passed)]
    rfl

/- A first attempt: either it did not write its marker, or it was a whole migration. -/

def Marked (disk : Disk δ) : Prop := (find disk.destination [migrationName]).isSome

def Carrying (files : Files δ) (disk : Disk δ) : Prop := SourceKept files disk ∧ RootFile migrationName none disk

theorem carrying_closed (files : Files δ) (ids : List Text) : Closed files ids (Carrying files) :=
  closed_and sourceKept_closed (rootFile_closed (Ne.symm names_apart.2.2.2.2.1) none)

theorem migrateAll_unmarked (world : World Raised) (call : Call) (files : Files δ) (stamp : Nat) :
    Leads (fun disk => disk.source = files ∧ RootFile migrationName none disk) (migrateAll world call stamp)
      (fun _ => RootFile migrationName none) (RootFile migrationName none) := by
  have backed : Leads (fun disk => disk.source = files ∧ RootFile migrationName none disk) (backUp world stamp)
      (fun _ disk => disk.source = files ∧ RootFile migrationName none disk) (RootFile migrationName none) := by
    refine leads_bind (fun _ disk => disk.source = files ∧ RootFile migrationName none disk)
      (leads_change (fun _ start => start) (fun _ start => start.2)) (fun _ => ?_)
    refine leads_bind _ leads_unseen (fun seen => ?_)
    exact leads_tryAll (fun _ _ _ start => start) (fun _ start => start.2)
  refine leads_bind _ backed (fun _ => ?_)
  refine leads_bind _ leads_unseen (fun seen => ?_)
  refine leads_bind (fun _ disk => disk.source = files ∧ RootFile migrationName none disk)
    (leads_settle (fun _ _ start _ => start) (fun _ start => start.2)) (fun migrated => ?_)
  split
  · exact leads_fail (fun _ start => start.2)
  · have closed := carrying_closed files migrated
    refine leads_bind (fun _ => Carrying files) ?_ (fun _ => ?_)
    · refine leads_mono (migrateEach_keeps closed (fun disk start => start.1)) ?_ (fun _ _ ends => ends.1) (fun _ ends => ends.2)
      rintro disk ⟨rfl,unmarked⟩
      exact ⟨fun _ _ => rfl,unmarked⟩
    · refine leads_bind (fun _ => Carrying files) ?_ (fun _ => leads_pure (fun _ start => start.2))
      refine leads_mono (migrateLatest_keeps closed (fun disk start => start.1) ?_ migrated) (fun _ start => start) (fun _ _ ends => ends)
        (fun _ ends => ends.2)
      rintro disk workspaceId ⟨kept,unmarked⟩
      refine ⟨kept,?_⟩
      unfold RootFile Disk.write
      dsimp only
      rw [find_put,if_neg]
      · exact unmarked
      · intro same
        exact names_apart.2.2.2.2.2 (List.cons.inj same).1.symm

omit [Reading δ] in
theorem unmarked_iff : ¬ Marked disk ↔ RootFile migrationName none disk := by
  unfold Marked RootFile
  cases find disk.destination [migrationName] <;> simp

theorem carryOver_cases {files : Files δ} {disk : Disk δ} (untouched : Untouched files disk) (source : disk.source = files)
    (world : World Raised) (call : Call) (asked : Nat) :
    (¬ Marked (carryOver world call asked disk).2.2 ∧ Left files (carryOver world call asked disk).2.2) ∨
      disk.linked = false ∧ Marked (carryOver world call asked disk).2.2 ∧
        carryOver calm call asked disk = carryOver world call asked disk := by
  have unmarked : RootFile migrationName none disk := untouched.quiet.1 _ (short_path migrationName)
  unfold carryOver
  rw [look_bind,look_bind]
  split
  · exact .inl ⟨unmarked_iff.mpr unmarked,.inl untouched⟩
  · rename_i plain
    have leaves : Ends _ (Left files) (migrateAll world call disk.stamp asked disk) :=
      migrateAll_leaves call asked disk ⟨untouched,source,rfl⟩
    have clear := migrateAll_unmarked world call files disk.stamp asked disk ⟨source,unmarked⟩
    cases ran : migrateAll world call disk.stamp asked disk with
    | mk result rest =>
      obtain ⟨later,inner⟩ := rest
      rw [ran] at leaves clear
      cases result with
      | error raised =>
        rw [bind_failed ran]
        exact .inl ⟨unmarked_iff.mpr clear,leaves⟩
      | ok pair =>
        obtain ⟨migrated,active⟩ := pair
        rw [bind_of ran,bind_of (migrateAll_steady call disk.stamp world asked disk _ later inner ran)]
        dsimp only
        rw [bind_run,bind_run]
        unfold change
        cases fate : world later with
        | some raised => exact .inl ⟨unmarked_iff.mpr clear,.inr leaves⟩
        | none =>
          refine .inr ⟨by simpa using plain,?_,rfl⟩
          simp [look_bind,pure_run,Marked,Disk.write,find_put]

/- What a migration that ended has made of the source. -/

-- The workspace that the latest pointer goes to.
def activeOf (files : Files δ) (ids : List Text) : Except Raised (Option Text) := do
  let latest ← loadLatestWorkspaceId files
  match latest with
  | none => .ok none
  | some latestId =>
    if latestId ∈ ids then do
      let state ← readState files latestId
      .ok (if state.status = .active then some latestId else none)
    else .ok none

structure Migrated (call : Call) (files : Files δ) (ids : List Text) (active : Option Text) (stamp : Nat) (disk : Disk δ) : Prop where
  listed : workspaceIds files = .ok ids
  some : ids ≠ []
  landed : Landed files ids disk
  saved : ∀ directory ∈ ids, Saved files directory disk
  latest : RootFile latestPointerName (active.map .latest) disk
  chosen : activeOf files ids = .ok active
  marker : RootFile migrationName (Option.some (.marker ⟨call.source,stamp,ids⟩)) disk

omit [Reading δ] in
theorem copies_fold (stamp : Nat) (items : Files δ) (disk : Disk δ) :
    items.foldl (fun reached file => Disk.saveCopy stamp file reached) disk =
      {disk with backups := Function.update disk.backups stamp (disk.backups stamp ++ items)} := by
  induction items generalizing disk with
  | nil => simp
  | cons file rest ih =>
    rw [List.foldl_cons,ih]
    simp [Disk.saveCopy]

omit [Reading δ] in
theorem backUp_calm (stamp : Nat) (asked : Nat) (disk : Disk δ) :
    backUp calm stamp asked disk = (.ok (),asked + 1 + disk.source.length,
      {disk with stamp := stamp + 1,backups := Function.update disk.backups stamp (disk.backups stamp ++ disk.source)}) := by
  unfold backUp
  rw [bind_of (show change calm _ asked disk = (.ok (),asked + 1,_) from rfl),look_bind,tryAll_calm,copies_fold]

section Facts

variable {files : Files δ} {ids : List Text}

theorem loadLatest_kept (kept : SourceKept files disk) : loadLatestWorkspaceId disk.source = loadLatestWorkspaceId files := by
  unfold loadLatestWorkspaceId
  rw [kept _ (short_path latestPointerName)]

theorem migrateLatest_points (world : World Raised) :
    Leads (fun disk => SourceKept files disk ∧ RootFile latestPointerName none disk) (migrateLatest world ids)
      (fun active disk => RootFile latestPointerName (active.map .latest) disk ∧ activeOf files ids = .ok active) (fun _ => True) := by
  refine leads_bind _ leads_look (fun seen => ?_)
  refine leads_bind (fun latest disk => (SourceKept files disk ∧ RootFile latestPointerName none disk) ∧
    loadLatestWorkspaceId files = .ok latest) ?_ (fun latest => ?_)
  · apply leads_settle
    · rintro disk latest ⟨start,rfl⟩ read
      exact ⟨start,(loadLatest_kept start.1).symm.trans read⟩
    · exact fun _ _ => trivial
  · cases latest with
    | none =>
      apply leads_pure
      rintro disk ⟨start,read⟩
      refine ⟨start.2,?_⟩
      unfold activeOf
      rw [read]
      rfl
    | some latestId =>
      dsimp only
      split
      · rename_i inside
        have closed : Closed files ids (fun disk => (SourceKept files disk ∧ RootFile latestPointerName none disk) ∧
            loadLatestWorkspaceId files = .ok (some latestId)) :=
          closed_and (closed_and sourceKept_closed (rootFile_closed (Ne.symm names_apart.2.2.2.1) none)) ⟨fun _ _ _ h => h,fun _ _ _ _ h => h⟩
        refine leads_bind _ (leads_mono (loadState_keeps closed (fun disk start => start.1.1) latestId) (fun _ start => start)
          (fun _ _ ends => ends) (fun _ _ => trivial)) (fun state => ?_)
        split
        · rename_i active
          refine leads_bind (fun _ disk => RootFile latestPointerName (some (.latest latestId)) disk ∧ activeOf files ids = .ok (some latestId))
            (leads_change ?_ (fun _ _ => trivial)) (fun _ => leads_pure (fun _ start => start))
          rintro disk ⟨⟨start,read⟩,loaded⟩
          refine ⟨by simp [RootFile,Disk.write,find_put],?_⟩
          unfold activeOf
          rw [read]
          simp [inside,loaded,active,bind,Except.bind]
        · rename_i active
          apply leads_pure
          rintro disk ⟨⟨start,read⟩,loaded⟩
          refine ⟨start.2,?_⟩
          unfold activeOf
          rw [read]
          simp [inside,loaded,active,bind,Except.bind]
      · rename_i outside
        apply leads_pure
        rintro disk ⟨start,read⟩
        refine ⟨start.2,?_⟩
        unfold activeOf
        rw [read]
        simp [outside,bind,Except.bind]

def Kept (files : Files δ) (ids : List Text) (backups : Nat → Files δ) (disk : Disk δ) : Prop :=
  SourceKept files disk ∧ Landed files ids disk ∧ disk.backups = backups

theorem kept_closed (files : Files δ) (ids : List Text) (backups : Nat → Files δ) : Closed files ids (Kept files ids backups) := by
  apply closed_and sourceKept_closed
  apply closed_and landed_closed
  constructor
  · intro root workspaceId disk same
    cases root <;> exact same
  · exact fun _ _ _ _ same => same

theorem landed_quiet (quiet : Quiet disk.destination) : Landed files ids disk where
  index := .inl (quiet.1 _ (short_path indexName))
  states workspaceId content found := by
    rw [quiet.1 _ (state_path workspaceId)] at found
    cases found

theorem latest_kept (disk : Disk δ) (workspaceId : Text)
    (start : Kept files ids backups disk ∧ ∀ directory ∈ ids, Saved files directory disk) :
    Kept files ids backups (disk.write [latestPointerName] (.latest workspaceId)) ∧
      ∀ directory ∈ ids, Saved files directory (disk.write [latestPointerName] (.latest workspaceId)) := by
  obtain ⟨⟨kept,landed,same⟩,saved⟩ := start
  refine ⟨⟨kept,?_,same⟩,?_⟩
  · apply landed_write landed
    · intro same
      exact names_apart.2.2.2.1 (List.cons.inj same).1.symm
    · simp
  · intro directory inside
    obtain ⟨read,loaded,state,events⟩ := saved directory inside
    exact ⟨read,loaded,present_write state _ _,present_write events _ _⟩

theorem allSaved_closed (files : Files δ) (ids : List Text) :
    Closed files ids (fun disk => ∀ directory ∈ ids, Saved files directory disk) where
  touched root workspaceId disk saved directory inside := (saved_closed files ids directory).touched root workspaceId disk (saved directory inside)
  written path content disk allowed saved directory inside :=
    (saved_closed files ids directory).written path content disk allowed (saved directory inside)

theorem migrateAll_migrated {stamp asked later : Nat} {disk final : Disk δ} {active : Option Text}
    (quiet : Quiet disk.destination) (ran : migrateAll calm call stamp asked disk = (.ok (ids,active),later,final)) :
    workspaceIds disk.source = .ok ids ∧ ids ≠ [] ∧ Landed disk.source ids final ∧ (∀ directory ∈ ids, Saved disk.source directory final) ∧
      RootFile latestPointerName (active.map .latest) final ∧ activeOf disk.source ids = .ok active ∧
      final.backups stamp = disk.backups stamp ++ disk.source := by
  unfold migrateAll at ran
  rw [bind_of (backUp_calm stamp asked disk),look_bind] at ran
  obtain ⟨migrated,between,inner,settled,ran⟩ := bind_ended ran
  simp only [settle,Prod.mk.injEq] at settled
  obtain ⟨listed,rfl,rfl⟩ := settled
  split at ran
  · simp [fail] at ran
  · rename_i some
    obtain ⟨_,reached,carried,migrates,ran⟩ := bind_ended ran
    obtain ⟨chosen,last,pointed,latest,ended⟩ := bind_ended ran
    simp only [pure_run,Prod.mk.injEq,Except.ok.injEq] at ended
    obtain ⟨⟨rfl,rfl⟩,rfl,rfl⟩ := ended
    have keeping := kept_closed disk.source migrated (Function.update disk.backups stamp (disk.backups stamp ++ disk.source))
    have landed : Landed disk.source migrated disk := landed_quiet quiet
    have begun : Kept disk.source migrated (Function.update disk.backups stamp (disk.backups stamp ++ disk.source))
        {disk with stamp := stamp + 1,backups := Function.update disk.backups stamp (disk.backups stamp ++ disk.source)} :=
      ⟨fun _ _ => rfl,⟨landed.index,landed.states⟩,rfl⟩
    have held := leads_ok (migrateEach_keeps keeping (fun _ start => start.1)) begun migrates
    have unpointed : Closed disk.source migrated (fun reached => SourceKept disk.source reached ∧ RootFile latestPointerName none reached) :=
      closed_and sourceKept_closed (rootFile_closed (Ne.symm names_apart.2.2.2.1) none)
    have blank := leads_ok (migrateEach_keeps unpointed (fun _ start => start.1))
      ⟨begun.1,quiet.1 _ (short_path latestPointerName)⟩ migrates
    have points := leads_ok (migrateLatest_points calm) blank.1 latest
    have final := leads_ok (migrateLatest_keeps (closed_and keeping (allSaved_closed disk.source migrated)) (fun _ start => start.1.1)
      latest_kept migrated) held latest
    exact ⟨listed,some,final.1.2.1,final.2,points.1,points.2,by rw [final.1.2.2,Function.update_self]⟩

theorem carryOver_migrated {disk final : Disk δ}
    (quiet : Quiet disk.destination) (ran : carryOver calm call asked disk = (.ok result,later,final)) :
    ∃ ids active, Migrated call disk.source ids active disk.stamp final ∧ result = resultOf call disk.stamp ids active final ∧
      final.backups disk.stamp = disk.backups disk.stamp ++ disk.source := by
  unfold carryOver at ran
  rw [look_bind] at ran
  split at ran
  · simp [fail] at ran
  · obtain ⟨⟨ids,active⟩,between,inner,all,ran⟩ := bind_ended ran
    obtain ⟨listed,some,landed,saved,latest,chosen,backups⟩ := migrateAll_migrated quiet all
    dsimp only at ran
    rw [bind_of (show change calm _ between inner = (.ok (),between + 1,_) from rfl),look_bind] at ran
    simp only [pure_run,Prod.mk.injEq,Except.ok.injEq] at ran
    obtain ⟨rfl,_,rfl⟩ := ran
    refine ⟨ids,active,⟨listed,some,?_,?_,?_,chosen,?_⟩,rfl,backups⟩
    · apply landed_write landed
      · intro same
        exact names_apart.2.2.2.2.1 (List.cons.inj same).1.symm
      · simp
    · intro directory inside
      obtain ⟨read,loaded,state,events⟩ := saved directory inside
      exact ⟨read,loaded,present_write state _ _,present_write events _ _⟩
    · unfold RootFile Disk.write
      dsimp only
      rw [find_put,if_neg]
      · exact latest
      · intro same
        exact names_apart.2.2.2.2.2 (List.cons.inj same).1
    · simp [RootFile,Disk.write,find_put]

end Facts

/- What the next call makes of such a destination. -/

-- The states name the directories that they lie in, in some order.
def NamesAgree (files : Files δ) (ids : List Text) : Prop :=
  ∀ workspaceId, workspaceId ∈ ids ↔ ∃ directory ∈ ids, ∃ read, readState files directory = .ok read ∧ read.workspaceId = workspaceId

-- The workspace that the latest pointer names is active at the destination.
def StaysActive (files : Files δ) (ids : List Text) (active : Option Text) : Prop :=
  ∃ latestId directory read, active = some latestId ∧ directory ∈ ids ∧ readState files directory = .ok read ∧
    read.workspaceId = latestId ∧ read.status = .active

section Repeats

variable {call : Call} {files : Files δ} {ids : List Text} {active : Option Text} {stamp : Nat} {disk : Disk δ}

theorem migrated_named (migrated : Migrated call files ids active stamp disk) (workspaceId : Text) :
    (find disk.destination [workspaceId,workspaceJsonName]).isSome ↔
      ∃ directory ∈ ids, ∃ read, readState files directory = .ok read ∧ read.workspaceId = workspaceId := by
  constructor
  · intro present
    obtain ⟨content,found⟩ := Option.isSome_iff_exists.mp present
    obtain ⟨_,directory,read,_,inside,loaded,named,_⟩ := migrated.landed.states workspaceId content found
    exact ⟨directory,inside,read,loaded,named⟩
  · rintro ⟨directory,inside,read,loaded,rfl⟩
    obtain ⟨other,found,present,_⟩ := migrated.saved directory inside
    cases loaded.symm.trans found
    exact present

theorem existing_ids (migrated : Migrated call files ids active stamp disk) :
    ∃ existing, workspaceIds disk.destination = .ok existing ∧ existing ≠ [] ∧ (ids = existing ↔ NamesAgree files ids) := by
  have index : ∃ indexed, loadWorkspaceIndex disk.destination = .ok indexed := by
    unfold loadWorkspaceIndex
    rcases migrated.landed.index with absent | ⟨listed,found⟩
    · exact ⟨[],by rw [absent]⟩
    · exact ⟨listed,by rw [found]; rfl⟩
  obtain ⟨_,readable⟩ := index
  obtain ⟨existing,read⟩ := ids_of_index readable
  have named : ∀ workspaceId, workspaceId ∈ existing ↔
      ∃ directory ∈ ids, ∃ read, readState files directory = .ok read ∧ read.workspaceId = workspaceId :=
    fun workspaceId => (mem_workspaceIds read workspaceId).trans (migrated_named migrated workspaceId)
  refine ⟨existing,read,?_,?_⟩
  · obtain ⟨directory,inside⟩ := List.exists_mem_of_ne_nil ids migrated.some
    obtain ⟨state,loaded,_,_⟩ := migrated.saved directory inside
    exact List.ne_nil_of_mem ((named state.workspaceId).mpr ⟨directory,inside,state,loaded,rfl⟩)
  · constructor
    · rintro rfl
      exact named
    · intro agree
      exact ids_unique migrated.listed read (fun workspaceId => (agree workspaceId).trans (named workspaceId).symm)

-- With as many names as directories, no two directories share one.
theorem names_distinct (migrated : Migrated call files ids active stamp disk) (agree : NamesAgree files ids)
    (inside : one ∈ ids) (beside : other ∈ ids) (read : readState files one = .ok first)
    (readOther : readState files other = .ok second) (same : first.workspaceId = second.workspaceId) : one = other := by
  let name : Text → Text := fun directory =>
    match readState files directory with
    | .ok state => state.workspaceId
    | .error _ => []
  have covers : ids ⊆ ids.map name := by
    intro workspaceId listed
    obtain ⟨directory,held,state,loaded,named⟩ := (agree workspaceId).mp listed
    apply List.mem_map.mpr
    exact ⟨directory,held,by simp [name,loaded,named]⟩
  have perm : ids.Perm (ids.map name) :=
    (List.subperm_of_subset (ids_nodup migrated.listed) covers).perm_of_length_le (by simp)
  have distinct : (ids.map name).Nodup := perm.nodup_iff.mp (ids_nodup migrated.listed)
  apply List.inj_on_of_nodup_map distinct inside beside
  simp [name,read,readOther,same]

theorem loadLatest_migrated (migrated : Migrated call files ids active stamp disk) :
    loadLatestWorkspaceId disk.destination = .ok active := by
  unfold loadLatestWorkspaceId
  rw [migrated.latest]
  cases active <;> rfl

theorem active_listed (migrated : Migrated call files ids active stamp disk) (chosen : active = some latestId) :
    latestId ∈ ids := by
  have picked := migrated.chosen
  unfold activeOf at picked
  obtain ⟨latest,_,picked⟩ := bind_ok picked
  subst chosen
  cases latest with
  | none => cases picked
  | some other =>
    dsimp only at picked
    split at picked
    · rename_i inside
      obtain ⟨state,_,picked⟩ := bind_ok picked
      split at picked
      · cases picked
        exact inside
      · cases picked
    · cases picked

-- A second touch of a file changes nothing.
omit [Reading δ] in
theorem touch_present (stored : (find present path).isSome) : touch path present = present := by
  unfold touch Rows.insertNew
  apply if_pos
  obtain ⟨content,found⟩ := Option.isSome_iff_exists.mp stored
  by_contra absent
  have none : find present path = none := by
    apply find_none.mpr
    intro file inside same
    exact absent (List.any_eq_true.mpr ⟨file,inside,decide_eq_true same⟩)
  rw [none] at found
  cases found

theorem isActive_migrated (migrated : Migrated call files ids active stamp disk) (agree : NamesAgree files ids) (asked : Nat) :
    ∃ later answer, isActiveWorkspace calm asked disk = (.ok answer,later,disk) ∧ (answer = true ↔ StaysActive files ids active) := by
  unfold isActiveWorkspace
  rw [look_bind,settle_ok (loadLatest_migrated migrated)]
  cases chosen : active with
  | none =>
    refine ⟨asked,false,rfl,?_⟩
    simp [StaysActive]
  | some latestId =>
    obtain ⟨directory,inside,read,loaded,named⟩ := (agree latestId).mp (active_listed migrated chosen)
    obtain ⟨other,found,present,events⟩ := migrated.saved directory inside
    cases loaded.symm.trans found
    rw [named] at present events
    obtain ⟨content,stored⟩ := Option.isSome_iff_exists.mp present
    obtain ⟨kept,home,state,rfl,beside,origin,owner,status⟩ := migrated.landed.states latestId content stored
    have same : directory = home := names_distinct migrated agree inside beside loaded origin (named.trans owner.symm)
    subst same
    cases loaded.symm.trans origin
    have quietTouch : disk.touch .destination [latestId,eventsJsonlName] = disk := by
      unfold Disk.touch
      dsimp only
      rw [touch_present events]
    refine ⟨asked + 1,decide (kept.status = .active),?_,?_⟩
    · have loads : loadsActive calm latestId asked disk = (.ok (decide (kept.status = .active)),asked + 1,disk) := by
        have reads : readState disk.destination latestId = .ok kept := by
          unfold readState
          rw [stored]
          rfl
        have laid : ensureWorkspaceLayout calm .destination latestId asked disk = (.ok (),asked + 1,disk) := by
          rw [show ensureWorkspaceLayout calm .destination latestId asked disk = (.ok (),asked + 1,_) from rfl,quietTouch]
        have loading : loadWorkspaceState calm .destination latestId asked disk = (.ok kept,asked + 1,disk) := by
          unfold loadWorkspaceState
          rw [bind_of laid,look_bind]
          exact congrArg (fun result => (result,asked + 1,disk)) reads
        unfold loadsActive
        rw [bind_of loading]
        rfl
      simp [handle,loads]
    · rw [decide_eq_true_iff,← status]
      constructor
      · intro runs
        exact ⟨latestId,directory,read,rfl,inside,loaded,named,runs⟩
      · rintro ⟨_,place,held,one,listed,loadedHeld,namedHeld,runs⟩
        cases one
        have same : directory = place := names_distinct migrated agree inside listed loaded loadedHeld (named.trans namedHeld.symm)
        subst same
        cases loaded.symm.trans loadedHeld
        exact runs

end Repeats

end OpenStock.Workspaces.Migration
