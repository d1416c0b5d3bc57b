import OpenStock.Workspaces.MigrationRepeats

namespace OpenStock.Workspaces.Migration
open Interruption

variable {δ : Type} [Reading δ]

/- A call on a destination that was migrated to. -/

variable {result : WorkspaceMigrationResult} {asked later : Nat} {final : Disk δ}

section Repeats

variable {call : Call} {files : Files δ} {ids : List Text} {active : Option Text} {stamp : Nat} {disk : Disk δ}

theorem migrated_touch (migrated : Migrated call files ids active stamp disk) (workspaceId : Text) :
    Migrated call files ids active stamp (disk.touch .destination [workspaceId,eventsJsonlName]) where
  listed := migrated.listed
  some := migrated.some
  landed := landed_closed.touched .destination workspaceId disk migrated.landed
  saved := (allSaved_closed files ids).touched .destination workspaceId disk migrated.saved
  latest := (find_touched (short_path latestPointerName) workspaceId disk.destination rfl).trans migrated.latest
  chosen := migrated.chosen
  marker := (find_touched (short_path migrationName) workspaceId disk.destination rfl).trans migrated.marker

theorem migrated_moved (migrated : Migrated call files ids active stamp disk) (same : other.destination = disk.destination) :
    Migrated call files ids active stamp other where
  listed := migrated.listed
  some := migrated.some
  landed := ⟨by rw [same]; exact migrated.landed.index,by rw [same]; exact migrated.landed.states⟩
  saved directory inside := by
    obtain ⟨read,loaded,state,events⟩ := migrated.saved directory inside
    unfold Saved Present
    rw [same]
    exact ⟨read,loaded,state,events⟩
  latest := by
    unfold RootFile
    rw [same]
    exact migrated.latest
  chosen := migrated.chosen
  marker := by
    unfold RootFile
    rw [same]
    exact migrated.marker

-- Looking for the source leaves at most an events file.
theorem locate_keeps (invariant : Disk δ → Prop) (touched : ∀ workspaceId disk, invariant disk →
    invariant (disk.touch .destination [workspaceId,eventsJsonlName])) (world : World Raised) (call : Call) :
    Leads invariant (locateSource world call) (fun _ => invariant) invariant := by
  unfold locateSource
  split
  · exact leads_pure (fun _ start => start)
  · refine leads_bind (fun _ => invariant) ?_ (fun active => ?_)
    · refine leads_bind _ leads_unseen (fun seen => ?_)
      refine leads_bind _ (settle_keeps _) (fun latest => ?_)
      cases latest with
      | none => exact leads_pure (fun _ start => start)
      | some latestId =>
        refine leads_handle invariant ?_ (fun raised => ?_)
        · refine leads_bind (fun _ => invariant) ?_ (fun state => leads_pure (fun _ start => start))
          refine leads_bind (fun _ => invariant) (leads_change (touched latestId) (fun _ start => start)) (fun _ => ?_)
          exact leads_bind _ leads_unseen (fun seen => settle_keeps _)
        · split
          · exact leads_pure (fun _ start => start)
          · exact leads_fail (fun _ start => start)
    · split
      · exact leads_fail (fun _ start => start)
      · split
        · exact leads_fail (fun _ start => start)
        · exact leads_pure (fun _ start => start)

theorem locate_passes (migrated : Migrated call files ids active stamp disk) (agree : NamesAgree files ids) (asked : Nat)
    (allowed : ¬ Barred call) (idle : call.explicit = true ∨ ¬ StaysActive files ids active) :
    ∃ later, locateSource calm call asked disk = (.ok (),later,disk) := by
  unfold locateSource
  split
  · exact ⟨asked,rfl⟩
  · rename_i found
    have inactive := idle.resolve_left found
    have alone : call.others = [] := by
      by_contra others
      exact allowed (.inl ⟨by simpa using found,others⟩)
    obtain ⟨later,answer,ran,exact⟩ := isActive_migrated migrated agree asked
    have none : answer = false := by
      cases answer with
      | false => rfl
      | true => exact absurd (exact.mp rfl) inactive
    subst none
    refine ⟨later,?_⟩
    rw [bind_of ran]
    simp [alone,pure_run]

theorem locate_refuses (migrated : Migrated call files ids active stamp disk) (agree : NamesAgree files ids) (asked : Nat)
    (found : ¬ call.explicit = true) (runs : StaysActive files ids active) :
    ∃ raised later, locateSource calm call asked disk = (.error raised,later,disk) := by
  unfold locateSource
  rw [if_neg found]
  obtain ⟨later,answer,ran,exact⟩ := isActive_migrated migrated agree asked
  have yes := exact.mpr runs
  subst yes
  refine ⟨.legacyNotFound call.cwd,later,?_⟩
  rw [bind_of ran]
  rfl

theorem accept_migrated (migrated : Migrated call files ids active stamp disk) (asked : Nat) :
    acceptExisting call existing asked disk = if ids = existing then (.ok (resultOf call stamp existing active disk),asked,disk)
      else (.error (.migrationConflict [call.destination]),asked,disk) := by
  have marker : loadMarker disk.destination = .ok (some ⟨call.source,stamp,ids⟩) := by
    unfold loadMarker
    rw [migrated.marker]
    rfl
  unfold acceptExisting
  rw [look_bind,settle_ok marker]
  dsimp only
  by_cases same : ids = existing
  · rw [if_pos same,if_pos ⟨rfl,same⟩,settle_ok (loadLatest_migrated migrated)]
    rfl
  · rw [if_neg same,if_neg (fun both => same both.2)]
    rfl

theorem repeat_ok (migrated : Migrated call files ids active stamp disk) (agree : NamesAgree files ids) (asked : Nat)
    (allowed : ¬ Barred call) (idle : call.explicit = true ∨ ¬ StaysActive files ids active) :
    ∃ later, migrateLegacyWorkspaces calm call asked disk = (.ok (resultOf call stamp ids active disk),later,disk) := by
  obtain ⟨later,located⟩ := locate_passes migrated agree asked allowed idle
  obtain ⟨existing,read,some,named⟩ := existing_ids migrated
  refine ⟨later,?_⟩
  unfold migrateLegacyWorkspaces
  rw [bind_of located,if_neg (fun same => allowed (.inr same)),look_bind,settle_ok read,if_neg some,accept_migrated migrated,
    if_pos (named.mpr agree),named.mpr agree]

theorem repeat_only (migrated : Migrated call files ids active stamp disk)
    (ran : migrateLegacyWorkspaces calm call asked disk = (.ok result,later,final)) :
    NamesAgree files ids ∧ (call.explicit = true ∨ ¬ StaysActive files ids active) := by
  unfold migrateLegacyWorkspaces at ran
  obtain ⟨_,between,inner,located,ran⟩ := bind_ended ran
  have held : Migrated call files ids active stamp inner :=
    leads_ok (locate_keeps (Migrated call files ids active stamp) (fun workspaceId _ start => migrated_touch start workspaceId) calm call)
      migrated located
  have agree : NamesAgree files ids := by
    obtain ⟨existing,read,some,named⟩ := existing_ids held
    split at ran
    · simp [fail] at ran
    · rw [look_bind,settle_ok read,if_neg some,accept_migrated held] at ran
      split at ran
      · rename_i same
        exact named.mp same
      · simp at ran
  refine ⟨agree,?_⟩
  by_contra both
  obtain ⟨found,runs⟩ := not_or.mp both
  obtain ⟨raised,_,refused⟩ := locate_refuses migrated agree asked found (not_not.mp runs)
  rw [refused] at located
  simp at located

-- A destination with a workspace and without a marker is refused.
theorem repeat_blocked (unmarked : RootFile migrationName none disk) (saved : HasWorkspace disk)
    : migrateLegacyWorkspaces calm call asked disk ≠ (.ok result,later,final) := by
  intro ran
  unfold migrateLegacyWorkspaces at ran
  obtain ⟨_,between,inner,located,ran⟩ := bind_ended ran
  have held : RootFile migrationName none inner ∧ HasWorkspace inner := by
    refine leads_ok (locate_keeps (fun disk => RootFile migrationName none disk ∧ HasWorkspace disk) ?_ calm call)
      ⟨unmarked,saved⟩ located
    rintro workspaceId reached ⟨blank,present⟩
    exact ⟨(find_touched (short_path migrationName) workspaceId reached.destination rfl).trans blank,
      present.imp (fun _ stored => present_touch stored .destination workspaceId)⟩
  split at ran
  · simp [fail] at ran
  · rw [look_bind] at ran
    obtain ⟨existing,reached,last,settled,ran⟩ := bind_ended ran
    simp only [settle,Prod.mk.injEq] at settled
    obtain ⟨read,rfl,rfl⟩ := settled
    split at ran
    · rename_i empty
      subst empty
      exact ids_hold read held.2
    · have marker : loadMarker inner.destination = .ok none := by
        unfold loadMarker
        rw [held.1]
      unfold acceptExisting at ran
      rw [look_bind,settle_ok marker] at ran
      simp [fail] at ran

end Repeats

/- Two destinations that differ in left-over event files. -/

def Blank (disk : Disk δ) : Prop := ∀ workspaceId, find disk.destination [workspaceId,eventsJsonlName] = none ∨
  find disk.destination [workspaceId,eventsJsonlName] = some (.text [])

structure Alike (left right : Disk δ) : Prop where
  source : left.source = right.source
  files : ∀ path, ¬ EventsPath path → find left.destination path = find right.destination path
  blank : Blank left
  blankToo : Blank right

section Sides

variable {left right : Disk δ}

omit [Reading δ] in
theorem blank_touch (blank : Blank left) (root : Root) (workspaceId : Text) : Blank (left.touch root [workspaceId,eventsJsonlName]) := by
  cases root with
  | source => exact blank
  | destination =>
    intro other
    unfold Disk.touch
    dsimp only
    rw [find_touch]
    split
    · right
      rcases blank workspaceId with absent | empty
      · simp [absent]
      · simp [empty]
    · exact blank other

omit [Reading δ] in
theorem alike_touch (alike : Alike left right) (root : Root) (workspaceId : Text) :
    Alike (left.touch root [workspaceId,eventsJsonlName]) (right.touch root [workspaceId,eventsJsonlName]) where
  source := by
    cases root with
    | source => exact congrArg (touch _) alike.source
    | destination => exact alike.source
  files path elsewhere := by
    cases root with
    | source => exact alike.files path elsewhere
    | destination =>
      exact (find_touched elsewhere workspaceId left.destination rfl).trans
        ((alike.files path elsewhere).trans (find_touched elsewhere workspaceId right.destination rfl).symm)
  blank := blank_touch alike.blank root workspaceId
  blankToo := blank_touch alike.blankToo root workspaceId

variable {path : Location}

omit [Reading δ] in
theorem blank_write (blank : Blank left) (elsewhere : ¬ EventsPath path) (content : Content δ) :
    Blank (left.write path content) := by
  intro workspaceId
  unfold Disk.write
  dsimp only
  rw [find_put,if_neg]
  · exact blank workspaceId
  · exact fun same => elsewhere ⟨workspaceId,same.symm⟩

omit [Reading δ] in
theorem alike_write (alike : Alike left right) (elsewhere : ¬ EventsPath path) (content : Content δ) :
    Alike (left.write path content) (right.write path content) where
  source := alike.source
  files sought apart := by
    unfold Disk.write
    dsimp only
    rw [find_put,find_put,alike.files sought apart]
  blank := blank_write alike.blank elsewhere content
  blankToo := blank_write alike.blankToo elsewhere content

omit [Reading δ] in
theorem layout_parallel (root : Root) (workspaceId : Text) :
    Parallel Alike (ensureWorkspaceLayout (δ := δ) calm root workspaceId) (ensureWorkspaceLayout calm root workspaceId) :=
  parallel_change (fun _ _ same => alike_touch same root workspaceId)

omit [Reading δ] in
theorem write_parallel (elsewhere : ¬ EventsPath path) (content : Content δ) :
    Parallel Alike (change (calm : World Raised) (Disk.write path content)) (change calm (Disk.write path content)) :=
  parallel_change (fun _ _ same => alike_write same elsewhere content)

theorem loadState_parallel (workspaceId : Text) :
    Parallel Alike (loadWorkspaceState (δ := δ) calm .source workspaceId) (loadWorkspaceState calm .source workspaceId) := by
  refine parallel_bind (layout_parallel .source workspaceId) (fun _ => ?_)
  apply parallel_look
  intro state twin same
  rw [show state.files .source = twin.files .source from same.source]
  exact parallel_settle _

theorem saveState_parallel (state : Loaded δ) : Parallel Alike (saveWorkspaceState calm state) (saveWorkspaceState calm state) := by
  have context : ¬ EventsPath [state.workspaceId,contextMdName] := by
    rintro ⟨other,same⟩
    simp only [List.cons.injEq,and_true] at same
    exact names_apart.2.1 same.2
  refine parallel_bind (layout_parallel .destination state.workspaceId) (fun _ => ?_)
  refine parallel_bind (parallel_settle _) (fun body => ?_)
  refine parallel_bind (write_parallel (state_path state.workspaceId) _) (fun _ => ?_)
  refine parallel_bind (write_parallel context _) (fun _ => ?_)
  apply parallel_look
  intro one other same
  have index : loadWorkspaceIndex one.destination = loadWorkspaceIndex other.destination := by
    unfold loadWorkspaceIndex
    rw [same.files _ (short_path indexName)]
  rw [index]
  exact parallel_bind (parallel_settle _) (fun existing => write_parallel (short_path indexName) _)

omit [Reading δ] in
theorem copyDirectory_parallel (workspaceId directory : Text) :
    Parallel Alike (copyDirectory (δ := δ) calm workspaceId directory) (copyDirectory calm workspaceId directory) := by
  apply parallel_look
  intro state twin same
  rw [same.source]
  apply parallel_tryAll
  intro file inside one other both
  exact alike_write both (deep_path (of_decide_eq_true (List.mem_filter.mp inside).2).2) file.2

theorem migrateWorkspace_parallel (workspaceId : Text) :
    Parallel Alike (migrateWorkspace (δ := δ) calm workspaceId) (migrateWorkspace calm workspaceId) := by
  refine parallel_bind (loadState_parallel workspaceId) (fun state => ?_)
  refine parallel_bind (saveState_parallel state) (fun _ => ?_)
  exact parallel_each (fun directory _ => copyDirectory_parallel workspaceId directory)

theorem migrateLatest_parallel (migrated : List Text) :
    Parallel Alike (migrateLatest (δ := δ) calm migrated) (migrateLatest calm migrated) := by
  apply parallel_look
  intro state twin same
  rw [same.source]
  refine parallel_bind (parallel_settle _) (fun latest => ?_)
  cases latest with
  | none => exact parallel_pure _
  | some latestId =>
    dsimp only
    split
    · refine parallel_bind (loadState_parallel latestId) (fun state => ?_)
      split
      · exact parallel_bind (write_parallel (short_path latestPointerName) _) (fun _ => parallel_pure _)
      · exact parallel_pure _
    · exact parallel_pure _

-- The backups, and so their stamps, are kept apart.
theorem migrateAll_parallel (call : Call) (stamp other : Nat) :
    Parallel Alike (migrateAll (δ := δ) calm call stamp) (migrateAll calm call other) := by
  have backed : Parallel Alike (backUp (δ := δ) calm stamp) (backUp calm other) := by
    refine parallel_bind (parallel_change (fun _ _ same => ⟨same.source,same.files,same.blank,same.blankToo⟩)) (fun _ => ?_)
    apply parallel_look
    intro state twin same
    rw [same.source]
    exact parallel_tryAll (fun file _ _ _ both => ⟨both.source,both.files,both.blank,both.blankToo⟩)
  refine parallel_bind backed (fun _ => ?_)
  apply parallel_look
  intro state twin same
  rw [same.source]
  refine parallel_bind (parallel_settle _) (fun migrated => ?_)
  split
  · exact parallel_fail _
  · refine parallel_bind (parallel_each (fun workspaceId _ => migrateWorkspace_parallel workspaceId)) (fun _ => ?_)
    exact parallel_bind (migrateLatest_parallel migrated) (fun _ => parallel_pure _)

theorem carryOver_parallel {call : Call} (alike : Alike left right) (plain : right.linked = false)
    (ran : carryOver calm call asked left = (.ok result,later,final)) (other : Nat) :
    ∃ got last twin, carryOver calm call other right = (.ok got,last,twin) ∧ Blank final ∧ Blank twin ∧
      ∀ path, ¬ EventsPath path → path ≠ [migrationName] → find final.destination path = find twin.destination path := by
  unfold carryOver at ran ⊢
  rw [look_bind] at ran ⊢
  rw [if_neg (by simp [plain])]
  split at ran
  · simp [fail] at ran
  · obtain ⟨⟨ids,active⟩,between,inner,all,ran⟩ := bind_ended ran
    dsimp only at ran
    rw [bind_of (show change calm _ between inner = (.ok (),between + 1,_) from rfl),look_bind] at ran
    simp only [pure_run,Prod.mk.injEq,Except.ok.injEq] at ran
    obtain ⟨_,_,rfl⟩ := ran
    have both := migrateAll_parallel call left.stamp right.stamp asked other left right alike
    rw [all] at both
    cases twinRan : migrateAll calm call right.stamp other right with
    | mk outcome rest =>
      obtain ⟨last,twin⟩ := rest
      rw [twinRan] at both
      obtain ⟨same,ends⟩ := both
      dsimp only at same ends
      subst same
      rw [bind_of twinRan]
      refine ⟨_,_,_,rfl,blank_write ends.blank (short_path migrationName) _,blank_write ends.blankToo (short_path migrationName) _,?_⟩
      intro path elsewhere differs
      unfold Disk.write
      dsimp only
      rw [find_put,find_put,if_neg differs,if_neg differs]
      exact ends.files path elsewhere

end Sides

end OpenStock.Workspaces.Migration
