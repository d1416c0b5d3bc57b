import OpenStock.Workspaces.RepeatedMigration

namespace OpenStock.Workspaces.Migration
open Interruption

variable {δ : Type}

/- A migration to an empty destination that may be broken off, and the calls after its cause is gone. -/

def fresh (files : Files δ) (linked : Bool) : Disk δ := ⟨files,linked,[],fun _ => [],0⟩

abbrev Edit (δ : Type) := Location → Content δ → Option (Content δ)

def edited (edit : Edit δ) (files : Files δ) : Files δ :=
  files.filterMap (fun file => (edit file.1 file.2).map (fun content => (file.1,content)))

-- After a whole migration there is nothing to repair.
def repair (left : Disk δ) (edit : Edit δ) : Edit δ :=
  if (find left.destination [migrationName]).isSome then fun _ content => some content else edit

def mended (edit : Edit δ) (left : Disk δ) : Disk δ := {left with source := edited edit left.source,linked := false}

def WorkspaceMigrationResult.checksum (result : WorkspaceMigrationResult) (path : Location) : Option Text :=
  (result.checksums.find? (fun entry => entry.1 = path)).map Prod.snd

variable [Reading δ]

def interrupted (world : World Raised) (call : Call) (files : Files δ) (linked : Bool) : Disk δ :=
  (migrateLegacyWorkspaces world call 0 (fresh files linked)).2.2

structure SameWorkspaces (ids : List Text) (left right : Disk δ) : Prop where
  listed : workspaceIds left.destination = .ok ids
  listedToo : workspaceIds right.destination = .ok ids
  files : ∀ workspaceId ∈ ids, ∀ name rest, find left.destination (workspaceId :: name :: rest) = find right.destination (workspaceId :: name :: rest)
  latest : find left.destination [latestPointerName] = find right.destination [latestPointerName]

-- The call after the repair ends as on an empty destination, and one more call returns the same and changes nothing.
def Repeatable (world : World Raised) (call : Call) (files : Files δ) (linked : Bool) (edit : Edit δ) : Prop :=
  let left := interrupted world call files linked
  let cause := repair left edit
  let undisturbed := migrateLegacyWorkspaces calm call 0 (fresh (edited cause files) false)
  let second := migrateLegacyWorkspaces calm call 0 (mended cause left)
  let third := migrateLegacyWorkspaces calm call 0 second.2.2
  ∃ expected got, undisturbed.1 = .ok expected ∧ second.1 = .ok got ∧
    got.workspaceIds = expected.workspaceIds ∧ got.activeWorkspaceId = expected.activeWorkspaceId ∧
    (∀ path, got.checksum path = expected.checksum path) ∧ SameWorkspaces expected.workspaceIds second.2.2 undisturbed.2.2 ∧
    third.1 = .ok got ∧ third.2.2.destination = second.2.2.destination ∧ third.2.2.backups = second.2.2.backups

variable {edit : Edit δ}

section Facts

variable {files : Files δ}

omit [Reading δ] in
theorem fresh_untouched (files : Files δ) (linked : Bool) : Untouched files (fresh files linked) where
  quiet := ⟨fun _ _ => rfl,fun _ => .inl rfl⟩
  source := ⟨[],by simp [fresh]⟩
  numbered _ _ := rfl

omit [Reading δ] in
theorem edited_keep (files : Files δ) : edited (fun _ content => some content) files = files := by
  simp [edited]

omit [Reading δ] in
theorem edited_append (edit : Edit δ) (one other : Files δ) : edited edit (one ++ other) = edited edit one ++ edited edit other := by
  simp [edited]

omit [Reading δ] in
theorem edited_absent (absent : find files path = none) : find (edited edit files) path = none := by
  apply find_none.mpr
  intro file inside same
  obtain ⟨origin,stored,kept⟩ := List.mem_filterMap.mp inside
  obtain ⟨content,_,rfl⟩ := Option.map_eq_some_iff.mp kept
  exact find_none.mp absent origin stored same

theorem checksum_of (call : Call) (stamp : Nat) (ids : List Text) (active : Option Text) (disk : Disk δ) (path : Location) :
    (resultOf call stamp ids active disk).checksum path = (find (disk.backups stamp) path).map Reading.digest := by
  unfold WorkspaceMigrationResult.checksum find
  rw [show (resultOf call stamp ids active disk).checksums = (disk.backups stamp).map (fun file => (file.1,Reading.digest file.2)) from rfl,
    List.find?_map,Option.map_map,Option.map_map]
  rfl

-- Files that the source has gained show in the checksums.
omit [Reading δ] in
theorem gained_seen (grown : Grown files now)
    (same : ∀ path, (find (edited edit now) path).isSome = (find (edited edit files) path).isSome) : edited edit now = edited edit files := by
  obtain ⟨extra,rfl,events⟩ := grown
  rw [edited_append] at same ⊢
  cases gained : edited edit extra with
  | nil => rw [List.append_nil]
  | cons file rest =>
    exfalso
    have inside : file ∈ edited edit extra := by
      rw [gained]
      exact List.mem_cons_self ..
    obtain ⟨origin,stored,kept⟩ := List.mem_filterMap.mp inside
    obtain ⟨content,_,moved⟩ := Option.map_eq_some_iff.mp kept
    have placed : file.1 = origin.1 := by rw [← moved]
    have absent : find (edited edit files) file.1 = none := edited_absent (by rw [placed]; exact (events origin stored).2)
    have seen := same file.1
    rw [find_append,absent,Option.none_or] at seen
    have none := find_none.mp (Option.isNone_iff_eq_none.mp (by simpa using seen)) file inside
    exact none rfl

theorem listed_again {call : Call} {ids : List Text} {active : Option Text}
    (migrated : Migrated call files ids active stamp disk) (agree : NamesAgree files ids) : workspaceIds disk.destination = .ok ids := by
  obtain ⟨existing,read,_,named⟩ := existing_ids migrated
  rw [read,named.mpr agree]

theorem same_workspaces {call : Call} {ids : List Text} {active : Option Text}
    (one : Migrated call files ids active stamp left) (two : Migrated call files ids active other right) (agree : NamesAgree files ids)
    (blank : Blank left) (blankToo : Blank right)
    (same : ∀ path, ¬ EventsPath path → path ≠ [migrationName] → find left.destination path = find right.destination path) :
    SameWorkspaces ids left right where
  listed := listed_again one agree
  listedToo := listed_again two agree
  files workspaceId inside name rest := by
    by_cases events : EventsPath (workspaceId :: name :: rest)
    · obtain ⟨owner,place⟩ := events
      obtain ⟨directory,listed,read,loaded,named⟩ := (agree workspaceId).mp inside
      cases place
      obtain ⟨first,loadedOne,_,present⟩ := one.saved directory listed
      obtain ⟨second,loadedTwo,_,presentToo⟩ := two.saved directory listed
      cases loaded.symm.trans loadedOne
      cases loaded.symm.trans loadedTwo
      rw [named] at present presentToo
      unfold Present at present presentToo
      rcases blank workspaceId with absent | empty
      · rw [absent] at present
        cases present
      · rcases blankToo workspaceId with absent | emptyToo
        · rw [absent] at presentToo
          cases presentToo
        · rw [empty,emptyToo]
    · exact same _ events (by simp)
  latest := one.latest.trans two.latest.symm

end Facts

/- The claim's two directions, for an attempt that wrote its marker and for one that did not. -/

section Exact

variable {call : Call} {files : Files δ} {ids : List Text} {active : Option Text}

omit [Reading δ] in
theorem pair_ok {α : Type} {outcome : Except Raised α × Nat × Disk δ} {value : α} (ended : outcome.1 = .ok value) :
    outcome = (.ok value,outcome.2.1,outcome.2.2) := by
  obtain ⟨result,later,final⟩ := outcome
  dsimp only at ended
  rw [ended]

variable {expected : WorkspaceMigrationResult}

theorem undisturbed_migrated (ended : (migrateLegacyWorkspaces calm call 0 (fresh files false)).1 = .ok expected) :
    ¬ Barred call ∧ ∃ ids active, Migrated call files ids active 0 (migrateLegacyWorkspaces calm call 0 (fresh files false)).2.2 ∧
      expected = resultOf call 0 ids active (migrateLegacyWorkspaces calm call 0 (fresh files false)).2.2 ∧
      (migrateLegacyWorkspaces calm call 0 (fresh files false)).2.2.backups 0 = files := by
  have quiet : Quiet (fresh files false).destination := (fresh_untouched files false).quiet
  have allowed : ¬ Barred call := by
    intro barred
    obtain ⟨raised,refused⟩ := migrate_barred quiet barred calm 0
    rw [refused] at ended
    cases ended
  refine ⟨allowed,?_⟩
  rw [migrate_quiet quiet allowed] at ended ⊢
  obtain ⟨ids,active,migrated,result,backups⟩ := carryOver_migrated quiet (pair_ok ended)
  exact ⟨ids,active,migrated,result,backups⟩

theorem chosen_unique
    (migrated : Migrated call files ids active stamp disk) (listed : workspaceIds files = .ok other) (chosen : activeOf files other = .ok activeToo) :
    other = ids ∧ activeToo = active := by
  cases migrated.listed.symm.trans listed
  cases migrated.chosen.symm.trans chosen
  exact ⟨rfl,rfl⟩

-- What the claim asks of the source and of what the attempt has left.
def Fits (call : Call) (source : Files δ) (left : Disk δ) (edit : Edit δ) : Prop :=
  ∃ ids active, workspaceIds source = .ok ids ∧ activeOf source ids = .ok active ∧ NamesAgree source ids ∧
    (call.explicit = true ∨ ¬ StaysActive source ids active) ∧
    (Marked left ∨ workspaceIds left.destination = .ok [] ∧ edited edit left.source = source)

theorem whole_repeats {world : World Raised} {linked : Bool} (marked : Marked (interrupted world call files linked))
    (plain : linked = false)
    (same : migrateLegacyWorkspaces calm call 0 (fresh files linked) = migrateLegacyWorkspaces world call 0 (fresh files linked))
    (ended : (migrateLegacyWorkspaces calm call 0 (fresh files false)).1 = .ok expected) :
    Repeatable world call files linked edit ↔ Fits call files (interrupted world call files linked) edit := by
  have cause : repair (interrupted world call files linked) edit = fun _ content => some content := if_pos marked
  have whole : interrupted world call files linked = (migrateLegacyWorkspaces calm call 0 (fresh files false)).2.2 := by
    subst plain
    exact congrArg (fun outcome => outcome.2.2) same.symm
  obtain ⟨allowed,ids,active,migrated,result,backups⟩ := undisturbed_migrated ended
  rw [← whole] at migrated result backups
  have again : Migrated call files ids active 0 (mended (fun _ content => some content) (interrupted world call files linked)) :=
    migrated_moved migrated rfl
  unfold Repeatable
  dsimp only
  rw [cause,edited_keep,← whole]
  constructor
  · rintro ⟨_,got,_,second,_⟩
    obtain ⟨agree,idle⟩ := repeat_only again (pair_ok second)
    exact ⟨ids,active,migrated.listed,migrated.chosen,agree,idle,.inl marked⟩
  · rintro ⟨other,activeToo,listed,chosen,agree,idle,_⟩
    obtain ⟨rfl,rfl⟩ := chosen_unique migrated listed chosen
    obtain ⟨later,second⟩ := repeat_ok again agree 0 allowed idle
    rw [second]
    dsimp only
    rw [second]
    refine ⟨expected,_,ended,rfl,by rw [result]; rfl,by rw [result]; rfl,?_,?_,rfl,rfl,rfl⟩
    · intro path
      rw [result,checksum_of,checksum_of]
      rfl
    · rw [result]
      exact ⟨listed_again again agree,listed_again migrated agree,fun _ _ _ _ => rfl,rfl⟩

theorem broken_repeats {world : World Raised} {linked : Bool} (unmarked : ¬ Marked (interrupted world call files linked))
    (left : Left files (interrupted world call files linked))
    (ended : (migrateLegacyWorkspaces calm call 0 (fresh (edited edit files) false)).1 = .ok expected) :
    Repeatable world call files linked edit ↔ Fits call (edited edit files) (interrupted world call files linked) edit := by
  have cause : repair (interrupted world call files linked) edit = edit := if_neg unmarked
  obtain ⟨allowed,ids,active,migrated,result,backups⟩ := undisturbed_migrated ended
  unfold Repeatable
  dsimp only
  rw [cause]
  have clear : RootFile migrationName none (mended edit (interrupted world call files linked)) := unmarked_iff.mp unmarked
  constructor
  · rintro ⟨_,got,first,second,_,_,sums,_,third,_⟩
    cases ended.symm.trans first
    have untouched : Untouched files (interrupted world call files linked) :=
      left.resolve_right (fun saved => repeat_blocked clear saved (pair_ok second))
    have quiet : Quiet (mended edit (interrupted world call files linked)).destination := untouched.quiet
    have numbered : (mended edit (interrupted world call files linked)).backups (mended edit (interrupted world call files linked)).stamp = [] :=
      untouched.numbered _ (Nat.le_refl _)
    rw [migrate_quiet quiet allowed] at second third
    obtain ⟨others,activeToo,reached,resultToo,backupsToo⟩ := carryOver_migrated quiet (pair_ok second)
    rw [numbered,List.nil_append] at backupsToo
    have unchanged : edited edit (interrupted world call files linked).source = edited edit files := by
      apply gained_seen untouched.source
      intro path
      have sum := congrArg Option.isSome (sums path)
      rw [resultToo,result,checksum_of,checksum_of,backups,backupsToo,Option.isSome_map,Option.isSome_map] at sum
      exact sum
    rw [show (mended edit (interrupted world call files linked)).source = edited edit files from unchanged] at reached
    obtain ⟨agree,idle⟩ := repeat_only reached (pair_ok third)
    exact ⟨others,activeToo,reached.listed,reached.chosen,agree,idle,.inr ⟨quiet_ids quiet,unchanged⟩⟩
  · rintro ⟨others,activeToo,listed,chosen,agree,idle,gone⟩
    obtain ⟨rfl,rfl⟩ := chosen_unique migrated listed chosen
    obtain ⟨empty,unchanged⟩ := gone.resolve_left unmarked
    have untouched : Untouched files (interrupted world call files linked) := left.resolve_right (ids_hold empty)
    have quiet : Quiet (mended edit (interrupted world call files linked)).destination := untouched.quiet
    have blankFresh : Quiet (fresh (edited edit files) false).destination := (fresh_untouched (edited edit files) false).quiet
    have numbered : (mended edit (interrupted world call files linked)).backups (mended edit (interrupted world call files linked)).stamp = [] :=
      untouched.numbered _ (Nat.le_refl _)
    have alike : Alike (fresh (edited edit files) false) (mended edit (interrupted world call files linked)) :=
      ⟨unchanged.symm,fun path elsewhere => (blankFresh.1 path elsewhere).trans (quiet.1 path elsewhere).symm,blankFresh.2,quiet.2⟩
    rw [migrate_quiet blankFresh allowed] at ended migrated result backups ⊢
    rw [migrate_quiet quiet allowed]
    obtain ⟨got,last,twin,second,blank,blankTwin,same⟩ := carryOver_parallel alike rfl (pair_ok ended) 0
    obtain ⟨ids,active,reached,resultToo,backupsToo⟩ := carryOver_migrated quiet second
    rw [numbered,List.nil_append] at backupsToo
    rw [show (mended edit (interrupted world call files linked)).source = edited edit files from unchanged] at reached backupsToo
    obtain ⟨rfl,rfl⟩ := chosen_unique migrated reached.listed reached.chosen
    obtain ⟨later,third⟩ := repeat_ok reached agree 0 allowed idle
    rw [second]
    dsimp only
    rw [third]
    refine ⟨expected,got,ended,rfl,by rw [result,resultToo]; rfl,by rw [result,resultToo]; rfl,?_,?_,by rw [resultToo],rfl,rfl⟩
    · intro path
      rw [result,resultToo,checksum_of,checksum_of,backups,backupsToo]
    · rw [result]
      exact same_workspaces reached migrated agree blankTwin blank (fun path elsewhere differs => (same path elsewhere differs).symm)

-- An interrupted migration can be repeated exactly where it fits.
theorem migration_repeatable (world : World Raised) (call : Call) (files : Files δ) (linked : Bool) (edit : Edit δ)
    (ends : ∃ expected, (migrateLegacyWorkspaces calm call 0
      (fresh (edited (repair (interrupted world call files linked) edit) files) false)).1 = .ok expected) :
    Repeatable world call files linked edit ↔
      Fits call (edited (repair (interrupted world call files linked) edit) files) (interrupted world call files linked)
        (repair (interrupted world call files linked) edit) := by
  obtain ⟨expected,ended⟩ := ends
  have start := fresh_untouched files linked
  have allowed : ¬ Barred call := (undisturbed_migrated ended).1
  have cases := carryOver_cases start rfl world call 0
  rw [← migrate_quiet start.quiet allowed,← migrate_quiet start.quiet allowed] at cases
  rcases cases with ⟨unmarked,left⟩ | ⟨plain,marked,same⟩
  · have cause : repair (interrupted world call files linked) edit = edit := if_neg unmarked
    rw [cause] at ended ⊢
    exact broken_repeats unmarked left ended
  · have cause : repair (interrupted world call files linked) edit = fun _ content => some content := if_pos marked
    rw [cause,edited_keep] at ended ⊢
    have here : Marked (interrupted world call files linked) := marked
    refine (whole_repeats here plain same ended).trans ?_
    unfold Fits
    simp only [here,true_or]

end Exact

/- One workspace, and a process that dies at a given change. -/

-- Every text is the state of an active workspace of its own name.
instance sampleReading : Reading Unit where
  index _ := .ok []
  latest content := .ok (some content)
  state content := .ok ⟨content,.active,()⟩
  marker _ := .error .notJson
  redacted _ := .ok ()
  digest _ := []

def sampleFiles : Files Unit := [([['a'],workspaceJsonName],.text ['a']),([['a'],eventsJsonlName],.text [])]

def sampleCall : Call := ⟨true,['s'],['d'],['c'],[]⟩

def dies (change : Nat) : World Raised := fun asked => if asked = change then some .killed else none

def unedited : Edit Unit := fun _ content => some content

-- Killed before the marker is written, the migration is refused ever after.
theorem marker_missed : (migrateLegacyWorkspaces calm sampleCall 0 (fresh sampleFiles false)).1.isOk = true ∧
    ¬ Repeatable (dies 8) sampleCall sampleFiles false unedited := by
  refine ⟨rfl,?_⟩
  rintro ⟨_,got,_,second,_⟩
  have refused : (migrateLegacyWorkspaces calm sampleCall 0 (mended (repair (interrupted (dies 8) sampleCall sampleFiles false) unedited)
      (interrupted (dies 8) sampleCall sampleFiles false))).1 = .error (.migrationConflict [['d']]) := rfl
  rw [refused] at second
  cases second

-- Killed while the backup is made, it can be repeated.
theorem migration_repeatable_sample : Repeatable (dies 2) sampleCall sampleFiles false unedited := by
  refine (migration_repeatable (dies 2) sampleCall sampleFiles false unedited ⟨_,rfl⟩).mpr ?_
  refine ⟨[['a']],none,rfl,rfl,?_,.inl rfl,.inr ⟨rfl,rfl⟩⟩
  intro workspaceId
  constructor
  · intro listed
    cases List.mem_singleton.mp listed
    exact ⟨['a'],listed,⟨['a'],.active,()⟩,rfl,rfl⟩
  · rintro ⟨directory,inside,read,loaded,rfl⟩
    cases List.mem_singleton.mp inside
    cases loaded
    exact inside

end OpenStock.Workspaces.Migration
