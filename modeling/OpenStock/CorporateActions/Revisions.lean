import OpenStock.CorporateActions.Batches

namespace OpenStock.CorporateActions
open Text Calendar Outcomes Queue

/- The revisions of an action: their numbers and their labels, whatever records
have been ingested. -/

def ActionTables.revisions (tables : ActionTables) (actionId : Text) : List CorporateAction :=
  tables.corporateActions.filter (fun row => row.actionId = actionId)

def ActionTables.numbers (tables : ActionTables) (actionId : Text) : List Nat :=
  (tables.revisions actionId).map CorporateAction.revisionNumber

def ActionTables.currentRevisions (tables : ActionTables) (actionId : Text) : List CorporateAction :=
  (tables.revisions actionId).filter (fun row => row.canonicalStatus ≠ .superseded)

-- What holds of the rows and the links in every state. Revisions are numbered as
-- they come.
structure Labelled [Platform] (tables : ActionTables) : Prop where
  sound : Sound tables
  linked : ∀ link ∈ tables.sourceLinks, ∃ row ∈ tables.corporateActions,
    row.actionId = link.actionId ∧ row.revisionId = link.revisionId
  standing : ∀ row ∈ tables.corporateActions, ∃ revisionId, Current tables row.actionId revisionId
  counted : ∀ actionId, tables.numbers actionId = List.range' 1 (tables.numbers actionId).length

variable {link : SourceLink}

section tables
variable {tables after : ActionTables} {actionId : Text}

theorem numbers_contents (tables : ActionTables) (actionId : Text) : tables.numbers actionId =
      (tables.contents.filter (fun row => row.actionId = actionId)).map CorporateAction.revisionNumber := by
  rw [ActionTables.numbers,ActionTables.revisions,ActionTables.contents,List.filter_map,List.map_map]
  rfl

theorem numbers_kept (kept : after.contents = tables.contents) (actionId : Text) :
    after.numbers actionId = tables.numbers actionId := by
  rw [numbers_contents,numbers_contents,kept]

theorem mem_numbers :
    number ∈ tables.numbers actionId ↔ ∃ row ∈ tables.corporateActions, row.actionId = actionId ∧ row.revisionNumber = number := by
  simp [ActionTables.numbers,ActionTables.revisions,and_assoc]

-- A revision that is in the tables still is, with its action and its id.
theorem linked_kept (kept : after.contents = tables.contents ++ more) (inside : row ∈ tables.corporateActions) :
    ∃ other ∈ after.corporateActions, other.actionId = row.actionId ∧ other.revisionId = row.revisionId := by
  have listed : row.content ∈ after.contents := by
    rw [kept]
    exact List.mem_append_left _ (List.mem_map_of_mem inside)
  obtain ⟨other,present,same⟩ := List.mem_map.mp listed
  have acts : other.content.actionId = row.content.actionId := by rw [same]
  have named : other.content.revisionId = row.content.revisionId := by rw [same]
  exact ⟨other,present,acts,named⟩

variable {call : IngestCall}

theorem prior_linked (prior : call.prior tables = some link) : link ∈ tables.sourceLinks := by
  obtain ⟨pair,chosen,rfl⟩ := Option.map_eq_some_iff.mp prior
  obtain ⟨other,inside,joined⟩ := List.mem_flatMap.mp (Rows.firstBy_mem chosen)
  obtain ⟨raw,_,rfl⟩ := List.mem_map.mp joined
  exact (List.mem_filter.mp inside).1

theorem prior_actionId [Platform] (prior : call.prior tables = some link)
    (anchor : Date) : call.actionId anchor tables = link.actionId := by
  rw [IngestCall.actionId,prior]
  rfl

theorem existing_named [Platform] (found : call.existing anchor tables = some existing) :
    existing ∈ tables.corporateActions ∧ existing.actionId = call.actionId anchor tables := by
  have selected := List.find?_some found
  simp only [Bool.and_eq_true,decide_eq_true_eq] at selected
  exact ⟨List.mem_of_find?_eq_some found,selected.1⟩

end tables

section branches
variable [Platform] {tables : ActionTables} {call : IngestCall} {actionId : Text}

theorem labelled_rows {after : ActionTables} (labelled : Labelled tables) (rows : after.corporateActions = tables.corporateActions)
    (links : ∀ link ∈ after.sourceLinks, link ∈ tables.sourceLinks ∨
      ∃ row ∈ tables.corporateActions, row.actionId = link.actionId ∧ row.revisionId = link.revisionId) : Labelled after := by
  refine ⟨sound_rows rows labelled.sound,?_,?_,?_⟩
  · intro link inside
    rw [rows]
    rcases links link inside with earlier | named
    · exact labelled.linked link earlier
    · exact named
  · intro row inside
    rw [rows] at inside
    obtain ⟨revisionId,current⟩ := labelled.standing row inside
    exact ⟨revisionId,(current_rows rows).mpr current⟩
  · intro action
    have kept : after.contents = tables.contents := congrArg (List.map CorporateAction.content) rows
    rw [numbers_kept kept]
    exact labelled.counted action

theorem linkSource_labelled (labelled : Labelled tables) {link : SourceLink}
    (named : ∃ row ∈ tables.corporateActions, row.actionId = link.actionId ∧ row.revisionId = link.revisionId) :
    Labelled (tables.linkSource link) := by
  apply labelled_rows labelled (linkSource_actions tables link)
  intro other inside
  rcases mem_linkSource inside with earlier | new
  · exact .inl earlier
  · rw [new]
    exact .inr named

theorem returned_labelled (labelled : Labelled tables) (differs : earlier ≠ revisionId)
    (present : target ∈ tables.corporateActions) (named : target.actionId = actionId ∧ target.revisionId = revisionId)
    (held : prior ∈ tables.corporateActions) (left : prior.actionId = actionId ∧ prior.revisionId = earlier) :
    Labelled (returned call actionId earlier revisionId tables) := by
  have kept := returned_contents call actionId earlier revisionId tables
  have current : ∀ {action revision : Text}, Current (returned call actionId earlier revisionId tables) action revision ↔ _ :=
    returned_current call differs labelled.sound.keyed present named held left
  refine ⟨returned_sound call labelled.sound differs present named held left,?_,?_,?_⟩
  · intro link inside
    have named' : ∃ row ∈ tables.corporateActions, row.actionId = link.actionId ∧ row.revisionId = link.revisionId := by
      rw [(returned_links call tables actionId earlier revisionId).1] at inside
      rcases mem_linkSource inside with before | new
      · exact labelled.linked link before
      · rw [new]
        exact ⟨target,present,named⟩
    obtain ⟨row,written,acts,revision⟩ := named'
    obtain ⟨other,inside',acts',revision'⟩ := linked_kept (kept.trans (List.append_nil _).symm) written
    exact ⟨other,inside',acts'.trans acts,revision'.trans revision⟩
  · intro row inside
    have back : tables.contents = (returned call actionId earlier revisionId tables).contents ++ [] := by
      rw [List.append_nil,kept]
    obtain ⟨source,written,acts,_⟩ := linked_kept back inside
    by_cases same : row.actionId = actionId
    · exact ⟨revisionId,current.mpr (.inl ⟨same,rfl⟩)⟩
    · obtain ⟨revision,stands⟩ := labelled.standing source written
      rw [acts] at stands
      exact ⟨revision,current.mpr (.inr ⟨stands,fun gone => same gone.1⟩)⟩
  · intro action
    rw [numbers_kept kept]
    exact labelled.counted action

-- A new revision takes the number after those its action has.
theorem revised_labelled (labelled : Labelled tables)
    (apart : some new.revisionId ≠ supersedes) (fresh : ∀ other ∈ tables.corporateActions, other.revisionId ≠ new.revisionId)
    (identified : new.revisionId = revisionIdOf new.actionId new.revisionHash)
    (status : new.canonicalStatus = if (tables.remaining new.actionId supersedes).isEmpty then .active else .conflict)
    (left : ∀ row ∈ tables.corporateActions, some row.revisionId = supersedes → row.actionId = new.actionId)
    (numbered : new.revisionNumber = (tables.numbers new.actionId).length + 1) :
    Labelled (revised call new supersedes tables) := by
  have kept := revised_contents call new supersedes tables
  have standing : new.canonicalStatus ≠ .superseded := by
    rw [status]
    split <;> simp
  have current : ∀ {action revision : Text}, Current (revised call new supersedes tables) action revision ↔ _ :=
    revised_current call labelled.sound.keyed apart standing
  refine ⟨revised_sound call labelled.sound apart fresh identified status left,?_,?_,?_⟩
  · intro link inside
    rw [(revised_links call tables new supersedes).1] at inside
    rcases mem_linkSource inside with before | own
    · obtain ⟨row,written,acts,revision⟩ := labelled.linked link before
      obtain ⟨other,inside',acts',revision'⟩ := linked_kept kept written
      exact ⟨other,inside',acts'.trans acts,revision'.trans revision⟩
    · rw [own]
      obtain ⟨row,written,acts,revision,_⟩ := current.mpr (.inl ⟨rfl,rfl⟩)
      exact ⟨row,written,acts,revision⟩
  · intro row inside
    by_cases same : row.actionId = new.actionId
    · exact ⟨new.revisionId,current.mpr (.inl ⟨same,rfl⟩)⟩
    · rw [revised_rows call labelled.sound.keyed apart] at inside
      rcases List.mem_append.mp inside with earlier | latest
      · obtain ⟨source,written,rfl⟩ := List.mem_map.mp earlier
        obtain ⟨revision,stands⟩ := labelled.standing source written
        refine ⟨revision,current.mpr (.inr ⟨stands,?_⟩)⟩
        intro gone
        obtain ⟨other,held,acts,named,_⟩ := stands
        exact same (acts.symm.trans (left other held (named ▸ gone)))
      · exact absurd (congrArg CorporateAction.actionId (List.mem_singleton.mp latest)) same
  · intro action
    have before := labelled.counted action
    rw [numbers_contents,kept,List.filter_append,List.map_append,← numbers_contents,before,List.length_append,List.length_range']
    by_cases acts : new.actionId = action
    · have own : ([new.content].filter (fun row => row.actionId = action)).map CorporateAction.revisionNumber =
          [(tables.numbers action).length + 1] := by
        rw [← acts,← numbered]
        simp [CorporateAction.content]
      rw [own,List.length_singleton,List.range'_concat]
      simp [Nat.add_comm]
    · have none : ([new.content].filter (fun row => row.actionId = action)).map CorporateAction.revisionNumber = [] := by
        simp [CorporateAction.content,acts]
      rw [none]
      simp

end branches

/- The number a record's new revision gets. -/

theorem foldl_max (values : List Nat) (start : Nat) :
    start ≤ values.foldl max start ∧ (∀ value ∈ values, value ≤ values.foldl max start) ∧
      (values.foldl max start = start ∨ values.foldl max start ∈ values) := by
  induction values generalizing start with
  | nil => simp
  | cons value values ih =>
    obtain ⟨least,bounds,reached⟩ := ih (max start value)
    rw [List.foldl_cons]
    refine ⟨(le_max_left start value).trans least,?_,?_⟩
    · intro other inside
      rcases List.mem_cons.mp inside with rfl | later
      · exact (le_max_right start other).trans least
      · exact bounds other later
    · rcases reached with same | inside
      · rcases max_choice start value with start' | value'
        · exact .inl (same.trans start')
        · right
          rw [same,value']
          exact List.mem_cons_self
      · exact .inr (List.mem_cons_of_mem _ inside)

section numbers
variable [Platform] {tables : ActionTables} {actionId : Text}

-- A current revision's number is no smaller than that of any revision of the action.
def Topped (tables : ActionTables) (actionId : Text) : Prop :=
  ∀ row ∈ tables.revisions actionId, ∃ other ∈ tables.currentRevisions actionId, row.revisionNumber ≤ other.revisionNumber

instance : Decidable (Topped tables actionId) := inferInstanceAs (Decidable (∀ row ∈ tables.revisions actionId, _))

omit [Platform] in
theorem active_current (written : ∀ row ∈ tables.corporateActions, row.canonicalStatus ≠ .current) :
    tables.active actionId = tables.currentRevisions actionId := by
  rw [ActionTables.active,ActionTables.currentRevisions,ActionTables.revisions,List.filter_filter]
  apply List.filter_congr
  intro row inside
  have listed := listed_current (written row inside)
  by_cases stands : row.canonicalStatus ≠ .superseded
  · simp [listed.mpr stands,stands]
  · have quiet : row.listed = false := by
      rw [← Bool.not_eq_true]
      exact fun met => stands (listed.mp met)
    simp [quiet,not_not.mp stands]

-- The next number is the first free one, or one that is taken.
theorem nextNumber_free (labelled : Labelled tables) :
    tables.nextNumber actionId ∉ tables.numbers actionId ↔ Topped tables actionId := by
  have actives : tables.active actionId = tables.currentRevisions actionId := active_current labelled.sound.written
  obtain ⟨_,bounds,reached⟩ := foldl_max ((tables.active actionId).map CorporateAction.revisionNumber) 0
  have next : tables.nextNumber actionId = ((tables.active actionId).map CorporateAction.revisionNumber).foldl max 0 + 1 := rfl
  rw [actives] at bounds reached next
  have counted := labelled.counted actionId
  have range : ∀ number, number ∈ tables.numbers actionId ↔ 1 ≤ number ∧ number ≤ (tables.numbers actionId).length := by
    intro number
    rw [counted,List.mem_range'_1,List.length_range']
    omega
  rw [next,range]
  constructor
  · intro free row inside
    have placed := (range row.revisionNumber).mp (List.mem_map_of_mem inside)
    rcases reached with none' | top
    · omega
    · obtain ⟨other,stands,number⟩ := List.mem_map.mp top
      exact ⟨other,stands,by omega⟩
  · intro topped taken
    have last : (tables.numbers actionId).length ∈ tables.numbers actionId := (range _).mpr (by omega)
    obtain ⟨row,inside,number⟩ := List.mem_map.mp last
    obtain ⟨other,stands,least⟩ := topped row inside
    have bound := bounds _ (List.mem_map_of_mem stands)
    omega

theorem nextNumber_topped (labelled : Labelled tables) (free : tables.nextNumber actionId ∉ tables.numbers actionId) :
    tables.nextNumber actionId = (tables.numbers actionId).length + 1 := by
  have actives : tables.active actionId = tables.currentRevisions actionId := active_current labelled.sound.written
  obtain ⟨_,_,reached⟩ := foldl_max ((tables.active actionId).map CorporateAction.revisionNumber) 0
  have next : tables.nextNumber actionId = ((tables.active actionId).map CorporateAction.revisionNumber).foldl max 0 + 1 := rfl
  rw [actives] at reached next
  rw [labelled.counted actionId,List.mem_range'_1] at free
  rcases reached with none' | top
  · omega
  · have inside : ((tables.currentRevisions actionId).map CorporateAction.revisionNumber).foldl max 0 ∈ tables.numbers actionId := by
      obtain ⟨row,stands,number⟩ := List.mem_map.mp top
      rw [← number]
      exact List.mem_map_of_mem (List.mem_filter.mp stands).1
    rw [labelled.counted actionId,List.mem_range'_1] at inside
    omega

end numbers

/- Ingestion keeps all this. -/

section ingestion
variable [Platform] {call : IngestCall} {before after : ResearchWarehouse} {outcome : RecordOutcome} {actionId : Text}

theorem insertRevision_free (ran : insertRevision call anchor prior actionId before = .ok (after,outcome)) :
    before.actions.nextNumber actionId ∉ before.actions.numbers actionId := by
  unfold insertRevision at ran
  obtain ⟨rows,added,_⟩ := bind_ok ran
  have free := insertAction_returns.mp ⟨rows,added⟩
  intro taken
  obtain ⟨row,inside,acts,number⟩ := mem_numbers.mp taken
  apply free
  exact (settled_taken actionId (prior.map SourceLink.revisionId) before.actions _ _).mpr ⟨row,inside,.inr ⟨acts,number⟩⟩

theorem reconcile_labelled (labelled : Labelled before.actions)
    (ran : reconcile call anchor before = .ok (after,outcome)) : Labelled after.actions := by
  rw [reconcile_exact] at ran
  have held : ∀ link, call.prior before.actions = some link → ∃ row ∈ before.actions.corporateActions,
      row.actionId = call.actionId anchor before.actions ∧ row.revisionId = link.revisionId := by
    intro link prior
    rw [prior_actionId prior]
    exact labelled.linked link (prior_linked prior)
  cases found : call.existing anchor before.actions with
  | some existing =>
    rw [found] at ran
    obtain ⟨present,acts⟩ := existing_named found
    rcases reassert_ok ran with ⟨_,rfl⟩ | ⟨link,prior,left,rfl⟩
    · exact linkSource_labelled labelled ⟨existing,present,acts,rfl⟩
    · obtain ⟨row,inside,same,leaves⟩ := held link prior
      have next : Labelled (returned call (call.actionId anchor before.actions) link.revisionId existing.revisionId
          before.actions) := returned_labelled labelled left present ⟨acts,rfl⟩ inside ⟨same,leaves⟩
      exact labelled_rows next rfl (fun link inside => .inl inside)
  | none =>
    rw [found] at ran
    have free := insertRevision_free ran
    have alike := insertRevision_alike ran
    obtain ⟨row,_,_,built,unused,_⟩ := insertRevision_ok ran
    have fresh : ∀ other ∈ before.actions.corporateActions, other.revisionId ≠
        revisionIdOf (call.actionId anchor before.actions) (revisionHash call.record) := by
      rw [built] at unused
      exact unused
    have next : Labelled (revised call (revisionRow call anchor (call.actionId anchor before.actions)
        ((call.prior before.actions).map SourceLink.revisionId) before.actions)
        ((call.prior before.actions).map SourceLink.revisionId) before.actions) := by
      apply revised_labelled labelled
      · intro same
        obtain ⟨link,prior,revision⟩ := Option.map_eq_some_iff.mp same.symm
        obtain ⟨other,inside,_,leaves⟩ := held link prior
        exact fresh other inside (leaves.trans revision)
      · exact fresh
      · rfl
      · rfl
      · intro other inside same
        obtain ⟨link,prior,revision⟩ := Option.map_eq_some_iff.mp same.symm
        obtain ⟨twin,present,acts,leaves⟩ := held link prior
        rw [Rows.same_row labelled.sound.keyed inside present (revision.symm.trans leaves.symm)]
        exact acts
      · exact nextNumber_topped labelled free
    apply labelled_rows next alike.actions
    intro link inside
    rw [alike.links] at inside
    exact .inl inside

theorem ingest_labelled (labelled : Labelled before.actions)
    (ran : ingestRecord call before = .ok (after,outcome)) : Labelled after.actions := by
  have observed : Labelled (before.observed call).actions := labelled_rows labelled rfl (fun link inside => .inl inside)
  unfold ingestRecord at ran
  split at ran
  · split at ran <;> cases ran <;> exact labelled
  · simp only at ran
    split at ran
    · exact reconcile_labelled observed ran
    · obtain ⟨row,_,actions⟩ := quarantine_exact ran
      rw [actions]
      exact labelled_rows observed rfl (fun link inside => .inl inside)

theorem runs_labelled (path : Runs (fun _ => Step) (reconciledStart knownSymbols outcomes canonicalOhlcv) history state) :
    Labelled state.warehouse.actions := by
  induction path with
  | nil =>
    have start : Reconciled.Consistent (reconciledStart knownSymbols outcomes canonicalOhlcv) :=
      initial_consistent knownSymbols outcomes canonicalOhlcv
    refine ⟨start.sound,?_,?_,fun actionId => rfl⟩
    · intro link inside
      cases inside
    · intro row inside
      cases inside
  | step _ step ih =>
    cases step with
    | ingest ran => exact ingest_labelled ih ran
    | elsewhere => exact labelled_rows ih rfl (fun link inside => .inl inside)

variable {tables : ActionTables}

omit [Platform] in
theorem mem_currentRevisions : row ∈ tables.currentRevisions actionId ↔
    row ∈ tables.corporateActions ∧ row.actionId = actionId ∧ row.canonicalStatus ≠ .superseded := by
  simp only [ActionTables.currentRevisions,ActionTables.revisions,List.mem_filter,decide_eq_true_eq,and_assoc]

-- A current revision is in CONFLICT exactly when it is not the only one.
theorem conflict_shared (labelled : Labelled tables) (inside : row ∈ tables.currentRevisions actionId) :
    row.canonicalStatus = .conflict ↔ ∃ other ∈ tables.currentRevisions actionId, other.revisionId ≠ row.revisionId := by
  obtain ⟨present,rfl,standing⟩ := mem_currentRevisions.mp inside
  rw [labelled.sound.shown row present standing]
  constructor
  · intro shared
    obtain ⟨revisionId,differs,other,held,acts,named,stands⟩ := shared
    exact ⟨other,mem_currentRevisions.mpr ⟨held,acts,stands⟩,named ▸ differs⟩
  · intro shared
    obtain ⟨other,listed,differs⟩ := shared
    obtain ⟨held,acts,stands⟩ := mem_currentRevisions.mp listed
    exact ⟨other.revisionId,differs,other,held,acts,rfl,stands⟩

theorem alone_or_shared (labelled : Labelled tables) (inside : row ∈ tables.currentRevisions actionId) :
    tables.currentRevisions actionId = [row] ∨ ∃ other ∈ tables.currentRevisions actionId, other.revisionId ≠ row.revisionId := by
  by_cases shared : ∃ other ∈ tables.currentRevisions actionId, other.revisionId ≠ row.revisionId
  · exact .inr shared
  · left
    have own : ∀ other ∈ tables.currentRevisions actionId, other = row := by
      intro other listed
      have same : other.revisionId = row.revisionId := by
        by_contra differs
        exact shared ⟨other,listed,differs⟩
      exact Rows.same_row labelled.sound.keyed (mem_currentRevisions.mp listed).1 (mem_currentRevisions.mp inside).1 same
    have once : (tables.currentRevisions actionId).Nodup := ((List.Nodup.of_map _ labelled.sound.keyed).filter _).filter _
    rw [List.eq_replicate_of_mem own] at once ⊢
    have few := List.nodup_replicate.mp once
    have some' := List.length_pos_of_mem inside
    have size : (tables.currentRevisions actionId).length = 1 := by omega
    rw [size]
    rfl

-- In every state the labels of an action's revisions are exact: one stands, a
-- single one is ACTIVE, and several are all in CONFLICT.
theorem conflict_labels_exact {knownSymbols : List Text} {outcomes : OutcomeTables} {canonicalOhlcv : List CanonicalBar}
    {history : List Event} {state : Reconciled}
    (path : Runs (fun _ => Step) (reconciledStart knownSymbols outcomes canonicalOhlcv) history state)
    (revised : state.warehouse.actions.revisions actionId ≠ []) : state.warehouse.actions.currentRevisions actionId ≠ [] ∧
      ((state.warehouse.actions.currentRevisions actionId).length = 1 →
        ∀ row ∈ state.warehouse.actions.currentRevisions actionId, row.canonicalStatus = .active) ∧
      (2 ≤ (state.warehouse.actions.currentRevisions actionId).length →
        ∀ row ∈ state.warehouse.actions.currentRevisions actionId, row.canonicalStatus = .conflict) := by
  have labelled := runs_labelled path
  refine ⟨?_,?_,?_⟩
  · obtain ⟨row,inside⟩ := List.exists_mem_of_ne_nil _ revised
    obtain ⟨present,acts⟩ := List.mem_filter.mp inside
    obtain ⟨revisionId,other,held,same,_,stands⟩ := labelled.standing row present
    rw [of_decide_eq_true acts] at same
    exact List.ne_nil_of_mem (mem_currentRevisions.mpr ⟨held,same,stands⟩)
  · intro single row inside
    obtain ⟨present,_,standing⟩ := mem_currentRevisions.mp inside
    have written := labelled.sound.written row present
    obtain ⟨only,shape⟩ := List.length_eq_one_iff.mp single
    have quiet : row.canonicalStatus ≠ .conflict := by
      intro conflict
      obtain ⟨other,listed,differs⟩ := (conflict_shared labelled inside).mp conflict
      rw [shape,List.mem_singleton] at listed inside
      exact differs (by rw [listed,inside])
    cases status : row.canonicalStatus <;> simp_all
  · intro several row inside
    apply (conflict_shared labelled inside).mpr
    rcases alone_or_shared labelled inside with alone | shared
    · rw [alone] at several
      exact absurd several (by simp)
    · exact shared

/- When a record trips over the numbers. -/

def refusal (result : Except IngestError α) : Option IngestError :=
  match result with
  | .ok _ => none
  | .error refused => some refused

-- The record breaks UNIQUE(action_id, revision_number) or the revisions' primary key.
def Trips (call : IngestCall) (warehouse : ResearchWarehouse) : Prop :=
  refusal (ingestRecord call warehouse) = some .revisionNumber ∨ refusal (ingestRecord call warehouse) = some .revisionId

instance (call : IngestCall) (warehouse : ResearchWarehouse) : Decidable (Trips call warehouse) :=
  inferInstanceAs (Decidable (_ ∨ _))

-- Content the action has not had meets an action whose latest revision is a
-- current one, and its revision id is free.
def Numberable (call : IngestCall) (anchor : Date) (tables : ActionTables) : Prop :=
  call.existing anchor tables = none → Topped tables (call.actionId anchor tables) ∧
    ∀ row ∈ tables.corporateActions, row.revisionId ≠ revisionIdOf (call.actionId anchor tables) (revisionHash call.record)

section refused
variable {call : IngestCall} {before : ResearchWarehouse}

omit [Platform] in
theorem signalled_refusal {finish : ResearchWarehouse → α}
    (refused : refusal ((insertAffectedRange signal before).bind (fun after => .ok (finish after))) = some reason) :
    reason = .signalId := by
  unfold insertAffectedRange at refused
  split at refused
  · cases refused
    rfl
  · cases refused

theorem reassert_refusal (refused : refusal (reassert call anchor prior actionId existing before) = some reason) :
    reason = .signalId := by
  unfold reassert at refused
  split at refused
  · split at refused
    · exact signalled_refusal refused
    · cases refused
  · cases refused

omit [Platform] in
theorem insertAction_refusal (refused : refusal (insertAction row tables) = some reason) :
    reason = .revisionNumber ∨ reason = .revisionId := by
  unfold insertAction at refused
  split at refused
  · cases refused
    exact .inr rfl
  · split at refused
    · cases refused
      exact .inl rfl
    · cases refused

theorem insertRevision_trips : (refusal (insertRevision call anchor prior actionId before) = some .revisionNumber ∨
      refusal (insertRevision call anchor prior actionId before) = some .revisionId) ↔
      ∃ row ∈ before.actions.corporateActions, row.revisionId = revisionIdOf actionId (revisionHash call.record) ∨
        row.actionId = actionId ∧ row.revisionNumber = before.actions.nextNumber actionId := by
  have inserted := (@insertAction_returns (revisionRow call anchor actionId (prior.map SourceLink.revisionId) before.actions)
    (settled before.actions actionId (prior.map SourceLink.revisionId))).trans
      (not_congr (settled_taken actionId (prior.map SourceLink.revisionId) before.actions _ _))
  rw [← not_iff_not]
  refine Iff.trans ?_ inserted
  unfold insertRevision
  change ¬ (refusal (insertAction (revisionRow call anchor actionId (prior.map SourceLink.revisionId) before.actions)
    (settled before.actions actionId (prior.map SourceLink.revisionId)) >>= _) = _ ∨ refusal (insertAction (revisionRow call
      anchor actionId (prior.map SourceLink.revisionId) before.actions)
        (settled before.actions actionId (prior.map SourceLink.revisionId)) >>= _) = _) ↔ _
  cases added : insertAction (revisionRow call anchor actionId (prior.map SourceLink.revisionId) before.actions)
      (settled before.actions actionId (prior.map SourceLink.revisionId)) with
  | error reason =>
    have kind := insertAction_refusal (congrArg refusal added)
    constructor
    · intro quiet
      exact absurd (kind.imp (fun same => by rw [same]; rfl) (fun same => by rw [same]; rfl)) quiet
    · intro returned
      obtain ⟨result,shape⟩ := returned
      cases shape
  | ok rows =>
    refine ⟨fun _ => ⟨rows,rfl⟩,fun _ trips => ?_⟩
    rcases trips with number | name
    · cases signalled_refusal number
    · cases signalled_refusal name

theorem reconcile_trips : (refusal (reconcile call anchor before) = some .revisionNumber ∨
    refusal (reconcile call anchor before) = some .revisionId) ↔ Obstructed call anchor before.actions := by
  rw [reconcile_exact]
  unfold Obstructed
  cases existing : call.existing anchor before.actions with
  | some row =>
    constructor
    · intro trips
      rcases trips with number | name
      · cases reassert_refusal number
      · cases reassert_refusal name
    · intro obstructed
      cases obstructed.1
  | none =>
    dsimp only
    rw [insertRevision_trips]
    simp

theorem ingest_trips : Trips call before ↔
    ∃ anchor, Accepted call anchor before ∧ Obstructed call anchor (before.observed call).actions := by
  unfold Trips
  by_cases stored : before.actions.stored call.rawEvidenceId = true
  · have quiet : refusal (ingestRecord call before) = none := by
      unfold ingestRecord
      rw [if_pos stored]
      split <;> rfl
    rw [quiet]
    constructor
    · intro trips
      rcases trips with number | name
      · cases number
      · cases name
    · intro obstructed
      obtain ⟨_,accepted,_⟩ := obstructed
      rw [accepted.fresh] at stored
      cases stored
  · have fresh : before.actions.stored call.rawEvidenceId = false := by simpa using stored
    unfold ingestRecord
    rw [if_neg stored]
    dsimp only
    split
    · rename_i anchor valid anchored
      refine Iff.trans reconcile_trips ?_
      constructor
      · intro obstructed
        exact ⟨anchor,⟨fresh,valid,anchored⟩,obstructed⟩
      · intro obstructed
        obtain ⟨other,accepted,obstructed⟩ := obstructed
        rw [accepted.anchored] at anchored
        cases anchored
        exact obstructed
    · rename_i rules anchor rejected
      constructor
      · intro trips
        unfold quarantine at trips
        split at trips
        · rcases trips with number | name
          · cases number
          · cases name
        · rcases trips with number | name
          · cases number
          · cases name
      · intro obstructed
        obtain ⟨other,accepted,_⟩ := obstructed
        exact absurd accepted.anchored (rejected other accepted.valid)

-- In every state a record trips over the numbers exactly when it brings new content
-- to an action whose latest revision has been superseded, or its id is taken.
theorem record_numberable {knownSymbols : List Text} {outcomes : OutcomeTables} {canonicalOhlcv : List CanonicalBar}
    {history : List Event} {state : Reconciled}
    (path : Runs (fun _ => Step) (reconciledStart knownSymbols outcomes canonicalOhlcv) history state) (call : IngestCall) :
    ¬ Trips call state.warehouse ↔
      ∀ anchor, Accepted call anchor state.warehouse → Numberable call anchor (state.warehouse.observed call).actions := by
  have labelled : Labelled (state.warehouse.observed call).actions :=
    labelled_rows (runs_labelled path) rfl (fun link inside => .inl inside)
  rw [ingest_trips,not_exists]
  apply forall_congr'
  intro anchor
  rw [not_and]
  apply imp_congr_right
  intro _
  unfold Obstructed Numberable
  rw [not_and]
  apply imp_congr_right
  intro _
  rw [← nextNumber_free labelled,mem_numbers]
  constructor
  · intro free
    constructor
    · intro taken
      obtain ⟨row,inside,acts,number⟩ := taken
      exact free ⟨row,inside,.inr ⟨acts,number⟩⟩
    · intro row inside named
      exact free ⟨row,inside,.inl named⟩
  · intro free taken
    obtain ⟨row,inside,named | numbered⟩ := taken
    · exact free.2 row inside named
    · exact free.1 ⟨row,inside,numbered⟩

end refused
end ingestion

/- VCI reports a split, corrects its ratio, returns to the first one and corrects it again. -/

def returningCall (now : Int) (version : String) (ratio : Nat) : IngestCall :=
  sampleCall now "VCI" (sampleSplit "split-1" version (marchDay 6 day_6) ratio)

section
attribute [local instance] samplePlatform

def returningState : Reconciled :=
  ((sampleStart.processed (returningCall 1 "h1" 2)).processed (returningCall 2 "h2" 3)).processed (returningCall 3 "h3" 2)

theorem returningState_reached : Runs (fun _ => Step) sampleStart
    [.ingest (returningCall 3 "h3" 2),.ingest (returningCall 2 "h2" 3),.ingest (returningCall 1 "h1" 2)] returningState :=
  .step (.step (.step .nil (processed_step (by decide))) (processed_step (by decide +kernel)))
    (processed_step (by decide +kernel))

theorem returned_number_taken : ¬ ∀ [Platform] (knownSymbols : List Text) (outcomes : OutcomeTables)
    (canonicalOhlcv : List CanonicalBar) (history : List Event) (state : Reconciled) (call : IngestCall),
    Runs (fun _ => Step) (reconciledStart knownSymbols outcomes canonicalOhlcv) history state → ¬ Trips call state.warehouse := by
  intro safe
  apply safe _ _ _ _ _ (returningCall 4 "h4" 4) returningState_reached
  decide +kernel

theorem record_numberable_sample : ¬ Trips (returningCall 4 "h4" 3) returningState.warehouse ↔
    ∀ anchor, Accepted (returningCall 4 "h4" 3) anchor returningState.warehouse →
      Numberable (returningCall 4 "h4" 3) anchor (returningState.warehouse.observed (returningCall 4 "h4" 3)).actions :=
  record_numberable returningState_reached (returningCall 4 "h4" 3)

theorem conflict_labels_exact_sample :
    (returningState.warehouse.actions.corporateActions.map CorporateAction.canonicalStatus) = [.active,.superseded] ∧
      ∀ row ∈ returningState.warehouse.actions.corporateActions,
        returningState.warehouse.actions.currentRevisions row.actionId ≠ [] := by
  refine ⟨by decide +kernel,?_⟩
  intro row inside
  have revised : returningState.warehouse.actions.revisions row.actionId ≠ [] :=
    List.ne_nil_of_mem (List.mem_filter.mpr ⟨inside,decide_eq_true rfl⟩)
  exact (conflict_labels_exact returningState_reached revised).1

end
end OpenStock.CorporateActions
