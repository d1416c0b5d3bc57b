import OpenStock.Foundations.Assertions
import OpenStock.Foundations.Runs
import OpenStock.CorporateActions.Ingested

namespace OpenStock.CorporateActions
open Text Calendar Outcomes Queue Assertions

/- The current revisions of an action and the conflict shown on them. -/

def Current (tables : ActionTables) (actionId revisionId : Text) : Prop :=
  ∃ row ∈ tables.corporateActions, row.actionId = actionId ∧ row.revisionId = revisionId ∧
    row.canonicalStatus ≠ .superseded

-- A current revision is in CONFLICT exactly when its action has another one.
def ConflictShown (tables : ActionTables) : Prop :=
  ∀ row ∈ tables.corporateActions, row.canonicalStatus ≠ .superseded →
    (row.canonicalStatus = .conflict ↔
      ∃ revisionId, revisionId ≠ row.revisionId ∧ Current tables row.actionId revisionId)

-- What holds of the rows of `corporate_action` in every state.
structure Sound [Platform] (tables : ActionTables) : Prop where
  keyed : Rows.Distinct CorporateAction.revisionId tables.corporateActions
  identified : ∀ row ∈ tables.corporateActions, row.revisionId = revisionIdOf row.actionId row.revisionHash
  written : ∀ row ∈ tables.corporateActions, row.canonicalStatus ≠ .current
  shown : ConflictShown tables

variable {row : CorporateAction} {link : SourceLink}

section tables
variable {tables : ActionTables} {actionId earlier revisionId : Text}

theorem listed_current (written : row.canonicalStatus ≠ .current) : row.listed = true ↔ row.canonicalStatus ≠ .superseded := by
  cases status : row.canonicalStatus <;> simp_all [CorporateAction.listed]

-- The action has a current revision besides the two.
def Contested (tables : ActionTables) (actionId earlier revisionId : Text) : Prop :=
  ∃ row ∈ tables.corporateActions, row.actionId = actionId ∧ row.listed = true ∧
    row.revisionId ≠ earlier ∧ row.revisionId ≠ revisionId

instance : Decidable (Contested tables actionId earlier revisionId) :=
  inferInstanceAs (Decidable (∃ row ∈ tables.corporateActions, _))

def returnedStatus (tables : ActionTables) (actionId earlier revisionId : Text) (row : CorporateAction) : CanonicalStatus :=
  if row.revisionId = revisionId then if Contested tables actionId earlier revisionId then .conflict else .active
  else if row.revisionId = earlier then .superseded
  else if row.actionId = actionId ∧ row.listed = true then .conflict
  else row.canonicalStatus

def returnedRow (tables : ActionTables) (actionId earlier revisionId : Text) (row : CorporateAction) : CorporateAction :=
  {row with
    canonicalStatus:=returnedStatus tables actionId earlier revisionId row
    supersededByRevisionId:=if row.revisionId = earlier then some revisionId else row.supersededByRevisionId}

theorem linkSource_actions (tables : ActionTables) (link : SourceLink) :
    (tables.linkSource link).corporateActions = tables.corporateActions := by
  unfold ActionTables.linkSource
  split <;> rfl

theorem superseded_contested (link : SourceLink) :
    (((supersedeSourceRevision tables earlier revisionId).linkSource link).active actionId).any
      (fun row => row.revisionId ≠ revisionId) = true ↔ Contested tables actionId earlier revisionId := by
  simp only [ActionTables.active,linkSource_actions,supersedeSourceRevision,ActionTables.edit,Rows.updateWhere,
    List.any_eq_true,List.mem_filter,List.mem_map]
  constructor
  · rintro ⟨_,⟨⟨row,inside,rfl⟩,selected⟩,other⟩
    by_cases left : row.revisionId = earlier
    · simp [left,CorporateAction.listed] at selected
    · simp only [left,decide_false,Bool.false_eq_true,if_false,Bool.and_eq_true,decide_eq_true_eq] at selected other
      exact ⟨row,inside,selected.1,selected.2,left,other⟩
  · rintro ⟨row,inside,acts,listed,left,other⟩
    exact ⟨row,⟨⟨row,inside,by simp [left]⟩,by simp [acts,listed]⟩,by simpa using other⟩

-- The statements of the branch as one update of each row.
theorem returned_rows [Platform] (call : IngestCall) (differs : earlier ≠ revisionId) :
    (returned call actionId earlier revisionId tables).corporateActions =
      tables.corporateActions.map (returnedRow tables actionId earlier revisionId) := by
  have contested : (((supersedeSourceRevision tables earlier revisionId).linkSource
      (sourceLink call actionId revisionId)).active actionId).any (fun row => row.revisionId ≠ revisionId) =
        decide (Contested tables actionId earlier revisionId) := by
    rw [Bool.eq_iff_iff,superseded_contested,decide_eq_true_eq]
  unfold returned refreshCurrentRevisionStatuses
  simp only [contested,decide_eq_true_eq]
  by_cases disputed : Contested tables actionId earlier revisionId
  · simp only [if_pos disputed,ActionTables.setStatus,ActionTables.edit,Rows.updateWhere,linkSource_actions,
      supersedeSourceRevision,List.map_map]
    apply List.map_congr_left
    intro row _
    by_cases same : row.revisionId = revisionId
    · have stays : row.revisionId ≠ earlier := fun equal => differs (equal.symm.trans same)
      have apart : revisionId ≠ earlier := fun equal => differs equal.symm
      simp [returnedRow,returnedStatus,same,apart,disputed]
    · by_cases left : row.revisionId = earlier
      · simp [returnedRow,returnedStatus,left,differs,CorporateAction.listed]
      · by_cases acts : row.actionId = actionId ∧ row.listed = true <;>
          simp [returnedRow,returnedStatus,same,left,acts]
  · simp only [if_neg disputed,ActionTables.setStatus,ActionTables.edit,Rows.updateWhere,linkSource_actions,
      supersedeSourceRevision,List.map_map]
    apply List.map_congr_left
    intro row inside
    by_cases same : row.revisionId = revisionId
    · have apart : revisionId ≠ earlier := fun equal => differs equal.symm
      simp [returnedRow,returnedStatus,same,apart,disputed]
    · by_cases left : row.revisionId = earlier
      · simp [returnedRow,returnedStatus,left,differs]
      · have quiet : ¬ (row.actionId = actionId ∧ row.listed = true) := by
          rintro ⟨acts,listed⟩
          exact disputed ⟨row,inside,acts,listed,left,same⟩
        simp [returnedRow,returnedStatus,same,left,quiet]

def revisedStatus (actionId : Text) (supersedes : Option Text) (row : CorporateAction) : CanonicalStatus :=
  if some row.revisionId = supersedes then .superseded
  else if row.actionId = actionId ∧ row.listed = true then .conflict
  else row.canonicalStatus

def revisedRow (actionId : Text) (supersedes : Option Text) (revisionId : Text) (row : CorporateAction) : CorporateAction :=
  {row with
    canonicalStatus:=revisedStatus actionId supersedes row
    supersededByRevisionId:=if some row.revisionId = supersedes then some revisionId else row.supersededByRevisionId}

theorem mem_remaining (keyed : Rows.Distinct CorporateAction.revisionId tables.corporateActions)
    (inside : row ∈ tables.corporateActions) :
    row.revisionId ∈ (tables.remaining actionId supersedes).map CorporateAction.revisionId ↔
      (row.actionId = actionId ∧ row.listed = true) ∧ some row.revisionId ≠ supersedes := by
  simp only [ActionTables.remaining,ActionTables.active,List.mem_map,List.mem_filter,Bool.and_eq_true,decide_eq_true_eq]
  constructor
  · rintro ⟨other,⟨⟨present,selected⟩,stays⟩,same⟩
    rw [Rows.same_row keyed present inside same] at selected stays
    exact ⟨selected,stays⟩
  · rintro ⟨selected,stays⟩
    exact ⟨row,⟨⟨inside,selected⟩,stays⟩,rfl⟩

variable {new : CorporateAction}

theorem revised_rows [Platform] (call : IngestCall) (keyed : Rows.Distinct CorporateAction.revisionId tables.corporateActions)
    (apart : some new.revisionId ≠ supersedes) : (revised call new supersedes tables).corporateActions =
      tables.corporateActions.map (revisedRow new.actionId supersedes new.revisionId) ++ [new] := by
  unfold revised settled
  simp only [linkSource_actions,ActionTables.setStatus,ActionTables.edit,Rows.updateWhere,List.map_append,List.map_map]
  congr 1
  · apply List.map_congr_left
    intro row inside
    have stays : row.revisionId ∈ (tables.remaining new.actionId supersedes).map CorporateAction.revisionId ↔ _ :=
      mem_remaining keyed inside
    by_cases left : some row.revisionId = supersedes
    · have gone : row.revisionId ∉ (tables.remaining new.actionId supersedes).map CorporateAction.revisionId :=
        fun listed => (stays.mp listed).2 left
      simp [-List.mem_map,revisedRow,revisedStatus,left,gone]
    · by_cases acts : row.actionId = new.actionId ∧ row.listed = true
      · have listed := stays.mpr ⟨acts,left⟩
        simp [-List.mem_map,revisedRow,revisedStatus,left,acts,listed]
      · have absent : row.revisionId ∉ (tables.remaining new.actionId supersedes).map CorporateAction.revisionId :=
          fun listed => acts (stays.mp listed).1
        simp [-List.mem_map,revisedRow,revisedStatus,left,acts,absent]
  · simp [apart]

/- Which revisions are current afterwards. -/

variable {action revision : Text}

theorem current_map (rows : after.corporateActions = tables.corporateActions.map change)
    (kept : ∀ row, (change row).actionId = row.actionId ∧ (change row).revisionId = row.revisionId) :
    Current after action revision ↔ ∃ row ∈ tables.corporateActions,
      row.actionId = action ∧ row.revisionId = revision ∧ (change row).canonicalStatus ≠ .superseded := by
  unfold Current
  rw [rows]
  constructor
  · rintro ⟨_,inside,acts,named,standing⟩
    obtain ⟨row,present,rfl⟩ := List.mem_map.mp inside
    exact ⟨row,present,(kept row).1.symm.trans acts,(kept row).2.symm.trans named,standing⟩
  · rintro ⟨row,present,acts,named,standing⟩
    exact ⟨change row,List.mem_map_of_mem present,(kept row).1.trans acts,(kept row).2.trans named,standing⟩

theorem returnedStatus_standing (other : row.revisionId ≠ revisionId) (stays : row.revisionId ≠ earlier) :
    returnedStatus tables actionId earlier revisionId row ≠ .superseded ↔ row.canonicalStatus ≠ .superseded := by
  rw [returnedStatus,if_neg other,if_neg stays]
  split
  · rename_i listed
    have standing : row.canonicalStatus ≠ .superseded := by
      intro gone
      simp [CorporateAction.listed,gone] at listed
    simp [standing]
  · rfl

variable {target prior : CorporateAction}

theorem returned_current [Platform] (call : IngestCall) (differs : earlier ≠ revisionId)
    (keyed : Rows.Distinct CorporateAction.revisionId tables.corporateActions) (present : target ∈ tables.corporateActions)
    (named : target.actionId = actionId ∧ target.revisionId = revisionId)
    (held : prior ∈ tables.corporateActions) (left : prior.actionId = actionId ∧ prior.revisionId = earlier) :
    Current (returned call actionId earlier revisionId tables) action revision ↔ (action = actionId ∧ revision = revisionId) ∨
        (Current tables action revision ∧ ¬ (action = actionId ∧ revision = earlier)) := by
  rw [current_map (returned_rows call differs) (fun row => ⟨rfl,rfl⟩)]
  constructor
  · rintro ⟨row,inside,rfl,rfl,standing⟩
    by_cases same : row.revisionId = revisionId
    · have equal := Rows.same_row keyed inside present (same.trans named.2.symm)
      exact .inl ⟨equal ▸ named.1,same⟩
    · by_cases gone : row.revisionId = earlier
      · simp [returnedRow,returnedStatus,gone,differs] at standing
      · refine .inr ⟨⟨row,inside,rfl,rfl,(returnedStatus_standing same gone).mp standing⟩,?_⟩
        rintro ⟨_,equal⟩
        exact gone equal
  · rintro (⟨rfl,rfl⟩ | ⟨⟨row,inside,rfl,rfl,standing⟩,stays⟩)
    · refine ⟨target,present,named.1,named.2,?_⟩
      simp only [returnedRow,returnedStatus,if_pos named.2]
      split <;> simp
    · refine ⟨row,inside,rfl,rfl,?_⟩
      by_cases same : row.revisionId = revisionId
      · simp only [returnedRow,returnedStatus,if_pos same]
        split <;> simp
      · have other : row.revisionId ≠ earlier := by
          intro equal
          have twin := Rows.same_row keyed inside held (equal.trans left.2.symm)
          exact stays ⟨twin ▸ left.1,equal⟩
        exact (returnedStatus_standing same other).mpr standing

theorem revisedStatus_standing (stays : some row.revisionId ≠ supersedes) :
    revisedStatus actionId supersedes row ≠ .superseded ↔ row.canonicalStatus ≠ .superseded := by
  rw [revisedStatus,if_neg stays]
  split
  · rename_i listed
    have standing : row.canonicalStatus ≠ .superseded := by
      intro gone
      simp [CorporateAction.listed,gone] at listed
    simp [standing]
  · rfl

theorem revised_current [Platform] (call : IngestCall)
    (keyed : Rows.Distinct CorporateAction.revisionId tables.corporateActions)
    (apart : some new.revisionId ≠ supersedes) (standing : new.canonicalStatus ≠ .superseded) :
    Current (revised call new supersedes tables) action revision ↔ (action = new.actionId ∧ revision = new.revisionId) ∨
        (Current tables action revision ∧ some revision ≠ supersedes) := by
  unfold Current
  rw [revised_rows call keyed apart]
  constructor
  · rintro ⟨row,inside,rfl,rfl,stands⟩
    rcases List.mem_append.mp inside with earlier | latest
    · obtain ⟨source,present,rfl⟩ := List.mem_map.mp earlier
      have stays : some source.revisionId ≠ supersedes := by
        intro left
        simp [revisedRow,revisedStatus,left] at stands
      exact .inr ⟨⟨source,present,rfl,rfl,(revisedStatus_standing stays).mp stands⟩,stays⟩
    · rw [List.mem_singleton.mp latest]
      exact .inl ⟨rfl,rfl⟩
  · rintro (⟨rfl,rfl⟩ | ⟨⟨row,present,rfl,rfl,stands⟩,stays⟩)
    · exact ⟨new,List.mem_append_right _ (List.mem_singleton_self new),rfl,rfl,standing⟩
    · refine ⟨revisedRow new.actionId supersedes new.revisionId row,?_,rfl,rfl,(revisedStatus_standing stays).mpr stands⟩
      exact List.mem_append_left _ (List.mem_map_of_mem present)

/- The conflict shown afterwards: on the action touched every current revision but
the preferred one is set to CONFLICT, the others keep their rows. -/

theorem shown_after (shown : ConflictShown tables) (preferred : Current after actionId revisionId)
    (elsewhere : ∀ action revision, action ≠ actionId → (Current after action revision ↔ Current tables action revision))
    (rows : ∀ row ∈ after.corporateActions, row.canonicalStatus ≠ .superseded →
      (row.actionId ≠ actionId ∧ ∃ source ∈ tables.corporateActions, source.actionId = row.actionId ∧
        source.revisionId = row.revisionId ∧ source.canonicalStatus = row.canonicalStatus) ∨
      (row.actionId = actionId ∧ row.revisionId ≠ revisionId ∧ row.canonicalStatus = .conflict) ∨
      (row.actionId = actionId ∧ row.revisionId = revisionId ∧ (row.canonicalStatus = .conflict ↔
        ∃ other, other ≠ revisionId ∧ Current after actionId other))) : ConflictShown after := by
  intro row inside standing
  rcases rows row inside standing with ⟨apart,source,present,acts,named,status⟩ | ⟨acts,other,conflict⟩ | ⟨acts,same,status⟩
  · have before := shown source present (status ▸ standing)
    rw [status,named,acts] at before
    rw [before]
    apply exists_congr
    intro revision
    rw [elsewhere row.actionId revision apart]
  · rw [acts]
    exact ⟨fun _ => ⟨revisionId,fun equal => other equal.symm,preferred⟩,fun _ => conflict⟩
  · rw [acts,same]
    exact status

theorem current_rows (same : after.corporateActions = tables.corporateActions) :
    Current after action revision ↔ Current tables action revision := by
  unfold Current
  rw [same]

theorem sound_rows [Platform] (same : after.corporateActions = tables.corporateActions)
    (sound : Sound tables) : Sound after := by
  refine ⟨same ▸ sound.keyed,same ▸ sound.identified,same ▸ sound.written,?_⟩
  intro row inside standing
  rw [same] at inside
  rw [sound.shown row inside standing]
  simp only [current_rows same]

theorem contested_current (written : ∀ row ∈ tables.corporateActions, row.canonicalStatus ≠ .current) :
    Contested tables actionId earlier revisionId ↔
      ∃ other, other ≠ revisionId ∧ other ≠ earlier ∧ Current tables actionId other := by
  constructor
  · rintro ⟨row,inside,acts,listed,stays,other⟩
    exact ⟨row.revisionId,other,stays,row,inside,acts,rfl,(listed_current (written row inside)).mp listed⟩
  · rintro ⟨_,other,stays,row,inside,acts,rfl,standing⟩
    exact ⟨row,inside,acts,(listed_current (written row inside)).mpr standing,stays,other⟩

theorem returned_sound [Platform] (call : IngestCall) (sound : Sound tables) (differs : earlier ≠ revisionId)
    (present : target ∈ tables.corporateActions) (named : target.actionId = actionId ∧ target.revisionId = revisionId)
    (held : prior ∈ tables.corporateActions) (left : prior.actionId = actionId ∧ prior.revisionId = earlier) :
    Sound (returned call actionId earlier revisionId tables) := by
  have rows : (returned call actionId earlier revisionId tables).corporateActions = _ := returned_rows call differs
  have current : ∀ {action revision : Text}, Current (returned call actionId earlier revisionId tables) action revision ↔ _ :=
    returned_current call differs sound.keyed present named held left
  refine ⟨?_,?_,?_,?_⟩
  · have ids := returned_contents call actionId earlier revisionId tables
    have same := congrArg (List.map CorporateAction.revisionId) ids
    rw [contents_ids,contents_ids] at same
    rw [Rows.Distinct,same]
    exact sound.keyed
  · intro row inside
    rw [rows] at inside
    obtain ⟨source,member,rfl⟩ := List.mem_map.mp inside
    exact sound.identified source member
  · intro row inside
    rw [rows] at inside
    obtain ⟨source,member,rfl⟩ := List.mem_map.mp inside
    simp only [returnedRow,returnedStatus]
    split
    · split <;> simp
    · split
      · simp
      · split
        · simp
        · exact sound.written source member
  · refine shown_after sound.shown (current.mpr (.inl ⟨rfl,rfl⟩)) ?_ ?_
    · intro action revision apart
      rw [current]
      simp [apart]
    · intro row inside standing
      rw [rows] at inside
      obtain ⟨source,member,rfl⟩ := List.mem_map.mp inside
      by_cases same : source.revisionId = revisionId
      · have equal := Rows.same_row sound.keyed member present (same.trans named.2.symm)
        refine .inr (.inr ⟨equal ▸ named.1,same,?_⟩)
        have status : (returnedRow tables actionId earlier revisionId source).canonicalStatus = .conflict ↔
            Contested tables actionId earlier revisionId := by
          simp only [returnedRow,returnedStatus,if_pos same]
          split <;> simp_all
        rw [status,contested_current sound.written]
        apply exists_congr
        intro other
        rw [current]
        simp only [true_and]
        tauto
      · have other : source.revisionId ≠ earlier := by
          intro gone
          simp [returnedRow,returnedStatus,gone,differs] at standing
        have before := (returnedStatus_standing same other).mp standing
        by_cases acts : source.actionId = actionId
        · have listed := (listed_current (sound.written source member)).mpr before
          refine .inr (.inl ⟨acts,same,?_⟩)
          simp [returnedRow,returnedStatus,same,other,acts,listed]
        · refine .inl ⟨acts,source,member,rfl,rfl,?_⟩
          simp [returnedRow,returnedStatus,same,other,acts]

theorem remaining_empty (written : ∀ row ∈ tables.corporateActions, row.canonicalStatus ≠ .current) :
    (tables.remaining actionId supersedes).isEmpty = false ↔
      ∃ revision, some revision ≠ supersedes ∧ Current tables actionId revision := by
  simp only [List.isEmpty_eq_false_iff_exists_mem,ActionTables.remaining,ActionTables.active,List.mem_filter,
    Bool.and_eq_true,decide_eq_true_eq]
  constructor
  · rintro ⟨row,⟨inside,acts,listed⟩,stays⟩
    exact ⟨row.revisionId,stays,row,inside,acts,rfl,(listed_current (written row inside)).mp listed⟩
  · rintro ⟨_,stays,row,inside,acts,rfl,standing⟩
    exact ⟨row,⟨inside,acts,(listed_current (written row inside)).mpr standing⟩,stays⟩

theorem revised_sound [Platform] (call : IngestCall) (sound : Sound tables)
    (apart : some new.revisionId ≠ supersedes) (fresh : ∀ other ∈ tables.corporateActions, other.revisionId ≠ new.revisionId)
    (identified : new.revisionId = revisionIdOf new.actionId new.revisionHash)
    (status : new.canonicalStatus = if (tables.remaining new.actionId supersedes).isEmpty then .active else .conflict)
    (left : ∀ row ∈ tables.corporateActions, some row.revisionId = supersedes → row.actionId = new.actionId) :
    Sound (revised call new supersedes tables) := by
  have rows := revised_rows call sound.keyed apart
  have standing : new.canonicalStatus ≠ .superseded := by
    rw [status]
    split <;> simp
  have current : ∀ {action revision : Text}, Current (revised call new supersedes tables) action revision ↔ _ :=
    revised_current call sound.keyed apart standing
  refine ⟨?_,?_,?_,?_⟩
  · have ids := congrArg (List.map CorporateAction.revisionId) (revised_contents call new supersedes tables)
    rw [contents_ids,List.map_append,contents_ids] at ids
    rw [Rows.Distinct,ids]
    have extended := Rows.append_distinct sound.keyed fresh
    rw [Rows.Distinct,List.map_append] at extended
    exact extended
  · intro row inside
    rw [rows] at inside
    rcases List.mem_append.mp inside with earlier | latest
    · obtain ⟨source,member,rfl⟩ := List.mem_map.mp earlier
      exact sound.identified source member
    · rw [List.mem_singleton.mp latest]
      exact identified
  · intro row inside
    rw [rows] at inside
    rcases List.mem_append.mp inside with earlier | latest
    · obtain ⟨source,member,rfl⟩ := List.mem_map.mp earlier
      simp only [revisedRow,revisedStatus]
      split
      · simp
      · split
        · simp
        · exact sound.written source member
    · rw [List.mem_singleton.mp latest,status]
      split <;> simp
  · refine shown_after sound.shown (current.mpr (.inl ⟨rfl,rfl⟩)) ?_ ?_
    · intro action revision other
      rw [current]
      simp only [other,false_and,false_or]
      constructor
      · exact And.left
      · intro before
        refine ⟨before,?_⟩
        intro gone
        obtain ⟨row,inside,acts,named,_⟩ := before
        exact other (acts ▸ left row inside (named ▸ gone))
    · intro row inside stands
      rw [rows] at inside
      rcases List.mem_append.mp inside with earlier | latest
      · obtain ⟨source,member,rfl⟩ := List.mem_map.mp earlier
        have stays : some source.revisionId ≠ supersedes := by
          intro gone
          simp [revisedRow,revisedStatus,gone] at stands
        have before := (revisedStatus_standing stays).mp stands
        by_cases acts : source.actionId = new.actionId
        · have listed := (listed_current (sound.written source member)).mpr before
          refine .inr (.inl ⟨acts,fresh source member,?_⟩)
          simp [revisedRow,revisedStatus,stays,acts,listed]
        · refine .inl ⟨acts,source,member,rfl,rfl,?_⟩
          simp [revisedRow,revisedStatus,stays,acts]
      · rw [List.mem_singleton.mp latest]
        refine .inr (.inr ⟨rfl,rfl,?_⟩)
        have conflict : new.canonicalStatus = .conflict ↔ (tables.remaining new.actionId supersedes).isEmpty = false := by
          rw [status]
          split <;> simp_all
        rw [conflict,remaining_empty sound.written]
        apply exists_congr
        intro other
        rw [current]
        constructor
        · rintro ⟨stays,before⟩
          have unused : other ≠ new.revisionId := by
            obtain ⟨row,inside,_,named,_⟩ := before
            exact named ▸ fresh row inside
          exact ⟨unused,.inr ⟨before,stays⟩⟩
        · rintro ⟨differs,⟨_,same⟩ | ⟨before,stays⟩⟩
          · exact absurd same differs
          · exact ⟨stays,before⟩

/- Which link of a source is its latest. -/

theorem fresh_evidence (fresh : tables.stored rawEvidenceId = false) {raw : RawEvidence} (inside : raw ∈ tables.rawEvidence) :
    raw.rawEvidenceId ≠ rawEvidenceId := by
  intro same
  have stored : tables.stored rawEvidenceId = true := List.any_eq_true.mpr ⟨raw,inside,by simpa using same⟩
  rw [fresh] at stored
  cases stored

theorem linkSource_evidence (tables : ActionTables) (link : SourceLink) :
    (tables.linkSource link).rawEvidence = tables.rawEvidence := by
  unfold ActionTables.linkSource
  split <;> rfl

theorem linkSource_links {left right : ActionTables} (same : left.sourceLinks = right.sourceLinks) (link : SourceLink) :
    (left.linkSource link).sourceLinks = (right.linkSource link).sourceLinks := by
  unfold ActionTables.linkSource
  rw [same]
  split
  · exact same
  · rfl

theorem refresh_links (tables : ActionTables) (actionId revisionId : Text) :
    (refreshCurrentRevisionStatuses tables actionId revisionId).1.sourceLinks = tables.sourceLinks ∧
      (refreshCurrentRevisionStatuses tables actionId revisionId).1.rawEvidence = tables.rawEvidence := by
  simp only [refreshCurrentRevisionStatuses]
  split <;> exact ⟨rfl,rfl⟩

theorem returned_links [Platform] (call : IngestCall) (tables : ActionTables) (actionId earlier revisionId : Text) :
    (returned call actionId earlier revisionId tables).sourceLinks =
        (tables.linkSource (sourceLink call actionId revisionId)).sourceLinks ∧
      (returned call actionId earlier revisionId tables).rawEvidence = tables.rawEvidence := by
  unfold returned
  rw [(refresh_links _ _ _).1,(refresh_links _ _ _).2]
  constructor
  · apply linkSource_links
    rfl
  · exact linkSource_evidence _ _

theorem revised_links [Platform] (call : IngestCall) (tables : ActionTables) (new : CorporateAction) (supersedes : Option Text) :
    (revised call new supersedes tables).sourceLinks =
        (tables.linkSource (sourceLink call new.actionId new.revisionId)).sourceLinks ∧
      (revised call new supersedes tables).rawEvidence = tables.rawEvidence := by
  unfold revised
  constructor
  · apply linkSource_links
    rfl
  · exact linkSource_evidence _ _

section links
variable {raw : RawEvidence} (fresh : tables.stored raw.rawEvidenceId = false)
  (evidenced : ∀ link ∈ tables.sourceLinks, tables.stored link.rawEvidenceId = true)

include fresh evidenced

theorem linkedEvidence_observed (provider providerEventId : Text) :
    (tables.addEvidence raw).linkedEvidence provider providerEventId = tables.linkedEvidence provider providerEventId := by
  unfold ActionTables.linkedEvidence ActionTables.addEvidence
  apply List.flatMap_congr
  intro link inside
  have other : raw.rawEvidenceId ≠ link.rawEvidenceId := by
    intro same
    have stored := evidenced link (List.mem_filter.mp inside).1
    rw [← same,fresh] at stored
    cases stored
  simp [other]

theorem linkSource_fresh (own : link.rawEvidenceId = raw.rawEvidenceId) :
    ((tables.addEvidence raw).linkSource link).sourceLinks = tables.sourceLinks ++ [link] := by
  unfold ActionTables.linkSource
  rw [if_neg]
  · rfl
  · intro linked
    obtain ⟨other,inside,same⟩ := List.any_eq_true.mp linked
    simp only [Bool.and_eq_true,decide_eq_true_eq] at same
    have stored := evidenced other inside
    rw [same.2,own,fresh] at stored
    cases stored

theorem linkedEvidence_linked {after : ActionTables} (own : link.rawEvidenceId = raw.rawEvidenceId)
    (links : after.sourceLinks = tables.sourceLinks ++ [link]) (observed : after.rawEvidence = tables.rawEvidence ++ [raw])
    (provider providerEventId : Text) :
    after.linkedEvidence provider providerEventId = tables.linkedEvidence provider providerEventId ++
      if link.provider = provider ∧ link.providerEventId = providerEventId then [(link,raw)] else [] := by
  have joined : after.rawEvidence.filter (fun other => other.rawEvidenceId = link.rawEvidenceId) = [raw] := by
    have others : tables.rawEvidence.filter (fun other => other.rawEvidenceId = link.rawEvidenceId) = [] := by
      rw [List.filter_eq_nil_iff]
      intro other inside same
      exact fresh_evidence fresh inside ((of_decide_eq_true same).trans own)
    rw [observed,List.filter_append,others]
    simp [own]
  have earlier := linkedEvidence_observed fresh evidenced provider providerEventId
  unfold ActionTables.linkedEvidence ActionTables.addEvidence at earlier
  rw [ActionTables.linkedEvidence,links,List.filter_append,List.flatMap_append,observed,earlier]
  congr 1
  rw [List.filter_singleton]
  by_cases mine : link.provider = provider ∧ link.providerEventId = providerEventId
  · rw [observed] at joined
    simp only [mine,and_self,decide_true,cond_true,if_true,List.flatMap_singleton,joined,List.map_singleton]
  · simp [mine]

theorem priorLink_linked {after : ActionTables} (own : link.rawEvidenceId = raw.rawEvidenceId)
    (links : after.sourceLinks = tables.sourceLinks ++ [link]) (observed : after.rawEvidence = tables.rawEvidence ++ [raw])
    (later : ∀ pair ∈ tables.linkedEvidence link.provider link.providerEventId, observedLater (link,raw) pair = true)
    (provider providerEventId : Text) : after.priorLink provider providerEventId =
      if link.provider = provider ∧ link.providerEventId = providerEventId then some link
      else tables.priorLink provider providerEventId := by
  unfold ActionTables.priorLink
  rw [linkedEvidence_linked fresh evidenced own links observed]
  split
  · rename_i mine
    obtain ⟨rfl,rfl⟩ := mine
    rw [Rows.firstBy_leader later]
    rfl
  · rw [List.append_nil]

end links

end tables

/- The sources' own account: what each asserted last. -/

structure Source where
  provider : Text
  providerEventId : Text
deriving DecidableEq

@[ext]
structure Assertion where
  actionId : Text
  revisionId : Text
deriving DecidableEq

abbrev Ledger := Source → Option Assertion

def IngestCall.source (call : IngestCall) : Source := ⟨call.provider,call.providerEventId⟩

def SourceLink.assertion (link : SourceLink) : Assertion := ⟨link.actionId,link.revisionId⟩

section ledger
variable [Platform]

-- A source keeps the action of its first record; its content names the revision.
def IngestCall.asserts (call : IngestCall) (anchor : Date) (ledger : Ledger) : Assertion :=
  let actionId := actionIdOf call anchor ((ledger call.source).map Assertion.actionId)
  ⟨actionId,revisionIdOf actionId (revisionHash call.record)⟩

-- A record that no rule rejects is the source's latest word.
def Ledger.heard (ledger : Ledger) (tables : ActionTables) (call : IngestCall) : Ledger :=
  match validationRules tables call.record call.requestedSymbol,anchorDate call.record with
  | [],some anchor => say ledger call.source (call.asserts anchor ledger)
  | _,_ => ledger

structure Reconciled where
  warehouse : ResearchWarehouse
  ledger : Ledger

inductive Event where
  | ingest (call : IngestCall)
  | elsewhere (knownSymbols : List Text) (quarantined : List Quarantine) (affectedRanges : List AffectedRange)
      (outcomes : OutcomeTables) (canonicalOhlcv : List CanonicalBar)

-- A processed record, or anything that leaves actions, links and evidence alone.
inductive Step : Reconciled → Event → Reconciled → Prop where
  | ingest (ran : ingestRecord call before.warehouse = .ok (after,outcome)) :
      Step before (.ingest call) ⟨after,before.ledger.heard before.warehouse.actions call⟩
  | elsewhere : Step before (.elsewhere knownSymbols quarantined affectedRanges outcomes canonicalOhlcv)
      ⟨⟨{before.warehouse.actions with
          knownSymbols:=knownSymbols,quarantine:=quarantined,affectedRanges:=affectedRanges},outcomes,canonicalOhlcv⟩,
        before.ledger⟩

def Reconciled.Truthful (state : Reconciled) : Prop :=
  ∀ actionId revisionId, Current state.warehouse.actions actionId revisionId ↔ Asserted state.ledger ⟨actionId,revisionId⟩

-- The records the code reconciles rightly: a payload seen before repeats the
-- source's latest word; a source leaves no revision another source asserts; a new
-- source joins no superseded revision; the evidence is observed after the source's
-- earlier evidence.
structure Undisturbed (before : Reconciled) (call : IngestCall) (anchor : Date) : Prop where
  seen : before.warehouse.actions.stored call.rawEvidenceId = true →
    before.ledger call.source = some (call.asserts anchor before.ledger)
  alone : before.warehouse.actions.stored call.rawEvidenceId = false →
    ∀ left, before.ledger call.source = some left → left ≠ call.asserts anchor before.ledger →
      ∀ source, before.ledger source = some left → source = call.source
  joined : before.warehouse.actions.stored call.rawEvidenceId = false → before.ledger call.source = none →
    ∀ row ∈ before.warehouse.actions.corporateActions, row.actionId = (call.asserts anchor before.ledger).actionId →
      row.revisionId = (call.asserts anchor before.ledger).revisionId → row.canonicalStatus ≠ .superseded
  later : before.warehouse.actions.stored call.rawEvidenceId = false →
    ∀ pair ∈ before.warehouse.actions.linkedEvidence call.provider call.providerEventId,
      pair.2.observedAt < call.context.now ∨
        (pair.2.observedAt = call.context.now ∧ pair.1.rawEvidenceId < call.rawEvidenceId)

def StepCondition (before : Reconciled) : Event → Prop
  | .ingest call => ∀ anchor,
      validationRules before.warehouse.actions call.record call.requestedSymbol = [] →
      anchorDate call.record = some anchor → Undisturbed before call anchor
  | .elsewhere .. => True

-- The tables and the sources' account agree.
structure Reconciled.Consistent (state : Reconciled) : Prop where
  sound : Sound state.warehouse.actions
  evidenced : ∀ link ∈ state.warehouse.actions.sourceLinks, state.warehouse.actions.stored link.rawEvidenceId = true
  linked : ∀ source, (state.warehouse.actions.priorLink source.provider source.providerEventId).map SourceLink.assertion =
    state.ledger source
  truthful : state.Truthful

variable {ledger : Ledger} {tables : ActionTables}

theorem heard_valid
    (valid : validationRules tables call.record call.requestedSymbol = []) (anchored : anchorDate call.record = some anchor) :
    ledger.heard tables call = say ledger call.source (call.asserts anchor ledger) := by
  unfold Ledger.heard
  rw [valid,anchored]

theorem heard_rejected (rejected : validationRules tables call.record call.requestedSymbol ≠ []) :
    ledger.heard tables call = ledger := by
  unfold Ledger.heard
  split
  · rename_i valid _
    exact absurd valid rejected
  · rfl

variable {call : IngestCall}

-- The code and the account identify the action alike.
theorem asserts_actionId
    (linked : (tables.priorLink call.provider call.providerEventId).map SourceLink.assertion = ledger call.source) :
    call.actionId anchor tables = (call.asserts anchor ledger).actionId := by
  have same : (call.prior tables).map SourceLink.actionId = (ledger call.source).map Assertion.actionId := by
    rw [← linked,Option.map_map]
    rfl
  rw [IngestCall.actionId,same]
  rfl

theorem asserts_known (said : ledger call.source = some earlier) :
    (call.asserts anchor ledger).actionId = earlier.actionId := by
  simp [IngestCall.asserts,said,actionIdOf]

section accepted
variable {state : Reconciled} {call : IngestCall} {anchor : Date} (consistent : state.Consistent)
  (accepted : Accepted call anchor state.warehouse) (undisturbed : Undisturbed state call anchor)

include consistent accepted

theorem observed_prior : call.prior (state.warehouse.observed call).actions = call.prior state.warehouse.actions := by
  unfold IngestCall.prior ActionTables.priorLink
  rw [ResearchWarehouse.observed,linkedEvidence_observed accepted.fresh consistent.evidenced]

theorem observed_actionId :
    call.actionId anchor (state.warehouse.observed call).actions = (call.asserts anchor state.ledger).actionId := by
  rw [IngestCall.actionId,observed_prior consistent accepted]
  exact asserts_actionId (consistent.linked call.source)

theorem prior_ledger (prior : call.prior (state.warehouse.observed call).actions = some link) :
    state.ledger call.source = some link.assertion := by
  rw [observed_prior consistent accepted] at prior
  rw [← consistent.linked call.source]
  exact congrArg (Option.map SourceLink.assertion) prior

theorem prior_silent (prior : call.prior (state.warehouse.observed call).actions = none) : state.ledger call.source = none := by
  rw [observed_prior consistent accepted] at prior
  rw [← consistent.linked call.source]
  exact congrArg (Option.map SourceLink.assertion) prior

include undisturbed

-- The new link becomes the source's latest.
theorem linked_after {after : ActionTables} {link : SourceLink}
    (from_ : link.provider = call.provider ∧ link.providerEventId = call.providerEventId ∧
      link.rawEvidenceId = call.rawEvidenceId) (asserted : link.assertion = call.asserts anchor state.ledger)
    (links : after.sourceLinks = ((state.warehouse.observed call).actions.linkSource link).sourceLinks)
    (observed : after.rawEvidence = (state.warehouse.observed call).actions.rawEvidence) :
    (∀ other ∈ after.sourceLinks, after.stored other.rawEvidenceId = true) ∧
      ∀ source, (after.priorLink source.provider source.providerEventId).map SourceLink.assertion =
        say state.ledger call.source (call.asserts anchor state.ledger) source := by
  obtain ⟨provided,named,evidence⟩ := from_
  have listed : after.sourceLinks = state.warehouse.actions.sourceLinks ++ [link] :=
    links.trans (linkSource_fresh accepted.fresh consistent.evidenced evidence)
  have raised : after.rawEvidence = state.warehouse.actions.rawEvidence ++ [call.rawEvidence] := observed
  constructor
  · intro other inside
    rw [listed] at inside
    rw [ActionTables.stored,raised,List.any_append,Bool.or_eq_true]
    rcases List.mem_append.mp inside with earlier | latest
    · exact .inl (consistent.evidenced other earlier)
    · rw [List.mem_singleton.mp latest,evidence]
      exact .inr (by simp [IngestCall.rawEvidence])
  · intro source
    have later : ∀ pair ∈ state.warehouse.actions.linkedEvidence link.provider link.providerEventId,
        observedLater (link,call.rawEvidence) pair = true := by
      rw [provided,named]
      intro pair inside
      have ordered := undisturbed.later accepted.fresh pair inside
      simp only [observedLater,Bool.or_eq_true,Bool.and_eq_true,decide_eq_true_eq,evidence]
      exact ordered
    rw [priorLink_linked accepted.fresh consistent.evidenced evidence listed raised later]
    by_cases mine : source = call.source
    · rw [mine,say_source,if_pos ⟨provided,named⟩,← asserted]
      rfl
    · have apart : ¬ (link.provider = source.provider ∧ link.providerEventId = source.providerEventId) := by
        rintro ⟨sameProvider,sameEvent⟩
        apply mine
        cases source
        simp only [IngestCall.source,Source.mk.injEq]
        exact ⟨sameProvider.symm.trans provided,sameEvent.symm.trans named⟩
      rw [say_rest mine,if_neg apart]
      exact consistent.linked source

end accepted

section branches
variable {state : Reconciled} {call : IngestCall} {anchor : Date} (consistent : state.Consistent)
  (accepted : Accepted call anchor state.warehouse) (undisturbed : Undisturbed state call anchor)

include consistent

theorem quarantined_consistent (fresh : state.warehouse.actions.stored call.rawEvidenceId = false) (rows : List Quarantine) :
    Reconciled.Consistent ⟨{state.warehouse.observed call with
      actions:={(state.warehouse.observed call).actions with quarantine:=rows}},state.ledger⟩ := by
  refine ⟨sound_rows (by rfl) consistent.sound,?_,?_,consistent.truthful⟩
  · intro link inside
    exact List.any_append.trans (by rw [← ActionTables.stored,consistent.evidenced link inside,Bool.true_or])
  · intro source
    have unstored : state.warehouse.actions.stored call.rawEvidence.rawEvidenceId = false := fresh
    have pairs := linkedEvidence_observed unstored consistent.evidenced source.provider source.providerEventId
    rw [← consistent.linked source]
    exact congrArg (fun pairs => ((Rows.firstBy observedLater pairs).map Prod.fst).map SourceLink.assertion) pairs

include accepted

-- The row the record's content names, found or not.
theorem existing_asserted (found : call.existing anchor (state.warehouse.observed call).actions = some existing) :
    existing ∈ state.warehouse.actions.corporateActions ∧ existing.actionId = (call.asserts anchor state.ledger).actionId ∧
      existing.revisionId = (call.asserts anchor state.ledger).revisionId := by
  have inside : existing ∈ state.warehouse.actions.corporateActions := List.mem_of_find?_eq_some found
  have selected := List.find?_some found
  simp only [Bool.and_eq_true,decide_eq_true_eq,observed_actionId consistent accepted] at selected
  refine ⟨inside,selected.1,?_⟩
  rw [consistent.sound.identified existing inside,selected.1,selected.2]
  rfl

-- The revision the source asserted before is one of the action's current ones.
theorem prior_current (prior : call.prior (state.warehouse.observed call).actions = some link) :
    Current state.warehouse.actions (call.asserts anchor state.ledger).actionId link.revisionId := by
  have said := prior_ledger consistent accepted prior
  rw [asserts_known said]
  exact (consistent.truthful _ _).mpr ⟨call.source,said⟩

include undisturbed

theorem repeated_consistent (found : call.existing anchor (state.warehouse.observed call).actions = some existing)
    (same : ∀ link, call.prior (state.warehouse.observed call).actions = some link → link.revisionId = existing.revisionId) :
    Reconciled.Consistent ⟨{state.warehouse.observed call with
      actions:=(state.warehouse.observed call).actions.linkSource (sourceLink call
        (call.actionId anchor (state.warehouse.observed call).actions) existing.revisionId)},
      say state.ledger call.source (call.asserts anchor state.ledger)⟩ := by
  obtain ⟨inside,acts,named⟩ := existing_asserted consistent accepted found
  have asserted : (sourceLink call (call.actionId anchor (state.warehouse.observed call).actions)
      existing.revisionId).assertion = call.asserts anchor state.ledger := by
    rw [observed_actionId consistent accepted,named]
    rfl
  obtain ⟨evidenced,linked⟩ := linked_after consistent accepted undisturbed ⟨rfl,rfl,rfl⟩ asserted rfl
    (linkSource_evidence _ _)
  have rows : ((state.warehouse.observed call).actions.linkSource (sourceLink call
      (call.actionId anchor (state.warehouse.observed call).actions) existing.revisionId)).corporateActions =
        state.warehouse.actions.corporateActions := linkSource_actions _ _
  refine ⟨sound_rows rows consistent.sound,evidenced,linked,?_⟩
  intro actionId revisionId
  rw [current_rows rows]
  refine (consistent.truthful actionId revisionId).trans ?_
  cases prior : call.prior (state.warehouse.observed call).actions with
  | none =>
    have silent := prior_silent consistent accepted prior
    rw [asserted_first silent]
    refine ⟨.inr,?_⟩
    rintro (same | before)
    · have standing := undisturbed.joined accepted.fresh silent existing inside acts named
      rw [same]
      exact (consistent.truthful _ _).mp ⟨existing,inside,acts,named,standing⟩
    · exact before
  | some link =>
    have said := prior_ledger consistent accepted prior
    have again : link.assertion = call.asserts anchor state.ledger := by
      have action : (call.asserts anchor state.ledger).actionId = _ := asserts_known said
      exact Assertion.ext action.symm ((same link prior).trans named)
    rw [say_again (again ▸ said)]

theorem returned_consistent (found : call.existing anchor (state.warehouse.observed call).actions = some existing)
    (prior : call.prior (state.warehouse.observed call).actions = some link) (left : link.revisionId ≠ existing.revisionId)
    (signal : AffectedRange) : Reconciled.Consistent ⟨{state.warehouse.observed call with
      actions:=returned call (call.actionId anchor (state.warehouse.observed call).actions) link.revisionId
        existing.revisionId (state.warehouse.observed call).actions}.signalled signal,
      say state.ledger call.source (call.asserts anchor state.ledger)⟩ := by
  obtain ⟨inside,acts,named⟩ := existing_asserted consistent accepted found
  obtain ⟨row,held,same,leaves,_⟩ := prior_current consistent accepted prior
  have said := prior_ledger consistent accepted prior
  have action : (call.asserts anchor state.ledger).actionId = link.actionId := asserts_known said
  rw [observed_actionId consistent accepted]
  have asserted : (sourceLink call (call.asserts anchor state.ledger).actionId existing.revisionId).assertion =
      call.asserts anchor state.ledger := Assertion.ext rfl named
  have sound : Sound (state.warehouse.observed call).actions := sound_rows (by rfl) consistent.sound
  obtain ⟨links,observed⟩ := returned_links call (state.warehouse.observed call).actions
    (call.asserts anchor state.ledger).actionId link.revisionId existing.revisionId
  obtain ⟨evidenced,linked⟩ := linked_after consistent accepted undisturbed ⟨rfl,rfl,rfl⟩ asserted links observed
  refine ⟨sound_rows (by rfl) (returned_sound call sound left inside ⟨acts,rfl⟩ held ⟨same,leaves⟩),evidenced,linked,?_⟩
  intro actionId revisionId
  have moved : link.assertion ≠ call.asserts anchor state.ledger := by
    intro equal
    exact left ((congrArg Assertion.revisionId equal).trans named.symm)
  have alone := undisturbed.alone accepted.fresh link.assertion said moved
  refine (returned_current call left sound.keyed inside ⟨acts,rfl⟩ held ⟨same,leaves⟩).trans ?_
  refine Iff.trans ?_ (asserted_moved said alone).symm
  rw [← consistent.truthful actionId revisionId,Assertion.ext_iff,ne_eq,Assertion.ext_iff,named,action]
  rfl

theorem revised_consistent {row : CorporateAction} (acts : row.actionId = (call.asserts anchor state.ledger).actionId)
    (hashed : row.revisionHash = revisionHash call.record)
    (named : row.revisionId = (call.asserts anchor state.ledger).revisionId)
    (status : row.canonicalStatus = if ((state.warehouse.observed call).actions.remaining row.actionId
      ((call.prior (state.warehouse.observed call).actions).map SourceLink.revisionId)).isEmpty then .active else .conflict)
    (fresh : ∀ other ∈ state.warehouse.actions.corporateActions, other.revisionId ≠ row.revisionId) (signal : AffectedRange) :
    Reconciled.Consistent ⟨{state.warehouse.observed call with
      actions:=revised call row ((call.prior (state.warehouse.observed call).actions).map SourceLink.revisionId)
        (state.warehouse.observed call).actions}.signalled signal,
      say state.ledger call.source (call.asserts anchor state.ledger)⟩ := by
  have asserted : (sourceLink call row.actionId row.revisionId).assertion = call.asserts anchor state.ledger :=
    Assertion.ext acts named
  have sound : Sound (state.warehouse.observed call).actions := sound_rows (by rfl) consistent.sound
  have standing : row.canonicalStatus ≠ .superseded := by
    rw [status]
    split <;> simp
  have identified : row.revisionId = revisionIdOf row.actionId row.revisionHash := by
    rw [named,acts,hashed]
    rfl
  have leaves : ∀ link, call.prior (state.warehouse.observed call).actions = some link →
      ∃ other ∈ state.warehouse.actions.corporateActions, other.actionId = row.actionId ∧ other.revisionId = link.revisionId := by
    intro link prior
    obtain ⟨other,held,same,leaves,_⟩ := prior_current consistent accepted prior
    exact ⟨other,held,same.trans acts.symm,leaves⟩
  have apart : some row.revisionId ≠ (call.prior (state.warehouse.observed call).actions).map SourceLink.revisionId := by
    intro same
    obtain ⟨link,prior,revision⟩ := Option.map_eq_some_iff.mp same.symm
    obtain ⟨other,held,_,leaves⟩ := leaves link prior
    exact fresh other held (leaves.trans revision)
  obtain ⟨links,observed⟩ := revised_links call (state.warehouse.observed call).actions row
    ((call.prior (state.warehouse.observed call).actions).map SourceLink.revisionId)
  obtain ⟨evidenced,linked⟩ := linked_after consistent accepted undisturbed ⟨rfl,rfl,rfl⟩ asserted links observed
  refine ⟨sound_rows (by rfl) (revised_sound call sound apart fresh identified status ?_),evidenced,linked,?_⟩
  · intro other held same
    obtain ⟨link,prior,revision⟩ := Option.map_eq_some_iff.mp same.symm
    obtain ⟨twin,present,acted,leaves⟩ := leaves link prior
    rw [Rows.same_row consistent.sound.keyed held present (revision.symm.trans leaves.symm)]
    exact acted
  intro actionId revisionId
  refine (revised_current call sound.keyed apart standing).trans ?_
  cases prior : call.prior (state.warehouse.observed call).actions with
  | none =>
    refine Iff.trans ?_ (asserted_first (prior_silent consistent accepted prior)).symm
    rw [← consistent.truthful actionId revisionId,Assertion.ext_iff,acts,named]
    simp
    rfl
  | some link =>
    have said := prior_ledger consistent accepted prior
    have action : (call.asserts anchor state.ledger).actionId = link.actionId := asserts_known said
    obtain ⟨other,held,same,leaves⟩ := leaves link prior
    have moved : link.assertion ≠ call.asserts anchor state.ledger := by
      intro equal
      exact fresh other held (leaves.trans ((congrArg Assertion.revisionId equal).trans named.symm))
    refine Iff.trans ?_ (asserted_moved said (undisturbed.alone accepted.fresh link.assertion said moved)).symm
    rw [← consistent.truthful actionId revisionId,Assertion.ext_iff,acts,named]
    apply or_congr_right
    apply and_congr_right
    rintro ⟨before,inside,acted,revision,_⟩
    apply not_congr
    rw [Option.map_some,Option.some.injEq,Assertion.ext_iff]
    constructor
    · intro leaving
      have twin := Rows.same_row sound.keyed inside held (revision.trans (leaving.trans leaves.symm))
      exact ⟨acted.symm.trans (twin ▸ same.trans (acts.trans action)),leaving⟩
    · exact And.right

end branches

theorem step_consistent (consistent : before.Consistent) (step : Step before event after)
    (condition : StepCondition before event) : after.Consistent := by
  cases step with
  | elsewhere => exact ⟨sound_rows (by rfl) consistent.sound,consistent.evidenced,consistent.linked,consistent.truthful⟩
  | ingest ran =>
    rename_i call result outcome
    cases ingest_cases ran with
    | seen stored =>
      by_cases valid : validationRules before.warehouse.actions call.record call.requestedSymbol = []
      · cases anchored : anchorDate call.record with
        | none => exact absurd valid (unanchored_rejected anchored)
        | some anchor =>
          rw [heard_valid valid anchored,say_again ((condition anchor valid anchored).seen stored)]
          exact consistent
      · rw [heard_rejected valid]
        exact consistent
    | quarantined rows fresh rejected =>
      rw [heard_rejected rejected]
      exact quarantined_consistent consistent fresh rows
    | repeated accepted found same =>
      rw [heard_valid accepted.valid accepted.anchored]
      exact repeated_consistent consistent accepted (condition _ accepted.valid accepted.anchored) found same
    | returned accepted found prior left reason =>
      rw [heard_valid accepted.valid accepted.anchored]
      exact returned_consistent consistent accepted (condition _ accepted.valid accepted.anchored) found prior left _
    | revised accepted absent row built fresh reason =>
      rw [heard_valid accepted.valid accepted.anchored]
      have acts := observed_actionId consistent accepted
      refine revised_consistent consistent accepted (condition _ accepted.valid accepted.anchored) ?_ ?_ ?_ ?_ fresh _
      · rw [built,← acts]
        rfl
      · rw [built]
        rfl
      · rw [built,newRevision,acts]
        rfl
      · rw [built]
        rfl

theorem initial_consistent (knownSymbols : List Text) (outcomes : OutcomeTables) (canonicalOhlcv : List CanonicalBar) :
    Reconciled.Consistent ⟨⟨emptyActions knownSymbols,outcomes,canonicalOhlcv⟩,fun _ => none⟩ := by
  refine ⟨⟨List.nodup_nil,?_,?_,?_⟩,?_,fun _ => rfl,?_⟩
  · intro row inside
    cases inside
  · intro row inside
    cases inside
  · intro row inside
    cases inside
  · intro link inside
    cases inside
  · intro actionId revisionId
    constructor
    · rintro ⟨row,inside,_⟩
      cases inside
    · rintro ⟨source,said⟩
      cases said

def TruthfulStep (_history : List Event) (before : Reconciled) (event : Event) (after : Reconciled) : Prop :=
  Step before event after ∧ StepCondition before event

def reconciledStart (knownSymbols : List Text) (outcomes : OutcomeTables) (canonicalOhlcv : List CanonicalBar) : Reconciled :=
  ⟨⟨emptyActions knownSymbols,outcomes,canonicalOhlcv⟩,fun _ => none⟩

theorem runs_consistent (path : Runs TruthfulStep (reconciledStart knownSymbols outcomes canonicalOhlcv) history state) :
    state.Consistent := by
  induction path with
  | nil => exact initial_consistent knownSymbols outcomes canonicalOhlcv
  | step _ step ih => exact step_consistent ih step.1 step.2

-- In every run of records that meet the condition, the current revisions of each
-- action are those its sources asserted last, and disagreement is shown.
theorem current_revisions_truthful
    (path : Runs TruthfulStep (reconciledStart knownSymbols outcomes canonicalOhlcv) history state) :
    state.Truthful ∧ ConflictShown state.warehouse.actions :=
  ⟨(runs_consistent path).truthful,(runs_consistent path).sound.shown⟩

/- Running the model on records. -/

def Reconciled.processed (state : Reconciled) (call : IngestCall) : Reconciled :=
  ⟨((ingestRecord call state.warehouse).toOption.map Prod.fst).getD state.warehouse,
    state.ledger.heard state.warehouse.actions call⟩

theorem processed_step (returns : (ingestRecord call state.warehouse).toOption.isSome = true) :
    Step state (.ingest call) (state.processed call) := by
  cases ran : ingestRecord call state.warehouse with
  | error refused =>
    rw [ran] at returns
    cases returns
  | ok result =>
    have after : (state.processed call).warehouse = result.1 := by
      rw [Reconciled.processed,ran]
      rfl
    have step : Step state (.ingest call) ⟨result.1,state.ledger.heard state.warehouse.actions call⟩ := .ingest ran
    rw [← after] at step
    exact step

-- The source's latest word is not a current revision.
def Reconciled.Forgets (state : Reconciled) (source : Source) : Bool :=
  (state.ledger source).any (fun said => !state.warehouse.actions.corporateActions.any (fun row =>
    row.actionId = said.actionId && row.revisionId = said.revisionId && row.canonicalStatus ≠ .superseded))

variable {state : Reconciled}

omit [Platform] in
theorem forgets_untruthful (forgets : state.Forgets source = true) : ¬ state.Truthful := by
  intro truthful
  unfold Reconciled.Forgets at forgets
  cases asserted : state.ledger source with
  | none =>
    rw [asserted] at forgets
    cases forgets
  | some said =>
    obtain ⟨row,inside,acts,named,standing⟩ := (truthful said.actionId said.revisionId).mpr ⟨source,asserted⟩
    simp only [asserted,Option.any_some,Bool.not_eq_true',List.any_eq_false] at forgets
    exact forgets row inside (by simp [acts,named,standing])

-- A source heard for the first time among standing revisions.
theorem undisturbed_new (silent : state.ledger call.source = none)
    (fresh : state.warehouse.actions.stored call.rawEvidenceId = false)
    (standing : ∀ row ∈ state.warehouse.actions.corporateActions, row.canonicalStatus ≠ .superseded)
    (unlinked : state.warehouse.actions.linkedEvidence call.provider call.providerEventId = []) :
    StepCondition state (.ingest call) := by
  intro anchor _ _
  refine ⟨?_,?_,fun _ _ row inside _ _ => standing row inside,?_⟩
  · intro stored
    rw [fresh] at stored
    cases stored
  · intro _ left said
    rw [silent] at said
    cases said
  · intro _ pair inside
    rw [unlinked] at inside
    cases inside

end ledger

-- Two providers report the same split of VIC; the second one then corrects its ratio.
def agreedCall : IngestCall := sampleCall 1 "VCI" (sampleSplit "split-1" "h1" (marchDay 6 day_6) 2)
def repeatedCall : IngestCall := sampleCall 2 "KBS" (sampleSplit "event-9" "h2" (marchDay 6 day_6) 2)
def correctedCall : IngestCall := sampleCall 3 "KBS" (sampleSplit "event-9" "h3" (marchDay 6 day_6) 3)

def sampleStart : Reconciled := reconciledStart ["VIC".toList] ⟨[],[],[],[],[],[]⟩ []

section
attribute [local instance] samplePlatform

theorem shared_revision_superseded : ¬ ∀ [Platform] (knownSymbols : List Text) (outcomes : OutcomeTables)
    (canonicalOhlcv : List CanonicalBar) (history : List Event) (state : Reconciled),
    Runs (fun _ => Step) (reconciledStart knownSymbols outcomes canonicalOhlcv) history state →
    state.Truthful ∧ ConflictShown state.warehouse.actions := by
  intro truthful
  have first : Step sampleStart (.ingest agreedCall) (sampleStart.processed agreedCall) :=
    processed_step (by decide)
  have second : Step (sampleStart.processed agreedCall) (.ingest repeatedCall)
      ((sampleStart.processed agreedCall).processed repeatedCall) := processed_step (by decide +kernel)
  have third : Step ((sampleStart.processed agreedCall).processed repeatedCall) (.ingest correctedCall)
      (((sampleStart.processed agreedCall).processed repeatedCall).processed correctedCall) :=
    processed_step (by decide +kernel)
  have path : Runs (fun _ => Step) sampleStart [.ingest correctedCall,.ingest repeatedCall,.ingest agreedCall]
      (((sampleStart.processed agreedCall).processed repeatedCall).processed correctedCall) :=
    .step (.step (.step .nil first) second) third
  have forgets : (((sampleStart.processed agreedCall).processed repeatedCall).processed correctedCall).Forgets
      agreedCall.source = true := by decide +kernel
  exact forgets_untruthful forgets (truthful _ _ _ _ _ path).1

-- The corrected ratio alone: the providers disagree and both revisions are current.
theorem current_revisions_truthful_sample : ∃ state history, Runs TruthfulStep sampleStart history state ∧ state.Truthful ∧
      ConflictShown state.warehouse.actions ∧
      state.warehouse.actions.corporateActions.map CorporateAction.canonicalStatus = [.conflict,.conflict] := by
  have first : StepCondition sampleStart (.ingest agreedCall) :=
    undisturbed_new rfl (by decide) (by decide) (by decide)
  have second : StepCondition (sampleStart.processed agreedCall) (.ingest correctedCall) :=
    undisturbed_new (by decide) (by decide) (by decide) (by decide)
  have path : Runs TruthfulStep sampleStart [.ingest correctedCall,.ingest agreedCall]
      ((sampleStart.processed agreedCall).processed correctedCall) :=
    .step (.step .nil ⟨processed_step (by decide),first⟩) ⟨processed_step (by decide +kernel),second⟩
  have truthful := current_revisions_truthful path
  exact ⟨_,_,path,truthful.1,truthful.2,by decide +kernel⟩

end
end OpenStock.CorporateActions
