import OpenStock.CorporateActions.PendingRanges

namespace OpenStock.CorporateActions
open Text Calendar Outcomes Queue

/- The rows of `adjustment_factor` over sequences of `persist_adjustment_factor`. -/

def StoredFactor.revision (row : StoredFactor) : Text × Text := (row.actionRevisionId,row.methodologyVersion)

theorem existing_some (found : existingFactor factors revisionId version = some row) :
    row ∈ factors ∧ row.revision = (revisionId,version) := by
  have keyed := List.find?_some found
  simp only [Bool.and_eq_true,decide_eq_true_eq] at keyed
  exact ⟨List.mem_of_find?_eq_some found,Prod.ext keyed.1 keyed.2⟩

theorem existing_none : existingFactor factors revisionId version = none ↔ ∀ row ∈ factors, row.revision ≠ (revisionId,version) := by
  simp [existingFactor,StoredFactor.revision]

structure FactorTable [Platform] (factors : List StoredFactor) : Prop where
  ids : Rows.Distinct StoredFactor.factorId factors
  revisions : Rows.Distinct StoredFactor.revision factors
  named : ∀ row ∈ factors, row.factorId = "adjf_".toList ++ row.contentHash.take 20
  single : ∀ row ∈ factors, ∀ other ∈ factors, row.canonicalStatus = .current → other.canonicalStatus = .current →
    row.actionId = other.actionId → row = other

structure PersistCall where
  now : Int
  actionId : Text
  actionRevisionId : Text
  factor : AdjustmentFactor

section
variable [Platform] [DecimalText]

def PersistCall.persist (call : PersistCall) (factors : List StoredFactor) : Except AdjustmentError (List StoredFactor × Text) :=
  persistAdjustmentFactor call.now call.actionId call.actionRevisionId call.factor factors

-- A call that raises has written nothing.
def persisted (call : PersistCall) (factors : List StoredFactor) : List StoredFactor :=
  match call.persist factors with
  | .ok (after,_) => after
  | .error _ => factors

inductive PersistStep : List StoredFactor → PersistCall → List StoredFactor → Prop where
  | call : PersistStep before call (persisted call before)

-- The factor is stored already, or its id is free.
def Unclaimed (call : PersistCall) (factors : List StoredFactor) : Prop :=
  ∀ row ∈ factors, row.factorId ≠ factorId call.factor

/- What one call writes. -/

inductive Persisted (call : PersistCall) (factors : List StoredFactor) : List StoredFactor → Prop where
  | repeated (row : StoredFactor) (present : row ∈ factors)
      (same : row.revision = (call.actionRevisionId,call.factor.version)) (hash : row.contentHash = call.factor.contentHash) :
      Persisted call factors factors
  | first (new : existingFactor factors call.actionRevisionId call.factor.version = none) (free : Unclaimed call factors)
      (none_ : priorFactor factors call.actionId = none) :
      Persisted call factors (factors ++ [storedFactor call.now call.actionId call.actionRevisionId call.factor none])
  | replaced (new : existingFactor factors call.actionRevisionId call.factor.version = none) (free : Unclaimed call factors)
      (prior : StoredFactor) (found : priorFactor factors call.actionId = some prior) :
      Persisted call factors (supersedeFactor prior.factorId (factorId call.factor)
        (factors ++ [storedFactor call.now call.actionId call.actionRevisionId call.factor (some prior.factorId)]))

theorem persist_wrote (ran : call.persist factors = .ok (after,reported)) : Persisted call factors after := by
  unfold PersistCall.persist persistAdjustmentFactor at ran
  split at ran
  · rename_i row found
    split at ran
    · cases ran
    · rename_i same
      cases ran
      exact .repeated row (existing_some found).1 (existing_some found).2 (not_not.mp same)
  · rename_i new
    simp only at ran
    split at ran
    · cases ran
    · rename_i absent
      have free : Unclaimed call factors := by
        intro row present same
        exact absent (List.any_eq_true.mpr ⟨row,present,decide_eq_true same⟩)
      cases prior : priorFactor factors call.actionId with
      | none =>
        rw [prior] at ran
        cases ran
        exact .first new free prior
      | some earlier =>
        rw [prior] at ran
        cases ran
        exact .replaced new free earlier prior

-- A call succeeds on a stored revision of the same content, or with a free id.
theorem persist_ok (stored : ∀ row, existingFactor factors call.actionRevisionId call.factor.version = some row →
      row.contentHash = call.factor.contentHash)
    (free : existingFactor factors call.actionRevisionId call.factor.version = none → Unclaimed call factors) :
    ∃ after reported, call.persist factors = .ok (after,reported) := by
  unfold PersistCall.persist persistAdjustmentFactor
  cases found : existingFactor factors call.actionRevisionId call.factor.version with
  | some row => simp [stored row found]
  | none =>
    have absent : ¬ factors.any (fun other => other.factorId = factorId call.factor) = true := by
      simpa [Unclaimed] using free found
    exact ⟨_,_,if_neg absent⟩

omit [Platform] [DecimalText] in
theorem priorFactor_current (found : priorFactor factors actionId = some prior) :
    prior ∈ factors ∧ prior.actionId = actionId ∧ prior.canonicalStatus = .current := by
  simpa using Rows.firstBy_mem found

omit [Platform] [DecimalText] in
theorem priorFactor_absent (none_ : priorFactor factors actionId = none) :
    ∀ row ∈ factors, row.actionId = actionId → row.canonicalStatus ≠ .current := by
  have empty := Rows.firstBy_none none_
  simpa using empty

/- The table stays keyed. -/

def PersistCall.row (call : PersistCall) (supersedes : Option Text) : StoredFactor :=
  storedFactor call.now call.actionId call.actionRevisionId call.factor supersedes

def retired (prior : StoredFactor) (replacement : Text) : StoredFactor :=
  {prior with canonicalStatus:=.superseded,supersededByFactorId:=some replacement}

theorem inserted_keyed (table : FactorTable factors)
    (new : existingFactor factors call.actionRevisionId call.factor.version = none) (free : Unclaimed call factors)
    (supersedes : Option Text) : Rows.Distinct StoredFactor.factorId (factors ++ [call.row supersedes]) ∧
      Rows.Distinct StoredFactor.revision (factors ++ [call.row supersedes]) :=
  ⟨Rows.append_distinct table.ids free,Rows.append_distinct table.revisions (existing_none.mp new)⟩

omit [Platform] [DecimalText] in
theorem superseded_replace (distinct : Rows.Distinct StoredFactor.factorId factors)
    (present : prior ∈ factors) : supersedeFactor prior.factorId replacement factors =
      Rows.replace StoredFactor.factorId (retired prior replacement) factors := by
  have updated : Rows.updateWhere (fun row => decide (row.factorId = prior.factorId)) (fun row => retired row replacement)
      factors = _ := Rows.updateWhere_key distinct present (fun _ keyed => of_decide_eq_true keyed) rfl
  rw [if_pos (by simp)] at updated
  exact updated

-- The prior row is retired, the new one added.
theorem mem_replaced (table : FactorTable factors)
    (new : existingFactor factors call.actionRevisionId call.factor.version = none) (free : Unclaimed call factors)
    (found : priorFactor factors call.actionId = some prior) :
    row ∈ supersedeFactor prior.factorId (factorId call.factor) (factors ++ [call.row (some prior.factorId)]) ↔
      row = retired prior (factorId call.factor) ∨ row = call.row (some prior.factorId) ∨ row ∈ factors ∧ row ≠ prior := by
  have present := (priorFactor_current found).1
  rw [superseded_replace (inserted_keyed table new free _).1 (List.mem_append_left _ present),
    Rows.mem_replace (List.mem_append_left _ present) (show prior.factorId = (retired prior _).factorId from rfl),
    List.mem_append,List.mem_singleton]
  constructor
  · rintro (rfl | ⟨stored | rfl,other⟩)
    · exact .inl rfl
    · refine .inr (.inr ⟨stored,?_⟩)
      rintro rfl
      exact other rfl
    · exact .inr (.inl rfl)
  · rintro (rfl | rfl | ⟨stored,other⟩)
    · exact .inl rfl
    · exact .inr ⟨.inr rfl,(free prior present).symm⟩
    · exact .inr ⟨.inl stored,fun same => other (Rows.same_row table.ids stored present same)⟩

theorem persisted_table (table : FactorTable factors) (wrote : Persisted call factors after) : FactorTable after := by
  cases wrote with
  | repeated => exact table
  | first new free none_ =>
    obtain ⟨ids,revisions⟩ := inserted_keyed table new free none
    refine ⟨ids,revisions,?_,?_⟩
    · intro row inside
      rcases List.mem_append.mp inside with stored | latest
      · exact table.named row stored
      · rw [List.mem_singleton.mp latest]
        rfl
    · intro row inside other also live lives same
      have others := priorFactor_absent none_
      rcases List.mem_append.mp inside with stored | latest <;> rcases List.mem_append.mp also with kept | last
      · exact table.single row stored other kept live lives same
      · rw [List.mem_singleton.mp last] at same
        exact absurd live (others row stored same)
      · rw [List.mem_singleton.mp latest] at same
        exact absurd lives (others other kept same.symm)
      · rw [List.mem_singleton.mp latest,List.mem_singleton.mp last]
  | replaced new free prior found =>
    obtain ⟨present,ofAction,current⟩ := priorFactor_current found
    obtain ⟨ids,revisions⟩ := inserted_keyed table new free (some prior.factorId)
    have members := fun row : StoredFactor => (mem_replaced table new free found : row ∈ _ ↔ _)
    refine ⟨?_,?_,?_,?_⟩
    · exact Rows.updateWhere_distinct (fun _ => rfl) ids
    · exact Rows.updateWhere_distinct (fun _ => rfl) revisions
    · intro row inside
      rcases (members row).mp inside with rfl | rfl | ⟨stored,_⟩
      · exact table.named prior present
      · rfl
      · exact table.named row stored
    · intro row inside other also live lives same
      have others : ∀ row ∈ factors, row ≠ prior → row.canonicalStatus = .current → row.actionId ≠ call.actionId :=
        fun row stored differs live same => differs (table.single row stored prior present live current (same.trans ofAction.symm))
      rcases (members row).mp inside with rfl | rfl | ⟨stored,differs⟩
      · cases live
      · rcases (members other).mp also with rfl | rfl | ⟨kept,apart⟩
        · cases lives
        · rfl
        · exact absurd same.symm (others other kept apart lives)
      · rcases (members other).mp also with rfl | rfl | ⟨kept,apart⟩
        · cases lives
        · exact absurd same (others row stored differs live)
        · exact table.single row stored other kept live lives same

theorem persist_table (table : FactorTable factors) (call : PersistCall) : FactorTable (persisted call factors) := by
  unfold persisted
  split
  · rename_i ran
    exact persisted_table table (persist_wrote ran)
  · exact table

theorem runs_table (path : Runs (fun _ => PersistStep) [] calls factors) : FactorTable factors := by
  induction path with
  | nil => exact ⟨List.nodup_nil,List.nodup_nil,by simp,by simp⟩
  | step _ step ih =>
    cases step with
    | call => exact persist_table ih _

/- What the claim asks of a call. -/

-- The call succeeds; the revision passed has the one current row of its action, and
-- the rows of the other actions are as they were.
def OneCurrent (call : PersistCall) (factors : List StoredFactor) : Prop :=
  ∃ after reported, call.persist factors = .ok (after,reported) ∧
    (∃ row ∈ after, row.actionId = call.actionId ∧ row.canonicalStatus = .current ∧
      row.revision = (call.actionRevisionId,call.factor.version) ∧ row.contentHash = call.factor.contentHash ∧
      ∀ other ∈ after, other.actionId = call.actionId → other.canonicalStatus = .current → other = row) ∧
    after.filter (fun row => row.actionId ≠ call.actionId) = factors.filter (fun row => row.actionId ≠ call.actionId)

theorem repeated_same {call : PersistCall}
    (stored : existingFactor factors call.actionRevisionId call.factor.version = some row)
    (ran : call.persist factors = .ok (after,reported)) : after = factors ∧ row.contentHash = call.factor.contentHash := by
  unfold PersistCall.persist persistAdjustmentFactor at ran
  rw [stored] at ran
  simp only at ran
  split at ran
  · cases ran
  · rename_i same
    cases ran
    exact ⟨rfl,not_not.mp same⟩

theorem persist_free (new : existingFactor factors call.actionRevisionId call.factor.version = none)
    (ran : call.persist factors = .ok (after,reported)) : Unclaimed call factors := by
  cases persist_wrote ran with
  | repeated row present same => exact absurd same (existing_none.mp new row present)
  | first _ free => exact free
  | replaced _ free => exact free

-- Either the revision is stored as the current one of this action with this
-- content, or it is not stored and no row has the id its content gives.
def Storable (call : PersistCall) (factors : List StoredFactor) : Prop :=
  match existingFactor factors call.actionRevisionId call.factor.version with
  | some row => row.actionId = call.actionId ∧ row.canonicalStatus = .current ∧ row.contentHash = call.factor.contentHash
  | none => Unclaimed call factors

theorem other_actions (table : FactorTable factors) (wrote : Persisted call factors after) :
    after.filter (fun row => row.actionId ≠ call.actionId) = factors.filter (fun row => row.actionId ≠ call.actionId) := by
  have inserted : ∀ supersedes, (factors ++ [call.row supersedes]).filter (fun row => row.actionId ≠ call.actionId) =
      factors.filter (fun row => row.actionId ≠ call.actionId) := by
    intro supersedes
    simp [PersistCall.row,storedFactor]
  cases wrote with
  | repeated => rfl
  | first => exact inserted none
  | replaced new free prior found =>
    obtain ⟨present,ofAction,_⟩ := priorFactor_current found
    refine Eq.trans (Rows.filter_updateWhere ?_) (inserted (some prior.factorId))
    intro row inside chosen
    have same : row = prior := Rows.same_row (inserted_keyed table new free _).1 inside (List.mem_append_left _ present)
      (of_decide_eq_true chosen)
    simp [same,ofAction]

theorem written_current (table : FactorTable factors)
    (new : existingFactor factors call.actionRevisionId call.factor.version = none) (wrote : Persisted call factors after) :
    ∃ supersedes, call.row supersedes ∈ after := by
  cases wrote with
  | repeated row present same => exact absurd same (existing_none.mp new row present)
  | first => exact ⟨none,List.mem_append_right _ List.mem_cons_self⟩
  | replaced new free prior found => exact ⟨some prior.factorId,(mem_replaced table new free found).mpr (.inr (.inl rfl))⟩

theorem one_current_exact (path : Runs (fun _ => PersistStep) [] calls factors) (call : PersistCall) :
    OneCurrent call factors ↔ Storable call factors := by
  have table := runs_table path
  constructor
  · rintro ⟨after,reported,ran,⟨row,inside,ofAction,current,revision,hash,_⟩,_⟩
    unfold Storable
    cases stored : existingFactor factors call.actionRevisionId call.factor.version with
    | none => exact persist_free stored ran
    | some old =>
      obtain ⟨rfl,_⟩ := repeated_same stored ran
      obtain ⟨present,keyed⟩ := existing_some stored
      obtain rfl := Rows.same_row table.revisions present inside (keyed.trans revision.symm)
      exact ⟨ofAction,current,hash⟩
  · intro storable
    unfold Storable at storable
    obtain ⟨after,reported,ran⟩ : ∃ after reported, call.persist factors = .ok (after,reported) := by
      apply persist_ok
      · intro row stored
        rw [stored] at storable
        exact storable.2.2
      · intro new
        rw [new] at storable
        exact storable
    have wrote := persist_wrote ran
    have kept := persisted_table table wrote
    have held : ∃ row ∈ after, row.actionId = call.actionId ∧ row.canonicalStatus = .current ∧
        row.revision = (call.actionRevisionId,call.factor.version) ∧ row.contentHash = call.factor.contentHash := by
      cases stored : existingFactor factors call.actionRevisionId call.factor.version with
      | none =>
        obtain ⟨supersedes,inside⟩ := written_current table stored wrote
        exact ⟨_,inside,rfl,rfl,rfl,rfl⟩
      | some old =>
        rw [stored] at storable
        obtain ⟨ofAction,current,hash⟩ := storable
        obtain ⟨present,keyed⟩ := existing_some stored
        exact ⟨old,(repeated_same stored ran).1 ▸ present,ofAction,current,keyed,hash⟩
    obtain ⟨row,inside,ofAction,current,revision,hash⟩ := held
    refine ⟨after,reported,ran,⟨row,inside,ofAction,current,revision,hash,?_⟩,other_actions table wrote⟩
    intro other also same live
    exact kept.single other also row inside live current (same.trans ofAction.symm)

end

/- A split of VIC, asserted by revisions of one action. -/

def splitFactor (priceMultiplier : ℚ) : AdjustmentFactor :=
  ⟨"VIC".toList,marchDay 6 day_6,.split,priceMultiplier,1 / priceMultiplier,none,none,adjustmentFactorVersion⟩

def splitCall (revision : String) (priceMultiplier : ℚ) : PersistCall :=
  ⟨1,"A".toList,revision.toList,splitFactor priceMultiplier⟩

section
attribute [local instance] samplePlatform sampleDecimals

def firstFactor : List StoredFactor := persisted (splitCall "r1" (1 / 2)) []

theorem firstFactor_reached : Runs (fun _ => PersistStep) [] [splitCall "r1" (1 / 2)] firstFactor := .step .nil .call

theorem one_current_exact_sample : OneCurrent (splitCall "r2" (1 / 3)) firstFactor := by
  refine (one_current_exact firstFactor_reached (splitCall "r2" (1 / 3))).mpr ?_
  have new : existingFactor firstFactor (splitCall "r2" (1 / 3)).actionRevisionId (splitCall "r2" (1 / 3)).factor.version =
      none := by decide
  rw [Storable,new]
  have free : firstFactor.all (fun row => row.factorId ≠ factorId (splitCall "r2" (1 / 3)).factor) = true := by decide +kernel
  intro row inside
  exact of_decide_eq_true (List.all_eq_true.mp free row inside)

-- The second revision has the content of the first, and so its factor id.
theorem same_content_refused : ¬ ∀ [Platform] [DecimalText] (calls : List PersistCall) (factors : List StoredFactor)
    (call : PersistCall), Runs (fun _ => PersistStep) [] calls factors → OneCurrent call factors := by
  intro holds
  obtain ⟨_,_,ran,_⟩ := holds _ _ (splitCall "r2" (1 / 2)) firstFactor_reached
  have refused : ((splitCall "r2" (1 / 2)).persist firstFactor).toOption.isNone = true := by decide +kernel
  rw [ran] at refused
  cases refused

-- A return to the first revision leaves the second one current.
example : existingFactor (persisted (splitCall "r1" (1 / 2)) (persisted (splitCall "r2" (1 / 3)) firstFactor))
      "r1".toList adjustmentFactorVersion =
    (existingFactor firstFactor "r1".toList adjustmentFactorVersion).map
      (fun row => retired row (factorId (splitFactor (1 / 3)))) := by decide +kernel

end
end OpenStock.CorporateActions
