import Mathlib.Data.List.TakeWhile
import OpenStock.Features.Status

namespace OpenStock.Features
open Text

/- The two sides of a row. -/

def HoldsContract : Json → Prop
  | .obj members => contractValues members = [.str contractVersion]
  | _ => False

def pythonStatus (row : FeatureRow) : Text := upper (strip (row.featureDataStatus.getD []))
def sqlStatus (row : FeatureRow) : Text := sqlUpper (sqlTrim (row.featureDataStatus.getD []))

variable (members : List (Text × Json))

theorem first_value : Json.lookup members contractKey = (contractValues members).head? := by
  simp [Json.lookup,contractValues,List.head?_map,List.head?_filter]

theorem key_count :
    ((jsonKeys (.obj members)).filter (fun key => key == contractKey)).length = (contractValues members).length := by
  simp [jsonKeys,contractValues,List.filter_map,Function.comp_def]

variable {readers : Readers}

theorem written_apart (other : ∀ value, json ≠ .str value) : readers.written json ≠ contractVersion := by
  intro same
  obtain true | false | null | ⟨c,rest,form,first⟩ := readers.written_form json other
  · cases same.symm.trans true
  · cases same.symm.trans false
  · cases same.symm.trans null
  · rw [form] at same
    injection same with head _
    rw [head] at first
    revert first
    decide

theorem extracted_version {members : List (Text × Json)} (only : contractValues members = [value]) :
    jsonExtractString readers (.obj members) contractKey = some contractVersion ↔ value = .str contractVersion := by
  have found : Json.lookup members contractKey = some value := by rw [first_value,only]; rfl
  simp only [jsonExtractString,found]
  cases value with
  | str text => simp
  | null => simp
  | bool flag | int number | float lexeme | arr items | obj inner => simpa using written_apart (fun text same => by cases same)

-- One contract key whose text is the version is what Python's pairs hold.
theorem sql_contract (readers : Readers) (json : Json) :
    ((jsonKeys json).filter (fun key => key == contractKey)).length = 1 ∧ jsonExtractString readers json contractKey = some contractVersion ↔
      HoldsContract json := by
  cases json with
  | obj members =>
    rw [key_count]
    constructor
    · intro ⟨one,extracted⟩
      obtain ⟨value,only⟩ := List.length_eq_one_iff.mp one
      rw [extracted_version only] at extracted
      rw [extracted] at only
      exact only
    · intro only
      have only : contractValues members = [.str contractVersion] := only
      exact ⟨by rw [only]; rfl,(extracted_version only).mpr rfl⟩
  | _ => simp [jsonKeys,HoldsContract]

theorem sqlEq_true {α : Type} [DecidableEq α] {left : Option α} {right : α} : sqlEq left right = some true ↔ left = some right := by
  cases left <;> simp [sqlEq]

theorem sqlAnd_true : sqlAnd left right = some true ↔ left = some true ∧ right = some true := by
  obtain _ | _ | _ := left <;> obtain _ | _ | _ := right <;> simp [sqlAnd]

-- The SQL gate finds the current contract in the lineage.
def SqlHolds (readers : Readers) (row : FeatureRow) : Prop :=
  ∃ text json, row.lineageJson = some text ∧ readers.tryCast text = some json ∧ HoldsContract json

def PythonHolds (readers : Readers) (row : FeatureRow) : Prop :=
  ∃ text json, row.lineageJson = some text ∧ readers.loads text = .ok json ∧ HoldsContract json

theorem exact_selected (readers : Readers) (row : FeatureRow) :
    exclusionReasonOf readers row = none ↔ sqlStatus row = FeatureDataStatus.exactDate.text ∧ SqlHolds readers row := by
  have holds : (((row.lineageJson.bind readers.tryCast).map (fun json => ((jsonKeys json).filter (fun key => key == contractKey)).length)) = some 1 ∧
      ((row.lineageJson.bind readers.tryCast).bind (fun json => jsonExtractString readers json contractKey)) = some contractVersion) ↔
        SqlHolds readers row := by
    unfold SqlHolds
    cases lineage : row.lineageJson with
    | none => simp
    | some text =>
      cases cast : readers.tryCast text with
      | none => simp [cast]
      | some json => simpa [cast] using sql_contract readers json
  unfold exclusionReasonOf
  dsimp only
  constructor
  · intro reason
    split at reason
    next taken =>
      rw [sqlAnd_true,sqlAnd_true,sqlEq_true,sqlEq_true,sqlEq_true] at taken
      exact ⟨Option.some.inj taken.1.1,holds.mp ⟨taken.1.2,taken.2⟩⟩
    next =>
      split at reason
      · cases reason
      · split at reason <;> cases reason
  · intro ⟨status,current⟩
    obtain ⟨count,version⟩ := holds.mpr current
    refine if_pos ?_
    rw [sqlAnd_true,sqlAnd_true,sqlEq_true,sqlEq_true,sqlEq_true]
    exact ⟨⟨congrArg some status,count⟩,version⟩

-- The reason of a row that is not selected.
theorem reason_given (readers : Readers) (row : FeatureRow) (excluded : exclusionReasonOf readers row ≠ none) :
    exclusionReasonOf readers row = some (if sqlStatus row = FeatureDataStatus.staleDate.text then FeatureExclusionReason.staleFeatureDate.text
      else if sqlStatus row = FeatureDataStatus.missingBenchmark.text then FeatureExclusionReason.missingBenchmark.text
      else FeatureExclusionReason.unknownFeatureStatus.text) := by
  unfold exclusionReasonOf at excluded ⊢
  dsimp only at excluded ⊢
  split at excluded
  next => exact absurd rfl excluded
  next other =>
    rw [if_neg other]
    unfold sqlStatus
    split
    · rfl
    · split <;> rfl

/- What the database's normal form of a status tells of the interpreter's. -/

variable {c : Char}

theorem separator_space (separator : isSeparator c = true) : isSpace c = true := by
  simp only [isSeparator,isSpace,Bool.or_eq_true,Bool.and_eq_true,decide_eq_true_eq,beq_iff_eq] at separator ⊢
  omega

theorem stripLeft_spaces (spaces : ∀ c ∈ before, isSpace c = true) : stripLeft (before ++ rest) = stripLeft rest := by
  induction before with
  | nil => rfl
  | cons c before later =>
    have first := spaces c (List.mem_cons_self ..)
    have shorter := later (fun d member => spaces d (List.mem_cons_of_mem _ member))
    simpa [stripLeft,first] using shorter

theorem stripLeft_word {word rest : Text} (clean : ∀ c ∈ word, isSpace c = false) (some : word ≠ []) : stripLeft (word ++ rest) = word ++ rest := by
  cases word with
  | nil => exact absurd rfl some
  | cons c word => simp [stripLeft,clean c (List.mem_cons_self ..)]

theorem strip_around (left : ∀ c ∈ before, isSpace c = true) (right : ∀ c ∈ after, isSpace c = true)
    (clean : ∀ c ∈ word, isSpace c = false) (some : word ≠ []) : strip (before ++ word ++ after) = word := by
  have reversed : ∀ c ∈ word.reverse, isSpace c = false := fun c member => clean c (by simpa using member)
  have behind : ∀ c ∈ after.reverse, isSpace c = true := fun c member => right c (by simpa using member)
  have ending := @stripLeft_word word.reverse [] reversed (by simpa using some)
  rw [List.append_nil] at ending
  rw [strip,List.append_assoc,stripLeft_spaces left,stripLeft_word clean some,List.reverse_append,stripLeft_spaces behind,ending,
    List.reverse_reverse]

theorem sqlTrim_around (text : Text) : ∃ before after, text = before ++ sqlTrim text ++ after ∧
    (∀ c ∈ before, isSpace c = true) ∧ ∀ c ∈ after, isSpace c = true := by
  refine ⟨text.takeWhile isSeparator,((text.dropWhile isSeparator).reverse.takeWhile isSeparator).reverse,?_,?_,?_⟩
  · rw [sqlTrim,List.append_assoc,← List.reverse_append,List.takeWhile_append_dropWhile,List.reverse_reverse,
      List.takeWhile_append_dropWhile]
  · intro c member
    exact separator_space (List.mem_takeWhile_imp member)
  · intro c member
    exact separator_space (List.mem_takeWhile_imp (List.mem_reverse.mp member))

def Capital (c : Char) : Prop := c.isUpper = true ∨ c = '_'

theorem capital_fixed (capital : Capital c) : isSpace c = false ∧ upperChar c = [c] := by
  obtain letter | line := capital
  · exact ⟨alphanum_clean (alphanum_cases.mpr (.inl (.inl letter))),upperChar_fixed (.inl letter)⟩
  · rw [line]
    exact ⟨rfl,rfl⟩

theorem sqlUpper_char (capitals : ∀ d ∈ sqlUpper [c], Capital d) : isSpace c = false ∧ upperChar c = sqlUpper [c] := by
  unfold sqlUpper at capitals ⊢
  simp only [List.map_cons,List.map_nil,List.mem_singleton,forall_eq] at capitals ⊢
  by_cases small : c.isLower = true
  · rw [if_pos small]
    exact ⟨alphanum_clean (alphanum_cases.mpr (.inl (.inr small))),by rw [upperChar,if_pos small]⟩
  · rw [if_neg small] at capitals ⊢
    split
    next dotless =>
      refine ⟨by simp [isSpace,dotless],?_⟩
      rw [upperChar,if_neg small,dotless]
      rfl
    next =>
      split
      next long =>
        refine ⟨by simp [isSpace,long],?_⟩
        rw [upperChar,if_neg small,long]
        rfl
      next one two =>
        rw [if_neg one,if_neg two] at capitals
        exact capital_fixed capitals

variable {text : Text}

theorem sqlUpper_capitals (capitals : ∀ d ∈ sqlUpper text, Capital d) :
    (∀ c ∈ text, isSpace c = false) ∧ upper text = sqlUpper text := by
  induction text with
  | nil => exact ⟨fun c member => (by cases member),rfl⟩
  | cons c text later =>
    have parts : sqlUpper (c :: text) = sqlUpper [c] ++ sqlUpper text := rfl
    rw [parts] at capitals
    have first := sqlUpper_char (fun d member => capitals d (List.mem_append_left _ member))
    have rest := later (fun d member => capitals d (List.mem_append_right _ member))
    refine ⟨fun d member => ?_,?_⟩
    · obtain here | there := List.mem_cons.mp member
      · exact here ▸ first.1
      · exact rest.1 d there
    · have parts' : upper (c :: text) = upperChar c ++ upper text := rfl
      rw [parts,parts',first.2,rest.2]

theorem status_capitals (status : FeatureDataStatus) : ∀ c ∈ status.text, Capital c := by
  intro c member
  have all : (status.text.all (fun c => c.isUpper || c == '_')) = true := by cases status <;> rfl
  simpa [Capital] using List.all_eq_true.mp all c member

variable {row : FeatureRow} {status : FeatureDataStatus}

theorem sql_known (known : sqlStatus row = status.text) : pythonStatus row = status.text := by
  unfold sqlStatus at known
  obtain ⟨before,after,shape,left,right⟩ := sqlTrim_around (row.featureDataStatus.getD [])
  obtain ⟨clean,same⟩ := sqlUpper_capitals (fun c member => status_capitals status c (known ▸ member))
  have some : sqlTrim (row.featureDataStatus.getD []) ≠ [] := by
    intro empty
    rw [empty] at known
    cases status <;> cases known
  unfold pythonStatus
  rw [shape,strip_around left right clean some,same,known]

theorem text_injective {left right : FeatureDataStatus} (same : left.text = right.text) : left = right := by
  revert same
  cases left <;> cases right <;> decide

theorem ofText_known : FeatureDataStatus.ofText? text = some status ↔ text = status.text := by
  constructor
  · intro found
    have same := @List.find?_some _ (fun status : FeatureDataStatus => status.text == text) _ _ found
    exact (beq_iff_eq.mp same).symm
  · intro same
    rw [same]
    cases status <;> rfl

/- The row's eligibility. -/

-- The interpreter reads the lineage, whether or not it is JSON.
def Loads (readers : Readers) (row : FeatureRow) : Prop :=
  ∀ text, row.lineageJson = some text → readers.loads text ≠ .error .other

-- Where the interpreter's normal form is a status, the database's is the same. For EXACT_DATE
-- that matters only over a lineage that holds the contract, and the database must
-- accept that lineage too.
def SqlAlike (readers : Readers) (row : FeatureRow) : Prop :=
  ∀ status, FeatureDataStatus.ofText? (pythonStatus row) = some status →
    (status = .exactDate → Loads readers row ∧ (PythonHolds readers row →
      sqlStatus row = pythonStatus row ∧ ∀ text, row.lineageJson = some text → (readers.tryCast text).isSome = true)) ∧
    (status ≠ .exactDate → sqlStatus row = pythonStatus row)

theorem alias_proper : properAlias "f".toList = true := rfl

theorem agree_meaning (readers : Readers) (row : FeatureRow) : Agree readers row ↔
    Matches (exclusionReasonOf readers row).isNone (exclusionReasonOf readers row)
      (parseFeatureSnapshotEligibility readers row.featureDataStatus (lineageOf row.lineageJson)) := by
  constructor
  · intro agree
    exact agree "f".toList (exclusionReasonOf readers) (fun row => (exclusionReasonOf readers row).isNone) (if_pos alias_proper)
      (by rw [featureEligibilitySql,featureExclusionReasonSql,if_pos alias_proper]; rfl)
  · intro meaning tableAlias reason selected written chosen
    rw [featureEligibilitySql,written] at chosen
    cases chosen
    unfold featureExclusionReasonSql at written
    split at written
    · cases written
      exact meaning
    · cases written

-- The status alone, as the interpreter reads it.
theorem parse_status (row : FeatureRow) :
    parseFeatureEligibility row.featureDataStatus = eligibilityOf row.featureDataStatus (FeatureDataStatus.ofText? (pythonStatus row)) := by
  unfold parseFeatureEligibility pythonStatus
  cases row.featureDataStatus <;> rfl

theorem version_found (readers : Readers) (row : FeatureRow) (loads : Loads readers row) :
    ∃ found, foundVersion readers (lineageOf row.lineageJson) = .ok found ∧
      (found = some (.str contractVersion) ↔ PythonHolds readers row) := by
  unfold PythonHolds
  cases lineage : row.lineageJson with
  | none => exact ⟨none,rfl,by simp⟩
  | some text =>
    have read := loads text lineage
    simp only [lineageOf,foundVersion]
    cases result : readers.loads text with
    | error error =>
      cases error with
      | decode => exact ⟨none,rfl,by simp [result]⟩
      | other => exact absurd result read
    | ok json =>
      cases json with
      | obj members =>
        match values : contractValues members with
        | [] => exact ⟨none,by simp [values],by simp [result,HoldsContract,values]⟩
        | [value] => exact ⟨some value,by simp [values],by simp [result,HoldsContract,values]⟩
        | _ :: _ :: _ => exact ⟨none,by simp [values],by simp [result,HoldsContract,values]⟩
      | _ => exact ⟨none,rfl,by simp [result,HoldsContract]⟩

theorem version_refused (readers : Readers) (row : FeatureRow) (fails : ¬ Loads readers row) :
    foundVersion readers (lineageOf row.lineageJson) = .error .other := by
  unfold Loads at fails
  simp only [not_forall,not_not] at fails
  obtain ⟨text,lineage,result⟩ := fails
  simp [lineage,lineageOf,foundVersion,result]

-- What the database finds the interpreter finds.
theorem sql_python (loads : Loads readers row) (current : SqlHolds readers row) : PythonHolds readers row := by
  obtain ⟨text,json,lineage,cast,contract⟩ := current
  obtain read | failed := readers.superset text json cast
  · exact ⟨text,json,lineage,read,contract⟩
  · exact absurd failed (loads text lineage)

theorem python_sql (current : PythonHolds readers row)
    (accepts : ∀ text, row.lineageJson = some text → (readers.tryCast text).isSome = true) : SqlHolds readers row := by
  obtain ⟨text,json,lineage,read,contract⟩ := current
  obtain ⟨other,cast⟩ := Option.isSome_iff_exists.mp (accepts text lineage)
  obtain same | failed := readers.superset text other cast
  · rw [read] at same
    cases same
    exact ⟨text,json,lineage,cast,contract⟩
  · rw [read] at failed
    cases failed

theorem sql_accepts (current : SqlHolds readers row) (lineage : row.lineageJson = some text) :
    (readers.tryCast text).isSome = true := by
  obtain ⟨other,json,same,cast,_⟩ := current
  rw [lineage] at same
  cases same
  rw [cast]
  rfl

theorem reason_injective {left right : FeatureExclusionReason} (same : left.text = right.text) : left = right := by
  revert same
  cases left <;> cases right <;> decide

-- A row that is excluded in both gates for no known status.
theorem reason_unknown (excluded : exclusionReasonOf readers row ≠ none)
    (stale : pythonStatus row ≠ FeatureDataStatus.staleDate.text) (missing : pythonStatus row ≠ FeatureDataStatus.missingBenchmark.text) :
    exclusionReasonOf readers row = some FeatureExclusionReason.unknownFeatureStatus.text := by
  rw [reason_given readers row excluded,if_neg (fun known => stale (sql_known known)),if_neg (fun known => missing (sql_known known))]

theorem not_exact (known : pythonStatus row = status.text)
    (other : status ≠ .exactDate) : exclusionReasonOf readers row ≠ none := by
  intro selected
  have exact := sql_known ((exact_selected readers row).mp selected).1
  exact other (text_injective (known.symm.trans exact))

section
variable {readers : Readers} {row : FeatureRow}

theorem agree_unknown (unknown : FeatureDataStatus.ofText? (pythonStatus row) = none) : Agree readers row := by
  have differs : ∀ status : FeatureDataStatus, pythonStatus row ≠ status.text := by
    intro status same
    rw [ofText_known.mpr same] at unknown
    cases unknown
  have excluded : exclusionReasonOf readers row ≠ none := fun selected =>
    differs .exactDate (sql_known ((exact_selected readers row).mp selected).1)
  have reason := reason_unknown excluded (differs .staleDate) (differs .missingBenchmark)
  rw [agree_meaning]
  simp [Matches,parseFeatureSnapshotEligibility,parse_status,unknown,eligibilityOf,FeatureEligibility.eligible,reason,pure,Except.pure]

theorem agree_stale (known : FeatureDataStatus.ofText? (pythonStatus row) = some .staleDate) :
    Agree readers row ↔ sqlStatus row = pythonStatus row := by
  have python := ofText_known.mp known
  have excluded : exclusionReasonOf readers row ≠ none := not_exact python (by decide)
  have reason := reason_given readers row excluded
  rw [agree_meaning,python]
  simp only [Matches,parseFeatureSnapshotEligibility,parse_status,known,eligibilityOf,FeatureEligibility.eligible,pure,Except.pure]
  constructor
  · intro ⟨_,given⟩
    have given := given rfl
    rw [reason] at given
    by_contra differs
    rw [if_neg differs] at given
    split at given <;> exact absurd (reason_injective (Option.some.inj given)) (by decide)
  · intro same
    refine ⟨⟨fun selected => absurd (Option.isNone_iff_eq_none.mp selected) excluded,fun eligible => by cases eligible⟩,fun _ => ?_⟩
    rw [reason,if_pos same]
    rfl

theorem agree_missing (known : FeatureDataStatus.ofText? (pythonStatus row) = some .missingBenchmark) :
    Agree readers row ↔ sqlStatus row = pythonStatus row := by
  have python := ofText_known.mp known
  have excluded : exclusionReasonOf readers row ≠ none := not_exact python (by decide)
  have reason := reason_given readers row excluded
  have fresh : sqlStatus row ≠ FeatureDataStatus.staleDate.text := fun stale =>
    absurd (text_injective (python.symm.trans (sql_known stale))) (by decide)
  rw [if_neg fresh] at reason
  rw [agree_meaning,python]
  simp only [Matches,parseFeatureSnapshotEligibility,parse_status,known,eligibilityOf,FeatureEligibility.eligible,pure,Except.pure]
  constructor
  · intro ⟨_,given⟩
    have given := given rfl
    rw [reason] at given
    by_contra differs
    rw [if_neg differs] at given
    exact absurd (reason_injective (Option.some.inj given)) (by decide)
  · intro same
    refine ⟨⟨fun selected => absurd (Option.isNone_iff_eq_none.mp selected) excluded,fun eligible => by cases eligible⟩,fun _ => ?_⟩
    rw [reason,if_pos same]
    rfl

theorem agree_exact (known : FeatureDataStatus.ofText? (pythonStatus row) = some .exactDate) :
    Agree readers row ↔ Loads readers row ∧ (PythonHolds readers row →
      sqlStatus row = pythonStatus row ∧ ∀ text, row.lineageJson = some text → (readers.tryCast text).isSome = true) := by
  have python := ofText_known.mp known
  have differs : ∀ status : FeatureDataStatus, status ≠ .exactDate → pythonStatus row ≠ status.text := fun status other same =>
    other (text_injective (same.symm.trans python))
  rw [agree_meaning]
  by_cases loads : Loads readers row
  · obtain ⟨found,version,holds⟩ := version_found readers row loads
    by_cases current : PythonHolds readers row
    · have parsed : parseFeatureSnapshotEligibility readers row.featureDataStatus (lineageOf row.lineageJson) =
          .ok ⟨row.featureDataStatus,some .exactDate,.eligible,none⟩ := by
        simp [parseFeatureSnapshotEligibility,parse_status,known,eligibilityOf,FeatureEligibility.eligible,version,holds.mpr current,bind,Except.bind,pure,
          Except.pure]
      rw [parsed]
      constructor
      · intro ⟨selected,_⟩
        obtain ⟨same,sqlHolds⟩ := (exact_selected readers row).mp (Option.isNone_iff_eq_none.mp (selected.mpr rfl))
        exact ⟨loads,fun _ => ⟨same.trans python.symm,fun text lineage => sql_accepts sqlHolds lineage⟩⟩
      · intro ⟨_,accepts⟩
        obtain ⟨same,cast⟩ := accepts current
        refine ⟨⟨fun _ => rfl,fun _ => ?_⟩,fun excluded => by cases excluded⟩
        exact Option.isNone_iff_eq_none.mpr ((exact_selected readers row).mpr ⟨same.trans python,python_sql current cast⟩)
    · have parsed : parseFeatureSnapshotEligibility readers row.featureDataStatus (lineageOf row.lineageJson) =
          .ok ⟨row.featureDataStatus,some .exactDate,.excluded,some .unknownFeatureStatus⟩ := by
        have other : found ≠ some (.str contractVersion) := fun same => current (holds.mp same)
        simp [parseFeatureSnapshotEligibility,parse_status,known,eligibilityOf,FeatureEligibility.eligible,version,other,bind,Except.bind,pure,Except.pure]
      have excluded : exclusionReasonOf readers row ≠ none := fun selected =>
        current (sql_python loads ((exact_selected readers row).mp selected).2)
      rw [parsed]
      refine ⟨fun _ => ⟨loads,fun holds => absurd holds current⟩,fun _ => ⟨⟨fun selected => absurd (Option.isNone_iff_eq_none.mp selected) excluded,fun eligible => ?_⟩,fun _ => ?_⟩⟩
      · cases eligible
      · exact reason_unknown excluded (differs .staleDate (by decide)) (differs .missingBenchmark (by decide))
  · have failed : parseFeatureSnapshotEligibility readers row.featureDataStatus (lineageOf row.lineageJson) = .error .other := by
      simp [parseFeatureSnapshotEligibility,parse_status,known,eligibilityOf,FeatureEligibility.eligible,version_refused readers row loads,bind,Except.bind]
    rw [failed]
    exact ⟨fun never => never.elim,fun ⟨reads,_⟩ => loads reads⟩

end

-- The two gates agree on the rows the database reads as the interpreter does, and on no other.
theorem gates_agree (readers : Readers) (row : FeatureRow) : Agree readers row ↔ SqlAlike readers row := by
  unfold SqlAlike
  cases known : FeatureDataStatus.ofText? (pythonStatus row) with
  | none => exact ⟨fun _ status found => (by cases found),fun _ => agree_unknown known⟩
  | some status =>
    simp only [Option.some.injEq,forall_eq']
    cases status with
    | exactDate => simpa using agree_exact known
    | staleDate => simpa using agree_stale known
    | missingBenchmark => simpa using agree_missing known

def currentLineage : Text := "\x7b\"feature_status_contract_version\":\"feature-data-status-v1\"\x7d".toList
def currentPairs : Json := .obj [(contractKey,.str contractVersion)]

-- Readers of one document, and of nothing else.
def plainReaders : Readers where
  loads text := if text = currentLineage then .ok currentPairs else .error .decode
  tryCast text := if text = currentLineage then some currentPairs else none
  written _ := "null".toList
  superset text json cast := by
    split at cast
    next same => exact .inl (by rw [if_pos same]; cases cast; rfl)
    next => cases cast
  written_form _ _ := .inr (.inr (.inl rfl))

-- A tab before the status: eligible in Python and not selected by SQL.
theorem tab_not_trimmed : ¬ Agree plainReaders ⟨some "\tEXACT_DATE".toList,some currentLineage⟩ := by
  intro agree
  have known : FeatureDataStatus.ofText? (pythonStatus ⟨some "\tEXACT_DATE".toList,some currentLineage⟩) = some .exactDate :=
    ofText_known.mpr (by decide)
  have current : PythonHolds plainReaders ⟨some "\tEXACT_DATE".toList,some currentLineage⟩ :=
    ⟨currentLineage,currentPairs,rfl,by simp [plainReaders],by simp [HoldsContract,currentPairs,contractValues]⟩
  obtain ⟨same,_⟩ := ((agree_exact known).mp agree).2 current
  exact absurd same (by decide)

end OpenStock.Features
