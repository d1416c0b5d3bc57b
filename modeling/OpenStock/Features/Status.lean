import OpenStock.Foundations.Json

namespace OpenStock.Features
open Text

/- Feature eligibility: what the Python gate and the SQL gate say of a snapshot row. -/

inductive FeatureDataStatus where
  | exactDate
  | staleDate
  | missingBenchmark
deriving DecidableEq

def FeatureDataStatus.text : FeatureDataStatus → Text
  | .exactDate => "EXACT_DATE".toList
  | .staleDate => "STALE_DATE".toList
  | .missingBenchmark => "MISSING_BENCHMARK".toList

-- `FeatureDataStatus(text)`
def FeatureDataStatus.ofText? (text : Text) : Option FeatureDataStatus :=
  [.exactDate,.staleDate,.missingBenchmark].find? (fun status => FeatureDataStatus.text status == text)

inductive FeatureEligibilityStatus where
  | eligible
  | excluded
deriving DecidableEq

inductive FeatureExclusionReason where
  | staleFeatureDate
  | missingBenchmark
  | unknownFeatureStatus
deriving DecidableEq

def FeatureExclusionReason.text : FeatureExclusionReason → Text
  | .staleFeatureDate => "STALE_FEATURE_DATE".toList
  | .missingBenchmark => "MISSING_BENCHMARK".toList
  | .unknownFeatureStatus => "UNKNOWN_FEATURE_STATUS".toList

structure FeatureEligibility where
  rawStatus : Option Text
  status : Option FeatureDataStatus
  eligibilityStatus : FeatureEligibilityStatus
  exclusionReason : Option FeatureExclusionReason

def FeatureEligibility.eligible (eligibility : FeatureEligibility) : Bool := eligibility.eligibilityStatus == .eligible

def eligibilityOf (rawStatus : Option Text) : Option FeatureDataStatus → FeatureEligibility
  | none => ⟨rawStatus,none,.excluded,some .unknownFeatureStatus⟩
  | some .exactDate => ⟨rawStatus,some .exactDate,.eligible,none⟩
  | some .staleDate => ⟨rawStatus,some .staleDate,.excluded,some .staleFeatureDate⟩
  | some .missingBenchmark => ⟨rawStatus,some .missingBenchmark,.excluded,some .missingBenchmark⟩

def parseFeatureEligibility (rawStatus : Option Text) : FeatureEligibility :=
  let normalized := match rawStatus with
    | some raw => upper (strip raw)
    | none => []
  eligibilityOf rawStatus (FeatureDataStatus.ofText? normalized)

def contractKey : Text := "feature_status_contract_version".toList
def contractVersion : Text := "feature-data-status-v1".toList

-- `other`: a nesting or a number too large for the interpreter, which is no decode error.
inductive LoadError where
  | decode
  | other

/- The JSON readers of the two sides. Both keep an object's pairs as they stand. -/
structure Readers where
  loads : Text → Except LoadError Json
  tryCast : Text → Option Json
  -- The database's text of a value that is no string.
  written : Json → Text
  -- The interpreter's JSON is a superset.
  superset : ∀ text json, tryCast text = some json → loads text = .ok json ∨ loads text = .error .other
  -- A JSON text that is no string begins with one of these.
  written_form : ∀ json, (∀ value, json ≠ .str value) → written json = "true".toList ∨ written json = "false".toList ∨
    written json = "null".toList ∨ ∃ c rest, written json = c :: rest ∧ (c.isDigit ∨ c = '-' ∨ c = '[' ∨ c = '\x7b')

inductive Lineage where
  | absent
  | text (text : Text)
  | mapping (members : List (Text × Json))

def contractValues (members : List (Text × Json)) : List Json :=
  (members.filter (fun member => member.1 == contractKey)).map Prod.snd

-- The contract version found in the lineage.
def foundVersion (readers : Readers) : Lineage → Except LoadError (Option Json)
  | .absent => .ok none
  | .text text =>
    match readers.loads text with
    | .ok (.obj members) =>
      match contractValues members with
      | [value] => .ok (some value)
      | _ => .ok none
    | .ok _ => .ok none
    | .error .decode => .ok none
    | .error .other => .error .other
  | .mapping members => .ok (Json.lookup members contractKey)

def parseFeatureSnapshotEligibility (readers : Readers) (rawStatus : Option Text) (rawLineage : Lineage) :
    Except LoadError FeatureEligibility := do
  let eligibility := parseFeatureEligibility rawStatus
  if !eligibility.eligible then return eligibility
  let found ← foundVersion readers rawLineage
  if found = some (.str contractVersion) then return eligibility
  return ⟨rawStatus,eligibility.status,.excluded,some .unknownFeatureStatus⟩

/- The SQL gate. NULL is `none`, and a condition holds when it is true. -/

structure FeatureRow where
  featureDataStatus : Option Text
  lineageJson : Option Text

def sqlEq {α : Type} [DecidableEq α] (left : Option α) (right : α) : Option Bool := left.map (fun value => decide (value = right))

def sqlAnd : Option Bool → Option Bool → Option Bool
  | some false,_ => some false
  | _,some false => some false
  | some true,some true => some true
  | _,_ => none

def jsonKeys : Json → List Text
  | .obj members => members.map Prod.fst
  | _ => []

def jsonExtractString (readers : Readers) (json : Json) (key : Text) : Option Text :=
  match json with
  | .obj members =>
    match Json.lookup members key with
    | none => none
    | some .null => none
    | some (.str value) => some value
    | some value => some (readers.written value)
  | _ => none

-- The CASE expression on one row.
def exclusionReasonOf (readers : Readers) (row : FeatureRow) : Option Text :=
  let status := sqlUpper (sqlTrim (row.featureDataStatus.getD []))
  let json := row.lineageJson.bind readers.tryCast
  let version := json.bind (fun json => jsonExtractString readers json contractKey)
  let keyCount := json.map (fun json => ((jsonKeys json).filter (fun key => key == contractKey)).length)
  if sqlAnd (sqlAnd (sqlEq (some status) FeatureDataStatus.exactDate.text) (sqlEq keyCount 1)) (sqlEq version contractVersion) = some true then none
  else if status = FeatureDataStatus.staleDate.text then some FeatureExclusionReason.staleFeatureDate.text
  else if status = FeatureDataStatus.missingBenchmark.text then some FeatureExclusionReason.missingBenchmark.text
  else some FeatureExclusionReason.unknownFeatureStatus.text

def properAlias : Text → Bool
  | [] => false
  | c :: rest => c.isAlpha && (c :: rest).all (fun c => c.isAlphanum || c == '_')

-- No expression is built for a table alias that is no identifier.
def featureExclusionReasonSql (readers : Readers) (tableAlias : Text) : Option (FeatureRow → Option Text) :=
  if properAlias tableAlias then some (exclusionReasonOf readers) else none

def featureEligibilitySql (readers : Readers) (tableAlias : Text) : Option (FeatureRow → Bool) :=
  (featureExclusionReasonSql readers tableAlias).map (fun reason row => (reason row).isNone)

/- What is asked of the two gates. -/

def lineageOf : Option Text → Lineage
  | none => .absent
  | some text => .text text

-- The SQL gate's two answers are those of the eligibility.
def Matches (selected : Bool) (reason : Option Text) : Except LoadError FeatureEligibility → Prop
  | .error _ => False
  | .ok eligibility => (selected = true ↔ eligibility.eligible = true) ∧
      (eligibility.eligible = false → reason = eligibility.exclusionReason.map FeatureExclusionReason.text)

-- The SQL gate selects the eligible rows and gives the others the same reason.
def Agree (readers : Readers) (row : FeatureRow) : Prop :=
  ∀ tableAlias reason selected, featureExclusionReasonSql readers tableAlias = some reason →
    featureEligibilitySql readers tableAlias = some selected →
    Matches (selected row) (reason row) (parseFeatureSnapshotEligibility readers row.featureDataStatus (lineageOf row.lineageJson))

end OpenStock.Features
