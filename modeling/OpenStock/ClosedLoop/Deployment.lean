import OpenStock.ClosedLoop.Artifacts
import Mathlib.Logic.Function.Basic

namespace OpenStock.ClosedLoop

def isAlphanumeric (byte : Byte) : Bool :=
  decide (48 ≤ byte.val ∧ byte.val ≤ 57) || decide (65 ≤ byte.val ∧ byte.val ≤ 90) || decide (97 ≤ byte.val ∧ byte.val ≤ 122)

-- `[A-Za-z0-9][A-Za-z0-9._:-]{0,127}`
def isIdentifier : Bytes → Bool
  | [] => false
  | first :: rest => isAlphanumeric first && rest.all (fun byte => isAlphanumeric byte || byte ∈ ascii "._:-") && decide (rest.length ≤ 127)

structure Identifier where
  bytes : Bytes
  valid : isIdentifier bytes = true
deriving DecidableEq

def validateIdentifier (value : Bytes) : Option Identifier := if valid : isIdentifier value = true then some ⟨value,valid⟩ else none

theorem identifier_plain (identifier : Identifier) : identifier.bytes ≠ [] ∧ 0 ∉ identifier.bytes ∧ 47 ∉ identifier.bytes := by
  obtain ⟨bytes,valid⟩ := identifier
  cases bytes with
  | nil => cases valid
  | cons first rest =>
    simp only [isIdentifier,Bool.and_eq_true,List.all_eq_true] at valid
    have letters : ∀ byte : Byte, byte = 0 ∨ byte = 47 → ¬ (isAlphanumeric byte || decide (byte ∈ ascii "._:-")) = true := by
      intro byte either
      rcases either with rfl | rfl <;> decide
    have apart : ∀ byte : Byte, byte = 0 ∨ byte = 47 → byte ∉ first :: rest := by
      intro byte either member
      rcases List.mem_cons.mp member with rfl | later
      · apply letters byte either
        rw [valid.1.1,Bool.true_or]
      · exact letters byte either (valid.1.2 byte later)
    exact ⟨List.cons_ne_nil _ _,apart 0 (.inl rfl),apart 47 (.inr rfl)⟩

def Identifier.name (identifier : Identifier) : Name := ⟨identifier.bytes,identifier_plain identifier⟩

-- A file name made of an identifier.
def Identifier.file (identifier : Identifier) (suffix : Bytes) (plain : 0 ∉ suffix ∧ 47 ∉ suffix) : Name where
  bytes := identifier.bytes ++ suffix
  plain := by
    obtain ⟨some',noNul,noSlash⟩ := identifier_plain identifier
    refine ⟨fun empty => some' (List.append_eq_nil_iff.mp empty).1,?_,?_⟩
    · rw [List.mem_append,not_or]
      exact ⟨noNul,plain.1⟩
    · rw [List.mem_append,not_or]
      exact ⟨noSlash,plain.2⟩

inductive PromotableArtifactType where
  | indicatorDefinition
  | featureDefinition
  | experimentTemplate
  | patternScannerDefinition
  | offlineEventStudyTemplate
deriving DecidableEq

inductive DeploymentStatus where
  | verified
  | promoted
  | rolledBack

section store
variable [Sha256]

-- No digest stands for the empty text.
structure ValidationReport where
  artifactId : Identifier
  correlationId : Identifier
  passed : Bool
  artifactDigest : Option Sha256.Digest
  artifactRoot : Option Path

structure PromotionVerification where
  candidate : Identifier
  deploymentId : Identifier
  correlationId : Identifier
  candidateType : PromotableArtifactType
  validationReportId : Identifier
  artifactDigest : Option Sha256.Digest
  artifactRoot : Option Path
  passed : Bool

structure DeploymentState where
  deploymentId : Identifier
  candidate : Identifier
  candidateType : PromotableArtifactType
  correlationId : Identifier
  validationReportId : Identifier
  artifactRoot : Option Path
  previousCandidate : Option Identifier
  status : DeploymentStatus
  rollbackReason : Option Bytes

inductive Record where
  | report (report : ValidationReport)
  | verification (verification : PromotionVerification)
  | deployment (state : DeploymentState)

def Record.toReport : Record → Option ValidationReport
  | .report model => some model
  | _ => none

def Record.toVerification : Record → Option PromotionVerification
  | .verification model => some model
  | _ => none

def Record.toDeployment : Record → Option DeploymentState
  | .deployment model => some model
  | _ => none

abbrev Tree := FileTree Record

-- What the checks read in the files of an artifact: the eight checks of a
-- validation, `_correlation_id`, `manifest_type` (none where it raises),
-- `candidate_is_safe`. Last, the texts that are written.
class Inspection where
  checksPass : Tree → Path → Identifier → Bool
  correlationId : Tree → Path → Identifier → Bytes
  manifestType : Tree → Path → Option (Option PromotableArtifactType)
  candidateIsSafe : Tree → Path → Identifier → Bool
  modelDumpJson : Record → Bytes
  markerText : DeploymentState → Bytes → Bytes

variable [Inspection]

def validationsName : Name := ⟨ascii "validations",by decide⟩
def deploymentsName : Name := ⟨ascii "deployments",by decide⟩
def researchName : Name := ⟨ascii "research",by decide⟩
def artifactsName : Name := ⟨ascii "artifacts",by decide⟩
def runsName : Name := ⟨ascii "runs",by decide⟩

def reportPath (artifactId : Identifier) : Path := [validationsName,artifactId.file (ascii ".json") (by decide)]
def verificationPath (deploymentId : Identifier) : Path :=
  [deploymentsName,deploymentId.file (ascii "-verification.json") (by decide)]
def deploymentPath (deploymentId : Identifier) : Path := [deploymentsName,deploymentId.file (ascii ".json") (by decide)]

inductive LoadError where
  | notFound
  | other

def loadModel (tree : Tree) (path : Path) (select : Record → Option α) : Except LoadError α :=
  match tree.resolve path with
  | none => .error .other
  | some path => match tree.node path with
    | none => if tree.isDir path then .error .other else .error .notFound
    | some (.file content) => match content.record.bind select with
      | some model => .ok model
      | none => .error .other
    | some _ => .error .other

def loadValidationReport (tree : Tree) (artifactId : Identifier) : Except LoadError ValidationReport :=
  loadModel tree (reportPath artifactId) Record.toReport
def loadVerification (tree : Tree) (deploymentId : Identifier) : Except LoadError PromotionVerification :=
  loadModel tree (verificationPath deploymentId) Record.toVerification
def loadDeployment (tree : Tree) (deploymentId : Identifier) : Except LoadError DeploymentState :=
  loadModel tree (deploymentPath deploymentId) Record.toDeployment

def writeModel (tree : Tree) (path : Path) (record : Record) : Option Tree :=
  (tree.resolve path).bind (fun path => tree.write path ⟨Inspection.modelDumpJson record,some record⟩)

inductive ScopeError where
  | boundary
  | notFound

-- A resolved path resolves to itself.
def scopedResolved (tree : Tree) (root : Path) : Except ScopeError Path :=
  if !tree.confined root then .error .boundary else if !tree.isDir root then .error .notFound else .ok root

def scopedDirectory (tree : Tree) (path : Path) : Except ScopeError Path :=
  match tree.resolve path with
  | none => .error .boundary
  | some root => scopedResolved tree root

def childNames (tree : Tree) (folder : Path) : List Name :=
  (tree.folders ++ tree.nodes.map Prod.fst).filterMap (fun path =>
    if FileTree.below folder path then (path.drop folder.length).head? else none)

def confinedDirectory (tree : Tree) (path : Path) : Option Path :=
  (tree.ensureTreeConfined path).bind (fun root => if tree.isDir root then some root else none)

def resolveArtifactRoot (tree : Tree) (artifactId : Identifier) : Option Path :=
  match [[researchName,artifactId.name],[artifactsName,artifactId.name]].findSome? (confinedDirectory tree) with
  | some root => some root
  | none => match tree.ensureTreeConfined [runsName] with
    | none => none
    | some runs => (childNames tree runs).findSome? (fun run => confinedDirectory tree [runsName,run,researchName,artifactId.name])

-- `artifact_root` of a call: a path under the root of the store or outside it.
inductive RequestedRoot where
  | absent
  | given (path : Path)
  | outside

def resolveRequestedRoot (tree : Tree) (artifactId : Identifier) : RequestedRoot → Option Path
  | .absent => resolveArtifactRoot tree artifactId
  | .given path => (scopedDirectory tree path).toOption
  | .outside => none

-- A model or a marker in the directory of an artifact. The scoped path is
-- looked up again before each write.
def writeMarker (tree : Tree) (root : Path) (name : Name) (content : File Record) : Option Tree :=
  match scopedResolved tree root with
  | .error _ => none
  | .ok root => (tree.follow root name).bind (fun path => tree.write path content)

-- None where nothing is saved. The copy in the artifact may still fail.
def saveValidationReport (tree : Tree) (report : ValidationReport) : Option Tree :=
  (writeModel tree (reportPath report.artifactId) (.report report)).map (fun saved =>
    match report.artifactRoot with
    | none => saved
    | some root => (writeMarker saved root reportName ⟨Inspection.modelDumpJson (.report report),some (.report report)⟩).getD saved)

-- A root in scope with its digest, where one can be taken.
def digested (tree : Tree) (root : Option Path) : Option (Path × Sha256.Digest) :=
  root.bind (fun root => (artifactDigest tree root).map (fun digest => (root,digest)))

def validationReport (tree : Tree) (artifactId : Identifier) (read : Option (Path × Sha256.Digest)) (correlationId : Option Bytes) :
    Option ValidationReport :=
  let correlation := correlationId.getD (match read with
    | some (root,_) => Inspection.correlationId tree root artifactId
    | none => ascii "artifact-" ++ artifactId.bytes)
  (validateIdentifier correlation).map (fun correlation => {
    artifactId := artifactId
    correlationId := correlation
    passed := match read with
      | some (root,_) => Inspection.checksPass tree root artifactId
      | none => false
    artifactDigest := read.map Prod.snd
    artifactRoot := read.map Prod.fst })

-- The tree after a call, and the report that it saved.
def validateResearchArtifact (tree : Tree) (artifactId : Bytes) (artifactRoot : RequestedRoot) (correlationId : Option Bytes) :
    Tree × Option ValidationReport :=
  match validateIdentifier artifactId with
  | none => (tree,none)
  | some artifactId =>
    match validationReport tree artifactId (digested tree (resolveRequestedRoot tree artifactId artifactRoot)) correlationId with
    | none => (tree,none)
    | some report => match saveValidationReport tree report with
      | none => (tree,none)
      | some after => (after,some report)

-- A directory that is not there raises, one out of bounds counts as none.
def verificationRoot (tree : Tree) (candidate : Identifier) : RequestedRoot → Except ScopeError (Option Path)
  | .given path => (scopedDirectory tree path).map some
  | .outside => .error .boundary
  | .absent => match resolveArtifactRoot tree candidate with
    | some root => (scopedResolved tree root).map some
    | none => .ok none

def verificationPassed (tree : Tree) (candidate : Identifier) (read : Option (Path × Sha256.Digest))
    (report : Option ValidationReport) (candidateType artifactType : Option PromotableArtifactType) : Bool :=
  match report,read with
  | some report,some (root,digest) =>
    report.passed && decide (report.artifactId = candidate) && decide (report.artifactDigest = some digest) &&
      decide (report.artifactRoot = some root) && artifactType.isSome &&
      (candidateType.isNone || decide (candidateType = artifactType)) && Inspection.candidateIsSafe tree root candidate
  | _,_ => false

def promotionVerification (tree : Tree) (candidate deploymentId : Identifier) (read : Option (Path × Sha256.Digest))
    (report : Option ValidationReport) (candidateType artifactType : Option PromotableArtifactType) :
    Option PromotionVerification :=
  let correlation := match report with
    | some report => report.correlationId.bytes
    | none => ascii "artifact-" ++ candidate.bytes
  (validateIdentifier correlation).map (fun correlation => {
    candidate := candidate
    deploymentId := deploymentId
    correlationId := correlation
    candidateType := (candidateType <|> artifactType).getD .featureDefinition
    validationReportId := match report with
      | some report => report.artifactId
      | none => ⟨ascii "missing",by decide⟩
    artifactDigest := read.map Prod.snd
    artifactRoot := read.map Prod.fst
    passed := verificationPassed tree candidate read report candidateType artifactType })

-- `manifest_type`, `_load_report` and the record of a verification.
def judged (tree : Tree) (candidate deploymentId : Identifier) (read : Option (Path × Sha256.Digest))
    (candidateType : Option PromotableArtifactType) : Option PromotionVerification :=
  match loadValidationReport tree candidate with
  | .error .other => none
  | report => match read.elim (some none) (fun found => Inspection.manifestType tree found.1) with
    | none => none
    | some artifactType => promotionVerification tree candidate deploymentId read report.toOption candidateType artifactType

-- `deployment_id` is the requested or the drawn one.
def verifyResearchArtifact (tree : Tree) (candidate : Bytes) (artifactRoot : RequestedRoot)
    (candidateType : Option PromotableArtifactType) (deploymentId : Bytes) : Tree × Option PromotionVerification :=
  match validateIdentifier candidate,validateIdentifier deploymentId with
  | some candidate,some deploymentId => match verificationRoot tree candidate artifactRoot with
    | .error .notFound => (tree,none)
    | root => match judged tree candidate deploymentId (digested tree (root.toOption.bind id)) candidateType with
      | none => (tree,none)
      | some verification => match writeModel tree (verificationPath deploymentId) (.verification verification) with
        | none => (tree,none)
        | some after => (after,some verification)
  | _,_ => (tree,none)

def writePromotionMarker (tree : Tree) (state : DeploymentState) (reason : Bytes) : Option Tree :=
  match state.artifactRoot with
  | none => some tree
  | some path => match scopedDirectory tree path with
    | .error _ => none
    | .ok root => (tree.follow root promotionName).bind (fun path => tree.write path ⟨Inspection.markerText state reason,none⟩)

-- The state is saved first; a marker that cannot be written raises after it.
def recordDeployment (tree : Tree) (state : DeploymentState) (reason : Bytes) : Tree × Option DeploymentState :=
  match writeModel tree (deploymentPath state.deploymentId) (.deployment state) with
  | none => (tree,none)
  | some saved => match writePromotionMarker saved state reason with
    | none => (saved,none)
    | some after => (after,some state)

-- The verification, the report and the root that a promotion rests on.
def gate (tree : Tree) (candidate deploymentId : Identifier) : Option PromotionVerification :=
  match loadVerification tree deploymentId with
  | .error _ => none
  | .ok verification =>
    if verification.candidate ≠ candidate ∨ verification.passed = false then none
    else match verification.artifactRoot.map (scopedDirectory tree) with
    | some (.ok root) => match loadValidationReport tree candidate with
      | .error _ => none
      | .ok report =>
        if report.passed = false ∨ report.artifactDigest ≠ verification.artifactDigest ∨
            report.correlationId ≠ verification.correlationId then none
        else match artifactDigest tree root with
        | none => none
        | some current =>
          if verification.artifactDigest ≠ some current ∨ Inspection.candidateIsSafe tree root candidate = false then none
          else some verification
    | _ => none

def promoteResearchArtifact (tree : Tree) (candidate deploymentId : Bytes) (previousCandidate : Option Bytes) :
    Tree × Option DeploymentState :=
  match validateIdentifier candidate,validateIdentifier deploymentId with
  | some candidate,some deploymentId => match gate tree candidate deploymentId with
    | none => (tree,none)
    | some verification => match previousCandidate.map validateIdentifier with
      | some none => (tree,none)
      | previous => recordDeployment tree {
          deploymentId := deploymentId
          candidate := candidate
          candidateType := verification.candidateType
          correlationId := verification.correlationId
          validationReportId := verification.validationReportId
          artifactRoot := verification.artifactRoot
          previousCandidate := previous.bind id
          status := .promoted
          rollbackReason := none } []
  | _,_ => (tree,none)

def rollbackResearchArtifact (tree : Tree) (deploymentId : Bytes) (reason : Bytes) : Tree × Option DeploymentState :=
  match validateIdentifier deploymentId with
  | none => (tree,none)
  | some deploymentId => match loadDeployment tree deploymentId with
    | .error _ => (tree,none)
    | .ok state => recordDeployment tree {state with status:=.rolledBack, rollbackReason:=some reason} reason

end store
end OpenStock.ClosedLoop
