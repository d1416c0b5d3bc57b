import Mathlib.Data.Rat.Defs
import OpenStock.Queue.Records

namespace OpenStock.CurrentSymbol
open Text Calendar Queue

/- `CurrentSymbolResearchApplication`: the artifacts of an inspection, the job that may
be submitted for them, and the protocol result. -/

inductive ArtifactState where
  | ready
  | stale
  | missing
  | invalid
deriving DecidableEq

structure ArtifactReadiness where
  name : String
  state : ArtifactState
  required : Bool
  repairable : Bool

structure ArtifactReadinessReport where
  symbol : Text
  requestedDate : Option Text
  effectiveDate : Text
  requestedCapability : ReadinessCapability
  fallbackCapability : Option ReadinessCapability
  artifacts : List ArtifactReadiness
  shouldEnqueue : Bool

namespace ArtifactReadinessReport

def requestedReady (report : ArtifactReadinessReport) : Bool :=
  (report.artifacts.filter ArtifactReadiness.required).all (fun artifact => artifact.state == .ready)

def effectiveCapability (report : ArtifactReadinessReport) : Option ReadinessCapability :=
  if report.requestedReady then some report.requestedCapability
  else if report.fallbackCapability == some .priceAnalysis then
    if (report.artifacts.take 2).all (fun artifact => artifact.state == .ready) then report.fallbackCapability else none
  else none

end ArtifactReadinessReport

inductive CurrentSymbolWaitMode where
  | detach
  | waitUpTo
  | waitUntilTerminal
deriving DecidableEq

structure CurrentSymbolResearchRequest where
  symbol : Text
  effectiveDate : Option Text
  requestedCapability : ReadinessCapability
  priority : Int
  forceRefresh : Bool
  historical : Bool
  waitMode : CurrentSymbolWaitMode
  waitTimeoutSeconds : ℚ
  origin : Option Text
  requestedEnrichments : List GoalEnrichment

/- What one inspection finds in the warehouse. -/

structure Finding where
  state : ArtifactState
  repairable : Bool

structure Evidence where
  symbol : Text
  effectiveDate : Text
  symbolMaster : Finding
  canonicalOhlcv : Finding
  benchmarkOhlcv : Finding
  featureSnapshot : Finding
  candidateScore : Finding

def Finding.artifact (finding : Finding) (name : String) (required : Bool) : ArtifactReadiness :=
  ⟨name,finding.state,required,finding.repairable⟩

def shouldEnqueue (autoSync historical : Bool) (artifacts : List ArtifactReadiness) : Bool :=
  autoSync && !historical && artifacts.any (fun artifact => artifact.required && artifact.state != .ready) &&
    (artifacts.filter (fun artifact => artifact.required && artifact.state != .ready)).all ArtifactReadiness.repairable

-- `_inspect_connection`: the ranking artifacts are required of a ranking only.
def inspectConnection (autoSync : Bool) (request : CurrentSymbolResearchRequest) (evidence : Evidence) :
    ArtifactReadinessReport :=
  let ranking := request.requestedCapability == .candidateRanking
  let artifacts := [evidence.symbolMaster.artifact "symbol_master" true,evidence.canonicalOhlcv.artifact "canonical_ohlcv" true,
    evidence.benchmarkOhlcv.artifact "benchmark_ohlcv" ranking,evidence.featureSnapshot.artifact "feature_snapshot" ranking,
    evidence.candidateScore.artifact "candidate_score" ranking]
  {symbol := evidence.symbol,requestedDate := request.effectiveDate,effectiveDate := evidence.effectiveDate,
   requestedCapability := request.requestedCapability,
   fallbackCapability := if ranking then some .priceAnalysis else none,
   artifacts := artifacts,shouldEnqueue := shouldEnqueue autoSync request.historical artifacts}

/- `wait_for_terminal`. -/

structure ObservedJob where
  jobId : ProvisioningJobId
  status : ProvisioningJobStatus
  result : Option Text

-- Why a call does not return: an exception, or a wait that the given polls do not end.
inductive Stop where
  | raised (message : String)
  | jobNotFound (jobId : ProvisioningJobId)
  | waiting

-- One round of the loop: whether the deadline has passed, and what the queue answers.
structure Poll where
  expired : Bool
  found : Except Stop (Option ObservedJob)

def pollUntil (mode : CurrentSymbolWaitMode) (current : ObservedJob) : List Poll → Except Stop ObservedJob
  | [] => if current.status.isTerminal then .ok current else .error .waiting
  | poll :: polls =>
    if current.status.isTerminal then .ok current
    else if mode = .waitUpTo ∧ poll.expired then .ok current
    else
      match poll.found with
      | .error stop => .error stop
      | .ok none => .error (.jobNotFound current.jobId)
      | .ok (some next) => pollUntil mode next polls

def waitForTerminal (job : ObservedJob) (mode : CurrentSymbolWaitMode) (timeoutSeconds : ℚ) (polls : List Poll) :
    Except Stop ObservedJob :=
  if timeoutSeconds < 0 then .error (.raised "queue wait timeout must not be negative")
  else if mode = .detach then .ok job
  else pollUntil mode job polls

/- The result. -/

inductive CurrentSymbolResearchStatus where
  | ready
  | degraded
  | accepted
  | pending
  | unavailable
  | failed
deriving DecidableEq

inductive CurrentSymbolProvisioningState where
  | reused
  | queued
  | completed
  | unavailable
  | failed

-- The context read from the warehouse or from the result of the job, or why there is none.
inductive CompanyContext (κ : Type) where
  | historicalUnavailable
  | unavailable
  | read (context : κ)

structure CurrentSymbolResearchResult (κ : Type) where
  status : CurrentSymbolResearchStatus
  requestedCapability : ReadinessCapability
  effectiveCapability : Option ReadinessCapability
  requestedDate : Option Text
  effectiveDate : Text
  jobId : Option ProvisioningJobId
  provisioning : CurrentSymbolProvisioningState
  reusedFreshData : Bool
  correlationId : Text
  readiness : ArtifactReadinessReport
  companyContext : Option (CompanyContext κ)

def provisioningState (status : CurrentSymbolResearchStatus) (jobId : Option ProvisioningJobId) : CurrentSymbolProvisioningState :=
  match status with
  | .ready | .degraded => if jobId.isSome then .completed else .reused
  | .accepted | .pending => .queued
  | .unavailable => .unavailable
  | .failed => .failed

def buildResult (κ : Type) (status : CurrentSymbolResearchStatus) (readiness : ArtifactReadinessReport)
    (jobId : Option ProvisioningJobId) (correlationId : Text) : CurrentSymbolResearchResult κ :=
  let chosen : Option ReadinessCapability × Bool :=
    match status with
    | .ready => (some readiness.requestedCapability,jobId.isNone)
    | .degraded => (readiness.effectiveCapability,jobId.isNone)
    | .accepted | .pending | .unavailable | .failed => (none,false)
  {status := status,requestedCapability := readiness.requestedCapability,effectiveCapability := chosen.1,
   requestedDate := readiness.requestedDate,effectiveDate := readiness.effectiveDate,jobId := jobId,
   provisioning := provisioningState status jobId,reusedFreshData := chosen.2,correlationId := correlationId,
   readiness := readiness,companyContext := none}

def terminalStatus (readiness : ArtifactReadinessReport) (succeeded : Bool) : CurrentSymbolResearchStatus :=
  if succeeded && readiness.requestedReady then .ready
  else if succeeded && readiness.effectiveCapability.isSome then .degraded
  else if succeeded then .unavailable
  else .failed

def terminalResult (κ : Type) (readiness : ArtifactReadinessReport) (jobId : ProvisioningJobId) (correlationId : Text)
    (succeeded : Bool) : CurrentSymbolResearchResult κ :=
  buildResult κ (terminalStatus readiness succeeded) readiness (some jobId) correlationId

/- `execute`, in a world of what every call finds. -/

structure Submission where
  job : ObservedJob
  joinedExistingJob : Bool

structure World (κ : Type) where
  autoSync : Bool
  correlationId : Text
  before : Except Stop Evidence
  after : Except Stop Evidence
  openQueue : Except Stop Unit
  submitOrJoin : EnsureCurrentSymbolGoal → (priority : Int) → (origin : Option Text) → (correlationId : Text) → Except Stop Submission
  polls : List Poll
  storedContext : Option κ
  reportedContext : Text → Except Stop (Option κ)

def goalFrom (request : CurrentSymbolResearchRequest) (readiness : ArtifactReadinessReport) :
    Except Stop EnsureCurrentSymbolGoal :=
  match fromIsoformat readiness.effectiveDate with
  | none => .error (.raised "Invalid isoformat string")
  | some date => (mkEnsureCurrentSymbolGoal "policy-v1".toList readiness.symbol date request.requestedCapability
      readiness.fallbackCapability request.requestedEnrichments
      (if request.forceRefresh then .forceRefresh else .cacheFirst) "current-symbol-v1".toList).mapError .raised

-- A returned call: its result, the reports of its inspections in their order, whether
-- the queue was opened, and the goal that was submitted with the job last seen.
structure Run (κ : Type) where
  result : CurrentSymbolResearchResult κ
  inspections : List ArtifactReadinessReport
  opened : Bool
  submitted : Option (EnsureCurrentSymbolGoal × ObservedJob)

section
variable {κ : Type} (world : World κ) (request : CurrentSymbolResearchRequest)

def currentContext : CompanyContext κ :=
  if request.historical then .historicalUnavailable
  else (world.storedContext.map CompanyContext.read).getD .unavailable

def withCompanyContext (result : CurrentSymbolResearchResult κ) : CurrentSymbolResearchResult κ :=
  {result with companyContext := some (currentContext world request)}

def CurrentSymbolResearchRequest.refreshesCompany : Bool := request.requestedEnrichments.contains .companyContext

-- The answer without the queue.
def answered (status : CurrentSymbolResearchStatus) (readiness : ArtifactReadinessReport) : Run κ :=
  ⟨withCompanyContext world request (buildResult κ status readiness none world.correlationId),[readiness],false,none⟩

-- `_company_context_outcome`.
def companyContextOutcome (job : ObservedJob) : Except Stop (Option κ) :=
  match job.result with
  | none => .ok none
  | some text => world.reportedContext text

-- The answer after the wait: from a second inspection when the job has ended.
def concluded (readiness : ArtifactReadinessReport) (goal : EnsureCurrentSymbolGoal) (joined : Bool) (job : ObservedJob) :
    Except Stop (Run κ) :=
  if job.status.isTerminal then do
    let evidence ← world.after
    let inspected := inspectConnection world.autoSync request evidence
    let terminal := terminalResult κ inspected job.jobId world.correlationId (job.status == .succeeded)
    let outcome ← companyContextOutcome world job
    let result :=
      match request.refreshesCompany,outcome with
      | true,some context => {terminal with companyContext := some (.read context)}
      | _,_ => withCompanyContext world request terminal
    return ⟨result,[readiness,inspected],true,some (goal,job)⟩
  else
    let status : CurrentSymbolResearchStatus :=
      if readiness.effectiveCapability.isSome ∧ request.waitMode = .detach then .degraded
      else if joined ∨ request.waitMode ≠ .detach then .pending
      else .accepted
    .ok ⟨withCompanyContext world request (buildResult κ status readiness (some job.jobId) world.correlationId),
      [readiness],true,some (goal,job)⟩

def execute : Except Stop (Run κ) := do
  let evidence ← world.before
  let readiness := inspectConnection world.autoSync request evidence
  let refresh := request.refreshesCompany
  if readiness.requestedReady && !request.forceRefresh && !refresh then
    return answered world request .ready readiness
  else if readiness.effectiveCapability.isSome && !request.forceRefresh && !readiness.shouldEnqueue && !refresh then
    return answered world request .degraded readiness
  else if request.historical || !(readiness.shouldEnqueue || request.forceRefresh || refresh) then
    return answered world request .unavailable readiness
  else do
    world.openQueue
    let goal ← goalFrom request readiness
    let submission ← world.submitOrJoin goal request.priority request.origin world.correlationId
    let job ← waitForTerminal submission.job request.waitMode request.waitTimeoutSeconds world.polls
    concluded world request readiness goal submission.joinedExistingJob job

end

end OpenStock.CurrentSymbol
