import OpenStock.DataAvailability.Planner
import OpenStock.Foundations.Substrings
import OpenStock.Foundations.Validation

namespace OpenStock.DataAvailability
open Text Calendar Substrings

/- What is kept of a failed action. -/

-- An exception: the name of its class and its `str`.
structure ActionError where
  typeName : Text
  message : Text

-- Exact on ASCII and on the code points whose folding has an ASCII letter.
def casefoldPoint (c : Char) : Text :=
  if c.isUpper then [Char.ofNat (c.toNat + 32)] else
  match c.toNat with
  | 0xDF => ['s','s']
  | 0x130 => ['i',Char.ofNat 0x307]
  | 0x149 => [Char.ofNat 0x2BC,'n']
  | 0x17F => ['s']
  | 0x1F0 => ['j',Char.ofNat 0x30C]
  | 0x1E96 => ['h',Char.ofNat 0x331]
  | 0x1E97 => ['t',Char.ofNat 0x308]
  | 0x1E98 => ['w',Char.ofNat 0x30A]
  | 0x1E99 => ['y',Char.ofNat 0x30A]
  | 0x1E9A => ['a',Char.ofNat 0x2BE]
  | 0x1E9E => ['s','s']
  | 0x212A => ['k']
  | 0xFB00 => ['f','f']
  | 0xFB01 => ['f','i']
  | 0xFB02 => ['f','l']
  | 0xFB03 => ['f','f','i']
  | 0xFB04 => ['f','f','l']
  | 0xFB05 => ['s','t']
  | 0xFB06 => ['s','t']
  | _ => [c]

def messageMarkers : List (Text × Text) :=
  [("no raw".toList,"NO_RAW_ROWS".toList),("does not support".toList,"PROVIDER_UNSUPPORTED_DATASET".toList),
    ("not support index".toList,"PROVIDER_UNSUPPORTED_DATASET".toList),("cannot connect".toList,"PROVIDER_UNREACHABLE".toList),
    ("connection".toList,"PROVIDER_UNREACHABLE".toList),("timeout".toList,"PROVIDER_UNREACHABLE".toList),
    ("timed out".toList,"PROVIDER_UNREACHABLE".toList),("schema".toList,"CANONICAL_SCHEMA_INVALID".toList),
    ("quarantine".toList,"CANONICAL_SCHEMA_INVALID".toList),("did not reach".toList,"SESSION_DATA_UNAVAILABLE".toList),
    ("returned no data".toList,"SESSION_DATA_UNAVAILABLE".toList),("provider unavailable".toList,"SESSION_DATA_UNAVAILABLE".toList),
    ("benchmark".toList,"BENCHMARK_JOIN_EMPTY".toList),("lookback".toList,"INSUFFICIENT_LOOKBACK".toList),
    ("insufficient".toList,"INSUFFICIENT_LOOKBACK".toList),("no row".toList,"SCORE_INPUT_MISSING".toList),
    ("produced no".toList,"SCORE_INPUT_MISSING".toList),("credential".toList,"PROVIDER_AUTH_MISSING".toList),
    ("auth".toList,"PROVIDER_AUTH_MISSING".toList),("not a completed".toList,"SESSION_NOT_COMPLETED".toList),
    ("calendar".toList,"SESSION_NOT_COMPLETED".toList),("postcondition".toList,"POSTCONDITION_UNSATISFIED".toList)]

def actionDefaultCategory : EnsureDataAction → Text
  | .symbolsSynced => "SYMBOL_SYNC_FAILED".toList
  | .ohlcvSynced => "OHLCV_SYNC_FAILED".toList
  | .canonicalBuilt => "CANONICAL_BUILD_FAILED".toList
  | .benchmarkSynced => "BENCHMARK_SYNC_FAILED".toList
  | .benchmarkCanonicalBuilt => "BENCHMARK_CANONICAL_BUILD_FAILED".toList
  | .featuresBuilt => "FEATURE_BUILD_FAILED".toList
  | .scored => "SCORE_BUILD_FAILED".toList
  | .cacheHit => "PROVISIONING_FAILED".toList

def datasetForAction : EnsureDataAction → Text
  | .symbolsSynced => "reference.symbols".toList
  | .ohlcvSynced => "equity.ohlcv".toList
  | .canonicalBuilt => "equity.canonical_ohlcv".toList
  | .benchmarkSynced => "index.ohlcv".toList
  | .benchmarkCanonicalBuilt => "index.canonical_ohlcv".toList
  | .featuresBuilt => "feature_snapshot".toList
  | .scored => "candidate_score".toList
  | .cacheHit => lower EnsureDataAction.cacheHit.value

def benchmarkSteps : List EnsureDataAction := [.benchmarkSynced,.benchmarkCanonicalBuilt]

def subjectSymbol (action : EnsureDataAction) (symbol benchmark : Text) : Text :=
  if action ∈ benchmarkSteps then benchmark else symbol

def classifyFailure (action : EnsureDataAction) (error : ActionError) : Text :=
  let lowered := error.message.flatMap casefoldPoint
  match messageMarkers.find? (fun marker => marker.1 <:+: lowered) with
  | some marker => marker.2
  | none => actionDefaultCategory action

def maxRootCauseChars : Nat := 240

def sanitizeRootCause (error : ActionError) : Text :=
  let message := if strip error.message = [] then error.typeName else strip error.message
  let message := List.intercalate [' '] ((message.splitOnP isSpace).filter (fun word => word ≠ []))
  let message :=
    if message.length > maxRootCauseChars then (stripLeft (message.take (maxRootCauseChars - 1)).reverse).reverse ++ ['…']
    else message
  error.typeName ++ ": ".toList ++ message

/- One call. -/

inductive EnsureDataActionStatus where
  | success
  | failed
deriving DecidableEq

structure EnsureDataActionOutcome where
  action : EnsureDataAction
  status : EnsureDataActionStatus
  dataset : Option Text
  symbol : Option Text
  failureCategory : Option Text
  rootCause : Option Text

inductive EnsureDataStatus where
  | ready
  | partly
  | failed

structure EnsureDataResult where
  symbol : Text
  targetDate : Text
  status : EnsureDataStatus
  actionsTaken : List EnsureDataAction
  actionOutcomes : List EnsureDataActionOutcome
  warnings : List Text
  errors : List Text
  canonicalBars : Int
  featureSnapshotExists : Bool
  candidateScoreExists : Bool
  freshness : Text
  lineageActions : List Text
  cacheRejectionReasons : List Text
  symbolKnown : Option Bool
  benchmarkBars : Option Int
  candidateScoreAsOfDate : Option Text
  qualityStatus : Option Text
  lineageFields : List Text
  coreEvidenceEvaluated : Bool
  failureCode : Option Text
  rawWindowReady : Option Bool
  cacheEligibilityReasons : Option (List Text)

def emptyResult (symbol targetDate : Text) : EnsureDataResult :=
  ⟨symbol,targetDate,.failed,[],[],[],[],0,false,false,"unknown".toList,[],[],none,none,none,none,[],false,none,none,none⟩

structure EnsureRequest where
  symbol : Text
  targetDate : Option Text
  policy : DataAvailabilityPolicy
  forceRefresh : Bool

structure NormalizedEnsureRequest where
  symbol : Text
  targetDate : Text
  policy : DataAvailabilityPolicy
  forceRefresh : Bool

inductive EnsureError where
  | invalidEnsureDate (value : Text)
  | raised (error : ActionError)

-- What surrounds a call: each look and each action may find and change anything, or raise.
structure World (σ : Type) where
  today : Date
  lockFree : Bool
  snapshot : σ → Except ActionError EnsureDataSnapshot × σ
  benchmarkEvidence : EnsureDataSnapshot → σ → Except ActionError (Int × Option Text) × σ
  execute : EnsureDataAction → EnsureDataSnapshot → σ → Option ActionError × σ

def normalizeExplicitDate (value : Text) : Except EnsureError Text :=
  let normalized := strip value
  match fromIsoformat normalized with
  | none => .error (.invalidEnsureDate value)
  | some parsed => if parsed.isoformat = normalized then .ok normalized else .error (.invalidEnsureDate value)

def normalizeOptionalDate (value : Option Text) (today : Date) : Except EnsureError Text :=
  match value with
  | none => .ok today.isoformat
  | some value => if lower (strip value) = "today".toList then .ok today.isoformat else normalizeExplicitDate value

variable {σ : Type}

/- Running actions. -/

structure Executed (σ : Type) where
  completed : List EnsureDataAction
  warnings : List Text
  failures : List (EnsureDataAction × ActionError)
  state : σ

-- `failures` is what `on_failure` is called with, the last call first.
def executePlannedActions (runner : EnsureDataAction → σ → Option ActionError × σ) : List EnsureDataAction → σ → Executed σ
  | [],state => ⟨[],[],[],state⟩
  | action :: actions,state =>
    match runner action state with
    | (some error,after) =>
      let rest := executePlannedActions runner actions after
      {rest with
        warnings := (action.value ++ " failed: ".toList ++ error.message) :: rest.warnings
        failures := rest.failures ++ [(action,error)]}
    | (none,after) =>
      let rest := executePlannedActions runner actions after
      {rest with completed := action :: rest.completed}

def legacyNames : List (Text × Text) :=
  [("SYMBOLS_SYNCED".toList,"symbol_master sync".toList),("OHLCV_SYNCED".toList,"OHLCV sync".toList),
    ("CANONICAL_BUILT".toList,"Canonical build".toList),("BENCHMARK_SYNCED".toList,"Benchmark sync".toList),
    ("BENCHMARK_CANONICAL_BUILT".toList,"Benchmark canonical build".toList),("FEATURES_BUILT".toList,"Feature build".toList),
    ("SCORED".toList,"Scoring".toList)]

-- Every action that is run has a legacy name.
def legacyWarning (warning : Text) : Text :=
  let (action,detail) := (cut " failed: ".toList warning).getD (warning,[])
  ((legacyNames.find? (fun entry => entry.1 = action)).map Prod.snd).getD action ++ " failed: ".toList ++ detail

def rawWindowReady (rowCount : Int) (latestBarDate : Option Text) (targetDate : Text) (policy : DataAvailabilityPolicy) : Bool :=
  decide (rowCount ≥ policy.minRequiredBars) && decide (latestBarDate = some targetDate)

def orNone : Option Text → Text
  | some (c :: text) => c :: text
  | _ => "none".toList

def shown (number : Int) : Text := (toString number).toList

def postconditionFailureDetail (action : EnsureDataAction) (policy : DataAvailabilityPolicy) (snapshot : EnsureDataSnapshot) : Text :=
  let target := snapshot.targetDate
  match action with
  | .ohlcvSynced =>
    "OHLCV did not reach ".toList ++ target ++ ": latest available raw bar is ".toList ++ orNone snapshot.latestRawBarDate ++
      " (".toList ++ shown snapshot.rawOhlcvBars ++ (" bars). The provider returned no data " ++
        "for the requested session (provider unavailable or session not yet published).").toList
  | .canonicalBuilt =>
    "Canonical OHLCV did not reach ".toList ++ target ++ ": latest canonical bar is ".toList ++
      orNone snapshot.latestCanonicalBarDate ++ ".".toList
  | .benchmarkSynced | .benchmarkCanonicalBuilt =>
    "Benchmark ".toList ++ policy.benchmark ++ " did not reach ".toList ++ target ++ ": latest benchmark bar is ".toList ++
      orNone snapshot.latestBenchmarkBarDate ++ " (".toList ++ shown snapshot.benchmarkBars ++ " bars).".toList
  | .featuresBuilt => "Feature snapshot for ".toList ++ target ++ " could not be built or validated.".toList
  | .scored => "Candidate score for ".toList ++ target ++ " is missing or stale after scoring.".toList
  | other => other.value ++ " postcondition was not satisfied after reload.".toList

def actionPostconditionSatisfied (world : World σ) (action : EnsureDataAction) (policy : DataAvailabilityPolicy)
    (snapshot : EnsureDataSnapshot) (state : σ) : Except ActionError Bool × σ :=
  let issues := (evaluateCacheEligibility snapshot policy).issues
  match action with
  | .symbolsSynced => (.ok snapshot.symbolKnown,state)
  | .ohlcvSynced => (.ok (rawWindowReady snapshot.rawOhlcvBars snapshot.latestRawBarDate snapshot.targetDate policy),state)
  | .canonicalBuilt =>
    (.ok (!meets issues canonicalIssues && decide (snapshot.latestCanonicalBarDate = some snapshot.targetDate)),state)
  | .benchmarkSynced =>
    match world.benchmarkEvidence snapshot state with
    | (.error error,after) => (.error error,after)
    | (.ok evidence,after) => (.ok (rawWindowReady evidence.1 evidence.2 snapshot.targetDate policy),after)
  | .benchmarkCanonicalBuilt =>
    (.ok (!issues.contains .benchmarkHistoryInsufficient && decide (snapshot.latestBenchmarkBarDate = some snapshot.targetDate)),state)
  | .featuresBuilt => (.ok (!meets issues featureIssues),state)
  | .scored => (.ok (!meets issues scoreIssues && decide (snapshot.candidateScoreAsOfDate = some snapshot.targetDate)),state)
  | .cacheHit => (.ok true,state)

-- The action's exception, or that of a look or of the unsatisfied postcondition.
def runAndVerify (world : World σ) (policy : DataAvailabilityPolicy) (action : EnsureDataAction) (state : σ) : Option ActionError × σ :=
  match world.snapshot state with
  | (.error error,after) => (some error,after)
  | (.ok before,looked) =>
    match world.execute action before looked with
    | (some error,after) => (some error,after)
    | (none,done) =>
      match world.snapshot done with
      | (.error error,after) => (some error,after)
      | (.ok reloaded,verifying) =>
        match actionPostconditionSatisfied world action policy reloaded verifying with
        | (.error error,after) => (some error,after)
        | (.ok true,after) => (none,after)
        | (.ok false,after) => (some ⟨"RuntimeError".toList,postconditionFailureDetail action policy reloaded⟩,after)

-- The outcome of an action, by the failure it ended with.
def outcomeOf (symbol benchmark : Text) (action : EnsureDataAction) (failure : Option ActionError) : EnsureDataActionOutcome :=
  ⟨action,if failure.isSome then .failed else .success,some (datasetForAction action),
    some (subjectSymbol action symbol benchmark),failure.map (classifyFailure action),failure.map sanitizeRootCause⟩

def runActions (world : World σ) (request : NormalizedEnsureRequest) (actions : List EnsureDataAction) (result : EnsureDataResult)
    (state : σ) : EnsureDataResult × σ :=
  let executed := executePlannedActions (runAndVerify world request.policy) actions state
  ({result with
    actionsTaken := result.actionsTaken ++ executed.completed
    actionOutcomes := result.actionOutcomes ++ actions.map (fun action =>
      outcomeOf request.symbol request.policy.benchmark action (executed.failures.lookup action))
    warnings := result.warnings ++ executed.warnings.map legacyWarning},executed.state)

def augmentRefreshProvisionActions (planned : List EnsureDataAction) (snapshot : EnsureDataSnapshot) (policy : DataAvailabilityPolicy) :
    List EnsureDataAction :=
  if !policy.autoSync then planned
  else
    let own := if snapshot.canonicalBars ≥ policy.minRequiredBars then [.ohlcvSynced,.canonicalBuilt] else []
    let benchmark := if policy.requireBenchmarkHistory && decide (snapshot.benchmarkBars ≥ policy.minRequiredBars) then
      [.benchmarkSynced,.benchmarkCanonicalBuilt] else []
    provisionActions.filter (fun action => action ∈ planned ++ own ++ benchmark)

/- How a call ends. -/

def recordSnapshotEvidence (result : EnsureDataResult) (snapshot : EnsureDataSnapshot) (policy : DataAvailabilityPolicy) :
    EnsureDataResult :=
  {result with
    symbolKnown := some snapshot.symbolKnown
    benchmarkBars := some snapshot.benchmarkBars
    candidateScoreAsOfDate := snapshot.candidateScoreAsOfDate
    qualityStatus := snapshot.qualityStatus
    lineageFields := snapshot.lineageFields
    coreEvidenceEvaluated := true
    rawWindowReady := some (decide (snapshot.rawOhlcvBars ≥ policy.minRequiredBars) &&
      decide (snapshot.latestRawBarDate = some snapshot.targetDate) && decide (snapshot.unresolvedTrueGapCount = 0))}

def cacheHitResult (result : EnsureDataResult) (snapshot : EnsureDataSnapshot) (policy : DataAvailabilityPolicy) : EnsureDataResult :=
  let result := recordSnapshotEvidence result snapshot policy
  {result with
    canonicalBars := snapshot.canonicalBars
    featureSnapshotExists := snapshot.featureSnapshotExists
    candidateScoreExists := true
    actionsTaken := result.actionsTaken ++ [.cacheHit]
    actionOutcomes := result.actionOutcomes ++ [⟨.cacheHit,.success,none,none,none,none⟩]
    freshness := "cache_hit".toList
    lineageActions := [EnsureDataAction.cacheHit.value]
    status := .ready}

def missingSymbolResult (result : EnsureDataResult) (snapshot : EnsureDataSnapshot) (policy : DataAvailabilityPolicy) :
    EnsureDataResult :=
  let result := recordSnapshotEvidence result snapshot policy
  {result with
    symbolKnown := some false
    errors := result.errors ++ ["Symbol '".toList ++ result.symbol ++ "' not found in symbol_master.".toList]
    status := .failed}

def finaliseWarnings (snapshot : EnsureDataSnapshot) (policy : DataAvailabilityPolicy) : List Text :=
  (if snapshot.canonicalBars < policy.minRequiredBars then
    ["Insufficient canonical bars: ".toList ++ shown snapshot.canonicalBars ++ " < ".toList ++ shown policy.minRequiredBars ++
      " required.".toList] else []) ++
  (if snapshot.unresolvedTrueGapCount > 0 then
    ["Unresolved canonical OHLCV gaps: ".toList ++ shown snapshot.unresolvedTrueGapCount ++ ". Run a bounded OHLCV repair.".toList]
    else []) ++
  (if policy.requireBenchmarkHistory && decide (snapshot.benchmarkBars < policy.minRequiredBars) then
    ["Benchmark '".toList ++ policy.benchmark ++ "' has insufficient bars: ".toList ++ shown snapshot.benchmarkBars ++
      ". RS features will be NaN.".toList] else [])

def finaliseResult (result : EnsureDataResult) (snapshot : EnsureDataSnapshot) (policy : DataAvailabilityPolicy) : EnsureDataResult :=
  let eligibility := evaluateCacheEligibility snapshot policy
  let result := recordSnapshotEvidence result snapshot policy
  let result := {result with
    canonicalBars := snapshot.canonicalBars
    featureSnapshotExists := snapshot.featureSnapshotExists
    candidateScoreExists := snapshot.candidateScoreExists
    lineageActions := result.actionsTaken.map EnsureDataAction.value
    freshness :=
      if snapshot.canonicalBars < policy.minRequiredBars then "missing_canonical".toList
      else if eligibility.eligible then "ready".toList
      else "partial".toList
    warnings := result.warnings ++ finaliseWarnings snapshot policy}
  let actionFailed := result.actionOutcomes.any (fun outcome => outcome.status == .failed)
  if !eligibility.eligible || actionFailed then
    {result with
      warnings := if result.warnings = [] then
        ["Candidate cache evidence remains incomplete: ".toList ++ List.intercalate ", ".toList eligibility.reasons ++ ".".toList]
        else result.warnings
      cacheEligibilityReasons := some eligibility.reasons
      status := .partly}
  else {result with status := .ready}

/- The call. -/

abbrev Call (σ : Type) := StateT σ (Except EnsureError)

def look (world : World σ) : Call σ EnsureDataSnapshot := fun state =>
  match world.snapshot state with
  | (.ok snapshot,after) => .ok (snapshot,after)
  | (.error error,_) => .error (.raised error)

def runRound (world : World σ) (request : NormalizedEnsureRequest) (actions : List EnsureDataAction) (result : EnsureDataResult) :
    Call σ EnsureDataResult := fun state => .ok (runActions world request actions result state)

def normaliseInputs (world : World σ) (request : EnsureRequest) : Call σ NormalizedEnsureRequest := fun state => do
  let targetDate ← normalizeOptionalDate request.targetDate world.today
  .ok (⟨strip (upper request.symbol),targetDate,request.policy,request.forceRefresh⟩,state)

def succeeded (result : EnsureDataResult) (actions : List EnsureDataAction) : Bool :=
  result.actionOutcomes.any (fun outcome => decide (outcome.action ∈ actions) && outcome.status == .success)

def plannedProvision (request : NormalizedEnsureRequest) (snapshot : EnsureDataSnapshot) : List EnsureDataAction :=
  let planned := (planDataAvailability snapshot request.policy).filter (fun action => action ∈ provisionActions)
  if request.forceRefresh then augmentRefreshProvisionActions planned snapshot request.policy else planned

def plannedFeatures (request : NormalizedEnsureRequest) (result : EnsureDataResult) (snapshot : EnsureDataSnapshot) :
    List EnsureDataAction :=
  let plan := planDataAvailability snapshot request.policy
  if request.policy.autoSync && (request.forceRefresh || succeeded result provisionActions) &&
      !plan.any (fun action => action ∈ provisionActions) then [.featuresBuilt]
  else plan.filter (fun action => action = .featuresBuilt)

def plannedScore (request : NormalizedEnsureRequest) (result : EnsureDataResult) (snapshot : EnsureDataSnapshot) :
    List EnsureDataAction :=
  if request.forceRefresh && succeeded result [.featuresBuilt] then [.scored]
  else (planDataAvailability snapshot request.policy).filter (fun action => action = .scored)

def ensureDataAvailability (world : World σ) (given : EnsureRequest) : Call σ EnsureDataResult := do
  let request ← normaliseInputs world given
  let result := emptyResult request.symbol request.targetDate
  if !world.lockFree then
    return {result with
      failureCode := some "LOCK_CONTENDED".toList
      warnings := ["Another ensure flow is active for ".toList ++ request.symbol ++ "/".toList ++ request.targetDate ++ ". Skipping.".toList]
      status := .partly}
  let first ← look world
  let eligibility := evaluateCacheEligibility first request.policy
  if eligibility.eligible && !request.forceRefresh then return cacheHitResult result first request.policy
  let result := {result with cacheRejectionReasons :=
    if request.forceRefresh && eligibility.eligible then ["force_refresh".toList] else eligibility.reasons}
  let result ← runRound world request ((planDataAvailability first request.policy).filter (fun action => action = .symbolsSynced)) result
  let known ← look world
  if !known.symbolKnown then return missingSymbolResult result known request.policy
  let result ← runRound world request (plannedProvision request known) result
  let provided ← look world
  let result ← runRound world request (plannedFeatures request result provided) result
  let built ← look world
  let result ← runRound world request (plannedScore request result built) result
  let final ← look world
  return finaliseResult result final request.policy

-- `_first_actionable_failure` of the readiness service.
def failureMessage (result : EnsureDataResult) (outcome : EnsureDataActionOutcome) : Text :=
  "Deep-analysis preparation failed at stage ".toList ++ outcome.action.value ++ " (dataset=".toList ++
    outcome.dataset.getD "unknown".toList ++ ", symbol=".toList ++ outcome.symbol.getD result.symbol ++ ", category=".toList ++
    outcome.failureCategory.getD "PROVISIONING_FAILED".toList ++ "): ".toList ++ outcome.rootCause.getD "no additional detail".toList

def firstActionableFailure (result : EnsureDataResult) : Option Text :=
  (result.actionOutcomes.find? (fun outcome => outcome.status == .failed)).map (failureMessage result)

/- What the actions of a round end with, tried one after another. -/

def tries (runner : EnsureDataAction → σ → Option ActionError × σ) : List EnsureDataAction → σ → List (EnsureDataAction × Option ActionError) × σ
  | [],state => ([],state)
  | action :: actions,state =>
    let (failure,after) := runner action state
    let (others,final) := tries runner actions after
    ((action,failure) :: others,final)

variable {runner : EnsureDataAction → σ → Option ActionError × σ}

theorem tries_actions (actions : List EnsureDataAction) (state : σ) : (tries runner actions state).1.map Prod.fst = actions := by
  induction actions generalizing state with
  | nil => rfl
  | cons action actions ih => exact congrArg (action :: ·) (ih _)

theorem executed_state (actions : List EnsureDataAction) (state : σ) :
    (executePlannedActions runner actions state).state = (tries runner actions state).2 := by
  induction actions generalizing state with
  | nil => rfl
  | cons action actions ih =>
    rw [executePlannedActions,tries]
    rcases ran : runner action state with ⟨failure,after⟩
    cases failure with
    | none => exact ih after
    | some error => exact ih after

variable {actions : List EnsureDataAction} {state : σ}

theorem failures_listed {failure : EnsureDataAction × ActionError}
    (inside : failure ∈ (executePlannedActions runner actions state).failures) : failure.1 ∈ actions := by
  induction actions generalizing state with
  | nil => cases inside
  | cons action actions ih =>
    rw [executePlannedActions] at inside
    rcases ran : runner action state with ⟨failed,after⟩
    rw [ran] at inside
    cases failed with
    | none => exact List.mem_cons_of_mem _ (ih inside)
    | some error =>
      rcases List.mem_append.mp inside with later | last
      · exact List.mem_cons_of_mem _ (ih later)
      · rw [List.mem_singleton.mp last]
        exact List.mem_cons_self

variable {action : EnsureDataAction} {entries : List (EnsureDataAction × ActionError)}

theorem lookup_absent (absent : ∀ entry ∈ entries, entry.1 ≠ action) : entries.lookup action = none := by
  rw [List.lookup_eq_none_iff]
  intro entry inside
  simpa using (absent entry inside).symm

theorem lookup_last (error : ActionError)
    (absent : ∀ entry ∈ entries, entry.1 ≠ action) : (entries ++ [(action,error)]).lookup action = some error := by
  rw [List.lookup_append,lookup_absent absent]
  simp

-- Each of different actions is recorded with the failure of its own try, if any.
theorem recorded_failures (distinct : actions.Nodup) (state : σ) :
    actions.map (fun action => (action,(executePlannedActions runner actions state).failures.lookup action)) =
      (tries runner actions state).1 := by
  induction actions generalizing state with
  | nil => rfl
  | cons action actions ih =>
    obtain ⟨fresh,rest⟩ := List.nodup_cons.mp distinct
    rw [executePlannedActions,tries]
    rcases ran : runner action state with ⟨failed,after⟩
    have absent : ∀ entry ∈ (executePlannedActions runner actions after).failures, entry.1 ≠ action := by
      intro entry inside same
      exact fresh (same ▸ failures_listed inside)
    cases failed with
    | none =>
      rw [List.map_cons]
      exact congrArg₂ _ (congrArg (action,·) (lookup_absent absent)) (ih rest after)
    | some error =>
      rw [List.map_cons]
      refine congrArg₂ _ (congrArg (action,·) (lookup_last error absent)) ?_
      rw [← ih rest after]
      apply List.map_congr_left
      intro other inside
      have differs : other ≠ action := fun same => fresh (same ▸ inside)
      have skipped : List.lookup other [(action,error)] = none := by
        rw [List.lookup_eq_none_iff]
        intro entry only
        rw [List.mem_singleton.mp only]
        simpa using differs
      rw [List.lookup_append,skipped,Option.or_none]

-- A round: every planned action is tried once, in order, and has one outcome, its own.
theorem round_outcomes (world : World σ) (request : NormalizedEnsureRequest) (distinct : actions.Nodup)
    (result : EnsureDataResult) (state : σ) :
    (runActions world request actions result state).1.actionOutcomes = result.actionOutcomes ++
        (tries (runAndVerify world request.policy) actions state).1.map (fun tried =>
          outcomeOf request.symbol request.policy.benchmark tried.1 tried.2) ∧
      (runActions world request actions result state).2 = (tries (runAndVerify world request.policy) actions state).2 := by
  refine ⟨?_,executed_state actions state⟩
  rw [← recorded_failures distinct state,List.map_map]
  rfl

/- The course of a call that runs to its end. -/

structure Course where
  first : EnsureDataSnapshot
  known : EnsureDataSnapshot
  provided : EnsureDataSnapshot
  built : EnsureDataSnapshot
  final : EnsureDataSnapshot
  symbols : List (EnsureDataAction × Option ActionError)
  provision : List (EnsureDataAction × Option ActionError)
  features : List (EnsureDataAction × Option ActionError)
  score : List (EnsureDataAction × Option ActionError)

def Course.tried (course : Course) : List (EnsureDataAction × Option ActionError) :=
  course.symbols ++ course.provision ++ course.features ++ course.score

def Looked (world : World σ) (state : σ) (snapshot : EnsureDataSnapshot) (after : σ) : Prop := world.snapshot state = (.ok snapshot,after)

-- Different actions, tried once each in this order, with these failures.
def Tried (world : World σ) (policy : DataAvailabilityPolicy) (state : σ) (tried : List (EnsureDataAction × Option ActionError)) (after : σ) :
    Prop :=
  (tried.map Prod.fst).Nodup ∧ tries (runAndVerify world policy) (tried.map Prod.fst) state = (tried,after)

def Took (world : World σ) (policy : DataAvailabilityPolicy) (start : σ) (course : Course) : Prop :=
  ∃ s₁ s₂ s₃ s₄ s₅ s₆ s₇ s₈ s₉, Looked world start course.first s₁ ∧ Tried world policy s₁ course.symbols s₂ ∧
    Looked world s₂ course.known s₃ ∧ Tried world policy s₃ course.provision s₄ ∧ Looked world s₄ course.provided s₅ ∧
      Tried world policy s₅ course.features s₆ ∧ Looked world s₆ course.built s₇ ∧ Tried world policy s₇ course.score s₈ ∧
        Looked world s₈ course.final s₉

-- What is planned is tried; features wait for what they are built from, the score for the features.
structure Ordered (request : NormalizedEnsureRequest) (course : Course) : Prop where
  symbols : course.symbols.map Prod.fst = (planDataAvailability course.first request.policy).filter (fun action => action = .symbolsSynced)
  known : course.known.symbolKnown = true
  provision : course.provision.map Prod.fst = plannedProvision request course.known
  features : .featuresBuilt ∈ planDataAvailability course.provided request.policy → course.features ≠ []
  featuresOnly : ∀ tried ∈ course.features, tried.1 = .featuresBuilt
  featuresReady : course.features ≠ [] → ∀ action ∈ planDataAvailability course.provided request.policy, action ∉ provisionActions
  score : .scored ∈ planDataAvailability course.built request.policy → course.score ≠ []
  scoreOnly : ∀ tried ∈ course.score, tried.1 = .scored
  scoreReady : course.score ≠ [] → (.featuresBuilt,none) ∈ course.features ∨
    ∀ action ∈ planDataAvailability course.built request.policy, action ∉ provisionActions ∧ action ≠ .featuresBuilt

def outcomesOf (symbol benchmark : Text) (tried : List (EnsureDataAction × Option ActionError)) : List EnsureDataActionOutcome :=
  tried.map (fun action => outcomeOf symbol benchmark action.1 action.2)

-- One outcome for each action tried, the first failure first, ready only without a failure.
structure Reported (request : NormalizedEnsureRequest) (course : Course) (result : EnsureDataResult) : Prop where
  outcomes : result.actionOutcomes = outcomesOf request.symbol request.policy.benchmark course.tried
  primary : ∀ earlier action error later, course.tried = earlier ++ (action,some error) :: later →
    (∀ tried ∈ earlier, tried.2 = none) → firstActionableFailure result =
      some (failureMessage result (outcomeOf request.symbol request.policy.benchmark action (some error)))
  ready : result.status = .ready → (∀ tried ∈ course.tried, tried.2 = none) ∧
    (evaluateCacheEligibility course.final request.policy).eligible = true

theorem call_bind {α β : Type} {x : Call σ α} {f : α → Call σ β} {ended : β × σ} (ran : (x >>= f) state = .ok ended) :
    ∃ value middle, x state = .ok (value,middle) ∧ f value middle = .ok ended := by
  obtain ⟨pair,first,rest⟩ := bind_ok ran
  exact ⟨pair.1,pair.2,first,rest⟩

variable {snapshot : EnsureDataSnapshot} {world : World σ} {state after : σ}

theorem look_ok (ran : look world state = .ok (snapshot,after)) : Looked world state snapshot after := by
  unfold look at ran
  unfold Looked
  rcases seen : world.snapshot state with ⟨found,next⟩
  rw [seen] at ran
  cases found with
  | error error => cases ran
  | ok _ =>
    cases ran
    rfl

theorem round_ok {request : NormalizedEnsureRequest} {result ended : EnsureDataResult}
    (distinct : actions.Nodup) (ran : runRound world request actions result state = .ok (ended,after)) :
    ∃ tried, tried.map Prod.fst = actions ∧ Tried world request.policy state tried after ∧
      ended.actionOutcomes = result.actionOutcomes ++ outcomesOf request.symbol request.policy.benchmark tried := by
  have same : runActions world request actions result state = (ended,after) := Except.ok.inj ran
  obtain ⟨outcomes,final⟩ := round_outcomes world request distinct result state
  rw [same] at outcomes final
  have listed := @tries_actions σ (runAndVerify world request.policy) actions state
  refine ⟨(tries (runAndVerify world request.policy) actions state).1,listed,⟨by rwa [listed],?_⟩,outcomes⟩
  rw [listed]
  exact Prod.ext rfl final.symm

theorem provision_nodup (request : NormalizedEnsureRequest) (snapshot : EnsureDataSnapshot) : (plannedProvision request snapshot).Nodup := by
  have planned := (plan_nodup snapshot request.policy).filter (fun action => action ∈ provisionActions)
  have once : provisionActions.Nodup := by decide
  unfold plannedProvision augmentRefreshProvisionActions
  dsimp only
  split
  · split
    · exact planned
    · exact once.filter _
  · exact planned

variable {request : NormalizedEnsureRequest}

theorem provision_apart (planned : action ∈ plannedProvision request snapshot) : action ≠ .featuresBuilt := by
  have apart : EnsureDataAction.featuresBuilt ∉ provisionActions := by decide
  rintro rfl
  unfold plannedProvision augmentRefreshProvisionActions at planned
  dsimp only at planned
  split at planned
  · split at planned
    · exact apart (by simpa using (List.mem_filter.mp planned).2)
    · exact apart (List.mem_filter.mp planned).1
  · exact apart (by simpa using (List.mem_filter.mp planned).2)

theorem features_nodup (request : NormalizedEnsureRequest) (result : EnsureDataResult) (snapshot : EnsureDataSnapshot) :
    (plannedFeatures request result snapshot).Nodup := by
  unfold plannedFeatures
  dsimp only
  split
  · exact List.nodup_singleton _
  · exact (plan_nodup _ _).filter _

theorem score_nodup (request : NormalizedEnsureRequest) (result : EnsureDataResult) (snapshot : EnsureDataSnapshot) :
    (plannedScore request result snapshot).Nodup := by
  unfold plannedScore
  split
  · exact List.nodup_singleton _
  · exact (plan_nodup _ _).filter _

variable {result : EnsureDataResult}

theorem features_only (planned : action ∈ plannedFeatures request result snapshot) : action = .featuresBuilt := by
  unfold plannedFeatures at planned
  dsimp only at planned
  split at planned
  · exact List.mem_singleton.mp planned
  · simpa using (List.mem_filter.mp planned).2

-- Features are tried only when the plan has nothing left to provision.
theorem features_ready (some : plannedFeatures request result snapshot ≠ []) :
    ∀ action ∈ planDataAvailability snapshot request.policy, action ∉ provisionActions := by
  intro action planned
  unfold plannedFeatures at some
  dsimp only at some
  split at some
  · rename_i clear
    simp only [Bool.and_eq_true,Bool.not_eq_true',List.any_eq_false] at clear
    simpa using clear.2 action planned
  · obtain ⟨other,inside⟩ := List.exists_mem_of_ne_nil _ some
    obtain ⟨listed,feature⟩ := List.mem_filter.mp inside
    have built : other = .featuresBuilt := by simpa using feature
    rw [built] at listed
    rw [plan_provided listed (by decide),List.mem_singleton] at planned
    rw [planned]
    decide

theorem features_planned {request : NormalizedEnsureRequest} {result : EnsureDataResult} {snapshot : EnsureDataSnapshot}
    (planned : .featuresBuilt ∈ planDataAvailability snapshot request.policy) : plannedFeatures request result snapshot ≠ [] := by
  unfold plannedFeatures
  dsimp only
  split
  · exact List.cons_ne_nil _ _
  · exact List.ne_nil_of_mem (List.mem_filter.mpr ⟨planned,by simp⟩)

theorem score_only (planned : action ∈ plannedScore request result snapshot) : action = .scored := by
  unfold plannedScore at planned
  split at planned
  · exact List.mem_singleton.mp planned
  · simpa using (List.mem_filter.mp planned).2

theorem score_planned {request : NormalizedEnsureRequest} {result : EnsureDataResult} {snapshot : EnsureDataSnapshot}
    (planned : .scored ∈ planDataAvailability snapshot request.policy) : plannedScore request result snapshot ≠ [] := by
  unfold plannedScore
  split
  · exact List.cons_ne_nil _ _
  · exact List.ne_nil_of_mem (List.mem_filter.mpr ⟨planned,by simp⟩)

theorem score_ready (some : plannedScore request result snapshot ≠ []) : succeeded result [.featuresBuilt] = true ∨
      ∀ action ∈ planDataAvailability snapshot request.policy, action ∉ provisionActions ∧ action ≠ .featuresBuilt := by
  unfold plannedScore at some
  split at some
  · rename_i refreshed
    exact .inl (Bool.and_eq_true_iff.mp refreshed).2
  · refine .inr ?_
    intro action planned
    obtain ⟨other,inside⟩ := List.exists_mem_of_ne_nil _ some
    obtain ⟨listed,score⟩ := List.mem_filter.mp inside
    have scored : other = .scored := by simpa using score
    rw [scored] at listed
    rw [plan_provided listed (by decide),List.mem_singleton] at planned
    rw [planned]
    exact ⟨by decide,by decide⟩

theorem finalise_outcomes (result : EnsureDataResult) (snapshot : EnsureDataSnapshot) (policy : DataAvailabilityPolicy) :
    (finaliseResult result snapshot policy).actionOutcomes = result.actionOutcomes := by
  unfold finaliseResult
  dsimp only
  split <;> rfl

theorem finalise_ready (ready : (finaliseResult result snapshot policy).status = .ready) :
    (∀ outcome ∈ result.actionOutcomes, outcome.status ≠ .failed) ∧ (evaluateCacheEligibility snapshot policy).eligible = true := by
  unfold finaliseResult at ready
  dsimp only at ready
  split at ready
  · cases ready
  · rename_i clear
    simp only [Bool.or_eq_true,Bool.not_eq_true',not_or,Bool.not_eq_true,Bool.not_eq_false,List.any_eq_false,recordSnapshotEvidence] at clear
    exact ⟨fun outcome inside => by simpa using clear.2 outcome inside,clear.1⟩

variable {symbol benchmark : Text}

theorem first_failure {result : EnsureDataResult} (outcomes : result.actionOutcomes = outcomesOf symbol benchmark tried)
    (split : tried = earlier ++ (action,some error) :: later) (fine : ∀ other ∈ earlier, other.2 = none) :
    firstActionableFailure result = some (failureMessage result (outcomeOf symbol benchmark action (some error))) := by
  have passed : (outcomesOf symbol benchmark earlier).find? (fun outcome => outcome.status == .failed) = none := by
    rw [List.find?_eq_none]
    intro outcome inside
    obtain ⟨other,member,rfl⟩ := List.mem_map.mp inside
    simp [outcomeOf,fine other member]
  have listed : outcomesOf symbol benchmark tried = outcomesOf symbol benchmark earlier ++
      outcomeOf symbol benchmark action (some error) :: outcomesOf symbol benchmark later := by
    simp [outcomesOf,split]
  rw [firstActionableFailure,outcomes,listed,List.find?_append,passed]
  simp [outcomeOf]

-- Some features outcome of the call succeeded: it was that of the features round.
theorem features_succeeded
    {result : EnsureDataResult} (outcomes : result.actionOutcomes = outcomesOf symbol benchmark (before ++ features))
    (others : ∀ tried ∈ before, tried.1 ≠ .featuresBuilt) (found : succeeded result [.featuresBuilt] = true) :
    (.featuresBuilt,none) ∈ features := by
  rw [succeeded,outcomes,List.any_eq_true] at found
  obtain ⟨outcome,inside,success⟩ := found
  obtain ⟨tried,member,rfl⟩ := List.mem_map.mp inside
  simp only [Bool.and_eq_true,decide_eq_true_eq,List.mem_singleton,beq_iff_eq,outcomeOf] at success
  obtain ⟨action,failure⟩ := tried
  cases failure with
  | some error => simp at success
  | none =>
    simp only at success
    rcases List.mem_append.mp member with earlier | here
    · exact absurd success.1 (others _ earlier)
    · rw [← success.1]
      exact here

-- How a call that returns has ended.
def Accounted (world : World σ) (given : EnsureRequest) (start : σ) (result : EnsureDataResult) : Prop :=
  (world.lockFree = false ∧ result.status = .partly ∧ result.actionOutcomes = []) ∨
  (∃ first after, Looked world start first after ∧ (evaluateCacheEligibility first given.policy).eligible = true ∧
    given.forceRefresh = false ∧ result.status = .ready ∧ result.actionsTaken = [.cacheHit] ∧
      ∀ outcome ∈ result.actionOutcomes, outcome.action = .cacheHit) ∨
  (∃ tried, (∀ action ∈ tried, action.1 = .symbolsSynced) ∧ (tried.map Prod.fst).Nodup ∧
    result.actionOutcomes = outcomesOf (strip (upper given.symbol)) given.policy.benchmark tried ∧ result.status = .failed) ∨
  ∃ request course, request.symbol = strip (upper given.symbol) ∧ request.policy = given.policy ∧ request.forceRefresh = given.forceRefresh ∧
    Took world request.policy start course ∧ Ordered request course ∧ Reported request course result

theorem tried_planned {tried : List (EnsureDataAction × Option ActionError)}
    (listed : tried.map Prod.fst = planned) : (∀ one ∈ tried, one.1 ∈ planned) ∧ (tried ≠ [] → planned ≠ []) := by
  subst listed
  exact ⟨fun _ => List.mem_map_of_mem,fun some none => some (List.map_eq_nil_iff.mp none)⟩

theorem availability_ensured (world : World σ) (given : EnsureRequest) (start : σ) {result : EnsureDataResult} {ended : σ}
    (ran : ensureDataAvailability world given start = .ok (result,ended)) : Accounted world given start result := by
  unfold ensureDataAvailability at ran
  obtain ⟨request,s₀,normalised,ran⟩ := call_bind ran
  obtain ⟨targetDate,_,same⟩ := bind_ok normalised
  cases same
  dsimp only at ran
  split at ran
  · rename_i locked
    cases ran
    exact .inl ⟨by simpa using locked,rfl,rfl⟩
  · obtain ⟨first,s₁,seen,ran⟩ := call_bind ran
    split at ran
    · rename_i hit
      rw [Bool.and_eq_true,Bool.not_eq_true'] at hit
      cases ran
      refine .inr (.inl ⟨first,_,look_ok seen,hit.1,hit.2,rfl,rfl,?_⟩)
      intro outcome inside
      rw [List.mem_singleton.mp inside]
    · obtain ⟨synced,s₂,symbolsRan,ran⟩ := call_bind ran
      obtain ⟨symbols,symbolsListed,symbolsTried,symbolsOutcomes⟩ := round_ok ((plan_nodup _ _).filter _) symbolsRan
      obtain ⟨known,s₃,knownSeen,ran⟩ := call_bind ran
      have onlySymbols : ∀ tried ∈ symbols, tried.1 = .symbolsSynced := by
        intro tried inside
        simpa using (List.mem_filter.mp ((tried_planned symbolsListed).1 tried inside)).2
      split at ran
      · cases ran
        refine .inr (.inr (.inl ⟨symbols,onlySymbols,symbolsTried.1,?_,rfl⟩))
        simpa [missingSymbolResult,recordSnapshotEvidence,emptyResult] using symbolsOutcomes
      · rename_i present
        obtain ⟨provisioned,s₄,provisionRan,ran⟩ := call_bind ran
        obtain ⟨provision,provisionListed,provisionTried,provisionOutcomes⟩ := round_ok (provision_nodup _ _) provisionRan
        obtain ⟨provided,s₅,providedSeen,ran⟩ := call_bind ran
        obtain ⟨featured,s₆,featuresRan,ran⟩ := call_bind ran
        obtain ⟨features,featuresListed,featuresTried,featuresOutcomes⟩ := round_ok (features_nodup _ _ _) featuresRan
        obtain ⟨built,s₇,builtSeen,ran⟩ := call_bind ran
        obtain ⟨scored,s₈,scoreRan,ran⟩ := call_bind ran
        obtain ⟨score,scoreListed,scoreTried,scoreOutcomes⟩ := round_ok (score_nodup _ _ _) scoreRan
        obtain ⟨final,s₉,finalSeen,ran⟩ := call_bind ran
        cases ran
        have outcomes : scored.actionOutcomes =
            outcomesOf (strip (upper given.symbol)) given.policy.benchmark (symbols ++ provision ++ features ++ score) := by
          rw [scoreOutcomes,featuresOutcomes,provisionOutcomes,symbolsOutcomes]
          simp [emptyResult,outcomesOf]
        have earlier : ∀ tried ∈ symbols ++ provision, tried.1 ≠ .featuresBuilt := by
          intro tried inside
          rcases List.mem_append.mp inside with first | second
          · rw [onlySymbols tried first]
            decide
          · exact provision_apart ((tried_planned provisionListed).1 tried second)
        have featured_outcomes : featured.actionOutcomes =
            outcomesOf (strip (upper given.symbol)) given.policy.benchmark (symbols ++ provision ++ features) := by
          rw [featuresOutcomes,provisionOutcomes,symbolsOutcomes]
          simp [emptyResult,outcomesOf]
        refine .inr (.inr (.inr ⟨⟨strip (upper given.symbol),targetDate,given.policy,given.forceRefresh⟩,
          ⟨first,known,provided,built,final,symbols,provision,features,score⟩,rfl,rfl,rfl,?_,?_,?_⟩))
        · exact ⟨s₁,s₂,s₃,s₄,s₅,s₆,s₇,s₈,_,look_ok seen,symbolsTried,look_ok knownSeen,provisionTried,look_ok providedSeen,
            featuresTried,look_ok builtSeen,scoreTried,look_ok finalSeen⟩
        · constructor
          · exact symbolsListed
          · simpa using present
          · exact provisionListed
          · intro planned none
            have tried := @features_planned _ provisioned _ planned
            rw [← featuresListed] at tried
            exact tried (List.map_eq_nil_iff.mpr none)
          · intro tried inside
            exact features_only ((tried_planned featuresListed).1 tried inside)
          · intro some
            exact features_ready ((tried_planned featuresListed).2 some)
          · intro planned none
            have tried := @score_planned _ featured _ planned
            rw [← scoreListed] at tried
            exact tried (List.map_eq_nil_iff.mpr none)
          · intro tried inside
            exact score_only ((tried_planned scoreListed).1 tried inside)
          · intro some
            exact (score_ready ((tried_planned scoreListed).2 some)).imp_left (features_succeeded featured_outcomes earlier)
        · refine ⟨?_,?_,?_⟩
          · rw [finalise_outcomes]
            exact outcomes
          · intro before action error later split fine
            exact first_failure (by rw [finalise_outcomes]; exact outcomes) split fine
          · intro ready
            obtain ⟨none,eligible⟩ := finalise_ready ready
            refine ⟨?_,eligible⟩
            intro tried inside
            have listed := none (outcomeOf (strip (upper given.symbol)) given.policy.benchmark tried.1 tried.2)
              (by rw [outcomes]; exact List.mem_map_of_mem inside)
            cases failure : tried.2 with
            | none => rfl
            | some error => simp [outcomeOf,failure] at listed

/- A provider that is offline. -/

def offlinePolicy : DataAvailabilityPolicy := ⟨"VNINDEX".toList,1,true,7,false,[],[]⟩

def nothingYet : EnsureDataSnapshot :=
  ⟨"2026-07-15".toList,true,0,0,false,false,none,none,[],0,none,none,none,true,true,0,none⟩

def offline : World Unit where
  today := .of 2026 7 15
  lockFree := true
  snapshot _ := (.ok nothingYet,())
  benchmarkEvidence _ _ := (.ok (0,none),())
  execute action _ _ := (if action = .ohlcvSynced then some ⟨"ConnectionError".toList,"offline".toList⟩ else none,())

def offlineRequest : EnsureRequest := ⟨"FPT".toList,none,offlinePolicy,false⟩

def offlineResult : EnsureDataResult :=
  match ensureDataAvailability offline offlineRequest () with
  | .ok (result,_) => result
  | .error _ => emptyResult [] []

theorem offline_ran : ensureDataAvailability offline offlineRequest () = .ok (offlineResult,()) := by
  with_unfolding_all rfl

-- What an action is built from, as far as actions make it.
def dependsOn : EnsureDataAction → List EnsureDataAction
  | .canonicalBuilt => [.ohlcvSynced]
  | .benchmarkCanonicalBuilt => [.benchmarkSynced]
  | .featuresBuilt => [.canonicalBuilt,.benchmarkSynced,.benchmarkCanonicalBuilt]
  | .scored => [.featuresBuilt]
  | _ => []

-- The canonical build is tried after the sync it depends on has failed.
theorem failed_sync_passed : ¬ ∀ (world : World Unit) (given : EnsureRequest) (result : EnsureDataResult),
    ensureDataAvailability world given () = .ok (result,()) → ∀ earlier later, result.actionOutcomes = earlier ++ later →
      ∀ failed ∈ earlier, failed.status = .failed → ∀ outcome ∈ later, failed.action ∉ dependsOn outcome.action := by
  intro claimed
  have blocked := claimed offline offlineRequest offlineResult offline_ran (offlineResult.actionOutcomes.take 1)
    (offlineResult.actionOutcomes.drop 1) (List.take_append_drop 1 _).symm
  have first : (offlineResult.actionOutcomes.take 1).map (fun outcome => (outcome.action,outcome.status)) = [(.ohlcvSynced,.failed)] := by
    with_unfolding_all rfl
  have second : (offlineResult.actionOutcomes.drop 1).map EnsureDataActionOutcome.action = [.canonicalBuilt] := by
    with_unfolding_all rfl
  have sync : (EnsureDataAction.ohlcvSynced,EnsureDataActionStatus.failed) ∈
      (offlineResult.actionOutcomes.take 1).map (fun outcome => (outcome.action,outcome.status)) := by
    rw [first]
    exact List.mem_singleton_self _
  have build : EnsureDataAction.canonicalBuilt ∈ (offlineResult.actionOutcomes.drop 1).map EnsureDataActionOutcome.action := by
    rw [second]
    exact List.mem_singleton_self _
  obtain ⟨failed,inside,same⟩ := List.mem_map.mp sync
  obtain ⟨outcome,listed,built⟩ := List.mem_map.mp build
  injection same with action status
  have free := blocked failed inside status outcome listed
  rw [action,built] at free
  exact free (List.mem_singleton_self _)

theorem availability_ensured_sample : Accounted offline offlineRequest () offlineResult :=
  availability_ensured offline offlineRequest () offline_ran

end OpenStock.DataAvailability
