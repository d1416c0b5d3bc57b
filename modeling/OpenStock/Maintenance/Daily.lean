import OpenStock.Maintenance.SessionFinalizer

namespace OpenStock.Maintenance.Daily

/- What the provisioning service is asked and answers. -/

inductive SymbolIngestionStatus where
  | success
  | empty
  | failed
  | invalid
  | skipped
  deriving DecidableEq

structure SymbolIngestionResult where
  symbol : Text
  status : SymbolIngestionStatus
  diagnosticsRef : Option Text

structure Provisioned where
  status : ProvisioningStatus
  counts : List (Text × Int)
  warnings : List Text
  error : Option Text
  followUp : Option Text
  symbolResults : List SymbolIngestionResult

structure Request where
  operation : String
  artifact : String
  symbol : Option Text := none
  symbols : Option (List Text) := none
  start : Option Text := none
  final : Option Text := none
  date : Option Text := none
  source : Option Text := none
  benchmark : Option Text := none

-- The requests made so far and their answers.
structure Executed where
  requests : List Request
  results : List Provisioned

/- Stages. -/

structure StageResult where
  name : String
  status : MaintenanceStageStatus
  counts : List (Text × Int) := []
  failures : List Text := []
  warnings : List Text := []
  diagnosticsRefs : List Text := []
  remediation : List Text := []

inductive RunStatus where
  | success
  | partially
  | failed
  | noop

structure DailyMaintenanceResult where
  status : RunStatus
  requestedDate : Option Text
  resolvedDate : Text
  correlationId : Text
  stages : List StageResult
  requestedSymbols : List Text
  successfulSymbols : List Text
  failedSymbols : List Text
  diagnosticsRefs : List Text
  mutated : Bool

def countOf (counts : List (Text × Int)) (key : Text) : Int :=
  ((counts.find? (fun entry => entry.1 = key)).map Prod.snd).getD 0

def addCount (counts : List (Text × Int)) (entry : Text × Int) : List (Text × Int) :=
  if counts.any (fun other => other.1 = entry.1) then
    counts.map (fun other => if other.1 = entry.1 then (other.1,other.2 + entry.2) else other)
  else counts ++ [entry]

-- `if value` of an optional text.
def given (value : Option Text) : List Text := (value.toList).filter (fun text => !text.isEmpty)

def diagnosticsRefs (results : List Provisioned) : List Text :=
  (results.flatMap (fun result => result.symbolResults.flatMap (fun item => given item.diagnosticsRef))).foldl
    (fun refs ref => if ref ∈ refs then refs else refs ++ [ref]) []

-- Failed only when every result failed.
def stageStatus (statuses : List ProvisioningStatus) : MaintenanceStageStatus :=
  if statuses.contains .failed then
    if statuses.all (fun status => status == .failed) then .failed else .partially
  else if statuses.contains .partially then .partially
  else .success

def stage (name : String) (results : List Provisioned) : StageResult where
  name := name
  status := stageStatus (results.map Provisioned.status)
  counts := (results.flatMap Provisioned.counts).foldl addCount []
  failures := results.flatMap (fun result => given result.error)
  warnings := results.flatMap Provisioned.warnings
  diagnosticsRefs := diagnosticsRefs results
  remediation := results.flatMap (fun result => given result.followUp)

structure SelectiveProjection where
  failedSymbols : List Text
  processedSymbols : List Text
  counters : List (Text × Int)

def memoryStage (result : SelectiveProjection) : StageResult where
  name := "symbol_memory"
  status :=
    if !result.failedSymbols.isEmpty && !result.processedSymbols.isEmpty then .partially
    else if !result.failedSymbols.isEmpty then .failed
    else .success
  counts := result.counters
  failures :=
    if result.failedSymbols.isEmpty then []
    else ["Memory projection failed for ".toList ++ (toString result.failedSymbols.length).toList ++ " symbols.".toList]

structure GroupContextBuild where
  snapshots : Nat
  unclassifiedCounts : List Int
  caveats : List Text

def groupContextStage (result : GroupContextBuild) : StageResult where
  name := "group_context"
  status := if result.snapshots = 0 then .partially else .success
  counts := [("snapshots".toList,result.snapshots),("unclassified".toList,result.unclassifiedCounts.sum)]
  warnings := result.caveats

structure GroupProjection where
  failedEntities : List Text
  claimsCreated : Int
  claimsSuperseded : Int
  cardsCompacted : Int

def entityMemoryStage (result : GroupProjection) : StageResult where
  name := "entity_memory"
  status := if result.failedEntities.isEmpty then .success else .partially
  counts := [("claims_created".toList,result.claimsCreated),("claims_superseded".toList,result.claimsSuperseded),
    ("cards_compacted".toList,result.cardsCompacted)]
  failures := result.failedEntities.map (fun entity => "Entity memory projection failed for ".toList ++ entity ++ ".".toList)

/- One maintenance run. -/

-- What the run reads: the calendar's warnings, the snapshot and the canonical dates of the warehouse, and
-- whatever the services answer, which may depend on every request before.
structure Surroundings where
  sessionWarnings : List Text
  hasSnapshot : Bool
  active : List Text
  reaches : Text → Bool
  benchmarkReaches : Bool
  lookbackStart : Text
  gapStart : Text
  answer : List Request → Request → Provisioned
  outcomes : StageResult
  groupContext : Except Text GroupContextBuild
  memory : List Text → SelectiveProjection
  entityMemory : GroupProjection

structure Asked where
  requestedDate : Option Text
  resolvedDate : Text
  correlationId : Text
  source : Option Text
  requestedSymbols : List Text

def call (world : Surroundings) (request : Request) (executed : Executed) : Provisioned × Executed :=
  let result := world.answer executed.requests request
  (result,⟨executed.requests ++ [request],executed.results ++ [result]⟩)

def finalResult (asked : Asked) (requestedSymbols successfulSymbols failedSymbols : List Text) (stages : List StageResult)
    (executed : Executed) : DailyMaintenanceResult where
  status :=
    let failedStages := stages.any (fun item => item.status == .failed)
    let partialStages := stages.any (fun item => item.status == .partially)
    if failedStages && successfulSymbols.isEmpty then .failed
    else if failedStages || partialStages || !failedSymbols.isEmpty then .partially
    else .success
  requestedDate := asked.requestedDate
  resolvedDate := asked.resolvedDate
  correlationId := asked.correlationId
  stages := stages
  requestedSymbols := requestedSymbols
  successfulSymbols := successfulSymbols
  failedSymbols := failedSymbols
  diagnosticsRefs := diagnosticsRefs executed.results
  mutated := !executed.results.isEmpty

def SymbolIngestionResult.completed (item : SymbolIngestionResult) : Bool := item.status == .success || item.status == .skipped

-- The successful symbols in order, and the set of the failed ones.
def symbolOutcomes (result : Provisioned) (scope : List Text) : List Text × List Text :=
  if result.symbolResults.isEmpty then
    if result.status = .success then (scope,[]) else ([],scope.dedup)
  else
    let successful := (result.symbolResults.filter SymbolIngestionResult.completed).map SymbolIngestionResult.symbol
    (successful,((result.symbolResults.map SymbolIngestionResult.symbol).filter (fun symbol => decide (symbol ∉ successful))).dedup)

structure Synced where
  successful : List Text
  failed : List Text
  stage : StageResult
  executed : Executed

def syncRequest (asked : Asked) (scope : List Text) : Request :=
  {operation := "sync",artifact := "daily",symbols := some scope,date := some asked.resolvedDate,source := asked.source}

def syncScope (world : Surroundings) (scope : List Text) : List Text := scope.filter (fun symbol => !world.reaches symbol)

def incrementalOhlcv (world : Surroundings) (asked : Asked) (scope : List Text) (executed : Executed) : Synced :=
  let currentSymbols := scope.filter world.reaches
  if (syncScope world scope).isEmpty then
    ⟨currentSymbols,[],{name := "incremental_ohlcv",status := .skipped,counts := [("current".toList,currentSymbols.length)]},executed⟩
  else
    let (result,executed) := call world (syncRequest asked (syncScope world scope)) executed
    let (synced,failed) := symbolOutcomes result (syncScope world scope)
    ⟨currentSymbols ++ synced,failed,stage "incremental_ohlcv" [result],executed⟩

structure Benchmarked where
  ready : Bool
  stage : StageResult
  executed : Executed

def indexRequest (world : Surroundings) (asked : Asked) : Request :=
  {operation := "download",artifact := "index",symbol := some benchmark,start := some world.lookbackStart,
    final := some asked.resolvedDate,source := asked.source}

def canonicalRequest (symbol : Text) : Request := {operation := "build",artifact := "canonical",symbol := some symbol}

def benchmarkOhlcv (world : Surroundings) (asked : Asked) (executed : Executed) : Benchmarked :=
  if world.benchmarkReaches then ⟨true,{name := "benchmark_ohlcv",status := .skipped},executed⟩ else
    let (download,executed) := call world (indexRequest world asked) executed
    if download.status = .success then
      let (canonical,executed) := call world (canonicalRequest benchmark) executed
      ⟨canonical.status = .success,stage "benchmark_ohlcv" [download,canonical],executed⟩
    else ⟨false,stage "benchmark_ohlcv" [download],executed⟩

structure Loop where
  eligible : List Text
  failed : List Text
  gapResults : List Provisioned
  canonicalResults : List Provisioned
  executed : Executed

def Loop.fail (loop : Loop) (symbol : Text) : Loop := {loop with failed := loop.failed.insert symbol}

def gapsRequest (world : Surroundings) (asked : Asked) (symbol : Text) : Request :=
  {operation := "gaps",artifact := "ohlcv",symbol := some symbol,start := some world.gapStart,final := some asked.resolvedDate}

def repairRequest (world : Surroundings) (asked : Asked) (symbol : Text) : Request :=
  {gapsRequest world asked symbol with operation := "repair",source := asked.source}

-- `gaps` and `repair`: whether the symbol goes on to its canonical build.
def repairGaps (world : Surroundings) (asked : Asked) (loop : Loop) (symbol : Text) : Loop × Bool :=
  let (scan,executed) := call world (gapsRequest world asked symbol) loop.executed
  let loop := {loop with gapResults := loop.gapResults ++ [scan],executed := executed}
  if scan.status = .failed then (loop.fail symbol,false)
  else if 0 < countOf scan.counts "true_gaps".toList then
    let (repair,executed) := call world (repairRequest world asked symbol) loop.executed
    let loop := {loop with gapResults := loop.gapResults ++ [repair],executed := executed}
    if repair.status = .success then (loop,true) else (loop.fail symbol,false)
  else (loop,true)

def maintainSymbol (world : Surroundings) (asked : Asked) (loop : Loop) (symbol : Text) : Loop :=
  let (loop,goes) := repairGaps world asked loop symbol
  if goes then
    let (canonical,executed) := call world (canonicalRequest symbol) loop.executed
    let loop := {loop with canonicalResults := loop.canonicalResults ++ [canonical],executed := executed}
    if canonical.status = .success then {loop with eligible := loop.eligible ++ [symbol]} else loop.fail symbol
  else loop

def stageOrSkip (name : String) (results : List Provisioned) : StageResult :=
  if results.isEmpty then {name := name,status := .skipped} else stage name results

def featuresRequest (asked : Asked) (downstream : List Text) : Request :=
  {operation := "build",artifact := "features",symbols := some downstream,date := some asked.resolvedDate,
    benchmark := some benchmark}

def scoreRequest (asked : Asked) (downstream : List Text) : Request :=
  {operation := "build",artifact := "score",symbols := some downstream,date := some asked.resolvedDate}

def buildDownstream (world : Surroundings) (asked : Asked) (downstream : List Text) (benchmarkReady : Bool)
    (executed : Executed) : List StageResult × Executed :=
  let skipped := fun name => {name := name,status := .skipped : StageResult}
  if !downstream.isEmpty && benchmarkReady then
    let (features,executed) := call world (featuresRequest asked downstream) executed
    if features.status = .failed then ([stage "features" [features],skipped "score_watchlist"],executed) else
      let (score,executed) := call world (scoreRequest asked downstream) executed
      ([stage "features" [features],stage "score_watchlist" [score]],executed)
  else ([skipped "features",skipped "score_watchlist"],executed)

def buildContext (world : Surroundings) (asked : Asked) (name artifact : String) (executed : Executed) :
    StageResult × Executed :=
  let (context,executed) := call world {operation := "build",artifact := artifact,date := some asked.resolvedDate} executed
  (stage name [context],executed)

def groupContext (world : Surroundings) : StageResult :=
  match world.groupContext with
  | .ok built => groupContextStage built
  | .error message => {name := "group_context",status := .failed,failures := [message]}

def entityMemory (world : Surroundings) : StageResult :=
  match world.groupContext with
  | .ok _ => entityMemoryStage world.entityMemory
  | .error _ => {name := "entity_memory",status := .skipped}

-- `downstream`, with every symbol that has failed anywhere left out.
def downstreamOf (loop : Loop) : List Text := loop.eligible.filter (fun symbol => decide (symbol ∉ loop.failed))

-- From the scope on: the result and every request made.
def maintainScope (world : Surroundings) (asked : Asked) (scope : List Text) (stages : List StageResult)
    (executed : Executed) : DailyMaintenanceResult × List Request :=
  let synced := incrementalOhlcv world asked scope executed
  let benchmarked := benchmarkOhlcv world asked synced.executed
  let loop := synced.successful.foldl (maintainSymbol world asked) ⟨[],synced.failed,[],[],benchmarked.executed⟩
  let downstream := downstreamOf loop
  let (built,executed) := buildDownstream world asked downstream benchmarked.ready loop.executed
  let (regime,executed) := buildContext world asked "market_regime" "market-regime" executed
  let (strength,executed) := buildContext world asked "sector_strength" "sector-strength" executed
  let stages := stages ++ [synced.stage,benchmarked.stage,stageOrSkip "gap_repair" loop.gapResults,
    stageOrSkip "canonical" loop.canonicalResults] ++ built ++ [world.outcomes,regime,strength,groupContext world,
    memoryStage (world.memory downstream),entityMemory world]
  let successfulFinal := downstream.filter (fun symbol => decide (symbol ∉ loop.failed))
  (finalResult asked scope successfulFinal (loop.failed.insertionSort (· ≤ ·)) stages executed,executed.requests)

structure Snapshot where
  stage : StageResult
  executed : Executed
  failed : Bool

def symbolSnapshot (world : Surroundings) (asked : Asked) : Snapshot :=
  if world.hasSnapshot then ⟨{name := "symbol_snapshot",status := .skipped},⟨[],[]⟩,false⟩ else
    let (result,executed) := call world {operation := "download",artifact := "symbols",source := asked.source} ⟨[],[]⟩
    ⟨stage "symbol_snapshot" [result],executed,result.status = .failed⟩

def scopeOf (world : Surroundings) (asked : Asked) : List Text :=
  if asked.requestedSymbols.isEmpty then world.active else asked.requestedSymbols

def noSymbols : Text := "No active symbols were available for maintenance.".toList

def execute (world : Surroundings) (asked : Asked) : DailyMaintenanceResult × List Request :=
  let snapshot := symbolSnapshot world asked
  let stages := [{name := "resolve_session",status := .success,warnings := world.sessionWarnings},snapshot.stage]
  if snapshot.failed then
    (finalResult asked asked.requestedSymbols [] asked.requestedSymbols stages snapshot.executed,snapshot.executed.requests)
  else if (scopeOf world asked).isEmpty then
    (finalResult asked (scopeOf world asked) [] []
      (stages ++ [{name := "incremental_ohlcv",status := .failed,failures := [noSymbols]}]) snapshot.executed,
      snapshot.executed.requests)
  else maintainScope world asked (scopeOf world asked) stages snapshot.executed

/- What a result accounts for. -/

structure Accounted (scope : List Text) (result : DailyMaintenanceResult) : Prop where
  once : ∀ symbol ∈ scope, Xor (symbol ∈ result.successfulSymbols) (symbol ∈ result.failedSymbols)
  noOther : ∀ symbol, symbol ∈ result.successfulSymbols ∨ symbol ∈ result.failedSymbols → symbol ∈ scope

def Request.downstream (request : Request) : Bool :=
  request.operation == "build" && (request.artifact == "features" || request.artifact == "score")

def named (result : Provisioned) : List Text := result.symbolResults.map SymbolIngestionResult.symbol

-- The answer to the incremental sync, and what it has to name: every symbol it was asked for and none
-- outside the scope, or none at all.
def syncAnswer (world : Surroundings) (asked : Asked) : Provisioned :=
  world.answer (symbolSnapshot world asked).executed.requests (syncRequest asked (syncScope world (scopeOf world asked)))

def Covers (world : Surroundings) (asked : Asked) : Prop :=
  (symbolSnapshot world asked).failed = true ∨ syncScope world (scopeOf world asked) = [] ∨
    (syncAnswer world asked).symbolResults = [] ∨
    (∀ symbol ∈ syncScope world (scopeOf world asked), symbol ∈ named (syncAnswer world asked)) ∧
      ∀ symbol ∈ named (syncAnswer world asked), symbol ∈ scopeOf world asked

/- The loop over the synced symbols. -/

def Plain (executed : Executed) : Prop := ∀ request ∈ executed.requests, request.downstream = false

theorem call_plain {executed : Executed} (world : Surroundings) {request : Request} (plain : Plain executed)
    (other : request.downstream = false) : Plain (call world request executed).2 := by
  intro asked made
  rcases List.mem_append.mp made with early | own
  · exact plain asked early
  · rw [List.mem_singleton.mp own]
    exact other

-- What the maintenance of one symbol leaves: the symbol is eligible, or it has failed.
structure Maintained (symbol : Text) (before after : Loop) : Prop where
  outcome : after.eligible = before.eligible ++ [symbol] ∧ after.failed = before.failed ∨
    after.eligible = before.eligible ∧ after.failed = before.failed.insert symbol
  plain : Plain before.executed → Plain after.executed

theorem repair_cases (world : Surroundings) (asked : Asked) (loop : Loop) (symbol : Text) :
    let repaired := repairGaps world asked loop symbol
    (repaired.1.eligible = loop.eligible ∧
      repaired.1.failed = if repaired.2 then loop.failed else loop.failed.insert symbol) ∧
    (Plain loop.executed → Plain repaired.1.executed) := by
  intro repaired
  have scanned : Plain loop.executed → Plain (call world (gapsRequest world asked symbol) loop.executed).2 :=
    fun plain => call_plain world plain rfl
  have repairs : ∀ executed, Plain executed → Plain (call world (repairRequest world asked symbol) executed).2 :=
    fun _ plain => call_plain world plain rfl
  simp only [repaired]
  unfold repairGaps
  dsimp only
  split
  · exact ⟨⟨rfl,rfl⟩,scanned⟩
  · split
    · split
      · exact ⟨⟨rfl,rfl⟩,fun plain => repairs _ (scanned plain)⟩
      · exact ⟨⟨rfl,rfl⟩,fun plain => repairs _ (scanned plain)⟩
    · exact ⟨⟨rfl,rfl⟩,scanned⟩

variable (world : Surroundings) (asked : Asked)

theorem maintain_cases (loop : Loop) (symbol : Text) : Maintained symbol loop (maintainSymbol world asked loop symbol) := by
  obtain ⟨⟨eligible,failed⟩,plain⟩ := repair_cases world asked loop symbol
  unfold maintainSymbol
  dsimp only
  split
  · rename_i goes
    rw [if_pos goes] at failed
    have built : Plain loop.executed → Plain (call world (canonicalRequest symbol) (repairGaps world asked loop symbol).1.executed).2 :=
      fun before => call_plain world (plain before) rfl
    split
    · exact ⟨.inl ⟨by rw [eligible],failed⟩,built⟩
    · exact ⟨.inr ⟨eligible,by rw [Loop.fail,failed]⟩,built⟩
  · rename_i stays
    rw [if_neg stays] at failed
    exact ⟨.inr ⟨eligible,failed⟩,plain⟩

theorem maintained_accounts (maintained : Maintained symbol before after) (other : Text) :
    other ∈ after.eligible ∨ other ∈ after.failed ↔ (other ∈ before.eligible ∨ other ∈ before.failed) ∨ other = symbol := by
  rcases maintained.outcome with ⟨eligible,failed⟩ | ⟨eligible,failed⟩
  · rw [eligible,failed,List.mem_append,List.mem_singleton]
    tauto
  · rw [eligible,failed,List.mem_insert_iff]
    tauto

-- Every symbol that was looped over is eligible or has failed in the end.
theorem loop_accounts (world : Surroundings) (asked : Asked) (symbols : List Text) (loop : Loop) :
    let ended := symbols.foldl (maintainSymbol world asked) loop
    (∀ other, other ∈ ended.eligible ∨ other ∈ ended.failed ↔ (other ∈ loop.eligible ∨ other ∈ loop.failed) ∨ other ∈ symbols) ∧
    (Plain loop.executed → Plain ended.executed) := by
  induction symbols generalizing loop with
  | nil => exact ⟨fun other => by simp,fun plain => plain⟩
  | cons symbol symbols ih =>
    have first := maintain_cases world asked loop symbol
    obtain ⟨rest,plain⟩ := ih (maintainSymbol world asked loop symbol)
    refine ⟨?_,fun before => plain (first.plain before)⟩
    intro other
    simp only [List.foldl_cons]
    rw [rest other,maintained_accounts first other,List.mem_cons,or_assoc]

theorem outcomes_named (result : Provisioned) (scope : List Text) (symbol : Text) :
    symbol ∈ (symbolOutcomes result scope).1 ∨ symbol ∈ (symbolOutcomes result scope).2 ↔
      symbol ∈ if result.symbolResults = [] then scope else named result := by
  unfold symbolOutcomes
  by_cases empty : result.symbolResults = []
  · rw [if_pos (by rw [empty]; rfl),if_pos empty]
    split <;> simp
  · rw [if_neg (by simpa using empty),if_neg empty]
    simp only [List.mem_dedup,List.mem_filter,decide_eq_true_eq]
    constructor
    · rintro (done | ⟨listed,_⟩)
      · obtain ⟨item,inside,rfl⟩ := List.mem_map.mp done
        exact List.mem_map_of_mem (List.mem_of_mem_filter inside)
      · exact listed
    · intro listed
      by_cases done : symbol ∈ (result.symbolResults.filter SymbolIngestionResult.completed).map SymbolIngestionResult.symbol
      · exact .inl done
      · exact .inr ⟨listed,done⟩

/- The steps around the loop. -/

theorem snapshot_plain : Plain (symbolSnapshot world asked).executed := by
  unfold symbolSnapshot
  split
  · exact fun _ made => nomatch made
  · exact call_plain world (fun _ made => nomatch made) rfl

variable {executed : Executed} (scope : List Text)

theorem synced_plain (plain : Plain executed) : Plain (incrementalOhlcv world asked scope executed).executed := by
  unfold incrementalOhlcv
  split
  · exact plain
  · exact call_plain world plain rfl

theorem benchmark_plain (plain : Plain executed) : Plain (benchmarkOhlcv world asked executed).executed := by
  unfold benchmarkOhlcv
  split
  · exact plain
  · dsimp only
    have download := @call_plain _ world (indexRequest world asked) plain rfl
    split
    · exact call_plain world download rfl
    · exact download

-- Only the last builds ask for downstream artifacts, and for the downstream symbols.
theorem downstream_requests (downstream : List Text) (ready : Bool) (plain : Plain executed) :
    ∀ request ∈ (buildDownstream world asked downstream ready executed).2.requests, request.downstream = true →
      request.symbols = some downstream := by
  have early : ∀ request ∈ executed.requests, request.downstream = true → request.symbols = some downstream := by
    intro request made builds
    rw [plain request made] at builds
    cases builds
  have features : ∀ request ∈ (call world (featuresRequest asked downstream) executed).2.requests,
      request.downstream = true → request.symbols = some downstream := by
    intro request made builds
    rcases List.mem_append.mp made with before | own
    · exact early request before builds
    · rw [List.mem_singleton.mp own]
      rfl
  unfold buildDownstream
  dsimp only
  split
  · split
    · exact features
    · intro request made builds
      rcases List.mem_append.mp made with before | own
      · exact features request before builds
      · rw [List.mem_singleton.mp own]
        rfl
  · exact early

theorem context_requests (name artifact : String) (other : (artifact == "features" || artifact == "score") = false) :
    ∀ request ∈ (buildContext world asked name artifact executed).2.requests, request.downstream = true →
      request ∈ executed.requests := by
  intro request made builds
  rcases List.mem_append.mp made with before | own
  · exact before
  · rw [List.mem_singleton.mp own] at builds
    simp only [Request.downstream,other,Bool.and_false] at builds
    cases builds

theorem synced_accounts (executed : Executed) (symbol : Text) :
    symbol ∈ (incrementalOhlcv world asked scope executed).successful ∨
        symbol ∈ (incrementalOhlcv world asked scope executed).failed ↔
      symbol ∈ scope.filter world.reaches ∨ syncScope world scope ≠ [] ∧
        symbol ∈ if (world.answer executed.requests (syncRequest asked (syncScope world scope))).symbolResults = [] then
          syncScope world scope else named (world.answer executed.requests (syncRequest asked (syncScope world scope))) := by
  unfold incrementalOhlcv
  split
  · rename_i empty
    simp [List.isEmpty_iff.mp empty]
  · rename_i some'
    have asks : syncScope world scope ≠ [] := by simpa using some'
    have answered := outcomes_named (world.answer executed.requests (syncRequest asked (syncScope world scope)))
      (syncScope world scope) symbol
    simp only [call]
    rw [List.mem_append,or_assoc,answered]
    simp only [ne_eq,asks,not_false_eq_true,true_and]

theorem final_status (scope successful failed : List Text) (stages : List StageResult) (executed : Executed)
    (succeeded : (finalResult asked scope successful failed stages executed).status = .success) :
    failed = [] ∧ ∀ item ∈ stages, item.status ≠ .failed := by
  unfold finalResult at succeeded
  dsimp only at succeeded
  split at succeeded
  · cases succeeded
  · split at succeeded
    · cases succeeded
    · rename_i _ clean
      simp only [Bool.or_eq_true,not_or,Bool.not_eq_true] at clean
      refine ⟨by simpa using clean.2,?_⟩
      intro item listed failing
      have counted := List.any_eq_false.mp clean.1.1 item listed
      simp [failing] at counted

-- The symbols of the final result, as a set, are those that came out of the sync.
theorem maintained_scope (world : Surroundings) (asked : Asked) (scope : List Text) (stages : List StageResult)
    (executed : Executed) (symbol : Text) : let result := (maintainScope world asked scope stages executed).1
    (symbol ∈ result.successfulSymbols ∨ symbol ∈ result.failedSymbols ↔
      symbol ∈ (incrementalOhlcv world asked scope executed).successful ∨
        symbol ∈ (incrementalOhlcv world asked scope executed).failed) ∧
    ¬ (symbol ∈ result.successfulSymbols ∧ symbol ∈ result.failedSymbols) := by
  intro result
  let synced := incrementalOhlcv world asked scope executed
  let loop := synced.successful.foldl (maintainSymbol world asked)
    ⟨[],synced.failed,[],[],(benchmarkOhlcv world asked synced.executed).executed⟩
  have successful : symbol ∈ result.successfulSymbols ↔ symbol ∈ loop.eligible ∧ symbol ∉ loop.failed := by
    have final : result.successfulSymbols = (downstreamOf loop).filter (fun symbol => decide (symbol ∉ loop.failed)) := rfl
    rw [final,downstreamOf]
    simp
  have failed : symbol ∈ result.failedSymbols ↔ symbol ∈ loop.failed := by
    have final : result.failedSymbols = loop.failed.insertionSort (· ≤ ·) := rfl
    rw [final]
    exact List.mem_insertionSort _
  have looped := (loop_accounts world asked synced.successful
    ⟨[],synced.failed,[],[],(benchmarkOhlcv world asked synced.executed).executed⟩).1 symbol
  rw [successful,failed]
  constructor
  · have sides : symbol ∈ loop.eligible ∧ symbol ∉ loop.failed ∨ symbol ∈ loop.failed ↔
        symbol ∈ loop.eligible ∨ symbol ∈ loop.failed := by tauto
    rw [sides,looped]
    simp only [List.not_mem_nil,false_or]
    exact or_comm
  · rintro ⟨⟨_,clean⟩,dirty⟩
    exact clean dirty

/- The result of a run. -/

def accountedScope (world : Surroundings) (asked : Asked) : List Text :=
  if (symbolSnapshot world asked).failed then asked.requestedSymbols else scopeOf world asked

theorem accounted_iff (result : DailyMaintenanceResult)
    (apart : ∀ symbol, ¬ (symbol ∈ result.successfulSymbols ∧ symbol ∈ result.failedSymbols)) : Accounted scope result ↔
      ∀ symbol, symbol ∈ scope ↔ symbol ∈ result.successfulSymbols ∨ symbol ∈ result.failedSymbols := by
  constructor
  · intro accounted symbol
    constructor
    · intro inside
      rcases accounted.once symbol inside with ⟨successful,_⟩ | ⟨failed,_⟩
      · exact .inl successful
      · exact .inr failed
    · exact accounted.noOther symbol
  · intro same
    refine ⟨?_,fun symbol => (same symbol).mpr⟩
    intro symbol inside
    rcases (same symbol).mp inside with successful | failed
    · exact .inl ⟨successful,fun failed => apart symbol ⟨successful,failed⟩⟩
    · exact .inr ⟨failed,fun successful => apart symbol ⟨successful,failed⟩⟩

theorem filter_parts (symbol : Text) :
    symbol ∈ scope ↔ symbol ∈ scope.filter world.reaches ∨ symbol ∈ syncScope world scope := by
  unfold syncScope
  simp only [List.mem_filter,Bool.not_eq_eq_eq_not,Bool.not_true]
  cases world.reaches symbol <;> simp

theorem scope_accounts (stages : List StageResult) (resolved : (symbolSnapshot world asked).failed = false) :
    Accounted (scopeOf world asked)
      (maintainScope world asked (scopeOf world asked) stages (symbolSnapshot world asked).executed).1 ↔ Covers world asked := by
  have maintained := maintained_scope world asked (scopeOf world asked) stages (symbolSnapshot world asked).executed
  have came := synced_accounts world asked (scopeOf world asked) (symbolSnapshot world asked).executed
  have parts := filter_parts world (scopeOf world asked)
  rw [accounted_iff _ _ (fun symbol => (maintained symbol).2)]
  have listed := fun symbol => (maintained symbol).1.trans (came symbol)
  simp only [listed]
  unfold Covers
  rw [resolved]
  simp only [Bool.false_eq_true,false_or]
  by_cases none_ : syncScope world (scopeOf world asked) = []
  · simp only [none_,ne_eq,not_true,false_and,or_false,true_or,iff_true]
    intro symbol
    rw [parts symbol,none_]
    simp
  · by_cases empty : (syncAnswer world asked).symbolResults = []
    · have answered : (world.answer (symbolSnapshot world asked).executed.requests
          (syncRequest asked (syncScope world (scopeOf world asked)))).symbolResults = [] := empty
      simp only [none_,empty,answered,ne_eq,not_false_eq_true,true_and,if_true,true_or,or_true,iff_true]
      exact parts
    · have answered : ¬ (world.answer (symbolSnapshot world asked).executed.requests
          (syncRequest asked (syncScope world (scopeOf world asked)))).symbolResults = [] := empty
      simp only [none_,empty,answered,ne_eq,not_false_eq_true,true_and,if_false,false_or]
      constructor
      · intro same
        constructor
        · intro symbol asks
          rcases (same symbol).mp ((parts symbol).mpr (.inr asks)) with current | answer
          · have reaches := (List.mem_filter.mp current).2
            have late := (List.mem_filter.mp asks).2
            rw [reaches] at late
            cases late
          · exact answer
        · exact fun symbol answer => (same symbol).mpr (.inr answer)
      · rintro ⟨covers,inside⟩ symbol
        constructor
        · intro member
          rcases (parts symbol).mp member with current | asks
          · exact .inl current
          · exact .inr (covers symbol asks)
        · rintro (current | answer)
          · exact (parts symbol).mpr (.inl current)
          · exact inside symbol answer

theorem scope_requests (world : Surroundings) (asked : Asked) (scope : List Text) (stages : List StageResult)
    (plain : Plain executed) : let ended := maintainScope world asked scope stages executed
    ∀ request ∈ ended.2, request.downstream = true → ∀ symbol ∈ request.symbols.getD [], symbol ∈ ended.1.successfulSymbols := by
  intro ended request made builds symbol inside
  let synced := incrementalOhlcv world asked scope executed
  let benchmarked := benchmarkOhlcv world asked synced.executed
  let loop := synced.successful.foldl (maintainSymbol world asked) ⟨[],synced.failed,[],[],benchmarked.executed⟩
  have looped : Plain loop.executed :=
    (loop_accounts world asked synced.successful _).2 (benchmark_plain world asked (synced_plain world asked scope plain))
  have strength := context_requests world asked "sector_strength" "sector-strength" rfl request made builds
  have regime := context_requests world asked "market_regime" "market-regime" rfl request strength builds
  have asks := downstream_requests world asked (downstreamOf loop) benchmarked.ready looped request regime builds
  rw [asks,Option.getD_some] at inside
  have final : ended.1.successfulSymbols = (downstreamOf loop).filter (fun symbol => decide (symbol ∉ loop.failed)) := rfl
  rw [final]
  exact List.mem_filter.mpr ⟨inside,(List.mem_filter.mp inside).2⟩

-- The symbols are accounted for exactly when the sync's answer covers its scope; what is asked of the
-- downstream builds and what SUCCESS means hold whatever the services answer.
theorem daily_accounts_exact (world : Surroundings) (asked : Asked) : let ended := execute world asked
    (Accounted (accountedScope world asked) ended.1 ↔ Covers world asked) ∧
    (∀ request ∈ ended.2, request.downstream = true →
      ∀ symbol ∈ request.symbols.getD [], symbol ∈ ended.1.successfulSymbols) ∧
    (ended.1.status = .success → ended.1.failedSymbols = [] ∧ ∀ item ∈ ended.1.stages, item.status ≠ .failed) := by
  have before := snapshot_plain world asked
  have silent : ∀ request ∈ (symbolSnapshot world asked).executed.requests, request.downstream = true → False := by
    intro request made builds
    rw [before request made] at builds
    cases builds
  intro ended
  simp only [ended]
  unfold execute accountedScope
  dsimp only
  cases failed : (symbolSnapshot world asked).failed with
  | true =>
    rw [if_pos rfl,if_pos rfl]
    refine ⟨?_,fun request made builds => (silent request made builds).elim,final_status _ _ _ _ _ _⟩
    have covers : Covers world asked := .inl failed
    simp only [covers,iff_true]
    exact (accounted_iff _ _ (fun symbol both => List.not_mem_nil both.1)).mpr (fun symbol => by simp [finalResult])
  | false =>
    rw [if_neg (by simp),if_neg (by simp)]
    by_cases empty : (scopeOf world asked).isEmpty = true
    · rw [if_pos empty]
      refine ⟨?_,fun request made builds => (silent request made builds).elim,final_status _ _ _ _ _ _⟩
      have none_ : scopeOf world asked = [] := List.isEmpty_iff.mp empty
      have covers : Covers world asked := .inr (.inl (by simp [syncScope,none_]))
      simp only [covers,iff_true,none_]
      exact (accounted_iff _ _ (fun symbol both => List.not_mem_nil both.1)).mpr (fun symbol => by simp [finalResult])
    · rw [if_neg empty]
      exact ⟨scope_accounts world asked _ failed,scope_requests world asked _ _ before,final_status _ _ _ _ _ _⟩

-- The provisioning service itself: the daily sync has one result for each symbol it was asked for.
def dailySymbolResults (fetch : Text → SymbolIngestionStatus × Option Text) (symbols : List Text) : List SymbolIngestionResult :=
  symbols.map (fun symbol => ⟨symbol,(fetch symbol).1,(fetch symbol).2⟩)

theorem service_covers (fetch : Text → SymbolIngestionStatus × Option Text)
    (answers : (syncAnswer world asked).symbolResults = dailySymbolResults fetch (syncScope world (scopeOf world asked))) :
    Covers world asked := by
  have names : named (syncAnswer world asked) = syncScope world (scopeOf world asked) := by
    simp [named,answers,dailySymbolResults,Function.comp_def]
  refine .inr (.inr (.inr ⟨fun symbol asks => names ▸ asks,?_⟩))
  intro symbol listed
  rw [names] at listed
  exact List.mem_of_mem_filter listed

/- A sync that answers for one of two symbols. -/

def completed : Provisioned := ⟨.success,[],[],none,none,[]⟩

def partialSync : Provisioned := {completed with status := .partially,symbolResults := [⟨"FPT".toList,.success,none⟩]}

def partialWorld : Surroundings where
  sessionWarnings := []
  hasSnapshot := true
  active := []
  reaches _ := false
  benchmarkReaches := true
  lookbackStart := "2025-05-29".toList
  gapStart := "2026-07-09".toList
  answer _ request := if request.operation = "sync" then partialSync else completed
  outcomes := {name := "candidate_outcomes",status := .skipped}
  groupContext := .ok ⟨1,[],[]⟩
  memory processed := ⟨[],processed,[]⟩
  entityMemory := ⟨[],0,0,0⟩

def twoSymbols : Asked :=
  ⟨some "2026-07-23".toList,"2026-07-23".toList,"run-1".toList,none,["FPT".toList,"MSN".toList]⟩

theorem symbol_unaccounted : ¬ Accounted (accountedScope partialWorld twoSymbols) (execute partialWorld twoSymbols).1 := by
  intro accounted
  have successful : (execute partialWorld twoSymbols).1.successfulSymbols = ["FPT".toList] := by decide
  have failed : (execute partialWorld twoSymbols).1.failedSymbols = [] := by decide
  have lost := accounted.once "MSN".toList (by decide)
  rw [successful,failed] at lost
  simp [Xor] at lost

end OpenStock.Maintenance.Daily
