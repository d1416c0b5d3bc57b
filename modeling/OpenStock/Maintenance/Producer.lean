import OpenStock.Maintenance.Ledger

namespace OpenStock.Maintenance
open Text Calendar Queue

def datasetContractVersion : Text := "dataset-range-v1".toList
def currentSymbolContractVersion : Text := "current-symbol-v1".toList
def benchmarkEntity : Text := "VNINDEX".toList
def maintenanceOrigin : Text := "maintenance".toList

def benchmarkGoal (session : Date) (sourcePolicyVersion : Text) : Except String AcquisitionGoal := do
  let goal ← mkSyncDatasetRangeGoal sourcePolicyVersion .indexOhlcv .index benchmarkEntity session session .cacheFirst
    datasetContractVersion
  .ok ⟨.syncDatasetRange goal,by simp [goalType]⟩

def equityGoal (session : Date) (sourcePolicyVersion symbol : Text) : Except String AcquisitionGoal := do
  let goal ← mkEnsureCurrentSymbolGoal sourcePolicyVersion symbol session .priceAnalysis none [] .cacheFirst
    currentSymbolContractVersion
  .ok ⟨.ensureCurrentSymbol goal,by simp [goalType]⟩

-- `_goals`: the benchmark first, then every symbol in its order.
def maintenanceGoals (session : Date) (symbols : List Text) (sourcePolicyVersion : Text) (includeBenchmark : Bool) :
    Except String (List AcquisitionGoal) := do
  let equities ← symbols.mapM (equityGoal session sourcePolicyVersion)
  if includeBenchmark then
    let benchmark ← benchmarkGoal session sourcePolicyVersion
    .ok (benchmark :: equities)
  else .ok equities

def entityId : (goal : ProvisioningGoal) → goalType goal ≠ .finalizeMarketSession → Text
  | .syncDatasetRange _,_ => benchmarkEntity
  | .ensureCurrentSymbol goal,_ => goal.symbol.val
  | .finalizeMarketSession _,acquires => absurd rfl acquires

section producer
variable [Platform]

def plannedJob (runId : MaintenanceRunId) (goal : AcquisitionGoal) : RunJobRow :=
  ⟨runId,goalIdentity goal.val,goalType goal.val,entityId goal.val goal.property,goal.val.payloadJson,none⟩

-- The run and one unmapped row for every goal, in one transaction.
def persistRun (warehouse : Warehouse) (run : RunRow) : Option Warehouse := do
  let inserted ← warehouse.insertRun run
  run.expectedGoals.foldlM (fun current goal => current.insertRunJob (plannedJob run.runId goal)) inserted

end producer

-- What `_prepare_run` decides from the request and from the warehouse.
structure RunPlan where
  runId : MaintenanceRunId
  correlationId : Text
  session : Date
  symbols : List Text
  universeHash : UniverseHash
  missing : List Text
  benchmarkReady : Bool
  sourcePolicyVersion : sourcePolicyField.Admitted

def RunPlan.row (plan : RunPlan) (goals : List AcquisitionGoal) : RunRow where
  runId := plan.runId
  correlationId := plan.correlationId
  resolvedDate := plan.session
  status := .enqueuing
  successfulSymbolCount := 0
  failedSymbolCount := 0
  mutated := false
  universeHash := plan.universeHash
  symbols := plan.symbols
  expectedGoals := goals
  sourcePolicyVersion := plan.sourcePolicyVersion

def RunPlan.prepare (plan : RunPlan) : Except String RunRow :=
  (maintenanceGoals plan.session plan.missing plan.sourcePolicyVersion.val (!plan.benchmarkReady)).map plan.row

end OpenStock.Maintenance
