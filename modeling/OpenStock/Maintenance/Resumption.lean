import OpenStock.Foundations.Runs
import OpenStock.Maintenance.SessionFinalizer

namespace OpenStock.Maintenance
open Text Calendar Queue

/- One frozen run under any number of attempts of its finalization job, while
canonical evidence keeps arriving. -/

structure Finalization where
  warehouse : Warehouse
  remaining : List FinalizationStage
  -- the symbols at hand when a stage was last really run
  builtOver : FinalizationStage → Option (List Text)

inductive FinalizationEvent where
  | arrives (bar : CanonicalBar)
  | attempts
  | executes (services : FinalizationServices)

def Warehouse.arrive (warehouse : Warehouse) (bar : CanonicalBar) : Warehouse :=
  {warehouse with canonical := warehouse.canonical ++ [bar]}

def atHand (warehouse : Warehouse) (goal : FinalizeMarketSessionGoal) : Option (List Text) :=
  (warehouse.finalizationScope goal).toOption.map FinalizationScope.eligibleSymbols

-- A stage that raises ends its attempt and is rolled back; one that fails ends
-- it too, but stays recorded.
def Finalization.next (goal : FinalizeMarketSessionGoal) (state : Finalization) : FinalizationEvent → Option Finalization
  | .arrives bar => some {state with warehouse := state.warehouse.arrive bar}
  | .attempts => some {state with remaining := finalizationStages}
  | .executes services =>
    match state.remaining with
    | [] => none
    | stage :: rest =>
      match SessionFinalizer.execute services state.warehouse goal stage with
      | .error _ => some {state with remaining := []}
      | .ok (warehouse,outcome) =>
        some ⟨warehouse,if outcome.succeeded then rest else [],
          if unavailable state.warehouse goal stage || reused state.warehouse goal stage then state.builtOver
          else Function.update state.builtOver stage (atHand state.warehouse goal)⟩

abbrev FinalizationStep (goal : FinalizeMarketSessionGoal) (_history : List FinalizationEvent) (before : Finalization)
    (event : FinalizationEvent) (after : Finalization) : Prop := before.next goal event = some after

-- The stages that take the eligible symbols as input.
def derivedStages : List FinalizationStage := [.features,.scoreWatchlist,.memory]

def wholeUniverse (bars : List CanonicalBar) (symbols : List Text) (session : Date) : Bool :=
  symbols.all (fun symbol => canonicalReaches bars symbol session)

-- Evidence is prompt when it does not complete the frozen universe behind the
-- back of a stage that is already recorded as built.
def Finalization.Prompt (goal : FinalizeMarketSessionGoal) (state : Finalization) : FinalizationEvent → Prop
  | .arrives bar => ∀ row, state.warehouse.selectRun goal.maintenanceRunId = some row →
      wholeUniverse state.warehouse.canonical row.symbols row.resolvedDate = false →
      wholeUniverse (state.warehouse.arrive bar).canonical row.symbols row.resolvedDate = true →
      ∀ stage ∈ derivedStages, state.warehouse.existingStage goal.maintenanceRunId stage ≠ some .success
  | _ => True

def PromptStep (goal : FinalizeMarketSessionGoal) (_history : List FinalizationEvent) (before : Finalization)
    (event : FinalizationEvent) (after : Finalization) : Prop :=
  before.Prompt goal event ∧ before.next goal event = some after

-- The run as it was frozen, before any attempt.
structure Frozen (warehouse : Warehouse) (goal : FinalizeMarketSessionGoal) (row : RunRow) : Prop where
  selected : warehouse.selectRun goal.maintenanceRunId = some row
  unfinished : row.status ≠ .success
  unstaged : ∀ stage, warehouse.existingStage goal.maintenanceRunId stage = none

def frozenStart (warehouse : Warehouse) : Finalization := ⟨warehouse,[],fun _ => none⟩

/- The invariant. -/

structure Truthful (goal : FinalizeMarketSessionGoal) (symbols : List Text) (session : Date) (state : Finalization) :
    Prop where
  run : ∃ row, state.warehouse.selectRun goal.maintenanceRunId = some row ∧ row.symbols = symbols ∧
    row.resolvedDate = session ∧ (row.status = .success →
      wholeUniverse state.warehouse.canonical symbols session = true ∧
        canonicalReaches state.warehouse.canonical benchmark session = true)
  covered : state.warehouse.coverageIsSufficient goal.maintenanceRunId = true →
    canonicalReaches state.warehouse.canonical benchmark session = true
  built : ∀ stage ∈ derivedStages, state.warehouse.existingStage goal.maintenanceRunId stage = some .success →
    state.builtOver stage = some symbols ∨ wholeUniverse state.warehouse.canonical symbols session = false

section evidence
variable {bars : List CanonicalBar} {symbols : List Text} {session : Date}

theorem reaches_arrive (reached : canonicalReaches bars symbol session = true) :
    canonicalReaches (bars ++ [bar]) symbol session = true := by
  simp only [canonicalReaches,List.any_map,List.any_filter,List.any_append,Bool.or_eq_true] at reached ⊢
  exact .inl reached

theorem whole_arrive (whole : wholeUniverse bars symbols session = true) :
    wholeUniverse (bars ++ [bar]) symbols session = true := by
  simp only [wholeUniverse,List.all_eq_true] at whole ⊢
  exact fun symbol inside => reaches_arrive (whole symbol inside)

theorem eligible_whole (whole : wholeUniverse bars symbols session = true) : eligible bars symbols session = symbols :=
  List.filter_eq_self.mpr (fun symbol inside => List.all_eq_true.mp whole symbol inside)

theorem whole_eligible (counted : (eligible bars symbols session).length = symbols.length) :
    wholeUniverse bars symbols session = true :=
  List.all_eq_true.mpr (List.length_filter_eq_length_iff.mp counted)

end evidence

section runs
variable {goal : FinalizeMarketSessionGoal} {symbols : List Text} {session : Date} {before after final : Finalization}
  {warehouse : Warehouse} {row : RunRow}

theorem frozen_truthful (frozen : Frozen warehouse goal row) :
    Truthful goal row.symbols row.resolvedDate (frozenStart warehouse) := by
  refine ⟨⟨row,frozen.selected,rfl,rfl,fun success => absurd success frozen.unfinished⟩,?_,?_⟩
  · simp [frozenStart,Warehouse.coverageIsSufficient,frozen.unstaged]
  · simp [frozenStart,frozen.unstaged]

theorem arrive_truthful (truthful : Truthful goal symbols session before) (prompt : before.Prompt goal (.arrives bar)) :
    Truthful goal symbols session {before with warehouse := before.warehouse.arrive bar} := by
  obtain ⟨row,selected,rfl,rfl,success⟩ := truthful.run
  refine ⟨⟨row,selected,rfl,rfl,fun done => ?_⟩,fun sufficient => reaches_arrive (truthful.covered sufficient),?_⟩
  · exact ⟨whole_arrive (success done).1,reaches_arrive (success done).2⟩
  · intro stage derived done
    rcases truthful.built stage derived done with built | lacking
    · exact .inl built
    · right
      by_contra whole
      rw [Bool.not_eq_false] at whole
      exact prompt row selected lacking whole stage derived done

theorem scope_row (found : warehouse.finalizationScope goal = .ok scope)
    (selected : warehouse.selectRun goal.maintenanceRunId = some row) :
    scope = ⟨row.resolvedDate,row.symbols,eligible warehouse.canonical row.symbols row.resolvedDate,
      canonicalReaches warehouse.canonical benchmark row.resolvedDate,row.correlationId⟩ := by
  rw [Warehouse.finalizationScope,selected] at found
  dsimp only at found
  split at found
  · cases found
  · cases found
    rfl

theorem coverage_ready (accepted : coverageStatus scope = .success ∨ coverageStatus scope = .partially) :
    scope.benchmarkReady = true := by
  unfold coverageStatus at accepted
  split at accepted
  · rcases accepted with same | same <;> cases same
  · rename_i passed
    simp only [Bool.or_eq_true,Bool.not_eq_true',not_or,Bool.not_eq_false] at passed
    exact passed.1

theorem executed_truthful (truthful : Truthful goal symbols session before)
    (available : unavailable before.warehouse goal stage = false) (found : before.warehouse.finalizationScope goal = .ok scope)
    (executed : Executed before.warehouse warehouse goal stage scope)
    (noted : warehouse.existingStage goal.maintenanceRunId stage =
      some (runStage services before.warehouse goal scope stage).2) : Truthful goal symbols session
      ⟨warehouse,remaining,Function.update before.builtOver stage (atHand before.warehouse goal)⟩ := by
  obtain ⟨row,selected,rfl,rfl,success⟩ := truthful.run
  obtain ⟨change,edited,changed⟩ := executed.selectRun
  rw [selected] at changed
  have shape := scope_row found selected
  refine ⟨⟨change row,changed,(edited row).1.symbols,(edited row).1.resolvedDate,fun done => ?_⟩,
    fun sufficient => ?_,?_⟩
  · rw [executed.canonical]
    rcases moves_success (done ▸ (edited row).2) with earlier | ⟨rfl,whole⟩
    · exact success earlier
    · have sufficient : before.warehouse.coverageIsSufficient goal.maintenanceRunId = true := by
        simpa [unavailable] using available
      rw [shape] at whole
      exact ⟨whole_eligible whole,truthful.covered sufficient⟩
  · rw [executed.canonical]
    by_cases first : stage = .coverage
    · subst first
      have accepted : coverageStatus scope = .success ∨ coverageStatus scope = .partially := by
        rw [Warehouse.coverageIsSufficient,noted] at sufficient
        simp only [runStage,coverageStage] at sufficient
        split at sufficient <;> simp_all
      have ready := coverage_ready accepted
      rw [shape] at ready
      exact ready
    · have earlier : before.warehouse.coverageIsSufficient goal.maintenanceRunId = true := by
        rwa [Warehouse.coverageIsSufficient,executed.others _ (Ne.symm first)] at sufficient
      exact truthful.covered earlier
  · intro other derived done
    rw [executed.canonical]
    by_cases same : other = stage
    · subst same
      cases whole : wholeUniverse before.warehouse.canonical row.symbols row.resolvedDate with
      | false => exact .inr rfl
      | true =>
        left
        simp only [Function.update_self,atHand,found,shape,Except.toOption,Option.map_some,eligible_whole whole]
    · rw [executed.others other same] at done
      simp only [Function.update_of_ne same]
      exact truthful.built other derived done

theorem step_truthful (truthful : Truthful goal symbols session before)
    (step : PromptStep goal history before event after) : Truthful goal symbols session after := by
  obtain ⟨prompt,moved⟩ := step
  cases event with
  | arrives bar =>
    cases moved
    exact arrive_truthful truthful prompt
  | attempts =>
    cases moved
    exact ⟨truthful.run,truthful.covered,truthful.built⟩
  | executes services =>
    simp only [Finalization.next] at moved
    split at moved
    · cases moved
    · rename_i stage rest due
      split at moved
      · cases moved
        exact ⟨truthful.run,truthful.covered,truthful.built⟩
      · rename_i warehouse outcome ran
        cases moved
        obtain ⟨scope,found,⟨rfl,skipped⟩ | ⟨available,first,executed,noted⟩⟩ := execute_ok ran
        · have unbuilt : (unavailable before.warehouse goal stage || reused before.warehouse goal stage) = true := by
            rcases skipped with refused | again <;> simp [*]
          rw [if_pos unbuilt]
          exact ⟨truthful.run,truthful.covered,truthful.built⟩
        · rw [available,first]
          exact executed_truthful truthful available found executed noted

-- SUCCESS means the whole frozen universe, in every derived stage, as long as
-- evidence is prompt.
theorem truthful_finalization (frozen : Frozen warehouse goal row)
    (path : Runs (PromptStep goal) (frozenStart warehouse) history final)
    (selected : final.warehouse.selectRun goal.maintenanceRunId = some reported) (success : reported.status = .success) :
    canonicalReaches final.warehouse.canonical benchmark row.resolvedDate = true ∧
    (∀ symbol ∈ row.symbols, canonicalReaches final.warehouse.canonical symbol row.resolvedDate = true) ∧
    ∀ stage ∈ derivedStages, final.warehouse.existingStage goal.maintenanceRunId stage = some .success →
      final.builtOver stage = some row.symbols := by
  have truthful : Truthful goal row.symbols row.resolvedDate final :=
    path.invariant (frozen_truthful frozen) (fun _ truthful step => step_truthful truthful step)
  obtain ⟨found,same,_,_,done⟩ := truthful.run
  rw [selected] at same
  cases same
  obtain ⟨whole,ready⟩ := done success
  refine ⟨ready,fun symbol inside => List.all_eq_true.mp whole symbol inside,fun stage derived built => ?_⟩
  rcases truthful.built stage derived built with complete | lacking
  · exact complete
  · rw [whole] at lacking
    cases lacking

end runs

/- Five symbols, of which the last arrives between two attempts. -/

def sampleSession : Date := .of 2026 7 15

theorem run_admitted : requiredTextField.run ['m'] = .ok ['m'] := by decide

theorem hash_admitted : requiredTextField.run ['h'] = .ok ['h'] := by decide

theorem policy_admitted : sourcePolicyField.run "policy-v1".toList = .ok "policy-v1".toList := by decide

def sampleRun : RunRow :=
  ⟨⟨['m'],run_admitted⟩,['c'],sampleSession,.finalizationQueued,0,0,false,⟨['h'],hash_admitted⟩,
    [['A'],['B'],['C'],['D'],['E']],[],⟨"policy-v1".toList,policy_admitted⟩⟩

def sampleFinalization : FinalizeMarketSessionGoal :=
  ⟨sampleRun.sourcePolicyVersion,sampleRun.runId,sampleSession,sampleRun.universeHash,
    ⟨"finalization-v1".toList,by decide⟩⟩

def sampleWarehouse (symbols : List Text) : Warehouse :=
  ⟨[sampleRun],[],[],(benchmark :: symbols).map (fun symbol => ⟨symbol,sampleSession⟩)⟩

theorem sampleWarehouse_frozen (symbols : List Text) : Frozen (sampleWarehouse symbols) sampleFinalization sampleRun :=
  ⟨by simp [sampleWarehouse,Warehouse.selectRun,sampleFinalization],by simp [sampleRun],fun stage => rfl⟩

def obligingServices : FinalizationServices :=
  ⟨fun _ => .success,fun _ => .ok 1,fun _ => .success,fun _ _ => [],fun _ => []⟩

def Finalization.report (state : Finalization) : Option MaintenanceRunState × Option (List Text) :=
  ((state.warehouse.selectRun sampleFinalization.maintenanceRunId).map RunRow.status,state.builtOver .features)

-- An unbroken attempt over a universe that was whole from the start.
def wholeAttempt : List FinalizationEvent := .attempts :: List.replicate 7 (.executes obligingServices)

def unbroken (before : Finalization) : FinalizationEvent → Option Finalization
  | .arrives _ => none
  | event => before.next sampleFinalization event

theorem unbroken_path (ran : Runs.execute (fun _ before event => unbroken before event) [] state events = some final) :
    Runs (PromptStep sampleFinalization) state (events.reverse ++ []) final := by
  refine Runs.executed ?_ .nil ran
  intro _ _ event _ accepted
  cases event with
  | arrives bar => cases accepted
  | attempts | executes services => exact ⟨trivial,accepted⟩

theorem truthful_finalization_sample : ∃ final,
    Runs (PromptStep sampleFinalization) (frozenStart (sampleWarehouse sampleRun.symbols)) (wholeAttempt.reverse ++ [])
      final ∧ final.builtOver .features = some sampleRun.symbols := by
  have reported : (Runs.execute (fun _ before event => unbroken before event) []
      (frozenStart (sampleWarehouse sampleRun.symbols)) wholeAttempt).map (fun final =>
        (final.report.1,final.warehouse.existingStage sampleFinalization.maintenanceRunId .features)) =
      some (some .success,some .success) := by
    decide
  obtain ⟨final,ran,shape⟩ := Option.map_eq_some_iff.mp reported
  obtain ⟨status,built⟩ := Prod.mk.injEq _ _ _ _ ▸ shape
  obtain ⟨row,selected,success⟩ := Option.map_eq_some_iff.mp status
  have path := unbroken_path ran
  have truthful := truthful_finalization (sampleWarehouse_frozen sampleRun.symbols) path selected success
  exact ⟨final,path,truthful.2.2 .features (by decide) built⟩

def finalizationRun (state : Finalization) (events : List FinalizationEvent) : Option Finalization :=
  Runs.execute (fun _ before event => before.next sampleFinalization event) [] state events

theorem finalizationRun_path (ran : finalizationRun state events = some final) :
    Runs (FinalizationStep sampleFinalization) state (events.reverse ++ []) final :=
  Runs.executed (fun accepted => accepted) .nil ran

-- The first attempt builds the features over four symbols and is broken off; the
-- second one finds all five and reuses them.
def lateAttempts : List FinalizationEvent :=
  [.attempts,.executes obligingServices,.executes obligingServices,.arrives ⟨['E'],sampleSession⟩] ++ wholeAttempt

theorem reused_features_reported : ¬ ∀ (warehouse : Warehouse) (goal : FinalizeMarketSessionGoal) (row reported : RunRow)
      (history : List FinalizationEvent) (final : Finalization), Frozen warehouse goal row →
      Runs (FinalizationStep goal) (frozenStart warehouse) history final →
      final.warehouse.selectRun goal.maintenanceRunId = some reported → reported.status = .success →
      ∀ stage ∈ derivedStages, final.warehouse.existingStage goal.maintenanceRunId stage = some .success →
        final.builtOver stage = some row.symbols := by
  intro truthful
  have reported : (finalizationRun (frozenStart (sampleWarehouse [['A'],['B'],['C'],['D']])) lateAttempts).map
      (fun final => (final.report,final.warehouse.existingStage sampleFinalization.maintenanceRunId .features)) =
      some ((some .success,some [['A'],['B'],['C'],['D']]),some .success) := by
    decide
  obtain ⟨final,ran,shape⟩ := Option.map_eq_some_iff.mp reported
  simp only [Prod.mk.injEq,Finalization.report] at shape
  obtain ⟨⟨status,built⟩,recorded⟩ := shape
  obtain ⟨row,selected,success⟩ := Option.map_eq_some_iff.mp status
  have whole := truthful _ _ _ _ _ _ (sampleWarehouse_frozen _) (finalizationRun_path ran) selected success .features
    (by decide) recorded
  rw [built] at whole
  exact absurd whole (by decide)

end OpenStock.Maintenance
