import Mathlib.Data.List.DropRight
import OpenStock.Queue.WorkerRuns

namespace OpenStock.Queue
open Text

/- What the queue accepts of the details an execution can come to. -/

-- The bytes of the suffix that names the stages left out.
def blockedBytes (stages : List ProvisioningStage) : Nat :=
  9 + (stages.map (fun stage => encodedLength stage.name + 2)).sum

-- The stage that ends the execution, because it takes too long, fails or is the
-- last, has an answer the queue takes.
def Recordable (timeout : Nat) : List ProvisioningStage → Prop
  | [] => True
  | stage :: rest =>
    if stage.seconds > timeout then encodedLength stageTimeout + blockedBytes rest ≤ maxQueueDetailBytes
    else ∀ result, stage.executed = .ok result →
      if rest.isEmpty then boundedDetail result.detail = true
      else if result.succeeded then Recordable timeout rest
      else encodedLength result.detail + blockedBytes rest ≤ maxQueueDetailBytes

theorem stripLeft_empty : stripLeft text = [] ↔ ∀ c ∈ text, isSpace c = true := by
  simp [stripLeft]

theorem strip_empty : strip text = [] ↔ ∀ c ∈ text, isSpace c = true := by
  have again : stripLeft (stripLeft text) = stripLeft text := List.dropWhile_idempotent _ _
  have reversed : ∀ value : Text, (∀ c ∈ value.reverse, isSpace c = true) ↔ ∀ c ∈ value, isSpace c = true := by simp
  rw [strip,List.reverse_eq_nil_iff,stripLeft_empty,reversed,← stripLeft_empty,again,stripLeft_empty]

theorem boundedDetail_exact : boundedDetail value = true ↔
    (∃ c ∈ value, isSpace c = false) ∧ encodedLength value ≤ maxQueueDetailBytes := by
  have blank : strip value ≠ [] ↔ ∃ c ∈ value, isSpace c = false := by
    rw [Ne,strip_empty]
    simp
  simp [boundedDetail,blank]

variable (stages : List ProvisioningStage)

theorem blockedNames_bytes (some' : stages ≠ []) :
    encodedLength (blockedLabel ++ blockedNames stages) = blockedBytes stages := by
  have label : encodedLength blockedLabel = 11 := by decide
  have names : encodedLength (blockedNames stages) + 2 = (stages.map (fun stage => encodedLength stage.name + 2)).sum := by
    induction stages with
    | nil => exact absurd rfl some'
    | cons stage rest ih =>
      cases rest with
      | nil => simp [blockedNames]
      | cons next rest =>
        have joined : blockedNames (stage :: next :: rest) = stage.name ++ [',',' '] ++ blockedNames (next :: rest) := by
          simp [blockedNames]
        have comma : encodedLength [',',' '] = 2 := by decide
        have later := ih (by simp)
        rw [joined,encodedLength_append,encodedLength_append,comma,List.map_cons,List.sum_cons,← later]
        omega
  rw [encodedLength_append,label,blockedBytes,← names]
  omega

theorem blocked_bounded (detail : Text) (stages : List ProvisioningStage) :
    boundedDetail (failedWithBlocked detail stages).detail = true ↔ if stages.isEmpty then boundedDetail detail = true
      else encodedLength detail + blockedBytes stages ≤ maxQueueDetailBytes := by
  unfold failedWithBlocked
  split
  · rfl
  · rename_i some'
    have visible : ∃ c ∈ detail ++ blockedLabel ++ blockedNames stages, isSpace c = false := by
      refine ⟨';',?_,by decide⟩
      have label : ';' ∈ blockedLabel := by decide
      simp [label]
    rw [boundedDetail_exact,List.append_assoc,encodedLength_append,blockedNames_bytes stages (by simpa using some')]
    rw [List.append_assoc] at visible
    exact ⟨And.right,fun short => ⟨visible,short⟩⟩

theorem timeout_bounded : boundedDetail (failedWithBlocked stageTimeout stages).detail = true ↔
      encodedLength stageTimeout + blockedBytes stages ≤ maxQueueDetailBytes := by
  rw [blocked_bounded]
  split
  · rename_i last
    have alone : boundedDetail stageTimeout = true := by decide
    have short : encodedLength stageTimeout + 9 ≤ maxQueueDetailBytes := by decide
    simpa [List.isEmpty_iff.mp last,blockedBytes,alone] using short
  · rfl

theorem lastResult_bounded (timeout : Nat) (stages : List ProvisioningStage)
    (returns : ∀ stage ∈ stages, ∃ result, stage.Returns result) (result : HandlerResult)
    (start : stages.isEmpty → boundedDetail result.detail = true) :
    boundedDetail (lastResult timeout result stages).detail = true ↔ Recordable timeout stages := by
  induction stages generalizing result with
  | nil => simpa [lastResult,Recordable] using start
  | cons stage rest ih =>
    obtain ⟨returned,settled⟩ := returns stage List.mem_cons_self
    have later := ih (fun other inside => returns other (List.mem_cons_of_mem _ inside)) returned
    simp only [lastResult,Recordable,settled.executed]
    split
    · exact timeout_bounded rest
    · simp only [Except.ok.injEq,forall_eq']
      cases succeeded : returned.succeeded with
      | false =>
        simp only [Bool.false_eq_true,if_false]
        exact blocked_bounded returned.detail rest
      | true =>
        simp only [if_true]
        cases last : rest.isEmpty with
        | true => simp [List.isEmpty_iff.mp last,lastResult]
        | false => simpa using later (by simp [last])

section execution
variable [Platform]

end execution

/- FPT is admitted and provisioned; `evidence` is what the second stage answers. -/

def recordedSampleStages (evidence : Text) : List ProvisioningStage :=
  [⟨"current-symbol-admission".toList,false,.ok (),.ok ⟨true,"CURRENT_SYMBOL_ADMITTED".toList,false⟩,none,.ok (),0⟩,
    ⟨"current-symbol-provision".toList,true,.ok (),.ok ⟨true,evidence,false⟩,none,.ok (),3⟩]

def recordedSampleAround (evidence : Text) : Surroundings where
  configuration := defaultConfiguration
  workerId := ['w']
  handlers := [⟨.ensureCurrentSymbol,fun _ => recordedSampleStages evidence⟩]
  stageTimeoutSeconds := 45
  others := fun _ => []
  clock := fun calls => 3000 + calls
  stopped := fun _ => false
  triggered := fun _ => .ok ()

def recordedSampleCalls : List Call := [.submitOrJoin sampleGoal 5 none none 1000 ['a']]

def recordedSampleRow : JobRow :=
  (Update.claim ['w'] 62000 2000).set (@newJobRow samplePlatform sampleGoal 5 none none 1000 ['a'])

def recordedSampleRun (evidence : Text) : Except WorkerError (Option ProvisioningJob) × Working :=
  @processClaimed samplePlatform (recordedSampleAround evidence) (recordedSampleRow.read sampleGoal) ⟨⟨[recordedSampleRow],[]⟩,0,[]⟩

def recordedSampleLong : Text := List.replicate 2049 'x'

-- One evaluation for all that the samples need.
theorem recordedSample_facts :
    @claim samplePlatform defaultConfiguration (@performed samplePlatform defaultConfiguration recordedSampleCalls).2 ['w'] 2000 =
      (⟨[recordedSampleRow],[]⟩,.ok (some (recordedSampleRow.read sampleGoal))) ∧
    (∀ found ∈ (recordedSampleRun ['{','}']).2.found,
      Holding (recordedSampleAround ['{','}']) (recordedSampleRow.read sampleGoal) found) ∧
    (∀ found ∈ (recordedSampleRun recordedSampleLong).2.found,
      Holding (recordedSampleAround recordedSampleLong) (recordedSampleRow.read sampleGoal) found) ∧
    (recordedSampleRun recordedSampleLong).1 = .error (.queue (.validation "result must be bounded")) ∧
    ∃ row ∈ (recordedSampleRun recordedSampleLong).2.tables.jobs, row.jobId = ['a'] ∧ row.status = .running := by
  unfold Holding
  decide +kernel

end OpenStock.Queue
