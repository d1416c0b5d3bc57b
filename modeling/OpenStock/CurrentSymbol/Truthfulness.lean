import OpenStock.CurrentSymbol.Protocol

namespace OpenStock.CurrentSymbol
open Text Queue

/- What a protocol result says about the inspections and the job behind it. -/

-- The artifacts of PRICE_ANALYSIS are ready, where a ranking was requested.
def LowerReady (report : ArtifactReadinessReport) : Prop :=
  report.requestedCapability = .candidateRanking ∧
    ∀ artifact ∈ report.artifacts, artifact.name = "symbol_master" ∨ artifact.name = "canonical_ohlcv" → artifact.state = .ready

instance (report : ArtifactReadinessReport) : Decidable (LowerReady report) :=
  inferInstanceAs (Decidable (_ ∧ ∀ artifact ∈ report.artifacts, _ → _))

variable {report : ArtifactReadinessReport}

theorem ready_iff : report.requestedReady = true ↔
    ∀ artifact ∈ report.artifacts, artifact.required = true → artifact.state = .ready := by
  simp only [ArtifactReadinessReport.requestedReady,List.all_eq_true,List.mem_filter,beq_iff_eq,and_imp]

section inspected
variable (autoSync : Bool) (request : CurrentSymbolResearchRequest) (evidence : Evidence)

theorem inspected_lower : LowerReady (inspectConnection autoSync request evidence) ↔
    request.requestedCapability = .candidateRanking ∧ evidence.symbolMaster.state = .ready ∧ evidence.canonicalOhlcv.state = .ready := by
  simp [LowerReady,inspectConnection,Finding.artifact]

-- The effective capability is the requested one, or the lower one where only that is ready.
theorem inspected_effective : (inspectConnection autoSync request evidence).effectiveCapability =
    if (inspectConnection autoSync request evidence).requestedReady then some request.requestedCapability
    else if LowerReady (inspectConnection autoSync request evidence) then some .priceAnalysis else none := by
  simp only [inspected_lower]
  unfold ArtifactReadinessReport.effectiveCapability
  split
  · rfl
  · cases requested : request.requestedCapability with
    | priceAnalysis => simp [inspectConnection,requested]
    | candidateRanking => simp [inspectConnection,Finding.artifact,requested]

theorem enqueued_unready (proposed : (inspectConnection autoSync request evidence).shouldEnqueue = true) :
    (inspectConnection autoSync request evidence).requestedReady = false := by
  have some' : (inspectConnection autoSync request evidence).artifacts.any
      (fun artifact => artifact.required && artifact.state != .ready) = true := by
    have parts : shouldEnqueue autoSync request.historical (inspectConnection autoSync request evidence).artifacts = true := proposed
    simp only [shouldEnqueue,Bool.and_eq_true] at parts
    exact parts.1.2
  obtain ⟨artifact,present,unready⟩ := List.any_eq_true.mp some'
  rw [Bool.and_eq_true,bne_iff_ne] at unready
  apply Bool.eq_false_iff.mpr
  intro ready
  exact unready.2 (ready_iff.mp ready artifact present unready.1)

end inspected

/- What a returned call was. -/

variable {status : CurrentSymbolResearchStatus}

section cases
variable {κ : Type} {world : World κ} {request : CurrentSymbolResearchRequest} {run : Run κ}

-- A new provider call was asked for, whatever is stored.
def Refreshing (request : CurrentSymbolResearchRequest) : Prop :=
  request.forceRefresh = true ∨ request.refreshesCompany = true

inductive Concluded (world : World κ) (request : CurrentSymbolResearchRequest) (first : ArtifactReadinessReport) :
    Run κ → Prop
  | ended {run : Run κ} {goal job evidence} (terminal : job.status.isTerminal = true) (inspected : world.after = .ok evidence)
      (inspections : run.inspections = [first,inspectConnection world.autoSync request evidence])
      (submitted : run.submitted = some (goal,job))
      (status : run.result.status =
        terminalStatus (inspectConnection world.autoSync request evidence) (job.status == .succeeded))
      (effective : run.result.status = .degraded →
        run.result.effectiveCapability = (inspectConnection world.autoSync request evidence).effectiveCapability) :
      Concluded world request first run
  | active {run : Run κ} {goal job} (live : job.status.isTerminal = false) (inspections : run.inspections = [first])
      (submitted : run.submitted = some (goal,job)) (named : run.result.jobId = some job.jobId)
      (status : run.result.status = .degraded ∧ first.effectiveCapability.isSome = true ∧ request.waitMode = .detach ∧
          run.result.effectiveCapability = first.effectiveCapability ∨
        (first.effectiveCapability.isSome = false ∨ request.waitMode ≠ .detach) ∧
          (run.result.status = .pending ∨ run.result.status = .accepted ∧ request.waitMode = .detach)) :
      Concluded world request first run

variable {first : ArtifactReadinessReport} {joined : Bool}

theorem concluded_cases
    (returned : concluded world request first goal joined job = .ok run) : Concluded world request first run := by
  unfold concluded at returned
  split at returned
  · rename_i terminal
    obtain ⟨evidence,inspected,returned⟩ := bind_ok returned
    obtain ⟨outcome,_,returned⟩ := bind_ok returned
    cases returned
    have effective : (terminalResult κ (inspectConnection world.autoSync request evidence) job.jobId world.correlationId
        (job.status == .succeeded)).status = .degraded →
        (terminalResult κ (inspectConnection world.autoSync request evidence) job.jobId world.correlationId
          (job.status == .succeeded)).effectiveCapability =
          (inspectConnection world.autoSync request evidence).effectiveCapability := by
      intro degraded
      have chosen : terminalStatus (inspectConnection world.autoSync request evidence) (job.status == .succeeded) = .degraded :=
        degraded
      simp only [terminalResult,buildResult,chosen]
    refine .ended terminal inspected rfl rfl ?_ ?_
    · dsimp only
      split <;> rfl
    · dsimp only
      split <;> exact effective
  · rename_i live
    cases returned
    refine .active (Bool.eq_false_iff.mpr live) rfl rfl rfl ?_
    by_cases degraded : first.effectiveCapability.isSome = true ∧ request.waitMode = .detach
    · refine .inl ⟨?_,degraded.1,degraded.2,?_⟩
      · exact if_pos degraded
      · simp only [withCompanyContext,buildResult,degraded,and_self,if_true]
    · have shape : ∀ status : CurrentSymbolResearchStatus, (if first.effectiveCapability.isSome = true ∧ request.waitMode = .detach
          then .degraded else status) = status := fun _ => if_neg degraded
      refine .inr ⟨?_,?_⟩
      · by_cases known : first.effectiveCapability.isSome = true
        · exact .inr (fun detached => degraded ⟨known,detached⟩)
        · exact .inl (Bool.eq_false_iff.mpr known)
      · simp only [withCompanyContext,buildResult,shape]
        by_cases pending : joined = true ∨ request.waitMode ≠ .detach
        · exact .inl (if_pos pending)
        · refine .inr ⟨if_neg pending,?_⟩
          by_contra other
          exact pending (.inr other)

inductive Executed (world : World κ) (request : CurrentSymbolResearchRequest) (first : ArtifactReadinessReport) :
    Run κ → Prop
  | ready (complete : first.requestedReady = true) (quiet : ¬ Refreshing request) :
      Executed world request first (answered world request .ready first)
  | degraded (incomplete : first.requestedReady = false) (lower : first.effectiveCapability.isSome = true)
      (quiet : ¬ Refreshing request) : Executed world request first (answered world request .degraded first)
  | unavailable (stops : Refreshing request → request.historical = true)
      (quiet : ¬ Refreshing request → first.requestedReady = false ∧ first.effectiveCapability.isSome = false) :
      Executed world request first (answered world request .unavailable first)
  | submitted {run : Run κ} (current : request.historical = false) (asked : Refreshing request ∨ first.requestedReady = false)
      (opened : run.opened = true) (concluded : Concluded world request first run) : Executed world request first run

theorem concluded_opened (returned : concluded world request first goal joined job = .ok run) : run.opened = true := by
  unfold concluded at returned
  split at returned
  · obtain ⟨evidence,_,returned⟩ := bind_ok returned
    obtain ⟨outcome,_,returned⟩ := bind_ok returned
    cases returned
    rfl
  · cases returned
    rfl

theorem execute_cases (returned : execute world request = .ok run) :
    ∃ evidence, world.before = .ok evidence ∧ Executed world request (inspectConnection world.autoSync request evidence) run := by
  unfold execute at returned
  obtain ⟨evidence,inspected,returned⟩ := bind_ok returned
  refine ⟨evidence,inspected,?_⟩
  have proposed := enqueued_unready world.autoSync request evidence
  have current : (inspectConnection world.autoSync request evidence).shouldEnqueue = true → request.historical = false := by
    intro enqueued
    have parts : shouldEnqueue world.autoSync request.historical
        (inspectConnection world.autoSync request evidence).artifacts = true := enqueued
    simp only [shouldEnqueue,Bool.and_eq_true,Bool.not_eq_true'] at parts
    exact parts.1.1.2
  generalize inspectConnection world.autoSync request evidence = first at *
  dsimp only at returned
  split at returned
  · rename_i answered
    simp only [Bool.and_eq_true,Bool.not_eq_true'] at answered
    cases returned
    exact .ready answered.1.1 (by simp [Refreshing,answered.1.2,answered.2])
  · rename_i unanswered
    split at returned
    · rename_i degraded
      simp only [Bool.and_eq_true,Bool.not_eq_true'] at degraded
      obtain ⟨⟨⟨lower,unforced⟩,_⟩,unrefreshed⟩ := degraded
      cases returned
      refine .degraded ?_ lower (by simp [Refreshing,unforced,unrefreshed])
      simpa [unforced,unrefreshed] using unanswered
    · rename_i undegraded
      split at returned
      · rename_i unavailable
        cases returned
        refine .unavailable ?_ ?_
        · intro refreshing
          rcases refreshing with forced | refreshed
          · simpa [forced] using unavailable
          · simpa [refreshed] using unavailable
        · intro quiet
          have unforced : request.forceRefresh = false := Bool.eq_false_iff.mpr (fun forced => quiet (.inl forced))
          have unrefreshed : request.refreshesCompany = false := Bool.eq_false_iff.mpr (fun refreshed => quiet (.inr refreshed))
          have stopped : first.shouldEnqueue = false := by
            cases enqueued : first.shouldEnqueue with
            | false => rfl
            | true => simp [enqueued,current enqueued] at unavailable
          refine ⟨?_,?_⟩
          · simpa [unforced,unrefreshed] using unanswered
          · simpa [unforced,unrefreshed,stopped] using undegraded
      · rename_i submits
        obtain ⟨_,_,returned⟩ := bind_ok returned
        obtain ⟨goal,_,returned⟩ := bind_ok returned
        obtain ⟨submission,_,returned⟩ := bind_ok returned
        obtain ⟨job,_,returned⟩ := bind_ok returned
        simp only [Bool.or_eq_true,Bool.not_eq_true',not_or,Bool.not_eq_true,Bool.or_eq_false_iff,not_and] at submits
        refine .submitted submits.1 ?_ (concluded_opened returned) (concluded_cases returned)
        by_contra neither
        rw [not_or,Refreshing,not_or] at neither
        have unforced := Bool.eq_false_iff.mpr neither.1.1
        have unrefreshed := Bool.eq_false_iff.mpr neither.1.2
        have enqueued : first.shouldEnqueue = true := by
          by_contra stopped
          simp [unforced,unrefreshed,Bool.eq_false_iff.mpr stopped] at submits
        exact neither.2 (proposed enqueued)

/- Truthful results. -/

-- The job ended without success.
def EndedBadly (run : Run κ) : Prop :=
  ∃ goal job, run.submitted = some (goal,job) ∧ job.status.isTerminal = true ∧ job.status ≠ .succeeded

def StillActive (run : Run κ) : Prop := ∃ goal job, run.submitted = some (goal,job) ∧ job.status.isTerminal = false

-- A refresh that is asked of history, or detached although the capability is there.
def IdleRefresh (request : CurrentSymbolResearchRequest) (first : ArtifactReadinessReport) : Prop :=
  Refreshing request ∧ (request.historical = true ∨ request.waitMode = .detach ∧ first.requestedReady = true)

structure Truthful (request : CurrentSymbolResearchRequest) (run : Run κ) (first last : ArtifactReadinessReport) : Prop where
  ready : run.result.status = .ready → ∀ artifact ∈ last.artifacts, artifact.required = true → artifact.state = .ready
  failed : run.result.status = .failed ↔ EndedBadly run
  timedOut : StillActive run → request.waitMode ≠ .detach → run.result.status = .pending
  degraded : ¬ EndedBadly run → ¬ (StillActive run ∧ request.waitMode ≠ .detach) → ¬ IdleRefresh request first →
    (run.result.status = .degraded ↔ run.result.status ≠ .ready ∧ LowerReady last)
  effective : ¬ IdleRefresh request first → run.result.status = .degraded → run.result.effectiveCapability = some .priceAnalysis
  active : run.result.status = .pending ∨ run.result.status = .accepted →
    ∃ goal job, run.submitted = some (goal,job) ∧ job.status.isTerminal = false ∧ run.result.jobId = some job.jobId
  historicalClosed : request.historical = true → run.opened = false
  historicalReady : request.historical = true → ¬ Refreshing request → last.requestedReady = true → run.result.status = .ready
  quiet : first.requestedReady = true → request.forceRefresh = false → request.requestedEnrichments = [] → run.submitted = none

theorem unready_effective {autoSync : Bool} {evidence : Evidence}
    (unready : (inspectConnection autoSync request evidence).requestedReady = false) :
    ((inspectConnection autoSync request evidence).effectiveCapability.isSome = true ↔
      LowerReady (inspectConnection autoSync request evidence)) ∧ (LowerReady (inspectConnection autoSync request evidence) →
      (inspectConnection autoSync request evidence).effectiveCapability = some .priceAnalysis) := by
  rw [inspected_effective,unready]
  by_cases lower : LowerReady (inspectConnection autoSync request evidence) <;> simp [lower]

theorem terminalStatus_cases (report : ArtifactReadinessReport) (succeeded : Bool) :
    terminalStatus report succeeded = .ready ∧ succeeded = true ∧ report.requestedReady = true ∨
    terminalStatus report succeeded = .degraded ∧ succeeded = true ∧ report.requestedReady = false ∧
      report.effectiveCapability.isSome = true ∨
    terminalStatus report succeeded = .unavailable ∧ succeeded = true ∧ report.requestedReady = false ∧
      report.effectiveCapability.isSome = false ∨ terminalStatus report succeeded = .failed ∧ succeeded = false := by
  unfold terminalStatus
  cases succeeded <;> cases report.requestedReady <;> cases report.effectiveCapability.isSome <;> simp

-- A call that did not reach the queue.
theorem answered_truthful (listed : status = .ready ∨ status = .degraded ∨ status = .unavailable)
    (ready : status = .ready → report.requestedReady = true)
    (degraded : ¬ IdleRefresh request report → (status = .degraded ↔ status ≠ .ready ∧ LowerReady report))
    (effective : status = .degraded → report.effectiveCapability = some .priceAnalysis)
    (historical : ¬ Refreshing request → report.requestedReady = true → status = .ready) :
    Truthful request (answered world request status report) report report where
  ready := fun same => ready_iff.mp (ready same)
  failed := by
    constructor
    · intro failed
      have same : status = .failed := failed
      rcases listed with rfl | rfl | rfl <;> cases same
    · rintro ⟨_,_,submitted,_⟩
      cases submitted
  timedOut := by
    rintro ⟨_,_,submitted,_⟩
    cases submitted
  degraded := fun _ _ clean => degraded clean
  effective := by
    intro _ same
    have lower : status = .degraded := same
    subst lower
    exact effective rfl
  active := by
    intro either
    rcases either with pending | accepted
    · have same : status = .pending := pending
      rcases listed with rfl | rfl | rfl <;> cases same
    · have same : status = .accepted := accepted
      rcases listed with rfl | rfl | rfl <;> cases same
  historicalClosed := fun _ => rfl
  historicalReady := fun _ => historical
  quiet := fun _ _ _ => rfl

theorem refreshes_nothing (unforced : request.forceRefresh = false) (nothing : request.requestedEnrichments = []) :
    ¬ Refreshing request := by
  rintro (forced | refreshed)
  · cases forced.symm.trans unforced
  · simp [CurrentSymbolResearchRequest.refreshesCompany,nothing] at refreshed

variable {goal : EnsureCurrentSymbolGoal} {job : ObservedJob}

-- A job that ended is answered from the inspection after it.
theorem ended_truthful {first last : ArtifactReadinessReport}
    (current : request.historical = false) (terminal : job.status.isTerminal = true) (submitted : run.submitted = some (goal,job))
    (status : run.result.status = terminalStatus last (job.status == .succeeded))
    (effective : run.result.status = .degraded → run.result.effectiveCapability = last.effectiveCapability)
    (settled : last.requestedReady = false → (last.effectiveCapability.isSome = true ↔ LowerReady last) ∧
      (LowerReady last → last.effectiveCapability = some .priceAnalysis))
    (quiet : first.requestedReady = true → request.forceRefresh = false → request.requestedEnrichments = [] →
      run.submitted = none) : Truthful request run first last := by
  have idle : ¬ StillActive run := by
    rintro ⟨_,_,same,live⟩
    cases submitted.symm.trans same
    cases live.symm.trans terminal
  have badly : EndedBadly run ↔ (job.status == .succeeded) = false := by
    rw [beq_eq_false_iff_ne]
    constructor
    · rintro ⟨_,_,same,_,lost⟩
      cases submitted.symm.trans same
      exact lost
    · intro lost
      exact ⟨goal,job,submitted,terminal,lost⟩
  have unhistorical : request.historical ≠ true := by simp [current]
  have rest : (run.result.status = .ready → last.requestedReady = true) →
      (run.result.status = .failed ↔ (job.status == .succeeded) = false) →
      ((job.status == .succeeded) = true → (run.result.status = .degraded ↔ run.result.status ≠ .ready ∧ LowerReady last)) →
      (run.result.status = .degraded → LowerReady last ∧ last.requestedReady = false) →
      run.result.status ≠ .pending → run.result.status ≠ .accepted → Truthful request run first last := by
    intro ready failed degraded lower unpending unaccepted
    constructor
    case ready => exact fun same => ready_iff.mp (ready same)
    case failed => exact failed.trans badly.symm
    case timedOut => exact fun live => absurd live idle
    case degraded =>
      intro well _ _
      apply degraded
      rw [badly] at well
      exact Bool.eq_true_of_not_eq_false well
    case effective =>
      intro _ same
      obtain ⟨held,incomplete⟩ := lower same
      exact (effective same).trans ((settled incomplete).2 held)
    case active => exact fun either => absurd either (by simp [unpending,unaccepted])
    case historicalClosed => exact fun wrong => absurd wrong unhistorical
    case historicalReady => exact fun wrong => absurd wrong unhistorical
    case quiet => exact quiet
  rcases terminalStatus_cases last (job.status == .succeeded) with
    ⟨chosen,well,complete⟩ | ⟨chosen,well,incomplete,known⟩ | ⟨chosen,well,incomplete,unknown⟩ | ⟨chosen,lost⟩
  · rw [chosen] at status
    apply rest <;> simp [status,well,complete]
  · rw [chosen] at status
    have lower := (settled incomplete).1.mp known
    apply rest <;> simp [status,well,incomplete,lower]
  · rw [chosen] at status
    have lower : ¬ LowerReady last := fun held => by simp [(settled incomplete).1.mpr held] at unknown
    apply rest <;> simp [status,well,lower]
  · rw [chosen] at status
    apply rest <;> simp [status,lost]

-- A job that is still active is answered from the inspection before it.
theorem active_truthful (current : request.historical = false) (asked : Refreshing request ∨ first.requestedReady = false)
    (live : job.status.isTerminal = false) (submitted : run.submitted = some (goal,job)) (named : run.result.jobId = some job.jobId)
    (status : run.result.status = .degraded ∧ first.effectiveCapability.isSome = true ∧ request.waitMode = .detach ∧
        run.result.effectiveCapability = first.effectiveCapability ∨
      (first.effectiveCapability.isSome = false ∨ request.waitMode ≠ .detach) ∧
        (run.result.status = .pending ∨ run.result.status = .accepted ∧ request.waitMode = .detach))
    (known : first.requestedReady = false → (first.effectiveCapability.isSome = true ↔ LowerReady first) ∧
      (LowerReady first → first.effectiveCapability = some .priceAnalysis))
    (quiet : first.requestedReady = true → request.forceRefresh = false → request.requestedEnrichments = [] →
      run.submitted = none) : Truthful request run first first := by
  have active : StillActive run := ⟨goal,job,submitted,live⟩
  have well : ¬ EndedBadly run := by
    rintro ⟨_,_,same,terminal,_⟩
    cases submitted.symm.trans same
    cases live.symm.trans terminal
  have unhistorical : request.historical ≠ true := by simp [current]
  have incomplete : request.waitMode = .detach → ¬ IdleRefresh request first → first.requestedReady = false := by
    intro detached clean
    rcases asked with refreshing | incomplete
    · exact Bool.eq_false_iff.mpr (fun complete => clean ⟨refreshing,.inr ⟨detached,complete⟩⟩)
    · exact incomplete
  rcases status with ⟨degraded,some',detached,effective⟩ | ⟨without,waits⟩
  · constructor
    case failed => simp [degraded,well]
    case timedOut => exact fun _ attached => absurd detached attached
    case degraded =>
      intro _ _ clean
      simp [degraded,(known (incomplete detached clean)).1.mp some']
    case effective =>
      intro clean _
      obtain ⟨exact',price⟩ := known (incomplete detached clean)
      exact effective.trans (price (exact'.mp some'))
    case quiet => exact quiet
    all_goals simp [degraded,current]
  · have unready : run.result.status ≠ .ready ∧ run.result.status ≠ .failed ∧ run.result.status ≠ .degraded := by
      rcases waits with pending | ⟨accepted,_⟩ <;> simp [*]
    constructor
    case failed => simp [unready,well]
    case timedOut =>
      intro _ attached
      rcases waits with pending | ⟨_,detached⟩
      · exact pending
      · exact absurd detached attached
    case degraded =>
      intro _ unexpired clean
      have detached : request.waitMode = .detach := by
        by_contra attached
        exact unexpired ⟨active,attached⟩
      have nothing : first.effectiveCapability.isSome = false := by
        rcases without with nothing | attached
        · exact nothing
        · exact absurd detached attached
      have lower : ¬ LowerReady first := by
        rw [← (known (incomplete detached clean)).1]
        simp [nothing]
      simp [unready,lower]
    case active => exact fun _ => ⟨goal,job,submitted,live,named⟩
    case quiet => exact quiet
    all_goals simp [unready,current]

theorem truthful (returned : execute world request = .ok run) :
    ∃ first last, run.inspections.head? = some first ∧ run.inspections.getLast? = some last ∧ Truthful request run first last := by
  obtain ⟨evidence,_,executed⟩ := execute_cases returned
  have known := @unready_effective request world.autoSync evidence
  generalize shape : inspectConnection world.autoSync request evidence = first at *
  cases executed with
  | ready complete quiet =>
    refine ⟨first,first,rfl,rfl,answered_truthful (.inl rfl) (fun _ => complete) ?_ (fun wrong => by cases wrong) (fun _ _ => rfl)⟩
    simp
  | degraded incomplete lower quiet =>
    obtain ⟨exact',price⟩ := known incomplete
    refine ⟨first,first,rfl,rfl,answered_truthful (.inr (.inl rfl)) (fun wrong => by cases wrong) ?_
      (fun _ => price (exact'.mp lower)) ?_⟩
    · simp [exact'.mp lower]
    · intro _ complete
      cases complete.symm.trans incomplete
  | unavailable stops quiet =>
    refine ⟨first,first,rfl,rfl,answered_truthful (.inr (.inr rfl)) (fun wrong => by cases wrong) ?_
      (fun wrong => by cases wrong) ?_⟩
    · intro clean
      have unrefreshed : ¬ Refreshing request := fun refreshing => clean ⟨refreshing,.inl (stops refreshing)⟩
      obtain ⟨incomplete,nothing⟩ := quiet unrefreshed
      have lower : ¬ LowerReady first := fun lower => by simp [(known incomplete).1.mpr lower] at nothing
      simp [lower]
    · intro unrefreshed complete
      cases complete.symm.trans (quiet unrefreshed).1
  | submitted current asked opened concluded =>
    have unhistorical : request.historical ≠ true := by simp [current]
    have quiet : first.requestedReady = true → request.forceRefresh = false → request.requestedEnrichments = [] →
        run.submitted = none := by
      intro complete unforced nothing
      rcases asked with refreshing | incomplete
      · exact absurd refreshing (refreshes_nothing unforced nothing)
      · cases complete.symm.trans incomplete
    cases concluded with
    | @ended goal job later terminal inspected inspections submitted status effective =>
      exact ⟨first,_,by rw [inspections]; rfl,by rw [inspections]; rfl,
        ended_truthful current terminal submitted status effective unready_effective quiet⟩
    | @active goal job live inspections submitted named status =>
      exact ⟨first,first,by rw [inspections]; rfl,by rw [inspections]; rfl,
        active_truthful current asked live submitted named status known quiet⟩

end cases

/- A ranking whose price evidence is ready: the job outlasts the wait, or fails. -/

def priceEvidence : Evidence :=
  {symbol := "FPT".toList,effectiveDate := "2024-03-15".toList,symbolMaster := ⟨.ready,false⟩,canonicalOhlcv := ⟨.ready,false⟩,
   benchmarkOhlcv := ⟨.ready,false⟩,featureSnapshot := ⟨.missing,true⟩,candidateScore := ⟨.missing,true⟩}

def rankingRequest : CurrentSymbolResearchRequest :=
  {symbol := "FPT".toList,effectiveDate := some "2024-03-15".toList,requestedCapability := .candidateRanking,priority := 1,
   forceRefresh := false,historical := false,waitMode := .waitUpTo,waitTimeoutSeconds := 30,origin := none,requestedEnrichments := []}

def polled (polls : List Poll) : World Unit :=
  {autoSync := true,correlationId := [],before := .ok priceEvidence,after := .ok priceEvidence,openQueue := .ok (),
   submitOrJoin := fun _ _ _ _ => .ok ⟨⟨"job".toList,.queued,none⟩,false⟩,polls := polls,storedContext := none,
   reportedContext := fun _ => .ok none}

def expiredWait : World Unit := polled [⟨true,.ok none⟩]

def failedJob : World Unit := polled [⟨false,.ok (some ⟨"job".toList,.failed,none⟩)⟩]

def shown (world : World Unit) : Option (CurrentSymbolResearchStatus × Option Bool) :=
  (execute world rankingRequest).toOption.map
    (fun run => (run.result.status,run.inspections.getLast?.map (fun last => decide (LowerReady last))))

theorem truthful_sample : ∃ run first last, execute expiredWait rankingRequest = .ok run ∧ run.inspections.head? = some first ∧
    run.inspections.getLast? = some last ∧ Truthful rankingRequest run first last := by
  have present : (execute expiredWait rankingRequest).isOk = true := by decide
  cases returned : execute expiredWait rankingRequest with
  | error stop =>
    rw [returned] at present
    cases present
  | ok run =>
    obtain ⟨first,last,head,tail,law⟩ := truthful returned
    exact ⟨run,first,last,rfl,head,tail,law⟩

-- A result that is not READY is DEGRADED as soon as the price evidence is ready.
def DegradedExactly (run : Run κ) (last : ArtifactReadinessReport) : Prop :=
  run.result.status = .degraded ↔ run.result.status ≠ .ready ∧ LowerReady last

theorem shown_undegraded {world : World Unit} (seen : shown world = some (status,some true))
    (unready : status ≠ .ready) (undegraded : status ≠ .degraded) : ∃ run last, execute world rankingRequest = .ok run ∧
      run.inspections.getLast? = some last ∧ ¬ DegradedExactly run last := by
  unfold shown at seen
  cases returned : execute world rankingRequest with
  | error stop =>
    rw [returned] at seen
    cases seen
  | ok run =>
    rw [returned] at seen
    obtain ⟨same,lower⟩ := Prod.mk.inj (Option.some.inj seen)
    obtain ⟨last,found,held⟩ := Option.map_eq_some_iff.mp lower
    refine ⟨run,last,rfl,found,?_⟩
    intro exact'
    apply undegraded
    rw [← same]
    exact exact'.mpr ⟨by rw [same]; exact unready,of_decide_eq_true held⟩

theorem pending_and_failed_undegraded :
    (∃ run last, execute expiredWait rankingRequest = .ok run ∧ run.inspections.getLast? = some last ∧ ¬ DegradedExactly run last) ∧
    ∃ run last, execute failedJob rankingRequest = .ok run ∧ run.inspections.getLast? = some last ∧ ¬ DegradedExactly run last := by
  have pending : shown expiredWait = some (.pending,some true) := by decide
  have failed : shown failedJob = some (.failed,some true) := by decide
  exact ⟨shown_undegraded pending (by decide) (by decide),shown_undegraded failed (by decide) (by decide)⟩

end OpenStock.CurrentSymbol
