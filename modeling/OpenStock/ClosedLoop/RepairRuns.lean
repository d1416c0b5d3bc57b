import OpenStock.ClosedLoop.Repairs

namespace OpenStock.ClosedLoop

-- What the attempt files of one repair say.
structure Recorded (service : ClosedLoopService) (repair : Repair) : Prop where
  numbered : repair.attempts.map RepairAttempt.attempt = List.range' 1 repair.attempts.length
  bounded : repair.attempts.length ≤ service.maxAttempts
  single : ∀ attempt ∈ repair.attempts.dropLast, attempt.passed = false

-- A call leaves every ended repair in its state and does not run its sandbox.
def KeepsEnded (service : ClosedLoopService) (store : Store) (call : Call) : Prop :=
  ∀ repairId repair, store[repairId]? = some repair → Ended repair →
    (∃ later, (step service store call).1[repairId]? = some later ∧ later.current = repair.current) ∧
      (step service store call).2 ≠ some repairId

-- No proposal reaches an ended repair, except a rejected one a rejected repair;
-- no attempt beyond the limit reaches an ended repair that has not failed.
def Heeded (service : ClosedLoopService) (store : Store) : Call → Prop
  | .prepare => True
  | .propose repairId accepted => ∀ repair, store[repairId]? = some repair → Ended repair →
      accepted = false ∧ repair.current = some .rejected
  | .apply repairId attempt _ => ∀ repair, store[repairId]? = some repair → Ended repair →
      repair.proposal = some true → service.maxAttempts < attempt → repair.current = some .failed

-- In every state that the calls reach, and across every call.
def EndOnce (service : ClosedLoopService) (store : Store) : List Call → Prop
  | [] => ∀ repair ∈ store, Recorded service repair
  | call :: rest => (∀ repair ∈ store, Recorded service repair) ∧ KeepsEnded service store call ∧
      EndOnce service (step service store call).1 rest

def AllHeeded (service : ClosedLoopService) (store : Store) : List Call → Prop
  | [] => True
  | call :: rest => Heeded service store call ∧ AllHeeded service (step service store call).1 rest

/- One call on one repair. -/

variable (service : ClosedLoopService) (repair : Repair)

theorem apply_ended (attempt : Int) (runner : Runner) (ended : Ended repair) :
    (service.apply repair attempt runner).ran = false ∧ ((service.apply repair attempt runner).repair.current = repair.current ↔
        (repair.proposal = some true → service.maxAttempts < attempt → repair.current = some .failed)) := by
  obtain ⟨state,current,terminal⟩ := ended_terminal ended
  by_cases beyond : repair.proposal = some true ∧ (service.maxAttempts : Int) < attempt
  · obtain ⟨accepted,many⟩ := beyond
    have positive : ¬ attempt < 1 := by
      have least := service.bounded.1
      omega
    have shape : service.apply repair attempt runner = ⟨repair.record .failed,.error .exhausted,false⟩ := by
      rw [ClosedLoopService.apply,accepted]
      dsimp only
      rw [if_neg positive,if_pos many]
    rw [shape]
    refine ⟨rfl,?_⟩
    rw [record_current]
    constructor
    · intro same _ _
      exact same.symm
    · intro failed
      exact (failed accepted many).symm
  · have kept : ∃ error, service.apply repair attempt runner = ⟨repair,.error error,false⟩ := by
      have how := apply_cases service repair attempt runner
      generalize service.apply repair attempt runner = applied at how ⊢
      cases how with
      | refused error => exact ⟨error,rfl⟩
      | exhausted accepted many => exact absurd ⟨accepted,many⟩ beyond
      | ran number same bounded next other here open' =>
        rw [current] at here
        cases here
        rw [terminal] at open'
        cases open'
    obtain ⟨error,shape⟩ := kept
    rw [shape]
    refine ⟨rfl,fun _ accepted many => absurd ⟨accepted,many⟩ beyond,fun _ => rfl⟩

theorem propose_ended (accepted : Bool) (ended : Ended repair) :
    (ClosedLoopService.propose repair accepted).current = repair.current ↔
      accepted = false ∧ repair.current = some .rejected := by
  rw [propose_current]
  cases accepted with
  | true =>
    constructor
    · intro same
      rcases ended with other | other | other
      all_goals rw [other] at same; cases same
    · intro impossible
      cases impossible.1
  | false =>
    constructor
    · intro same
      exact ⟨rfl,same.symm⟩
    · intro rejected
      exact rejected.2.symm

/- One call on a store. -/

variable {store : Store}

-- A call that replaces one repair, and runs no sandbox where it has ended.
theorem replaced_iff {repair next : Repair} (found : store[repairId]? = some repair)
    (idle : Ended repair → ran = none) (own : ∀ other, ran = some other → other = repairId) :
    (∀ other before, store[other]? = some before → Ended before →
      (∃ later, (store.set repairId next)[other]? = some later ∧ later.current = before.current) ∧ ran ≠ some other) ↔
      (Ended repair → next.current = repair.current) := by
  have inside := (List.getElem?_eq_some_iff.mp found).1
  constructor
  · intro keeps ended
    obtain ⟨later,here,current⟩ := (keeps repairId repair found ended).1
    rw [List.getElem?_set_self inside] at here
    cases here
    exact current
  · intro kept other before here ended
    by_cases same : repairId = other
    · subst same
      cases found.symm.trans here
      exact ⟨⟨next,List.getElem?_set_self inside,kept ended⟩,by simp [idle ended]⟩
    · exact ⟨⟨before,by rw [List.getElem?_set_ne same]; exact here,rfl⟩,fun running => same (own other running).symm⟩

theorem keeps_iff (store : Store) (call : Call) : KeepsEnded service store call ↔ Heeded service store call := by
  have unmoved : ∀ (other : Nat) (before : Repair), store[other]? = some before → Ended before →
      (∃ later, store[other]? = some later ∧ later.current = before.current) ∧ none ≠ some other :=
    fun other before here _ => ⟨⟨before,here,rfl⟩,nofun⟩
  unfold KeepsEnded Heeded
  cases call with
  | prepare =>
    refine iff_of_true ?_ trivial
    intro repairId repair found _
    have inside := (List.getElem?_eq_some_iff.mp found).1
    exact ⟨⟨repair,(List.getElem?_append_left inside).trans found,rfl⟩,by simp [step]⟩
  | propose repairId accepted =>
    cases found : store[repairId]? with
    | none =>
      simp only [step,found]
      exact iff_of_true unmoved nofun
    | some repair =>
      simp only [step,found,Option.some.injEq,forall_eq']
      rw [replaced_iff found (fun _ => rfl) nofun]
      exact forall_congr' (propose_ended repair accepted)
  | apply repairId attempt runner =>
    cases found : store[repairId]? with
    | none =>
      simp only [step,found]
      exact iff_of_true unmoved nofun
    | some repair =>
      simp only [step,found,Option.some.injEq,forall_eq']
      rw [replaced_iff found (fun ended => by simp [(apply_ended service repair attempt runner ended).1])
        (fun other running => by split at running <;> cases running; rfl)]
      exact forall_congr' (fun ended => (apply_ended service repair attempt runner ended).2)

/- The attempts. -/

-- A repair with a passed attempt stays validated.
structure Kept (service : ClosedLoopService) (repair : Repair) : Prop where
  recorded : Recorded service repair
  settled : (∃ attempt ∈ repair.attempts, attempt.passed = true) → repair.current = some .validate

variable {service : ClosedLoopService} {repair : Repair}

theorem kept_same (other : Repair) (kept : Kept service repair)
    (attempts : other.attempts = repair.attempts) (current : repair.current = some .validate → other.current = some .validate) :
    Kept service other := by
  refine ⟨⟨?_,?_,?_⟩,?_⟩
  · rw [attempts]
    exact kept.recorded.numbered
  · rw [attempts]
    exact kept.recorded.bounded
  · rw [attempts]
    exact kept.recorded.single
  · rw [attempts]
    exact fun passed => current (kept.settled passed)

theorem prepare_kept (service : ClosedLoopService) : Kept service ClosedLoopService.prepareFailedRun where
  recorded := ⟨rfl,Nat.zero_le _,by simp [ClosedLoopService.prepareFailedRun]⟩
  settled := by
    intro passed
    obtain ⟨attempt,inside,_⟩ := passed
    cases inside

-- The number of a new attempt is not taken.
theorem saveAttempt_new (numbered : repair.attempts.map RepairAttempt.attempt = List.range' 1 repair.attempts.length)
    (passed : Bool) : (repair.saveAttempt ⟨repair.attempts.length + 1,passed⟩).attempts =
      repair.attempts ++ [⟨repair.attempts.length + 1,passed⟩] := by
  have absent : repair.attempts.any (fun other => RepairAttempt.attempt other = repair.attempts.length + 1) = false := by
    rw [List.any_eq_false]
    intro other inside same
    have number : RepairAttempt.attempt other ∈ repair.attempts.map RepairAttempt.attempt := List.mem_map_of_mem inside
    rw [numbered,List.mem_range'_1] at number
    have equal := of_decide_eq_true same
    omega
  rw [Repair.saveAttempt]
  dsimp only
  rw [Rows.upsert,absent]
  rfl

theorem runAttempt_kept (kept : Kept service repair)
    (open' : repair.current ≠ some .validate) (room : repair.attempts.length + 1 ≤ service.maxAttempts)
    (result : RunnerResult) : Kept service (service.runAttempt repair (repair.attempts.length + 1) result).repair := by
  have unpassed : ∀ attempt ∈ repair.attempts, attempt.passed = false := by
    intro attempt inside
    cases passed : attempt.passed with
    | false => rfl
    | true => exact absurd (kept.settled ⟨attempt,inside,passed⟩) open'
  unfold ClosedLoopService.runAttempt
  cases result.recorded with
  | none => exact kept_same _ kept rfl (fun validated => absurd validated open')
  | some passed =>
    have attempts : ((repair.record .aiFix).saveAttempt ⟨(repair.record .aiFix).attempts.length + 1,passed⟩).attempts = _ :=
      saveAttempt_new kept.recorded.numbered passed
    rw [record_attempts] at attempts
    refine ⟨⟨?_,?_,?_⟩,?_⟩
    · rw [record_attempts,attempts,List.map_append,kept.recorded.numbered,List.length_append,List.length_singleton,
        List.range'_concat]
      simp [Nat.add_comm]
    · rw [record_attempts,attempts,List.length_append,List.length_singleton]
      exact room
    · rw [record_attempts,attempts,List.dropLast_concat]
      exact unpassed
    · intro passedOnce
      rw [record_attempts,attempts] at passedOnce
      obtain ⟨attempt,inside,here⟩ := passedOnce
      rcases List.mem_append.mp inside with earlier | last
      · rw [unpassed attempt earlier] at here
        cases here
      · rw [List.mem_singleton.mp last] at here
        dsimp only at here
        rw [record_current,here]
        rfl

theorem apply_kept (kept : Kept service repair) (attempt : Int) (runner : Runner)
    (heeded : Ended repair → repair.proposal = some true → service.maxAttempts < attempt → repair.current = some .failed) :
    Kept service (service.apply repair attempt runner).repair := by
  have how := apply_cases service repair attempt runner
  generalize service.apply repair attempt runner = applied at how ⊢
  cases how with
  | refused error => exact kept
  | exhausted accepted many =>
    apply kept_same (repair.record .failed) kept rfl
    intro validated
    have failed := heeded (.inr (.inl validated)) accepted many
    rw [validated] at failed
    cases failed
  | ran number same bounded next state current open' =>
    subst next
    apply runAttempt_kept kept _ bounded
    intro validated
    rw [current] at validated
    cases validated
    cases open'

theorem propose_kept (kept : Kept service repair) (accepted : Bool)
    (heeded : Ended repair → accepted = false ∧ repair.current = some .rejected) :
    Kept service (ClosedLoopService.propose repair accepted) := by
  apply kept_same (ClosedLoopService.propose repair accepted) kept rfl
  intro validated
  have rejected := (heeded (.inr (.inl validated))).2
  rw [validated] at rejected
  cases rejected

theorem step_kept (kept : ∀ repair ∈ store, Kept service repair) (call : Call)
    (heeded : Heeded service store call) : ∀ repair ∈ (step service store call).1, Kept service repair := by
  cases call with
  | prepare =>
    intro repair inside
    rcases List.mem_append.mp inside with before | new
    · exact kept repair before
    · rw [List.mem_singleton.mp new]
      exact prepare_kept service
  | propose repairId accepted =>
    rw [step]
    cases found : store[repairId]? with
    | none => exact kept
    | some repair =>
      intro other inside
      rcases List.mem_or_eq_of_mem_set inside with before | new
      · exact kept other before
      · rw [new]
        exact propose_kept (kept repair (List.mem_of_getElem? found)) accepted (heeded repair found)
  | apply repairId attempt runner =>
    rw [step]
    cases found : store[repairId]? with
    | none => exact kept
    | some repair =>
      intro other inside
      rcases List.mem_or_eq_of_mem_set inside with before | new
      · exact kept other before
      · rw [new]
        exact apply_kept (kept repair (List.mem_of_getElem? found)) attempt runner (heeded repair found)

variable {calls : List Call}

theorem endOnce_heeded (ends : EndOnce service store calls) : AllHeeded service store calls := by
  induction calls generalizing store with
  | nil => trivial
  | cons call calls ih => exact ⟨(keeps_iff service store call).mp ends.2.1,ih ends.2.2⟩

theorem heeded_endOnce
    (kept : ∀ repair ∈ store, Kept service repair) (heeded : AllHeeded service store calls) : EndOnce service store calls := by
  induction calls generalizing store with
  | nil => exact fun repair inside => (kept repair inside).recorded
  | cons call calls ih =>
    refine ⟨fun repair inside => (kept repair inside).recorded,(keeps_iff service store call).mpr heeded.1,?_⟩
    exact ih (step_kept kept call heeded.1) heeded.2

-- The repairs of a sequence of calls end once exactly when every call is heeded.
theorem repairs_end_exactly (service : ClosedLoopService) (calls : List Call) :
    EndOnce service [] calls ↔ AllHeeded service [] calls := by
  constructor
  · exact endOnce_heeded
  · apply heeded_endOnce
    simp

theorem three_allowed : 1 ≤ 3 ∧ 3 ≤ 10 := by decide

def threeAttempts : ClosedLoopService := ⟨3,three_allowed⟩

def passing : Runner := ⟨true,.returned true⟩

-- A proposal after a passed attempt opens the repair for another one.
theorem validated_reopened : ¬ EndOnce threeAttempts []
    [.prepare,.propose 0 true,.apply 0 1 passing,.propose 0 true,.apply 0 2 passing] := by
  intro ends
  have heeded := (keeps_iff _ _ _).mp ends.2.2.2.2.2.2.2.1
  have ended : Ended ⟨some true,[⟨1,true⟩],[.run,.observe,.package,.aiFix,.aiFix,.validate]⟩ := .inr (.inl rfl)
  have rejected := heeded _ rfl ended
  cases rejected.1

end OpenStock.ClosedLoop
