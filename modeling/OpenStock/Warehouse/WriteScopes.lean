import Mathlib.Data.List.Basic

namespace OpenStock.WriteScopes

-- What a statement, a body or a scope ends by raising.
inductive Failure where
  | database
  | system
  | value
  | other
  | transactionConflict
  | rollbackOnly
  | pathConflict
  | warehouseOpen

-- What a session shows: the transaction statements it issues, and how the body of each scope
-- it entered was left. A scope that is refused on entry has no body to leave; its refusal
-- is an exception of the body around it.
inductive Event where
  | begun (connection : Nat)
  | committed (connection : Nat)
  | rolledBack (connection : Nat)
  | left (failed : Bool)
  deriving DecidableEq

def Event.boundary : Event → Bool
  | .begun _ => true
  | .committed _ => true
  | .rolledBack _ => true
  | .left _ => false

structure TransactionState where
  connection : Nat
  rollbackOnly : Bool

structure ActiveWrite (π : Type) where
  path : π
  connection : Nat

-- The two context variables, the file locks and connections that coordinators hold, the
-- tables of the warehouse and everything that a transaction does not cover.
structure Session (π σ ω : Type) where
  activeTransaction : Option TransactionState
  activeWrite : Option (ActiveWrite π)
  locks : List π
  connections : List Nat
  fresh : Nat
  tables : σ
  rest : ω
  trace : List Event

def Session.started (fresh : Nat) (tables : σ) (rest : ω) : Session π σ ω :=
  ⟨none,none,[],[],fresh,tables,rest,[]⟩

def Session.note (s : Session π σ ω) (event : Event) : Session π σ ω := {s with trace := s.trace ++ [event]}

@[simp] theorem note_activeTransaction (s : Session π σ ω) (event : Event) :
    (s.note event).activeTransaction = s.activeTransaction := rfl
@[simp] theorem note_trace (s : Session π σ ω) (event : Event) : (s.note event).trace = s.trace ++ [event] := rfl

-- BEGIN, and the context variable set.
def Session.began (s : Session π σ ω) (connection : Nat) : Session π σ ω :=
  {s.note (.begun connection) with activeTransaction := some ⟨connection,false⟩}

abbrev Code (π σ ω : Type) := Session π σ ω → Session π σ ω × Option Failure

-- What the surroundings answer to one scope: the directory and the lock file, the lock, the
-- connection, its mode, BEGIN, COMMIT, and the closing of connection and lock. A COMMIT that
-- fails has ended the transaction; a close that reports an error has closed. `handling` says
-- that the scope is entered inside an except block of its caller.
structure World where
  prepares : Bool
  locks : Bool
  opens : Bool
  chmods : Bool
  begins : Bool
  commits : Bool
  closes : Bool
  unlocks : Bool
  handling : Bool

def enter (body : Code π σ ω) (s : Session π σ ω) : Session π σ ω × Option Failure :=
  ((body s).1.note (.left (body s).2.isSome),(body s).2)

-- ROLLBACK with its own error suppressed, and the context variable reset by its token.
def rollBack (connection : Nat) (before after : Session π σ ω) : Session π σ ω :=
  {after.note (.rolledBack connection) with tables := before.tables,activeTransaction := before.activeTransaction}

def warehouseTransaction (world : World) (connection : Nat) (body : Code π σ ω) (s : Session π σ ω) :
    Session π σ ω × Option Failure :=
  match s.activeTransaction with
  | some active =>
    if active.connection = connection then
      match enter body s with
      | (after,none) => (after,none)
      | (after,some failure) => ({after with activeTransaction := some ⟨connection,true⟩},some failure)
    else (s,some .transactionConflict)
  | none =>
    if world.begins then
      match enter body (s.began connection) with
      | (after,some failure) => (rollBack connection s after,some failure)
      | (after,none) =>
        match after.activeTransaction with
        | none => (rollBack connection s after,some .other)
        | some ⟨_,true⟩ => (rollBack connection s after,some .rollbackOnly)
        | some ⟨_,false⟩ =>
          if world.commits then ({after.note (.committed connection) with activeTransaction := none},none)
          else (rollBack connection s (after.note (.committed connection)),some .database)
    else (s.note (.begun connection),some .database)

-- An error of the cleanup is raised only when nothing else is being handled.
def cleaned (succeeds handling : Bool) (failure : Option Failure) : Option Failure :=
  if succeeds || handling || failure.isSome then failure else some .warehouseOpen

def closeConnection (world : World) (connection : Nat) (before : Session π σ ω)
    (ended : Session π σ ω × Option Failure) : Session π σ ω × Option Failure :=
  ({ended.1 with activeWrite := before.activeWrite,connections := ended.1.connections.erase connection},
    cleaned world.closes world.handling ended.2)

section Coordinator

variable [DecidableEq π]

def releaseLock (world : World) (path : π) (ended : Session π σ ω × Option Failure) : Session π σ ω × Option Failure :=
  ({ended.1 with locks := ended.1.locks.erase path},cleaned world.unlocks world.handling ended.2)

omit [DecidableEq π] in
-- From the opening of the connection to its closing, under the lock.
def opened (world : World) (path : π) (body : Nat → Code π σ ω) (s : Session π σ ω) : Session π σ ω × Option Failure :=
  if world.opens then
    if world.chmods then
      closeConnection world s.fresh s (warehouseTransaction world s.fresh (body s.fresh)
        {s with connections := s.fresh :: s.connections,fresh := s.fresh + 1,activeWrite := some ⟨path,s.fresh⟩})
    else ({s with fresh := s.fresh + 1},some .warehouseOpen)
  else (s,some .warehouseOpen)

def coordinatorTransaction (world : World) (path : π) (body : Nat → Code π σ ω) (s : Session π σ ω) :
    Session π σ ω × Option Failure :=
  match s.activeWrite with
  | some active =>
    if active.path = path then warehouseTransaction world active.connection (body active.connection) s
    else (s,some .pathConflict)
  | none =>
    if world.prepares && world.locks then
      releaseLock world path (opened world path body {s with locks := path :: s.locks})
    else (s,some .warehouseOpen)

end Coordinator

-- A scope names its connection, or takes the one it was given by the scope around it.
inductive Kind (π : Type) where
  | coordinator (path : π)
  | warehouse (connection : Option Nat)

-- The code of a scope: statements and child scopes in any order. What follows one may depend on
-- the tables, on the rest and on the exception it ended by: to catch it is to go on,
-- to let it pass is to raise it again.
inductive Body (π σ ω : Type) where
  | finish
  | raise (failure : Failure)
  | execute (statement : σ → ω → σ × ω × Option Failure) (after : σ → ω → Option Failure → Body π σ ω)
  | scope (kind : Kind π) (world : World) (inner : Body π σ ω) (after : σ → ω → Option Failure → Body π σ ω)

def Kind.enter [DecidableEq π] (kind : Kind π) (world : World) (given : Nat) (body : Nat → Code π σ ω) : Code π σ ω :=
  match kind with
  | .coordinator path => coordinatorTransaction world path body
  | .warehouse named => warehouseTransaction world (named.getD given) (body (named.getD given))

def run [DecidableEq π] : Body π σ ω → Nat → Code π σ ω
  | .finish, _, s => (s,none)
  | .raise failure, _, s => (s,some failure)
  | .execute statement after, connection, s =>
    let outcome := statement s.tables s.rest
    run (after outcome.1 outcome.2.1 outcome.2.2) connection {s with tables := outcome.1,rest := outcome.2.1}
  | .scope kind world inner after, connection, s =>
    let ended := kind.enter world connection (fun given => run inner given) s
    run (after ended.1.tables ended.1.rest ended.2) connection ended.1

-- A transaction entered outside every other scope.
structure Call (π σ ω : Type) where
  kind : Kind π
  world : World
  given : Nat
  body : Body π σ ω

def Call.made [DecidableEq π] (call : Call π σ ω) (s : Session π σ ω) : Session π σ ω × Option Failure :=
  call.kind.enter call.world call.given (run call.body) s

def made [DecidableEq π] (calls : List (Call π σ ω)) (s : Session π σ ω) : Session π σ ω :=
  calls.foldl (fun s call => (call.made s).1) s

/- What code inside a transaction leaves of its session. -/

-- Nothing but its own events, the mark of a scope that failed, and connections used up by
-- coordinators that were refused.
structure Inside (connection : Nat) (events : List Event) (s s' : Session π σ ω) : Prop where
  traced : s'.trace = s.trace ++ events
  silent : ∀ event ∈ events, event.boundary = false
  marked : ∀ flag, s.activeTransaction = some ⟨connection,flag⟩ →
    s'.activeTransaction = some ⟨connection,flag || decide (.left true ∈ events)⟩
  write : s'.activeWrite = s.activeWrite
  locks : s'.locks = s.locks
  connections : s'.connections = s.connections

def Running (connection : Nat) (s : Session π σ ω) : Prop := ∃ flag, s.activeTransaction = some ⟨connection,flag⟩

-- Code that may stand inside a transaction.
def Contained (connection : Nat) (code : Code π σ ω) : Prop :=
  ∀ s, Running connection s → ∃ events, Inside connection events s (code s).1

theorem inside_refl (connection : Nat) (s : Session π σ ω) : Inside connection [] s s := by
  refine ⟨by simp,by simp,?_,rfl,rfl,rfl⟩
  intro flag active
  simpa using active

theorem inside_trans {connection : Nat} {s s' s'' : Session π σ ω} (first : Inside connection one s s')
    (second : Inside connection two s' s'') : Inside connection (one ++ two) s s'' := by
  refine ⟨?_,?_,?_,second.write.trans first.write,second.locks.trans first.locks,
    second.connections.trans first.connections⟩
  · rw [second.traced,first.traced,List.append_assoc]
  · intro event among
    rcases List.mem_append.mp among with early | late
    · exact first.silent event early
    · exact second.silent event late
  · intro flag active
    rw [second.marked _ (first.marked flag active)]
    simp [List.mem_append,Bool.or_assoc]

theorem inside_running {connection : Nat} {s s' : Session π σ ω} (kept : Inside connection events s s')
    (running : Running connection s) : Running connection s' := by
  obtain ⟨flag,active⟩ := running
  exact ⟨_,kept.marked flag active⟩

-- Leaving a body adds its event; the mark of a failure is set by the scope it belongs to.
theorem enter_inside {connection : Nat} {body : Code π σ ω} {s : Session π σ ω}
    (kept : Inside connection events s (body s).1) (fine : (body s).2 = none) :
    Inside connection (events ++ [.left false]) s (enter body s).1 := by
  refine ⟨?_,?_,?_,kept.write,kept.locks,kept.connections⟩
  · simp [enter,Session.note,fine,kept.traced]
  · intro event among
    rcases List.mem_append.mp among with early | own
    · exact kept.silent event early
    · rw [List.mem_singleton.mp own]
      rfl
  · intro flag active
    simpa [enter,Session.note] using kept.marked flag active

theorem nested_inside {connection : Nat} {body : Code π σ ω} (contained : Contained connection body) (world : World)
    (asked : Nat) (same : asked = connection) : Contained connection (warehouseTransaction world asked body) := by
  intro s running
  obtain ⟨events,kept⟩ := contained s running
  obtain ⟨flag,active⟩ := running
  subst same
  cases outcome : (body s).2 with
  | none =>
    have ended : warehouseTransaction world asked body s = ((enter body s).1,none) := by
      simp [warehouseTransaction,active,enter,outcome]
    rw [ended]
    exact ⟨_,enter_inside kept outcome⟩
  | some failure =>
    have ended : warehouseTransaction world asked body s =
        ({(enter body s).1 with activeTransaction := some ⟨asked,true⟩},some failure) := by
      simp [warehouseTransaction,active,enter,outcome]
    rw [ended]
    refine ⟨events ++ [.left true],?_,?_,?_,kept.write,kept.locks,kept.connections⟩
    · simp [enter,Session.note,outcome,kept.traced]
    · intro event among
      rcases List.mem_append.mp among with early | own
      · exact kept.silent event early
      · rw [List.mem_singleton.mp own]
        rfl
    · intro flag active
      simp

-- A scope on another connection is refused before its body.
theorem warehouse_inside {connection : Nat} {body : Nat → Code π σ ω} (contained : Contained connection (body connection))
    (world : World) (asked : Nat) : Contained connection (warehouseTransaction world asked (body asked)) := by
  by_cases same : asked = connection
  · subst same
    exact nested_inside contained world asked rfl
  · intro s running
    obtain ⟨flag,active⟩ := running
    have refused : warehouseTransaction world asked (body asked) s = (s,some .transactionConflict) := by
      simp [warehouseTransaction,active,Ne.symm same]
    rw [refused]
    exact ⟨[],inside_refl connection s⟩

theorem opened_inside {connection : Nat} {body : Nat → Code π σ ω} (contained : Contained connection (body connection))
    (world : World) (path : π) : Contained connection (opened world path body) := by
  intro s running
  have idle : ∃ events, Inside connection events s {s with fresh := s.fresh + 1} :=
    ⟨[],by simp,by simp,by simp,rfl,rfl,rfl⟩
  unfold opened
  split
  · split
    · obtain ⟨events,kept⟩ := warehouse_inside contained world s.fresh
        {s with connections := s.fresh :: s.connections,fresh := s.fresh + 1,activeWrite := some ⟨path,s.fresh⟩} running
      refine ⟨events,kept.traced,kept.silent,kept.marked,rfl,kept.locks,?_⟩
      simp [closeConnection,kept.connections]
    · exact idle
  · exact ⟨[],inside_refl connection s⟩

section Coordinator

variable [DecidableEq π]

theorem coordinator_inside {connection : Nat} {body : Nat → Code π σ ω} (contained : Contained connection (body connection))
    (world : World) (path : π) : Contained connection (coordinatorTransaction world path body) := by
  intro s running
  unfold coordinatorTransaction
  split
  · rename_i active held
    split
    · exact warehouse_inside contained world active.connection s running
    · exact ⟨[],inside_refl connection s⟩
  · split
    · obtain ⟨events,kept⟩ := opened_inside contained world path {s with locks := path :: s.locks} running
      refine ⟨events,kept.traced,kept.silent,kept.marked,kept.write,?_,kept.connections⟩
      simp [releaseLock,kept.locks]
    · exact ⟨[],inside_refl connection s⟩

theorem scope_inside {connection : Nat} (body : Nat → Code π σ ω) (contained : Contained connection (body connection))
    (kind : Kind π) (world : World) : Contained connection (kind.enter world connection body) := by
  cases kind with
  | coordinator path => exact coordinator_inside contained world path
  | warehouse named => exact warehouse_inside contained world (named.getD connection)

-- By induction on the tree of scopes: whatever it does, it stays inside the transaction.
theorem run_inside (body : Body π σ ω) (connection : Nat) : Contained connection (run body connection) := by
  induction body with
  | finish | raise failure => exact fun s _ => ⟨[],inside_refl connection s⟩
  | execute statement after ih =>
    intro s running
    have stated : Inside connection [] s
        {s with tables := (statement s.tables s.rest).1,rest := (statement s.tables s.rest).2.1} :=
      ⟨by simp,by simp,by simp,rfl,rfl,rfl⟩
    obtain ⟨events,kept⟩ := ih (statement s.tables s.rest).1 (statement s.tables s.rest).2.1 (statement s.tables s.rest).2.2
      _ (inside_running stated running)
    exact ⟨_,inside_trans stated kept⟩
  | scope kind world inner after inner_ih after_ih =>
    intro s running
    obtain ⟨during,entered⟩ := scope_inside (fun given => run inner given) inner_ih kind world s running
    obtain ⟨later,kept⟩ := after_ih _ _ (kind.enter world connection (fun given => run inner given) s).2
      _ (inside_running entered running)
    exact ⟨_,inside_trans entered kept⟩

end Coordinator

/- The outermost scope. -/

-- An entered scope: BEGIN, the events of its body, and then one of three endings. A COMMIT is issued
-- exactly when no body was left by an exception; what does not end in a COMMIT that succeeds is
-- rolled back once and raises.
def AllOrNothing (world : World) (body : Nat → Code π σ ω) (before : Session π σ ω)
    (ended : Session π σ ω × Option Failure) : Prop :=
  ∃ (connection : Nat) (entered : Session π σ ω) (inside closing : List Event),
    entered.tables = before.tables ∧ entered.rest = before.rest ∧
    let inner := body connection entered
    let events := inside ++ [.left inner.2.isSome]
    inner.1.trace = before.trace ++ .begun connection :: inside ∧
    ended.1.trace = before.trace ++ .begun connection :: (events ++ closing) ∧
    (∀ event ∈ events, event.boundary = false) ∧
    if .left true ∈ events then
      closing = [.rolledBack connection] ∧ ended.2 ≠ none ∧ ended.1.tables = before.tables
    else if world.commits then
      closing = [.committed connection] ∧ (ended.2 = none ∨ world.closes = false ∨ world.unlocks = false) ∧
        ended.1.tables = inner.1.tables
    else
      closing = [.committed connection,.rolledBack connection] ∧ ended.2 ≠ none ∧ ended.1.tables = before.tables

structure Idle (s : Session π σ ω) : Prop where
  transaction : s.activeTransaction = none
  write : s.activeWrite = none
  locks : s.locks = []
  connections : s.connections = []

-- A scope that is refused has written nothing; BEGIN may be the statement that was refused.
structure Refused (before : Session π σ ω) (ended : Session π σ ω × Option Failure) : Prop where
  raised : ended.2 ≠ none
  tables : ended.1.tables = before.tables
  traced : ended.1.trace = before.trace ∨ ∃ connection, ended.1.trace = before.trace ++ [.begun connection]

def Kind.admitted (kind : Kind π) (world : World) : Bool :=
  match kind with
  | .coordinator _ => world.prepares && world.locks && world.opens && world.chmods && world.begins
  | .warehouse _ => world.begins

theorem cleaned_raises {failure : Option Failure} (succeeds handling : Bool) (raised : failure ≠ none) : cleaned succeeds handling failure ≠ none := by
  cases failure with
  | none => exact absurd rfl raised
  | some failure => simp [cleaned]

theorem cleaned_silent {failure : Option Failure} {succeeds handling : Bool} (works : succeeds = true) : cleaned succeeds handling failure = failure := by
  simp [cleaned,works]

theorem outermost_exact (world : World) (connection : Nat) (body : Nat → Code π σ ω) (s : Session π σ ω)
    (contained : Contained connection (body connection)) (outside : s.activeTransaction = none) (begins : world.begins = true) :
    AllOrNothing world body s (warehouseTransaction world connection (body connection) s) ∧
      (warehouseTransaction world connection (body connection) s).1.activeTransaction = none ∧
      (warehouseTransaction world connection (body connection) s).1.activeWrite = s.activeWrite ∧
      (warehouseTransaction world connection (body connection) s).1.locks = s.locks ∧
      (warehouseTransaction world connection (body connection) s).1.connections = s.connections := by
  obtain ⟨inside,kept⟩ := contained (s.began connection) ⟨false,rfl⟩
  obtain ⟨after,raised,ran⟩ : ∃ after raised, body connection (s.began connection) = (after,raised) := ⟨_,_,rfl⟩
  rw [ran] at kept
  have marked := kept.marked false rfl
  have silent : ∀ failed, ∀ event ∈ inside ++ [.left failed], event.boundary = false := by
    intro failed event among
    rcases List.mem_append.mp among with early | own
    · exact kept.silent event early
    · rw [List.mem_singleton.mp own]
      rfl
  have body_trace : after.trace = s.trace ++ .begun connection :: inside := by
    rw [kept.traced]
    simp [Session.began]
  have inner_trace : (body connection (s.began connection)).1.trace = s.trace ++ .begun connection :: inside := by
    rw [ran]
    exact body_trace
  cases raised with
  | some failure =>
    -- The body itself raised.
    have ended : warehouseTransaction world connection (body connection) s =
        (rollBack connection s (after.note (.left true)),some failure) := by
      simp [warehouseTransaction,outside,begins,enter,ran]
    rw [ended]
    refine ⟨⟨connection,s.began connection,inside,[.rolledBack connection],rfl,rfl,inner_trace,?_,silent _,?_⟩,
      outside,kept.write,kept.locks,kept.connections⟩
    · simp [rollBack,Session.note,body_trace,ran]
    · simp [rollBack,ran]
  | none =>
    by_cases failed : .left true ∈ inside
    · -- A nested scope failed and its exception was swallowed.
      have flag : after.activeTransaction = some ⟨connection,true⟩ := by simpa [failed] using marked
      have ended : warehouseTransaction world connection (body connection) s =
          (rollBack connection s (after.note (.left false)),some .rollbackOnly) := by
        simp [warehouseTransaction,outside,begins,enter,ran,flag]
      rw [ended]
      refine ⟨⟨connection,s.began connection,inside,[.rolledBack connection],rfl,rfl,inner_trace,?_,silent _,?_⟩,
        outside,kept.write,kept.locks,kept.connections⟩
      · simp [rollBack,Session.note,body_trace,ran]
      · simp [rollBack,failed]
    · have flag : after.activeTransaction = some ⟨connection,false⟩ := by simpa [failed] using marked
      have clean : Event.left true ∉ inside ++ [.left (body connection (s.began connection)).2.isSome] := by simp [failed,ran]
      cases commits : world.commits with
      | true =>
        have ended : warehouseTransaction world connection (body connection) s =
            ({(after.note (.left false)).note (.committed connection) with activeTransaction := none},none) := by
          simp [warehouseTransaction,outside,begins,enter,ran,flag,commits]
        rw [ended]
        refine ⟨⟨connection,s.began connection,inside,[.committed connection],rfl,rfl,inner_trace,?_,silent _,?_⟩,
          rfl,kept.write,kept.locks,kept.connections⟩
        · simp [Session.note,body_trace,ran]
        · rw [if_neg clean,if_pos commits,ran]
          exact ⟨rfl,.inl rfl,rfl⟩
      | false =>
        have ended : warehouseTransaction world connection (body connection) s =
            (rollBack connection s ((after.note (.left false)).note (.committed connection)),some .database) := by
          simp [warehouseTransaction,outside,begins,enter,ran,flag,commits]
        rw [ended]
        refine ⟨⟨connection,s.began connection,inside,[.committed connection,.rolledBack connection],rfl,rfl,inner_trace,?_,
          silent _,?_⟩,outside,kept.write,kept.locks,kept.connections⟩
        · simp [rollBack,Session.note,body_trace,ran]
        · rw [if_neg clean,if_neg (by simp [commits])]
          exact ⟨rfl,by simp,rfl⟩

theorem warehouse_refused {world : World} (connection : Nat) (body : Code π σ ω) {s : Session π σ ω}
    (outside : s.activeTransaction = none) (refuses : world.begins = false) :
    warehouseTransaction world connection body s = (s.note (.begun connection),some .database) := by
  simp [warehouseTransaction,outside,refuses]

-- The coordinator adds its own cleanup: what it changes of the ending is an error where there was none.
theorem cleanup_exact {world : World} {body : Nat → Code π σ ω} {before inner : Session π σ ω}
    {ended : Session π σ ω × Option Failure} {final : Session π σ ω × Option Failure}
    (exact_ : AllOrNothing world body inner ended) (tables : inner.tables = before.tables) (rest : inner.rest = before.rest)
    (traced : inner.trace = before.trace) (final_tables : final.1.tables = ended.1.tables)
    (final_trace : final.1.trace = ended.1.trace) (raised : ended.2 ≠ none → final.2 ≠ none)
    (fine : world.closes = true → world.unlocks = true → final.2 = ended.2) : AllOrNothing world body before final := by
  obtain ⟨connection,entered,inside,closing,same,kept,body_trace,all_trace,silent,endings⟩ := exact_
  refine ⟨connection,entered,inside,closing,same.trans tables,kept.trans rest,?_,?_,silent,?_⟩
  · rw [body_trace,traced]
  · rw [final_trace,all_trace,traced]
  · split at endings
    · rename_i failed
      rw [if_pos failed]
      exact ⟨endings.1,raised endings.2.1,by rw [final_tables,endings.2.2,tables]⟩
    · rename_i clean
      rw [if_neg clean]
      split at endings
      · rename_i commits
        rw [if_pos commits]
        refine ⟨endings.1,?_,by rw [final_tables,endings.2.2]⟩
        rcases endings.2.1 with none_ | fails
        · cases closes : world.closes with
          | false => simp
          | true =>
            cases unlocks : world.unlocks with
            | false => simp
            | true => exact .inl ((fine closes unlocks).trans none_)
        · exact .inr fails
      · rename_i commits
        rw [if_neg commits]
        exact ⟨endings.1,raised endings.2.1,by rw [final_tables,endings.2.2,tables]⟩

section Coordinator

variable [DecidableEq π]

theorem coordinator_outermost (world : World) (path : π) {body : Nat → Code π σ ω} (s : Session π σ ω)
    (contained : ∀ connection, Contained connection (body connection)) (idle : Idle s)
    (admitted : (Kind.coordinator path).admitted world = true) :
    AllOrNothing world body s (coordinatorTransaction world path body s) ∧ Idle (coordinatorTransaction world path body s).1 := by
  simp only [Kind.admitted,Bool.and_eq_true] at admitted
  obtain ⟨⟨⟨⟨prepares,locks⟩,opens⟩,chmods⟩,begins⟩ := admitted
  let held : Session π σ ω :=
    {s with locks := path :: s.locks,connections := s.fresh :: s.connections,fresh := s.fresh + 1,activeWrite := some ⟨path,s.fresh⟩}
  obtain ⟨exact_,transaction,_,locked,connected⟩ :=
    outermost_exact world s.fresh body held (contained s.fresh) idle.transaction begins
  have ended : coordinatorTransaction world path body s =
      releaseLock world path (closeConnection world s.fresh {s with locks := path :: s.locks}
        (warehouseTransaction world s.fresh (body s.fresh) held)) := by
    simp [coordinatorTransaction,idle.write,prepares,locks,opened,opens,chmods,held]
  rw [ended]
  refine ⟨cleanup_exact exact_ rfl rfl rfl rfl rfl ?_ ?_,⟨transaction,idle.write,?_,?_⟩⟩
  · intro raised
    exact cleaned_raises _ _ (cleaned_raises _ _ raised)
  · intro closes unlocks
    simp only [releaseLock,closeConnection]
    rw [cleaned_silent unlocks,cleaned_silent closes]
  · have locks : (warehouseTransaction world s.fresh (body s.fresh) held).1.locks = path :: s.locks := locked
    simp [releaseLock,closeConnection,locks,idle.locks]
  · have connections : (warehouseTransaction world s.fresh (body s.fresh) held).1.connections = s.fresh :: s.connections := connected
    simp [releaseLock,closeConnection,connections,idle.connections]

theorem coordinator_refused (world : World) (path : π) (body : Nat → Code π σ ω) (s : Session π σ ω) (idle : Idle s)
    (refused : (Kind.coordinator path).admitted world = false) :
    Refused s (coordinatorTransaction world path body s) ∧ Idle (coordinatorTransaction world path body s).1 := by
  have outer : coordinatorTransaction world path body s =
      if world.prepares && world.locks then releaseLock world path (opened world path body {s with locks := path :: s.locks})
      else (s,some .warehouseOpen) := by
    simp only [coordinatorTransaction,idle.write]
  rw [outer]
  split
  · rename_i ready
    unfold opened
    split
    · rename_i opens
      split
      · rename_i chmods
        have refuses : world.begins = false := by simpa [Kind.admitted,ready,opens,chmods] using refused
        rw [warehouse_refused _ _ (by exact idle.transaction) refuses]
        refine ⟨⟨?_,rfl,.inr ⟨s.fresh,rfl⟩⟩,⟨idle.transaction,idle.write,?_,?_⟩⟩
        · exact cleaned_raises _ _ (cleaned_raises _ _ (by simp))
        · simp [releaseLock,closeConnection,Session.note,idle.locks]
        · simp [releaseLock,closeConnection,Session.note,idle.connections]
      · refine ⟨⟨cleaned_raises _ _ (by simp),rfl,.inl rfl⟩,⟨idle.transaction,idle.write,?_,idle.connections⟩⟩
        simp [releaseLock,idle.locks]
    · refine ⟨⟨cleaned_raises _ _ (by simp),rfl,.inl rfl⟩,⟨idle.transaction,idle.write,?_,idle.connections⟩⟩
      simp [releaseLock,idle.locks]
  · exact ⟨⟨by simp,rfl,.inl rfl⟩,idle⟩

theorem call_exact (call : Call π σ ω) (s : Session π σ ω) (idle : Idle s) :
    (if call.kind.admitted call.world then AllOrNothing call.world (run call.body) s (call.made s)
      else Refused s (call.made s)) ∧ Idle (call.made s).1 := by
  obtain ⟨kind,world,given,body⟩ := call
  have contained : ∀ connection, Contained connection (run body connection) := run_inside body
  cases kind with
  | coordinator path =>
    split
    · rename_i admitted
      exact coordinator_outermost world path s contained idle admitted
    · rename_i refused
      exact coordinator_refused world path _ s idle (by simpa using refused)
  | warehouse named =>
    split
    · rename_i admitted
      obtain ⟨exact_,transaction,write,locks,connections⟩ := outermost_exact world (named.getD given) (run body) s
        (contained _) idle.transaction (by simpa [Kind.admitted] using admitted)
      exact ⟨exact_,⟨transaction,write.trans idle.write,locks.trans idle.locks,connections.trans idle.connections⟩⟩
    · rename_i refused
      have refuses : world.begins = false := by simpa [Kind.admitted] using refused
      have ended : Call.made ⟨.warehouse named,world,given,body⟩ s = (s.note (.begun (named.getD given)),some .database) :=
        warehouse_refused _ _ idle.transaction refuses
      rw [ended]
      exact ⟨⟨by simp,rfl,.inr ⟨_,rfl⟩⟩,⟨idle.transaction,idle.write,idle.locks,idle.connections⟩⟩

theorem made_idle (calls : List (Call π σ ω)) (s : Session π σ ω) (idle : Idle s) : Idle (made calls s) := by
  induction calls generalizing s with
  | nil => exact idle
  | cons call calls ih => exact ih _ (call_exact call s idle).2

-- After any earlier transactions of a session, however they went, the next one at top level.
theorem nested_writes_exact (fresh : Nat) (tables : σ) (rest : ω) (earlier : List (Call π σ ω)) (call : Call π σ ω) :
    let before := made earlier (Session.started fresh tables rest)
    (if call.kind.admitted call.world then AllOrNothing call.world (run call.body) before (call.made before)
      else Refused before (call.made before)) ∧ Idle (call.made before).1 := by
  intro before
  exact call_exact call before (made_idle earlier _ ⟨rfl,rfl,rfl,rfl⟩)

-- A failure that the scope around it swallows is rolled back with everything else.
example :
    let world : World := ⟨true,true,true,true,true,true,true,true,false⟩
    let add : Body Nat Nat Unit := .execute (fun rows _ => (rows + 1,(),none)) (fun _ _ _ => .raise .value)
    let ended := Call.made ⟨.coordinator 0,world,0,.scope (.warehouse none) world add (fun _ _ _ => .finish)⟩ (Session.started 7 5 ())
    ended.1.tables = 5 ∧ ended.2 = some .rollbackOnly ∧
      ended.1.trace = [.begun 7,.left true,.left false,.rolledBack 7] := by
  refine ⟨rfl,rfl,rfl⟩

end Coordinator

end OpenStock.WriteScopes
