import Mathlib.Tactic

namespace OpenStock.Interruption

variable {σ ε α β ι : Type}

-- What becomes of the changes a program asks for, by their number: made, or ended by an error.
def World (ε : Type) := Nat → Option ε

def calm : World ε := fun _ => none

-- A program that counts the changes it asks for. Those made before an error stay.
def Action (σ ε α : Type) := Nat → σ → Except ε α × Nat × σ

instance : Monad (Action σ ε) where
  pure value := fun asked state => (.ok value,asked,state)
  bind first next := fun asked state =>
    match first asked state with
    | (.ok value,later,after) => next value later after
    | (.error raised,later,after) => (.error raised,later,after)

def fail (raised : ε) : Action σ ε α := fun asked state => (.error raised,asked,state)

def look : Action σ ε σ := fun asked state => (.ok state,asked,state)

def settle (result : Except ε α) : Action σ ε α := fun asked state => (result,asked,state)

def change (world : World ε) (edit : σ → σ) : Action σ ε Unit := fun asked state =>
  match world asked with
  | none => (.ok (),asked + 1,edit state)
  | some raised => (.error raised,asked + 1,state)

-- A change that may be refused: says whether it was, and passes on what `refuses` does not name.
def attempt (world : World ε) (refuses : ε → Bool) (edit : σ → σ) : Action σ ε Bool := fun asked state =>
  match world asked with
  | none => (.ok false,asked + 1,edit state)
  | some raised => if refuses raised then (.ok true,asked + 1,state) else (.error raised,asked + 1,state)

def handle (action : Action σ ε α) (handler : ε → Action σ ε α) : Action σ ε α := fun asked state =>
  match action asked state with
  | (.ok value,later,after) => (.ok value,later,after)
  | (.error raised,later,after) => handler raised later after

def each (items : List ι) (action : ι → Action σ ε Unit) : Action σ ε Unit :=
  match items with
  | [] => pure ()
  | item :: rest => do
    action item
    each rest action

-- Changes that are all asked for, with one error at the end if any was refused.
def refusals (world : World ε) (refuses : ε → Bool) (edit : ι → σ → σ) : List ι → Action σ ε Bool
  | [] => pure false
  | item :: rest => do
    let here ← attempt world refuses (edit item)
    let later ← refusals world refuses edit rest
    pure (here || later)

def tryAll (world : World ε) (refuses : ε → Bool) (edit : ι → σ → σ) (raised : ε) (items : List ι) : Action σ ε Unit := do
  let refused ← refusals world refuses edit items
  if refused then fail raised else pure ()

theorem pure_run (value : α) (asked : Nat) (state : σ) : (pure value : Action σ ε α) asked state = (.ok value,asked,state) := rfl

theorem bind_run (first : Action σ ε α) (next : α → Action σ ε β) (asked : Nat) (state : σ) : (first >>= next) asked state =
      match first asked state with
      | (.ok value,later,after) => next value later after
      | (.error raised,later,after) => (.error raised,later,after) := rfl

variable {asked later : Nat} {first : Action σ ε α} {next : α → Action σ ε β}

theorem bind_ended {state after : σ} {value : β} (ended : (first >>= next) asked state = (.ok value,later,after)) :
    ∃ middle between inner, first asked state = (.ok middle,between,inner) ∧ next middle between inner = (.ok value,later,after) := by
  rw [bind_run] at ended
  generalize ran : first asked state = outcome at ended
  obtain ⟨result,between,inner⟩ := outcome
  cases result with
  | error raised => simp at ended
  | ok middle => exact ⟨middle,between,inner,rfl,ended⟩

theorem bind_of {asked between : Nat} {state inner : σ} {middle : α}
    (ran : first asked state = (.ok middle,between,inner)) : (first >>= next) asked state = next middle between inner := by
  rw [bind_run,ran]

theorem look_bind (next : σ → Action σ ε α) (asked : Nat) (state : σ) : (look >>= next) asked state = next state asked state := rfl

theorem settle_ok {result : Except ε α} {value : α} (settled : result = .ok value) (next : α → Action σ ε β) (asked : Nat) (state : σ) :
    (settle result >>= next) asked state = next value asked state := by
  rw [settled]
  rfl

variable {raised : ε}

theorem bind_failed {state inner : σ} (ran : first asked state = (.error raised,later,inner)) (next : α → Action σ ε β) :
    (first >>= next) asked state = (.error raised,later,inner) := by
  rw [bind_run,ran]

/- What holds after an action that ended, and after one that was broken off. -/

def Ends (after : α → σ → Prop) (broken : σ → Prop) : Except ε α × Nat × σ → Prop
  | (.ok value,_,state) => after value state
  | (.error _,_,state) => broken state

def Leads (before : σ → Prop) (action : Action σ ε α) (after : α → σ → Prop) (broken : σ → Prop) : Prop :=
  ∀ asked state, before state → Ends after broken (action asked state)

variable {items : List ι} {refuses : ε → Bool} {edit : ι → σ → σ}

section Rules

variable {before invariant : σ → Prop} {after : α → σ → Prop} {broken : σ → Prop} {world : World ε} {action : Action σ ε α}

theorem leads_ok (leads : Leads before action after broken) {state final : σ} {value : α}
    (start : before state) (ran : action asked state = (.ok value,later,final)) : after value final := by
  have ends := leads asked state start
  rw [ran] at ends
  exact ends

theorem leads_pure {value : α} (holds : ∀ state, before state → after value state) :
    Leads before (pure value : Action σ ε α) after broken :=
  fun _ state start => holds state start

theorem leads_fail (holds : ∀ state, before state → broken state) : Leads before (fail raised : Action σ ε α) after broken :=
  fun _ state start => holds state start

theorem leads_look : Leads before (look : Action σ ε σ) (fun seen state => before state ∧ seen = state) broken :=
  fun _ _ start => ⟨start,rfl⟩

theorem leads_unseen : Leads before (look : Action σ ε σ) (fun _ => before) broken := fun _ _ start => start

theorem leads_settle {result : Except ε α} (holds : ∀ state value, before state → result = .ok value → after value state)
    (fails : ∀ state, before state → broken state) : Leads before (settle result : Action σ ε α) after broken := by
  intro asked state start
  cases result with
  | ok value => exact holds state value start rfl
  | error raised => exact fails state start

theorem leads_change {edit : σ → σ} {done : Unit → σ → Prop} (made : ∀ state, before state → done () (edit state))
    (unmade : ∀ state, before state → broken state) : Leads before (change world edit) done broken := by
  intro asked state start
  unfold change
  split
  · exact made state start
  · exact unmade state start

theorem leads_attempt {edit : σ → σ} {done : Bool → σ → Prop} (made : ∀ state, before state → done false (edit state))
    (refused : ∀ state, before state → done true state) (unmade : ∀ state, before state → broken state) :
    Leads before (attempt world refuses edit) done broken := by
  intro asked state start
  unfold attempt
  split
  · exact made state start
  · split
    · exact refused state start
    · exact unmade state start

theorem leads_bind {first : Action σ ε β} {next : β → Action σ ε α} (middle : β → σ → Prop)
    (one : Leads before first middle broken) (two : ∀ value, Leads (middle value) (next value) after broken) :
    Leads before (first >>= next) after broken := by
  intro asked state start
  have ends := one asked state start
  rw [bind_run]
  generalize first asked state = outcome at ends ⊢
  obtain ⟨result,later,inner⟩ := outcome
  cases result with
  | error raised => exact ends
  | ok value => exact two value later inner ends

theorem leads_handle {handler : ε → Action σ ε α} (caught : σ → Prop) (leads : Leads before action after caught)
    (handled : ∀ raised, Leads caught (handler raised) after broken) : Leads before (handle action handler) after broken := by
  intro asked state start
  have ends := leads asked state start
  unfold handle
  generalize action asked state = outcome at ends ⊢
  obtain ⟨result,later,inner⟩ := outcome
  cases result with
  | error raised => exact handled raised later inner ends
  | ok value => exact ends

theorem leads_mono {weaker : σ → Prop} {stronger : α → σ → Prop} {worse : σ → Prop}
    (leads : Leads weaker action stronger worse) (pre : ∀ state, before state → weaker state)
    (post : ∀ value state, stronger value state → after value state) (broke : ∀ state, worse state → broken state) :
    Leads before action after broken := by
  intro asked state start
  have ends := leads asked state (pre state start)
  generalize action asked state = outcome at ends ⊢
  obtain ⟨result,later,inner⟩ := outcome
  cases result with
  | error raised => exact broke inner ends
  | ok value => exact post value inner ends

theorem leads_each {action : ι → Action σ ε Unit}
    (step : ∀ item ∈ items, Leads invariant (action item) (fun _ => invariant) broken) :
    Leads invariant (each items action) (fun _ => invariant) broken := by
  induction items with
  | nil => exact leads_pure (fun _ start => start)
  | cons item rest ih =>
    exact leads_bind _ (step item (List.mem_cons_self ..)) (fun _ => ih (fun other inside => step other (List.mem_cons_of_mem item inside)))

-- What each item's action establishes and the others' leave alone holds of all items.
theorem leads_each_all {action : ι → Action σ ε Unit} {holds : ι → σ → Prop}
    (step : ∀ item ∈ items, Leads invariant (action item) (fun _ state => invariant state ∧ holds item state) broken)
    (kept : ∀ item ∈ items, ∀ other, Leads (fun state => invariant state ∧ holds other state) (action item)
      (fun _ state => invariant state ∧ holds other state) broken) :
    Leads invariant (each items action) (fun _ state => invariant state ∧ ∀ item ∈ items, holds item state) broken := by
  induction items with
  | nil => exact leads_pure (fun _ start => ⟨start,fun _ inside => absurd inside List.not_mem_nil⟩)
  | cons item rest ih =>
    have later := ih (fun other inside => step other (List.mem_cons_of_mem item inside))
      (fun other inside => kept other (List.mem_cons_of_mem item inside))
    have stays : Leads (fun state => invariant state ∧ holds item state) (each rest action)
        (fun _ state => invariant state ∧ holds item state) broken :=
      leads_each (fun other inside => kept other (List.mem_cons_of_mem item inside) item)
    refine leads_bind _ (step item (List.mem_cons_self ..)) (fun _ => ?_)
    intro asked state start
    have first := stays asked state start
    have others := later asked state start.1
    generalize each rest action asked state = outcome at first others ⊢
    obtain ⟨result,between,inner⟩ := outcome
    cases result with
    | error raised => exact others
    | ok done =>
      refine ⟨others.1,fun other inside => ?_⟩
      rcases List.mem_cons.mp inside with rfl | inside
      · exact first.2
      · exact others.2 other inside

theorem leads_tryAll
    (made : ∀ item ∈ items, ∀ state, invariant state → invariant (edit item state)) (unmade : ∀ state, invariant state → broken state) :
    Leads invariant (tryAll world refuses edit raised items) (fun _ => invariant) broken := by
  have tried : Leads invariant (refusals world refuses edit items) (fun _ => invariant) broken := by
    induction items with
    | nil => exact leads_pure (fun _ start => start)
    | cons item rest ih =>
      have here : Leads invariant (attempt world refuses (edit item)) (fun _ => invariant) broken :=
        leads_attempt (made item (List.mem_cons_self ..)) (fun _ start => start) unmade
      refine leads_bind _ here (fun _ => ?_)
      exact leads_bind _ (ih (fun other inside => made other (List.mem_cons_of_mem item inside))) (fun _ => leads_pure (fun _ start => start))
  refine leads_bind _ tried (fun refused => ?_)
  cases refused with
  | true => exact leads_fail unmade
  | false => exact leads_pure (fun _ start => start)

end Rules

/- An action that ended in some world ends so in the calm one. -/

def Steady (action : World ε → Action σ ε α) : Prop :=
  ∀ (world : World ε) asked state value later final, action world asked state = (.ok value,later,final) →
    action calm asked state = (.ok value,later,final)

theorem steady_const (action : Action σ ε α) : Steady (fun _ : World ε => action) := fun _ _ _ _ _ _ ran => ran

theorem steady_change (edit : σ → σ) : Steady (fun world : World ε => change world edit) := by
  intro world asked state value later final ran
  dsimp only [change] at ran ⊢
  split at ran
  · exact ran
  · cases ran

theorem steady_bind {first : World ε → Action σ ε α} {next : World ε → α → Action σ ε β} (one : Steady first)
    (two : ∀ value, Steady (fun world => next world value)) : Steady (fun world => first world >>= next world) := by
  intro world asked state value later final ran
  obtain ⟨middle,between,inner,head,tail⟩ := bind_ended ran
  exact (bind_of (one _ _ _ _ _ _ head)).trans (two middle _ _ _ _ _ _ tail)

theorem steady_each {action : World ε → ι → Action σ ε Unit} (step : ∀ item, Steady (fun world => action world item)) :
    Steady (fun world => each items (action world)) := by
  induction items with
  | nil => exact steady_const _
  | cons item rest ih => exact steady_bind (step item) (fun _ => ih)

theorem refusals_calm (refuses : ε → Bool) (edit : ι → σ → σ) (items : List ι) (asked : Nat) (state : σ) :
    refusals calm refuses edit items asked state =
      (.ok false,asked + items.length,items.foldl (fun reached item => edit item reached) state) := by
  induction items generalizing asked state with
  | nil => rfl
  | cons item rest ih =>
    have next := ih (asked + 1) (edit item state)
    unfold refusals
    rw [bind_of (show attempt calm refuses (edit item) asked state = (.ok false,asked + 1,edit item state) from rfl),bind_of next,
      pure_run,List.length_cons,List.foldl_cons]
    have counted : asked + 1 + rest.length = asked + (rest.length + 1) := by omega
    simp [counted]

theorem tryAll_calm (refuses : ε → Bool) (edit : ι → σ → σ) (raised : ε) (items : List ι) (asked : Nat) (state : σ) :
    tryAll calm refuses edit raised items asked state =
      (.ok (),asked + items.length,items.foldl (fun reached item => edit item reached) state) := by
  unfold tryAll
  rw [bind_of (refusals_calm refuses edit items asked state)]
  rfl

-- Where nothing was refused, everything was done.
theorem refusals_none {world : World ε} {state final : σ}
    (ran : refusals world refuses edit items asked state = (.ok false,later,final)) :
    refusals calm refuses edit items asked state = (.ok false,later,final) := by
  induction items generalizing asked state with
  | nil => exact ran
  | cons item rest ih =>
    unfold refusals at ran
    obtain ⟨here,between,inner,head,tail⟩ := bind_ended ran
    obtain ⟨others,last,reached,rested,ended⟩ := bind_ended tail
    rw [pure_run] at ended
    cases here with
    | true => simp at ended
    | false =>
      have done : attempt calm refuses (edit item) asked state = (.ok false,between,inner) := by
        dsimp only [attempt] at head ⊢
        split at head
        · exact head
        · split at head
          · simp at head
          · simp at head
      simp only [Prod.mk.injEq,Except.ok.injEq,Bool.false_or] at ended
      obtain ⟨rfl,rfl,rfl⟩ := ended
      unfold refusals
      rw [bind_of done,bind_of (ih rested)]
      rfl

theorem steady_tryAll (refuses : ε → Bool) (edit : ι → σ → σ) (raised : ε) (items : List ι) :
    Steady (fun world : World ε => tryAll world refuses edit raised items) := by
  intro world asked state value later final ran
  dsimp only [tryAll] at ran ⊢
  obtain ⟨refused,between,inner,head,tail⟩ := bind_ended ran
  cases refused with
  | true => simp [fail] at tail
  | false => exact (bind_of (refusals_none head)).trans tail

/- Two runs side by side. -/

def Parallel (alike : σ → σ → Prop) (left right : Action σ ε α) : Prop :=
  ∀ asked other state twin, alike state twin →
    (left asked state).1 = (right other twin).1 ∧ alike (left asked state).2.2 (right other twin).2.2

section Sides

variable {alike : σ → σ → Prop}

theorem parallel_settle (result : Except ε α) : Parallel alike (settle result : Action σ ε α) (settle result) :=
  fun _ _ _ _ same => ⟨rfl,same⟩

theorem parallel_pure (value : α) : Parallel alike (pure value : Action σ ε α) (pure value) :=
  fun _ _ _ _ same => ⟨rfl,same⟩

theorem parallel_fail (raised : ε) : Parallel alike (fail raised : Action σ ε α) (fail raised) :=
  fun _ _ _ _ same => ⟨rfl,same⟩

theorem parallel_change {edit twinEdit : σ → σ} (kept : ∀ state twin, alike state twin → alike (edit state) (twinEdit twin)) :
    Parallel alike (change (calm : World ε) edit) (change calm twinEdit) :=
  fun _ _ state twin same => ⟨rfl,kept state twin same⟩

theorem parallel_bind {left right : Action σ ε α} {next follow : α → Action σ ε β} (one : Parallel alike left right)
    (two : ∀ value, Parallel alike (next value) (follow value)) : Parallel alike (left >>= next) (right >>= follow) := by
  intro asked other state twin same
  have both := one asked other state twin same
  rw [bind_run,bind_run]
  generalize left asked state = first at both ⊢
  generalize right other twin = second at both ⊢
  obtain ⟨result,later,inner⟩ := first
  obtain ⟨sameResult,lateOther,twinInner⟩ := second
  obtain ⟨results,states⟩ := both
  dsimp only at results
  subst results
  cases result with
  | error raised => exact ⟨rfl,states⟩
  | ok value => exact two value later lateOther inner twinInner states

theorem parallel_look {next follow : σ → Action σ ε α} (both : ∀ state twin, alike state twin → Parallel alike (next state) (follow twin)) :
    Parallel alike (look >>= next) (look >>= follow) :=
  fun asked other state twin same => both state twin same asked other state twin same

theorem parallel_tryAll {edit twinEdit : ι → σ → σ}
    (kept : ∀ item ∈ items, ∀ state twin, alike state twin → alike (edit item state) (twinEdit item twin)) :
    Parallel alike (tryAll (calm : World ε) refuses edit raised items) (tryAll calm refuses twinEdit raised items) := by
  intro asked other state twin same
  rw [tryAll_calm,tryAll_calm]
  refine ⟨rfl,?_⟩
  dsimp only
  induction items generalizing state twin with
  | nil => exact same
  | cons item rest ih =>
    exact ih (fun next inside => kept next (List.mem_cons_of_mem item inside)) (edit item state) (twinEdit item twin)
      (kept item (List.mem_cons_self ..) state twin same)

theorem parallel_each {action follow : ι → Action σ ε Unit}
    (step : ∀ item ∈ items, Parallel alike (action item) (follow item)) : Parallel alike (each items action) (each items follow) := by
  induction items with
  | nil => exact parallel_pure ()
  | cons item rest ih =>
    exact parallel_bind (step item (List.mem_cons_self ..)) (fun _ => ih (fun next inside => step next (List.mem_cons_of_mem item inside)))

end Sides

end OpenStock.Interruption
