import Mathlib.Data.List.Rotate
import OpenStock.Providers.Router

namespace OpenStock.Providers.RoundRobin
open ProviderRouter

/- Histories of the router: picks and reported failures of any pools, with the clock at each. -/

inductive Call where
  | pick (poolKey : PoolKey) (providers : List Text) (now : ℚ)
  | markFailed (poolKey : PoolKey) (source : Text) (rateLimit : Bool) (now : ℚ)

def Call.poolKey : Call → PoolKey
  | .pick poolKey _ _ => poolKey
  | .markFailed poolKey _ _ _ => poolKey

def Call.now : Call → ℚ
  | .pick _ _ now => now
  | .markFailed _ _ _ now => now

def initial : ProviderRouter := ⟨[],[]⟩

def perform (router : ProviderRouter) : Call → Option Text × ProviderRouter
  | .pick poolKey providers now =>
    match router.pick poolKey providers now with
    | .ok (chosen,after) => (some chosen,after)
    | .error _ => (none,router)
  | .markFailed poolKey source rateLimit now => (none,router.markFailed poolKey source rateLimit now)

def run (router : ProviderRouter) (history : List Call) : ProviderRouter :=
  history.foldl (fun reached call => (perform reached call).2) router

-- What the picks of one pool return, in order.
def answers (poolKey : PoolKey) : ProviderRouter → List Call → List Text
  | _,[] => []
  | router,call :: calls =>
    (if call.poolKey = poolKey then (perform router call).1.toList else []) ++ answers poolKey (perform router call).2 calls

/- What a history says of a provider: until when its last failure holds it back. -/

def failure (poolKey : PoolKey) (source : Text) : Call → Option ℚ
  | .pick _ _ _ => none
  | .markFailed failedPool failed rateLimit now =>
    if failedPool = poolKey ∧ failed = source then some (now + (if rateLimit then rateLimitCooldownSecs else cooldownSecs)) else none

def lastFailure (poolKey : PoolKey) (source : Text) (history : List Call) : Option ℚ :=
  history.foldl (fun latest call => (failure poolKey source call).or latest) none

def Cooling (poolKey : PoolKey) (source : Text) (now : ℚ) (history : List Call) : Prop :=
  ∃ expiry, lastFailure poolKey source history = some expiry ∧ now < expiry

/- The router's tables. -/

section Tables

variable {κ β : Type} [DecidableEq κ] [BEq κ] [LawfulBEq κ]

theorem lookup_other {key other : κ} (differs : key ≠ other) (entries : List (κ × β)) :
    (entries.filter (fun entry => entry.1 ≠ other)).lookup key = entries.lookup key := by
  induction entries with
  | nil => rfl
  | cons entry entries ih =>
    by_cases dropped : entry.1 = other
    · have passed : (key == entry.1) = false := beq_false_of_ne (by rw [dropped]; exact differs)
      rw [List.filter_cons_of_neg (by simp [dropped]),ih,List.lookup_cons,passed]
    · rw [List.filter_cons_of_pos (by simp [dropped]),List.lookup_cons,List.lookup_cons,ih]

theorem lookup_stored (key sought : κ) (value : β) (entries : List (κ × β)) :
    ((key,value) :: entries.filter (fun entry => entry.1 ≠ key)).lookup sought = if sought = key then some value else entries.lookup sought := by
  by_cases same : sought = key
  · simp [same]
  · rw [List.lookup_cons,beq_false_of_ne same,if_neg same]
    exact lookup_other same entries

end Tables

section Steps

variable {router after : ProviderRouter} {poolKey other : PoolKey} {providers : List Text} {now : ℚ} {chosen : Text}

-- The providers of a pool that no cooldown holds back.
def healthy (router : ProviderRouter) (poolKey : PoolKey) (providers : List Text) (now : ℚ) : List Text :=
  providers.filter (fun provider => router.cooldown poolKey provider ≤ now)

-- All that a pick from several providers can have done.
theorem pick_cases (long : 2 ≤ providers.length) :
    (∃ chosen, (healthy router poolKey providers now)[router.counter poolKey % (healthy router poolKey providers now).length]? = some chosen ∧
      router.pick poolKey providers now = .ok (chosen,{router with
        counters:=(poolKey,(router.counter poolKey % (healthy router poolKey providers now).length + 1) % (healthy router poolKey providers now).length) ::
          router.counters.filter (fun entry => entry.1 ≠ poolKey)})) ∨
      healthy router poolKey providers now = [] ∧ ∃ chosen ∈ providers, router.pick poolKey providers now = .ok (chosen,router) ∧
        ∀ provider ∈ providers, router.cooldown poolKey chosen ≤ router.cooldown poolKey provider := by
  match providers,long with
  | first :: second :: others,_ =>
    unfold pick
    dsimp only
    rw [show ((first :: second :: others).filter (fun provider => router.cooldown poolKey provider ≤ now)) =
      healthy router poolKey (first :: second :: others) now from rfl]
    split
    · rename_i chosen found
      exact .inl ⟨chosen,found,rfl⟩
    · rename_i absent
      right
      have empty : healthy router poolKey (first :: second :: others) now = [] := by
        by_contra some
        have positive := List.length_pos_iff.mpr some
        rw [List.getElem?_eq_none_iff] at absent
        have within := Nat.mod_lt (router.counter poolKey) positive
        omega
      refine ⟨empty,?_⟩
      cases least : (first :: second :: others).argmin (router.cooldown poolKey) with
      | none => simp at least
      | some provider =>
        refine ⟨provider,List.argmin_mem least,rfl,?_⟩
        intro beside inside
        exact List.le_of_mem_argmin inside least

theorem perform_cooldowns (call : Call) (source : Text) : (perform router call).2.cooldowns.lookup (poolKey,source) =
      (failure poolKey source call).or (router.cooldowns.lookup (poolKey,source)) := by
  cases call with
  | markFailed failedPool failed rateLimit now =>
    simp only [perform,markFailed,failure]
    rw [lookup_stored]
    by_cases same : failedPool = poolKey ∧ failed = source
    · simp [same]
    · have differs : ¬ (poolKey,source) = (failedPool,failed) := by
        intro equal
        exact same ⟨(Prod.mk.inj equal).1.symm,(Prod.mk.inj equal).2.symm⟩
      simp [same,differs]
  | pick pool providers now =>
    unfold perform failure
    simp only [Option.none_or]
    split
    · rename_i chosen after picked
      have kept : after.cooldowns = router.cooldowns := by
        match providers with
        | [] => cases picked
        | [provider] =>
          cases picked
          rfl
        | first :: second :: others =>
          rcases @pick_cases router pool (first :: second :: others) now (by simp) with
            ⟨_,_,found⟩ | ⟨_,_,_,found,_⟩
          · cases picked.symm.trans found
            rfl
          · cases picked.symm.trans found
            rfl
      rw [kept]
    · rfl

end Steps

/- What the router's cooldowns say of its history. -/

variable (router : ProviderRouter) {now : ℚ} (history : List Call)

section Histories

variable {poolKey : PoolKey} {source : Text} {history : List Call}

theorem run_snoc (history : List Call) (call : Call) :
    run router (history ++ [call]) = (perform (run router history) call).2 := by
  simp [run]

theorem lastFailure_snoc (history : List Call) (call : Call) :
    lastFailure poolKey source (history ++ [call]) = (failure poolKey source call).or (lastFailure poolKey source history) := by
  simp [lastFailure]

theorem cooldowns_run (poolKey : PoolKey) (source : Text) (history : List Call) :
    (run initial history).cooldowns.lookup (poolKey,source) = lastFailure poolKey source history := by
  induction history using List.reverseRecOn with
  | nil => rfl
  | append_singleton history call ih => rw [run_snoc,lastFailure_snoc,perform_cooldowns,ih]

-- On a clock that started at the epoch, a provider without a failure is never held back.
theorem cooling_iff (clock : 0 ≤ now) : Cooling poolKey source now history ↔ ¬ (run initial history).cooldown poolKey source ≤ now := by
  unfold Cooling cooldown
  rw [cooldowns_run]
  cases lastFailure poolKey source history with
  | none => simp [clock]
  | some expiry => simp

theorem cooldown_cooling (cooling : Cooling poolKey source now history) :
    lastFailure poolKey source history = some ((run initial history).cooldown poolKey source) ∧
      now < (run initial history).cooldown poolKey source := by
  obtain ⟨expiry,found,later⟩ := cooling
  unfold cooldown
  rw [cooldowns_run,found]
  exact ⟨rfl,later⟩

end Histories

/- No pick prefers a provider that cools down; of several it takes the one that is free first. -/

def Considerate (history : List Call) (poolKey : PoolKey) (providers : List Text) (now : ℚ) : Prop :=
  ∃ chosen after, (run initial history).pick poolKey providers now = .ok (chosen,after) ∧ chosen ∈ providers ∧
    (Cooling poolKey chosen now history → ∀ provider ∈ providers, ∃ first other,
      lastFailure poolKey chosen history = some first ∧ lastFailure poolKey provider history = some other ∧ now < other ∧ first ≤ other)

theorem picks_considerately (poolKey : PoolKey) {providers : List Text} (long : 2 ≤ providers.length)
    (clock : 0 ≤ now) : Considerate history poolKey providers now := by
  rcases pick_cases long with ⟨chosen,found,picked⟩ | ⟨none,chosen,inside,picked,least⟩
  · have member := List.mem_filter.mp (List.mem_of_getElem? found)
    refine ⟨chosen,_,picked,member.1,?_⟩
    intro cooling
    exact absurd (of_decide_eq_true member.2) ((cooling_iff clock).mp cooling)
  · refine ⟨chosen,_,picked,inside,?_⟩
    intro cooling provider beside
    have held : Cooling poolKey provider now history := by
      rw [cooling_iff clock]
      intro free
      have listed : provider ∈ healthy (run initial history) poolKey providers now := List.mem_filter.mpr ⟨beside,decide_eq_true free⟩
      rw [none] at listed
      cases listed
    obtain ⟨first,_⟩ := cooldown_cooling cooling
    obtain ⟨other,later⟩ := cooldown_cooling held
    exact ⟨_,_,first,other,later,least provider beside⟩

/- One round of picks over the same healthy providers. -/

-- From here on every pick of the pool finds the same healthy providers.
def Steady (history : List Call) (poolKey : PoolKey) (providers rested : List Text) (window : List Call) : Prop :=
  ∀ before after asked now, window = before ++ .pick poolKey asked now :: after →
    asked = providers ∧ 0 ≤ now ∧ ∀ source ∈ providers, source ∈ rested ↔ ¬ Cooling poolKey source now (history ++ before)

variable {call : Call}

section Rounds

variable {poolKey : PoolKey} {providers rested : List Text} {calls : List Call}

theorem steady_head {history : List Call} (steady : Steady history poolKey providers rested (call :: calls)) :
    Steady (history ++ [call]) poolKey providers rested calls := by
  intro before after asked now split
  have whole := steady (call :: before) after asked now (by rw [split]; rfl)
  rw [List.append_cons] at whole
  exact whole

theorem steady_healthy {history : List Call}
    (steady : Steady history poolKey providers rested (.pick poolKey asked now :: calls)) :
    asked = providers ∧ healthy (run initial history) poolKey providers now = providers.filter (fun source => source ∈ rested) := by
  obtain ⟨same,clock,found⟩ := steady [] calls asked now rfl
  rw [List.append_nil] at found
  refine ⟨same,?_⟩
  apply List.filter_congr
  intro source inside
  rw [decide_eq_decide,found source inside,cooling_iff clock,not_not]

theorem counters_other (elsewhere : call.poolKey ≠ poolKey) :
    (perform router call).2.counters.lookup poolKey = router.counters.lookup poolKey := by
  cases call with
  | markFailed failedPool failed rateLimit now => rfl
  | pick pool asked now =>
    have differs : poolKey ≠ pool := fun same => elsewhere same.symm
    unfold perform
    dsimp only
    split
    · rename_i chosen after picked
      match asked with
      | [] => cases picked
      | [provider] =>
        cases picked
        rfl
      | first :: second :: others =>
        rcases @pick_cases router pool (first :: second :: others) now (by simp) with
          ⟨_,_,found⟩ | ⟨_,_,_,found,_⟩
        · cases picked.symm.trans found
          dsimp only
          rw [lookup_stored,if_neg differs]
        · cases picked.symm.trans found
          rfl
    · rfl

theorem counter_other (elsewhere : call.poolKey ≠ poolKey) : (perform router call).2.counter poolKey = router.counter poolKey :=
  congrArg (fun found => found.getD 0) (counters_other router elsewhere)

theorem counter_failed (pool : PoolKey) (failed : Text) (rateLimit : Bool) (now : ℚ) :
    (perform router (.markFailed pool failed rateLimit now)).2.counter poolKey = router.counter poolKey := rfl

-- The picks go round the healthy providers, from wherever the counter stood.
theorem answers_cycle (long : 2 ≤ providers.length) (some : providers.filter (fun source => source ∈ rested) ≠ []) (window : List Call) :
    ∀ history : List Call, Steady history poolKey providers rested window →
      ∀ place, place < (answers poolKey (run initial history) window).length →
        (answers poolKey (run initial history) window)[place]? =
          (providers.filter (fun source => source ∈ rested))[((run initial history).counter poolKey + place) %
            (providers.filter (fun source => source ∈ rested)).length]? := by
  induction window with
  | nil =>
    intro history _ place within
    simp [answers] at within
  | cons call calls ih =>
    intro history steady place within
    have later := ih (history ++ [call]) (steady_head steady)
    rw [run_snoc] at later
    by_cases here : call.poolKey = poolKey
    · cases call with
      | markFailed failedPool failed rateLimit now =>
        rw [counter_failed] at later
        simp only [answers,perform,Option.toList_none,ite_self,List.nil_append] at within ⊢
        exact later place within
      | pick pool asked now =>
        have here : pool = poolKey := here
        subst here
        obtain ⟨rfl,found⟩ := steady_healthy steady
        rcases @pick_cases (run initial history) pool _ now long with ⟨chosen,first,picked⟩ | ⟨none,_⟩
        · rw [found] at first picked
          have chose : (perform (run initial history) (.pick pool asked now)).1 = Option.some chosen := by simp only [perform,picked]
          have moved : (perform (run initial history) (.pick pool asked now)).2.counter pool =
              ((run initial history).counter pool % (asked.filter (fun source => source ∈ rested)).length + 1) %
                (asked.filter (fun source => source ∈ rested)).length := by
            simp only [perform,picked]
            unfold counter
            dsimp only
            rw [lookup_stored,if_pos rfl,Option.getD_some]
          unfold answers at within ⊢
          rw [chose,if_pos (show (Call.pick pool asked now).poolKey = pool from rfl)] at within ⊢
          cases place with
          | zero => exact first.symm
          | succ place =>
            simp only [Option.toList_some,List.singleton_append,List.getElem?_cons_succ,List.length_cons] at within ⊢
            rw [later place (by omega),moved,Nat.mod_add_mod,Nat.add_assoc,Nat.mod_add_mod,Nat.add_comm 1 place]
        · rw [found] at none
          exact absurd none some
    · have kept := counter_other (run initial history) here
      unfold answers at within ⊢
      rw [if_neg here,List.nil_append] at within ⊢
      rw [later place within,kept]

-- Any round, begun anywhere, returns each healthy provider once.
def Fair (picked healthy : List Text) : Prop :=
  ∀ start, start + healthy.length ≤ picked.length → ((picked.drop start).take healthy.length).Perm healthy

-- With distinct providers, a round names each healthy one exactly once.
theorem fair_once {picked healthy : List Text} (fair : Fair picked healthy) (distinct : healthy.Nodup)
    (room : start + healthy.length ≤ picked.length) {source : Text} (inside : source ∈ healthy) :
    ((picked.drop start).take healthy.length).count source = 1 := by
  rw [(fair start room).count_eq source]
  exact List.count_eq_one_of_mem distinct inside

theorem answers_fair (long : 2 ≤ providers.length) {history window : List Call} (steady : Steady history poolKey providers rested window) :
    Fair (answers poolKey (run initial history) window) (providers.filter (fun source => source ∈ rested)) := by
  intro start room
  by_cases none : providers.filter (fun source => source ∈ rested) = []
  · rw [none]
    simp
  · have cycle := answers_cycle long none window history steady
    have turned : ((answers poolKey (run initial history) window).drop start).take (providers.filter (fun source => source ∈ rested)).length =
        (providers.filter (fun source => source ∈ rested)).rotate ((run initial history).counter poolKey + start) := by
      apply List.ext_getElem?
      intro place
      by_cases within : place < (providers.filter (fun source => source ∈ rested)).length
      · rw [List.getElem?_take_of_lt within,List.getElem?_drop,cycle (start + place) (by omega),List.getElem?_rotate within,
          Nat.add_comm place,Nat.add_assoc]
      · rw [List.getElem?_eq_none (by rw [List.length_take]; omega),List.getElem?_eq_none (by rw [List.length_rotate]; omega)]
    rw [turned]
    exact List.rotate_perm _ _

end Rounds

/- Two routers that agree on one pool. -/

structure Agree (poolKey : PoolKey) (left right : ProviderRouter) : Prop where
  counters : left.counters.lookup poolKey = right.counters.lookup poolKey
  cooldowns : ∀ source, left.cooldowns.lookup (poolKey,source) = right.cooldowns.lookup (poolKey,source)

section Independence

variable {poolKey : PoolKey} {left right : ProviderRouter}

theorem agree_cooldown (agree : Agree poolKey left right) : left.cooldown poolKey = right.cooldown poolKey := by
  funext source
  unfold cooldown
  rw [agree.cooldowns source]

theorem perform_cooldowns_agree (agree : Agree poolKey left right) (call : Call) (source : Text) :
    (perform left call).2.cooldowns.lookup (poolKey,source) = (perform right call).2.cooldowns.lookup (poolKey,source) := by
  rw [perform_cooldowns,perform_cooldowns,agree.cooldowns source]

theorem pick_agree (agree : Agree poolKey left right) (providers : List Text) (now : ℚ) :
    (perform left (.pick poolKey providers now)).1 = (perform right (.pick poolKey providers now)).1 ∧
      Agree poolKey (perform left (.pick poolKey providers now)).2 (perform right (.pick poolKey providers now)).2 := by
  have cooldowns := perform_cooldowns_agree agree (.pick poolKey providers now)
  have counter : left.counter poolKey = right.counter poolKey := congrArg (fun found => found.getD 0) agree.counters
  match providers with
  | [] | [provider] => exact ⟨rfl,⟨agree.counters,cooldowns⟩⟩
  | first :: second :: others =>
    refine ⟨?_,⟨?_,cooldowns⟩⟩
    · unfold perform pick
      simp only [agree_cooldown agree,counter]
      cases ((first :: second :: others).filter (fun provider => decide (right.cooldown poolKey provider ≤ now)))[right.counter poolKey %
        ((first :: second :: others).filter (fun provider => decide (right.cooldown poolKey provider ≤ now))).length]? <;> rfl
    · unfold perform pick
      simp only [agree_cooldown agree,counter]
      cases ((first :: second :: others).filter (fun provider => decide (right.cooldown poolKey provider ≤ now)))[right.counter poolKey %
        ((first :: second :: others).filter (fun provider => decide (right.cooldown poolKey provider ≤ now))).length]? with
      | none => exact agree.counters
      | some chosen =>
        dsimp only
        rw [lookup_stored,lookup_stored,if_pos rfl,if_pos rfl]

theorem perform_agree (agree : Agree poolKey left right) (call : Call) :
    (call.poolKey = poolKey → (perform left call).1 = (perform right call).1) ∧ Agree poolKey (perform left call).2 (perform right call).2 := by
  cases call with
  | markFailed pool failed rateLimit now => exact ⟨fun _ => rfl,⟨agree.counters,perform_cooldowns_agree agree _⟩⟩
  | pick pool providers now =>
    by_cases here : pool = poolKey
    · subst here
      have both := pick_agree agree providers now
      exact ⟨fun _ => both.1,both.2⟩
    · refine ⟨fun same => absurd same here,?_,perform_cooldowns_agree agree _⟩
      have elsewhere : (Call.pick pool providers now).poolKey ≠ poolKey := here
      rw [counters_other left elsewhere,counters_other right elsewhere]
      exact agree.counters

theorem agree_other (elsewhere : call.poolKey ≠ poolKey) : Agree poolKey (perform router call).2 router where
  counters := counters_other router elsewhere
  cooldowns source := by
    rw [perform_cooldowns]
    cases call with
    | pick => rfl
    | markFailed pool failed rateLimit now =>
      have apart : ¬ (pool = poolKey ∧ failed = source) := fun both => elsewhere both.1
      simp only [failure,if_neg apart,Option.none_or]

theorem answers_agree (agree : Agree poolKey left right) : answers poolKey left history = answers poolKey right history := by
  induction history generalizing left right with
  | nil => rfl
  | cons call calls ih =>
    have step := perform_agree agree call
    unfold answers
    rw [ih step.2]
    by_cases here : call.poolKey = poolKey
    · rw [if_pos here,if_pos here,step.1 here]
    · rw [if_neg here,if_neg here]

-- What is done to other pools leaves no trace in the answers of this one.
theorem answers_alone (poolKey : PoolKey) (router : ProviderRouter) (history : List Call) :
    answers poolKey router history = answers poolKey router (history.filter (fun call => call.poolKey = poolKey)) := by
  induction history generalizing router with
  | nil => rfl
  | cons call calls ih =>
    by_cases here : call.poolKey = poolKey
    · rw [List.filter_cons_of_pos (by simpa using here)]
      unfold answers
      rw [ih]
    · rw [List.filter_cons_of_neg (by simpa using here),← ih]
      simp only [answers,if_neg here,List.nil_append]
      exact answers_agree calls (agree_other router here)

end Independence

-- Every history: no provider that cools down is preferred, healthy ones take turns, and pools are apart.
theorem round_robin (history : List Call) (poolKey : PoolKey) (providers : List Text) (long : 2 ≤ providers.length) :
    (∀ now, 0 ≤ now → Considerate history poolKey providers now) ∧
      (∀ window rested, Steady history poolKey providers rested window →
        Fair (answers poolKey (run initial history) window) (providers.filter (fun source => source ∈ rested)) ∧
          (providers.Nodup → ∀ start source, source ∈ providers.filter (fun source => source ∈ rested) →
            start + (providers.filter (fun source => source ∈ rested)).length ≤ (answers poolKey (run initial history) window).length →
              (((answers poolKey (run initial history) window).drop start).take
                (providers.filter (fun source => source ∈ rested)).length).count source = 1)) ∧
      answers poolKey initial history = answers poolKey initial (history.filter (fun call => call.poolKey = poolKey)) := by
  refine ⟨fun now clock => picks_considerately history poolKey long clock,?_,answers_alone poolKey initial history⟩
  intro window rested steady
  have fair := answers_fair long steady
  exact ⟨fair,fun distinct start source inside room => fair_once fair (distinct.filter _) room inside⟩

theorem round_robin_sample : Considerate [.markFailed [['p']] ['a'] false 0] [['p']] [['a'],['b']] 1 :=
  (round_robin [.markFailed [['p']] ['a'] false 0] [['p']] [['a'],['b']] (by simp)).1 1 (by norm_num)

end OpenStock.Providers.RoundRobin
