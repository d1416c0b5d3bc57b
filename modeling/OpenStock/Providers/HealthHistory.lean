import OpenStock.Providers.Runtime

namespace OpenStock.Providers
open Text

/- Runs of recorders and fetches over one runtime. -/

inductive HealthEvent where
  | recorded (record : Record)
  | fetched (request : DatasetRequest) (answer : ProviderPlugin → Answer) (routedAt now : ℚ)

-- The store, and what was recorded in it, the latest first.
structure Tracked where
  store : HealthStore
  records : List Record

namespace Tracked
variable {configuration : PluginRouter} {tracked : Tracked} {key : Text × Text} {provider dataset : Text}

def router (configuration : PluginRouter) (tracked : Tracked) : PluginRouter := {configuration with healthStore:=tracked.store}

def made (configuration : PluginRouter) (tracked : Tracked) : HealthEvent → Option Record
  | .recorded record => some record
  | .fetched request answer routedAt now => fetch (tracked.router configuration) request answer routedAt now

def step (configuration : PluginRouter) (tracked : Tracked) (event : HealthEvent) : Tracked :=
  match tracked.made configuration event with
  | none => tracked
  | some record => ⟨tracked.store.apply record,record :: tracked.records⟩

def run (configuration : PluginRouter) (tracked : Tracked) (events : List HealthEvent) : Tracked :=
  events.foldl (step configuration) tracked

def start (failureThreshold : Int) (cooldownSeconds : ℚ) : Tracked := ⟨⟨failureThreshold,cooldownSeconds,[]⟩,[]⟩

/- What the history says of a pair. -/

-- The failures since the last success, on top of what the last `set` put.
def failuresSince (key : Text × Text) : List Record → Int
  | [] => 0
  | record :: earlier =>
    if record.key ≠ key then failuresSince key earlier
    else match record with
      | .set health => health.failureCount
      | .success _ _ _ _ _ => 0
      | .failure _ _ _ _ _ _ => failuresSince key earlier + 1

-- Since the last success some failure reached its threshold, or `set` said so.
def MadeFailing (threshold : Int) (key : Text × Text) : List Record → Prop
  | [] => False
  | record :: earlier =>
    if record.key ≠ key then MadeFailing threshold key earlier
    else match record with
      | .set health => health.status = .failing
      | .success _ _ _ _ _ => False
      | .failure _ _ _ failureThreshold _ _ =>
        failureThreshold.getD threshold ≤ failuresSince key earlier + 1 ∨ MadeFailing threshold key earlier

variable {record : Record}

theorem failuresSince_other (apart : record.key ≠ key) (earlier : List Record) :
    failuresSince key (record :: earlier) = failuresSince key earlier := by
  cases record <;> rw [failuresSince,if_pos apart]

theorem madeFailing_other (threshold : Int) (apart : record.key ≠ key) (earlier : List Record) :
    MadeFailing threshold key (record :: earlier) ↔ MadeFailing threshold key earlier := by
  cases record <;> rw [MadeFailing,if_pos apart]

structure Told (failureThreshold : Int) (tracked : Tracked) : Prop where
  threshold : tracked.store.failureThreshold = failureThreshold
  count : ∀ provider dataset,
    (tracked.store.get provider dataset).failureCount = failuresSince (upper provider,dataset) tracked.records
  failing : ∀ provider dataset, (tracked.store.get provider dataset).status = .failing ↔
    MadeFailing failureThreshold (upper provider,dataset) tracked.records

theorem start_told (failureThreshold : Int) (cooldownSeconds : ℚ) : Told failureThreshold (start failureThreshold cooldownSeconds) := by
  refine ⟨rfl,fun _ _ => rfl,?_⟩
  intro provider dataset
  constructor
  · intro failing
    cases failing
  · intro impossible
    cases impossible

variable {failureThreshold : Int}

-- One record and its history.
theorem told_record (told : Told failureThreshold tracked) (record : Record) :
    Told failureThreshold ⟨tracked.store.apply record,record :: tracked.records⟩ := by
  have threshold : (tracked.store.apply record).failureThreshold = failureThreshold := by
    rw [← told.threshold]
    cases record <;> rfl
  refine ⟨threshold,?_,?_⟩
  · intro provider dataset
    dsimp only
    by_cases apart : record.key ≠ (upper provider,dataset)
    · rw [HealthStore.apply_other _ apart,failuresSince_other apart]
      exact told.count provider dataset
    · have same := not_ne_iff.mp apart
      rw [HealthStore.apply_own _ same]
      cases record with
      | set health => rw [failuresSince,if_neg apart]
      | success name target latencyMs freshnessScore now =>
        rw [failuresSince,if_neg apart]
        rfl
      | failure name target notes failureThreshold cooldownSeconds now =>
        rw [failuresSince,if_neg apart,← told.count provider dataset]
        exact (ProviderHealth.failed_cases _ _ _ _ _ _ _).2.1
  · intro provider dataset
    dsimp only
    by_cases apart : record.key ≠ (upper provider,dataset)
    · rw [HealthStore.apply_other _ apart,madeFailing_other _ apart]
      exact told.failing provider dataset
    · have same := not_ne_iff.mp apart
      rw [HealthStore.apply_own _ same]
      cases record with
      | set health => rw [MadeFailing,if_neg apart]
      | success name target latencyMs freshnessScore now =>
        rw [MadeFailing,if_neg apart]
        exact ⟨nofun,nofun⟩
      | failure name target notes limit cooldownSeconds now =>
        rw [MadeFailing,if_neg apart,told.threshold,← told.count provider dataset]
        have before := told.failing provider dataset
        rcases (ProviderHealth.failed_cases (tracked.store.get provider dataset) name target notes (limit.getD failureThreshold)
          (cooldownSeconds.getD tracked.store.cooldownSeconds) now).2.2 with ⟨failing,_,reached⟩ | ⟨kept,_,below⟩
        · exact ⟨fun _ => .inl reached,fun _ => failing⟩
        · rcases kept with same | ⟨degraded,earlier⟩
          · rw [same,before]
            exact ⟨.inr,fun either => either.resolve_left (by omega)⟩
          · rw [degraded]
            refine ⟨nofun,?_⟩
            intro either
            have failing := before.mpr (either.resolve_left (by omega))
            rcases earlier with healthy | unknown
            · rw [healthy] at failing
              cases failing
            · rw [unknown] at failing
              cases failing

theorem told_step (told : Told failureThreshold tracked) (event : HealthEvent) :
    Told failureThreshold (tracked.step configuration event) := by
  unfold step
  cases tracked.made configuration event with
  | none => exact told
  | some record => exact told_record told record

theorem told_run (told : Told failureThreshold tracked) (events : List HealthEvent) :
    Told failureThreshold (tracked.run configuration events) := by
  induction events generalizing tracked with
  | nil => exact told
  | cons event events ih => exact ih (told_step told event)

/- A disabled pair. -/

-- The event does not record an outcome of the pair by hand.
def Spares (key : Text × Text) : HealthEvent → Prop
  | .recorded record => record.key ≠ key
  | .fetched _ _ _ _ => True

theorem disabled_step {event : HealthEvent} (disabled : (tracked.store.get provider dataset).status = .disabled)
    (spares : Spares (upper provider,dataset) event) :
    (tracked.step configuration event).store.get provider dataset = tracked.store.get provider dataset := by
  unfold step
  cases made : tracked.made configuration event with
  | none => rfl
  | some record =>
    apply HealthStore.apply_other
    cases event with
    | recorded own =>
      cases made
      exact spares
    | fetched request answer routedAt now => exact fetch_enabled made disabled

theorem disabled_run (disabled : (tracked.store.get provider dataset).status = .disabled)
    (spares : ∀ event ∈ events, Spares (upper provider,dataset) event) :
    (tracked.run configuration events).store.get provider dataset = tracked.store.get provider dataset := by
  induction events generalizing tracked with
  | nil => rfl
  | cons event events ih =>
    have first := @disabled_step configuration tracked provider dataset event disabled (spares event (.head _))
    have rest := @ih (tracked.step configuration event) (by rw [first]; exact disabled)
      (fun event inside => spares event (.tail _ inside))
    exact rest.trans first

/- The only provider of a dataset. -/

variable {router : PluginRouter} {plugin : ProviderPlugin} {now : ℚ}

open PluginRouter in
-- It is selected exactly where it is admissible.
theorem only_selected (alone : router.registry.providersFor dataset = [plugin]) (prefers : router.policy.preferHealthy = true) :
    (router.resolveAuto dataset defaultAuthPolicy now).2 = .ok plugin ↔ Admissible router dataset defaultAuthPolicy now plugin := by
  have candidates : router.registry.providersFor dataset ≠ [] := by simp [alone]
  have best := @selected_best router dataset defaultAuthPolicy now (.inl prefers)
  rw [(resolveAuto_selects candidates).2]
  cases selected : (select router.policy dataset (router.tiers dataset defaultAuthPolicy now)).selected with
  | none =>
    rw [selected] at best
    exact ⟨nofun,fun admissible => absurd admissible (best plugin)⟩
  | some winner =>
    rw [selected] at best
    have same : winner = plugin := by
      have member := best.1.candidate
      rw [alone] at member
      exact List.mem_singleton.mp member
    rw [same] at best ⊢
    exact ⟨fun _ => best.1,fun _ => rfl⟩

open PluginRouter in
theorem only_admissible (alone : router.registry.providersFor dataset = [plugin]) (shared : plugin.isExplicitOnly dataset = false)
    (live : router.status dataset plugin ≠ .disabled)
    (rested : (router.healthStore.get plugin.name dataset).isInCooldown now = false) :
    Admissible router dataset defaultAuthPolicy now plugin ↔ allowsTier router.policy (router.status dataset plugin) = true := by
  constructor
  · exact Admissible.allowed
  · intro allowed
    refine ⟨by simp [alone],?_,allowed⟩
    intro filtered
    rcases filtered with explicit | disabled | ⟨_,cooling⟩ | turned
    · rw [shared] at explicit
      cases explicit
    · exact live disabled
    · rw [rested] at cooling
      cases cooling
    · cases turned

open PluginRouter in
-- The default policy leaves out the failing and the disabled.
theorem default_selects (policy : router.policy = .default) (alone : router.registry.providersFor dataset = [plugin])
    (shared : plugin.isExplicitOnly dataset = false) (live : router.status dataset plugin ≠ .disabled)
    (rested : (router.healthStore.get plugin.name dataset).isInCooldown now = false) :
    (router.resolveAuto dataset defaultAuthPolicy now).2 = .ok plugin ↔ router.status dataset plugin ≠ .failing := by
  rw [only_selected alone (by rw [policy]; rfl),only_admissible alone shared live rested,policy]
  cases status : router.status dataset plugin with
  | disabled => exact absurd status live
  | _ => decide

open PluginRouter in
-- An explicit fetch after the cooldown is let through; when it succeeds, the pair is
-- healthy.
theorem explicit_recovers (known : plugin ∈ router.registry.plugins) (supported : plugin.supports request.dataset = true)
    (named : request.source = some plugin.name) (explicit : lower plugin.name ≠ "auto".toList)
    (live : router.status request.dataset plugin ≠ .disabled)
    (rested : (router.healthStore.get plugin.name request.dataset).isInCooldown routedAt = false)
    (answers : answer plugin = .frame .kept latencyMs) : fetch router request answer routedAt now =
      some (.success plugin.name request.dataset (some latencyMs) none now) := by
  have found : router.registry.find plugin.name = some plugin := by
    unfold PluginRegistry.find
    cases found : router.registry.plugins.find? (fun other => upper other.name = upper plugin.name) with
    | none => simpa using List.find?_eq_none.mp found plugin known
    | some other =>
      have same : upper other.name = upper plugin.name := by simpa using List.find?_some found
      rw [List.inj_on_of_nodup_map router.registry.distinct (List.mem_of_find?_eq_some found) known same]
  have resolved : router.resolve request.dataset request.source routedAt = .ok plugin := by
    unfold status at live
    unfold PluginRouter.resolve PluginRouter.resolveExplicit
    rw [named]
    dsimp only
    rw [if_neg explicit,found]
    dsimp only
    rw [supported,if_neg (by simp),if_neg live,rested,Bool.and_false,if_neg (by simp)]
    rfl
  unfold fetch
  rw [resolved]
  dsimp only
  rw [answers]
  unfold recorded
  dsimp only
  split
  · rfl
  · rfl

open PluginRouter in
-- The counter and FAILING are what the history says; no fetch brings a disabled pair
-- back; with the default policy the only provider of a dataset, once its cooldown is
-- over, is selected unless it is failing, and one explicit fetch that succeeds ends that.
theorem health_follows_history (configuration : PluginRouter) (failureThreshold : Int) (cooldownSeconds : ℚ)
    (events : List HealthEvent) {state : Tracked} (ran : (start failureThreshold cooldownSeconds).run configuration events = state) :
    (∀ provider dataset, (state.store.get provider dataset).failureCount = failuresSince (upper provider,dataset) state.records) ∧
    (∀ provider dataset, (state.store.get provider dataset).status = .failing ↔
      MadeFailing failureThreshold (upper provider,dataset) state.records) ∧
    (∀ provider dataset later, (state.store.get provider dataset).status = .disabled →
      (∀ event ∈ later, Spares (upper provider,dataset) event) →
      ((state.run configuration later).store.get provider dataset).status = .disabled) ∧
    (∀ dataset plugin now, configuration.policy = .default → configuration.registry.providersFor dataset = [plugin] →
      plugin.isExplicitOnly dataset = false → (state.store.get plugin.name dataset).status ≠ .disabled →
      (state.store.get plugin.name dataset).isInCooldown now = false →
      (((state.router configuration).resolveAuto dataset defaultAuthPolicy now).2 = .ok plugin ↔
        (state.store.get plugin.name dataset).status ≠ .failing)) ∧
    (∀ request plugin answer routedAt now latencyMs later, configuration.policy = .default →
      configuration.registry.providersFor request.dataset = [plugin] → plugin.isExplicitOnly request.dataset = false →
      (state.store.get plugin.name request.dataset).status ≠ .disabled →
      (state.store.get plugin.name request.dataset).isInCooldown routedAt = false →
      request.source = some plugin.name → lower plugin.name ≠ "auto".toList → answer plugin = .frame .kept latencyMs →
      (((state.step configuration (.fetched request answer routedAt now)).router configuration).resolveAuto request.dataset
        defaultAuthPolicy later).2 = .ok plugin) := by
  have told : Told failureThreshold state := by
    rw [← ran]
    exact told_run (start_told failureThreshold cooldownSeconds) events
  refine ⟨told.count,told.failing,?_,?_,?_⟩
  · intro provider dataset later disabled spares
    rw [disabled_run disabled spares]
    exact disabled
  · intro dataset plugin now policy alone shared live rested
    exact @default_selects dataset (state.router configuration) plugin now policy alone shared live rested
  · intro request plugin answer routedAt now latencyMs later policy alone shared live rested named explicit answers
    have member : plugin ∈ configuration.registry.providersFor request.dataset := by simp [alone]
    obtain ⟨known,supported⟩ := List.mem_filter.mp member
    have made : state.made configuration (.fetched request answer routedAt now) =
        some (.success plugin.name request.dataset (some latencyMs) none now) :=
      explicit_recovers known supported named explicit live rested answers
    have health : (state.step configuration (.fetched request answer routedAt now)).store.get plugin.name request.dataset =
        (state.store.get plugin.name request.dataset).succeeded plugin.name request.dataset (some latencyMs) none now := by
      unfold step
      rw [made]
      exact HealthStore.apply_own _ rfl
    have healthy : ((state.step configuration (.fetched request answer routedAt now)).store.get plugin.name
        request.dataset).status = .healthy := by
      rw [health]
      rfl
    apply (@default_selects request.dataset ((state.step configuration (.fetched request answer routedAt now)).router
      configuration) plugin later policy alone shared ?_ ?_).mpr
    · exact fun failing => nomatch healthy.symm.trans failing
    · exact fun disabled => nomatch healthy.symm.trans disabled
    · show ((state.step configuration (.fetched request answer routedAt now)).store.get plugin.name
        request.dataset).isInCooldown later = false
      rw [health]
      rfl

/- One provider that failed three times. -/

def kbsRuntime : PluginRouter := {PluginRouter.indifferent with policy:=.default}

def ohlcvDataset : Text := "equity.ohlcv".toList

def thirdFailure : List HealthEvent :=
  List.replicate 3 (.recorded (.failure "KBS".toList ohlcvDataset none none none 0))

def exhausted : Tracked := (start 3 60).run kbsRuntime thirdFailure

theorem exhausted_rested : (exhausted.store.get PluginRouter.kbsPlugin.name ohlcvDataset).isInCooldown 1000 = false := by
  with_unfolding_all rfl

theorem kbs_alone : kbsRuntime.registry.providersFor ohlcvDataset = [PluginRouter.kbsPlugin] := by
  with_unfolding_all rfl

theorem health_follows_history_sample :
    (exhausted.store.get "kbs".toList ohlcvDataset).failureCount = failuresSince ("KBS".toList,ohlcvDataset) exhausted.records ∧
    ¬ ((exhausted.router kbsRuntime).resolveAuto ohlcvDataset PluginRouter.defaultAuthPolicy 1000).2 = .ok PluginRouter.kbsPlugin := by
  obtain ⟨count,_,_,selected,_⟩ := health_follows_history kbsRuntime 3 60 thirdFailure rfl
  refine ⟨count _ _,?_⟩
  intro routed
  apply (selected ohlcvDataset PluginRouter.kbsPlugin 1000 rfl kbs_alone rfl (by decide) exhausted_rested).mp routed
  decide

-- Its cooldown is long over, and auto routing still leaves it out.
theorem failing_left_out : ¬ ∀ (configuration : PluginRouter) (failureThreshold : Int) (cooldownSeconds : ℚ)
    (events : List HealthEvent) (dataset : Text) (plugin : ProviderPlugin) (now : ℚ), configuration.policy = .default →
    configuration.registry.providersFor dataset = [plugin] → plugin.isExplicitOnly dataset = false →
    (((start failureThreshold cooldownSeconds).run configuration events).store.get plugin.name dataset).status ≠ .disabled →
    (((start failureThreshold cooldownSeconds).run configuration events).store.get plugin.name dataset).isInCooldown now = false →
    (((((start failureThreshold cooldownSeconds).run configuration events).router configuration).resolveAuto dataset
      PluginRouter.defaultAuthPolicy now).2 = .ok plugin) := by
  intro claimed
  have selected := claimed kbsRuntime 3 60 thirdFailure ohlcvDataset PluginRouter.kbsPlugin 1000 rfl kbs_alone rfl (by decide) exhausted_rested
  have raised : ((exhausted.router kbsRuntime).resolveAuto ohlcvDataset PluginRouter.defaultAuthPolicy 1000).2 =
    .error (.noHealthyProvider ohlcvDataset ["KBS".toList] []) := by with_unfolding_all rfl
  have clash := selected.symm.trans raised
  cases clash

end Tracked
end OpenStock.Providers
