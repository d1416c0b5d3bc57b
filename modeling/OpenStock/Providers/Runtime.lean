import OpenStock.Providers.AutoRouting

namespace OpenStock.Providers
open Text

/- Explicit routing. -/

variable {router : PluginRouter} {now : ℚ}

namespace PluginRouter

def explicitWarning (status : HealthStatus) (name dataset : Text) : List Text :=
  match status with
  | .failing => ["Provider '".toList ++ name ++ "' is FAILING for dataset '".toList ++ dataset ++
      "'. Proceeding because source was explicitly requested.".toList]
  | .degraded => [degradedWarning name dataset]
  | _ => []

-- A decision is recorded only where a provider is returned.
def resolveExplicit (router : PluginRouter) (dataset source : Text) (now : ℚ) :
    Except RoutingFailure (ProviderPlugin × RoutingDecision) :=
  match router.registry.find source with
  | none => .error (.providerNotFound source)
  | some provider =>
    if ¬ provider.supports dataset then .error (.unsupportedDatasetForProvider provider.name dataset)
    else
      let health := router.healthStore.get provider.name dataset
      if health.status = .disabled then .error (.providerDisabled provider.name dataset health.notes)
      else if router.policy.respectCooldown && health.isInCooldown now then .error (.providerInCooldown provider.name dataset)
      else .ok (provider,⟨dataset,some source,some provider.name,
        (router.registry.providersFor dataset).map ProviderPlugin.name,[],false,"explicit source requested".toList,
        router.buildHealthSnapshot [provider] dataset,explicitWarning health.status provider.name dataset⟩)

def defaultAuthPolicy : AuthPolicy := .preferNoAuth

def resolve (router : PluginRouter) (dataset : Text) (source : Option Text) (now : ℚ) : Except RoutingFailure ProviderPlugin :=
  match source with
  | none => (router.resolveAuto dataset defaultAuthPolicy now).2
  | some name =>
    if lower name = "auto".toList then (router.resolveAuto dataset defaultAuthPolicy now).2
    else (router.resolveExplicit dataset name now).map Prod.fst

-- A provider that is returned is not disabled.
theorem resolve_enabled {dataset : Text} {provider : ProviderPlugin}
    (resolved : router.resolve dataset source now = .ok provider) : router.status dataset provider ≠ .disabled := by
  have auto : (router.resolveAuto dataset defaultAuthPolicy now).2 = .ok provider → router.status dataset provider ≠ .disabled := by
    intro returned
    have candidates : router.registry.providersFor dataset ≠ [] := by
      intro empty
      simp [resolveAuto,empty] at returned
    rw [(resolveAuto_selects candidates).2] at returned
    have cases := select_cases router.policy dataset (router.tiers dataset defaultAuthPolicy now)
    rw [tiers_chosen] at cases returned
    dsimp only at cases
    have live : ∀ {tier rest} {other : ProviderPlugin}, tier < 3 → router.chosen dataset defaultAuthPolicy now tier = other :: rest →
        router.status dataset other ≠ .disabled := by
      intro tier rest other small first disabled
      have placed := chosen_tier (first ▸ List.mem_cons_self : other ∈ router.chosen dataset defaultAuthPolicy now tier)
      rw [disabled] at placed
      simp only [HealthStatus.tier] at placed
      omega
    rcases cases with ⟨other,rest,_,first,selected⟩ | ⟨_,⟨other,rest,_,first,selected⟩ | ⟨_,⟨other,rest,_,first,selected⟩ |
      ⟨_,selected⟩⟩⟩
    all_goals
      rw [selected] at returned
      cases returned
    · exact live (by omega) first
    · exact live (by omega) first
    · exact live (by omega) first
  unfold resolve at resolved
  split at resolved
  · exact auto resolved
  · split at resolved
    · exact auto resolved
    · unfold resolveExplicit at resolved
      split at resolved
      · cases resolved
      · split at resolved
        · cases resolved
        · dsimp only at resolved
          split at resolved
          · cases resolved
          · rename_i live
            split at resolved
            · cases resolved
            · cases resolved
              exact live

end PluginRouter

/- What is recorded in the store. -/

inductive Record where
  | set (health : ProviderHealth)
  | success (provider dataset : Text) (latencyMs freshnessScore : Option ℚ) (now : ℚ)
  | failure (provider dataset : Text) (notes : Option Text) (failureThreshold : Option Int) (cooldownSeconds : Option ℚ) (now : ℚ)

def Record.key : Record → Text × Text
  | .set health => health.key
  | .success provider dataset _ _ _ => (upper provider,dataset)
  | .failure provider dataset _ _ _ _ => (upper provider,dataset)

def HealthStore.apply (store : HealthStore) : Record → HealthStore
  | .set health => store.set health
  | .success provider dataset latencyMs freshnessScore now => store.recordSuccess provider dataset latencyMs freshnessScore now
  | .failure provider dataset notes failureThreshold cooldownSeconds now =>
    store.recordFailure provider dataset notes failureThreshold cooldownSeconds now

variable {record : Record} {provider dataset : Text} (store : HealthStore)

-- Only the pair of a record changes.
theorem HealthStore.apply_other
    (apart : record.key ≠ (upper provider,dataset)) : (store.apply record).get provider dataset = store.get provider dataset := by
  cases record with
  | set health =>
    rw [apply,get_set,if_neg]
    exact fun same => apart same.symm
  | success name target latencyMs freshnessScore now =>
    rw [apply,get_recordSuccess,if_neg]
    exact fun same => apart same.symm
  | failure name target notes failureThreshold cooldownSeconds now =>
    rw [apply,get_recordFailure,if_neg]
    exact fun same => apart same.symm

theorem HealthStore.get_pair {name target provider dataset : Text}
    (same : (upper name,target) = (upper provider,dataset)) : store.get name target = store.get provider dataset := by
  injection same with upper target
  unfold get
  rw [upper,target]

theorem HealthStore.apply_own (store : HealthStore) {record : Record} {provider dataset : Text}
    (own : record.key = (upper provider,dataset)) : (store.apply record).get provider dataset = match record with
      | .set health => health
      | .success name target latencyMs freshnessScore now =>
        (store.get provider dataset).succeeded name target latencyMs freshnessScore now
      | .failure name target notes failureThreshold cooldownSeconds now =>
        (store.get provider dataset).failed name target notes (failureThreshold.getD store.failureThreshold)
          (cooldownSeconds.getD store.cooldownSeconds) now := by
  cases record with
  | set health =>
    rw [apply,get_set]
    exact if_pos own.symm
  | success name target latencyMs freshnessScore now =>
    have pair : (upper name,target) = (upper provider,dataset) := own
    rw [apply,get_recordSuccess,if_pos pair.symm,store.get_pair pair]
  | failure name target notes failureThreshold cooldownSeconds now =>
    have pair : (upper name,target) = (upper provider,dataset) := own
    rw [apply,get_recordFailure,if_pos pair.symm,store.get_pair pair]

/- A fetch of the runtime. -/

def nonHealthFailureKinds : List Text :=
  ["not_installed".toList,"untested_version".toList,"license_not_acknowledged".toList,"credentials_missing".toList,
    "authentication".toList,"entitlement".toList,"quota".toList,"invalid_request".toList]

def cooldownFailureKinds : List Text := ["rate_limit".toList,"concurrency".toList,"transient".toList]

-- `_failure_kind`, from the text of the exception's `kind`.
def failureKind (raw : Option Text) : Option Text :=
  match raw with
  | none => none
  | some text => if lower (strip text) = [] then none else some (lower (strip text))

def typedNote (kind : Text) : Text := "typed_provider_failure:".toList ++ kind

def recordFailureForException (provider dataset : Text) (raw : Option Text) (now : ℚ) : Option Record :=
  match failureKind raw with
  | none => some (.failure provider dataset
      (some ("ProviderFetchError in runtime for dataset '".toList ++ dataset ++ "'".toList)) none none now)
  | some kind =>
    if kind ∈ nonHealthFailureKinds then none
    else if kind ∈ cooldownFailureKinds then some (.failure provider dataset (some (typedNote kind)) (some 1) (some 30) now)
    else some (.failure provider dataset (some (typedNote kind)) none none now)

-- The contract check of a frame; `broken` has the printed list of errors.
inductive Contract where
  | kept
  | broken (printed : Text)
  | raises

-- What the provider does with a request.
inductive Answer where
  | refusesParams
  | fetchError (kind : Option Text)
  | platformError
  | unexpected (typeName : Text)
  | frame (contract : Contract) (latencyMs : ℚ)

structure DatasetRequest where
  dataset : Text
  source : Option Text
  checked : Bool
  qualityMode : Text

def fiinquantx : Text := "FIINQUANTX".toList

-- What a request to this provider leaves in the store.
def recorded (request : DatasetRequest) (provider : ProviderPlugin) (answer : Answer) (now : ℚ) : Option Record :=
  let own := upper (strip provider.name) = fiinquantx
  let checked := request.checked || own
  let qualityMode := if own then "strict".toList else request.qualityMode
  let success := fun latencyMs => some (Record.success provider.name request.dataset (some latencyMs) none now)
  match answer with
  | .refusesParams => none
  | .fetchError kind => recordFailureForException provider.name request.dataset kind now
  | .platformError => some (.failure provider.name request.dataset
      (some ("VnstockPlatformError in runtime for dataset '".toList ++ request.dataset ++ "'".toList)) none none now)
  | .unexpected typeName => some (.failure provider.name request.dataset
      (some ("unexpected_provider_failure:".toList ++ typeName)) none none now)
  | .frame contract latencyMs =>
    if ¬ checked then success latencyMs
    else match contract with
      | .kept => success latencyMs
      | .raises => none
      | .broken printed =>
        if qualityMode = "strict".toList then some (.failure provider.name request.dataset
          (some ("Contract validation failed: ".toList ++ printed)) none none now)
        else success latencyMs

-- A fetch routes, asks the provider and records; routing that fails records nothing.
def fetch (router : PluginRouter) (request : DatasetRequest) (answer : ProviderPlugin → Answer) (routedAt now : ℚ) : Option Record :=
  match router.resolve request.dataset request.source routedAt with
  | .error _ => none
  | .ok provider => recorded request provider (answer provider) now

variable {request : DatasetRequest}

theorem recorded_key {provider : ProviderPlugin}
    (made : recorded request provider answer now = some record) : record.key = (upper provider.name,request.dataset) := by
  unfold recorded at made
  cases answer with
  | refusesParams => cases made
  | fetchError kind =>
    simp only [recordFailureForException] at made
    split at made
    · cases made
      rfl
    · split at made
      · cases made
      · split at made
        · cases made
          rfl
        · cases made
          rfl
  | platformError =>
    cases made
    rfl
  | unexpected typeName =>
    cases made
    rfl
  | frame contract latencyMs =>
    dsimp only at made
    split at made
    · cases made
      rfl
    · cases contract with
      | kept =>
        cases made
        rfl
      | raises => cases made
      | broken printed =>
        dsimp only at made
        repeat' split at made
        all_goals
          cases made
          rfl

-- A fetch never records an outcome of a disabled pair.
theorem fetch_enabled {routedAt now : ℚ} (made : fetch router request answer routedAt now = some record)
    (disabled : (router.healthStore.get provider dataset).status = .disabled) : record.key ≠ (upper provider,dataset) := by
  unfold fetch at made
  cases resolved : router.resolve request.dataset request.source routedAt with
  | error failure =>
    rw [resolved] at made
    cases made
  | ok plugin =>
    rw [resolved] at made
    have live := PluginRouter.resolve_enabled resolved
    rw [recorded_key made]
    intro same
    apply live
    rw [PluginRouter.status,router.healthStore.get_pair same,disabled]

end OpenStock.Providers
