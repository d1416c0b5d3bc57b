import OpenStock.Providers.Health

namespace OpenStock.Providers
open Text

/- Providers as plugins, and their registry. -/

inductive AuthType where
  | none
  | bearerToken
  | apiKey
  | basic
  | oauth2
  | interactive
  | custom
deriving DecidableEq

structure AuthSpec where
  authType : AuthType
  explicitOnly : Bool

-- `authSpec` is `none` where `auth_spec` is missing or raises.
structure ProviderPlugin where
  name : Text
  supports : Text → Bool
  authSpec : Text → Option AuthSpec

def ProviderPlugin.requiresAuth (provider : ProviderPlugin) (dataset : Text) : Bool :=
  match provider.authSpec dataset with
  | some spec => spec.authType ≠ .none
  | none => false

def ProviderPlugin.isExplicitOnly (provider : ProviderPlugin) (dataset : Text) : Bool :=
  match provider.authSpec dataset with
  | some spec => spec.explicitOnly
  | none => false

structure PluginRegistry where
  plugins : List ProviderPlugin
  distinct : (plugins.map (fun provider => upper provider.name)).Nodup

namespace PluginRegistry

def find (registry : PluginRegistry) (name : Text) : Option ProviderPlugin :=
  registry.plugins.find? (fun provider => upper provider.name = upper name)

-- `none` when the name is taken.
def register (registry : PluginRegistry) (provider : ProviderPlugin) : Option PluginRegistry :=
  if fresh : upper provider.name ∉ registry.plugins.map (fun other => upper other.name) then
    some ⟨registry.plugins ++ [provider],by
      rw [List.map_append,List.nodup_append]
      refine ⟨registry.distinct,by simp,?_⟩
      intro left inside right single same
      rw [List.map_singleton,List.mem_singleton] at single
      exact fresh (single ▸ same ▸ inside)⟩
  else none

def providersFor (registry : PluginRegistry) (dataset : Text) : List ProviderPlugin :=
  registry.plugins.filter (fun provider => provider.supports dataset)

theorem same_name {registry : PluginRegistry}
    (first : left ∈ registry.providersFor dataset) (second : right ∈ registry.providersFor dataset)
    (same : left.name = right.name) : left = right :=
  List.inj_on_of_nodup_map registry.distinct (List.mem_of_mem_filter first) (List.mem_of_mem_filter second)
    (congrArg upper same)

end PluginRegistry

/- Policies and decisions. -/

inductive AuthPolicy where
  | forbidAuthenticated
  | preferNoAuth
  | allowAuthenticated
  | requireAuthenticated
deriving DecidableEq

structure RoutingPolicy where
  preferHealthy : Bool
  allowDegraded : Bool
  allowFailingFallback : Bool
  respectCooldown : Bool

def RoutingPolicy.default : RoutingPolicy := ⟨true,true,false,true⟩

def defaultProviderPriority : List (Text × List Text) :=
  [("equity.ohlcv".toList,["KBS".toList,"VCI".toList,"DNSE".toList,"TCBS".toList]),
    ("index.ohlcv".toList,["KBS".toList,"VCI".toList,"DNSE".toList]),
    ("equity.quote".toList,["KBS".toList,"VCI".toList,"DNSE".toList]),
    ("equity.intraday_trades".toList,["KBS".toList,"VCI".toList]),
    ("reference.symbols".toList,["KBS".toList,"VCI".toList]),
    ("reference.company_info".toList,["KBS".toList,"VCI".toList]),
    ("fundamental.balance_sheet".toList,["KBS".toList,"VCI".toList]),
    ("fundamental.income_statement".toList,["KBS".toList,"VCI".toList]),
    ("fundamental.cash_flow".toList,["KBS".toList,"VCI".toList]),
    ("fundamental.financial_ratio".toList,["KBS".toList,"VCI".toList]),
    ("fund.nav".toList,["FMARKET".toList])]

structure RoutingDecision where
  dataset : Text
  requestedSource : Option Text
  selectedProvider : Option Text
  candidates : List Text
  rejected : List (Text × Text)
  fallback : Bool
  reason : Text
  healthSnapshot : List (Text × ProviderHealth)
  warnings : List Text

inductive RoutingFailure where
  | unsupportedDataset (dataset : Text)
  | noHealthyProvider (dataset : Text) (candidates : List Text) (rejected : List (Text × Text))
  | providerNotFound (name : Text)
  | unsupportedDatasetForProvider (provider dataset : Text)
  | providerDisabled (provider dataset : Text) (notes : Option Text)
  | providerInCooldown (provider dataset : Text)

structure PluginRouter where
  registry : PluginRegistry
  defaultPriority : Option (List Text)
  healthStore : HealthStore
  policy : RoutingPolicy

namespace PluginRouter

def priorityList (router : PluginRouter) (dataset : Text) : List Text :=
  match router.defaultPriority with
  | some (name :: names) => name :: names
  | _ => (defaultProviderPriority.lookup dataset).getD []

-- `{name.upper(): i for i, name in enumerate(priority_list)}`: the last index stands.
def priorityIndex (names : List Text) (name : Text) : Option Nat :=
  ((names.zipIdx.filter (fun entry => upper entry.1 = name)).getLast?).map Prod.snd

def sortKey (router : PluginRouter) (dataset : Text) (provider : ProviderPlugin) : Nat × Text :=
  ((priorityIndex (router.priorityList dataset) (upper provider.name)).getD (router.priorityList dataset).length,
    upper provider.name)

def keyBefore (left right : Nat × Text) : Prop := left.1 < right.1 ∨ left.1 = right.1 ∧ left.2 ≤ right.2

instance (left right : Nat × Text) : Decidable (keyBefore left right) := by
  unfold keyBefore
  infer_instance

def ordered (router : PluginRouter) (dataset : Text) : List ProviderPlugin :=
  (router.registry.providersFor dataset).insertionSort
    (fun left right => keyBefore (router.sortKey dataset left) (router.sortKey dataset right))

/- Tiers of health. -/

structure Tiers where
  healthy : List ProviderPlugin
  degraded : List ProviderPlugin
  failing : List ProviderPlugin
  rejected : List (Text × Text)

-- The filters that precede the tiers, in their order.
def refusal (router : PluginRouter) (dataset : Text) (now : ℚ) (provider : ProviderPlugin) : Option Text :=
  let health := router.healthStore.get provider.name dataset
  if provider.isExplicitOnly dataset then some "explicit source required".toList
  else if health.status = .disabled then some "DISABLED".toList
  else if router.policy.respectCooldown && health.isInCooldown now then some "cooldown active".toList
  else none

def place (router : PluginRouter) (dataset : Text) (now : ℚ) (tiers : Tiers) (provider : ProviderPlugin) : Tiers :=
  match router.refusal dataset now provider with
  | some reason => {tiers with rejected:=tiers.rejected ++ [(provider.name,reason)]}
  | none =>
    match (router.healthStore.get provider.name dataset).status with
    | .healthy => {tiers with healthy:=tiers.healthy ++ [provider]}
    | .unknown => {tiers with healthy:=tiers.healthy ++ [provider]}
    | .degraded => {tiers with degraded:=tiers.degraded ++ [provider]}
    | .failing => {tiers with failing:=tiers.failing ++ [provider]}
    | .disabled => tiers

def forbidden : Text := "auth policy: forbid_authenticated".toList
def publicOnly : Text := "auth policy: require_authenticated (provider is public)".toList

-- What a policy keeps of one tier, in which order, and whom it turns away.
def arrange (dataset : Text) (policy : AuthPolicy) (tier : List ProviderPlugin) : List ProviderPlugin × List (Text × Text) :=
  let authenticated := tier.filter (fun provider => provider.requiresAuth dataset)
  let unauthenticated := tier.filter (fun provider => !provider.requiresAuth dataset)
  match policy with
  | .allowAuthenticated => (tier,[])
  | .forbidAuthenticated => (unauthenticated,authenticated.map (fun provider => (provider.name,forbidden)))
  | .preferNoAuth => (unauthenticated ++ authenticated,[])
  | .requireAuthenticated => (authenticated,unauthenticated.map (fun provider => (provider.name,publicOnly)))

def applyAuthPolicy (dataset : Text) (policy : AuthPolicy) (tiers : Tiers) : Tiers :=
  let (healthy,fromHealthy) := arrange dataset policy tiers.healthy
  let (degraded,fromDegraded) := arrange dataset policy tiers.degraded
  let (failing,fromFailing) := arrange dataset policy tiers.failing
  ⟨healthy,degraded,failing,tiers.rejected ++ fromHealthy ++ fromDegraded ++ fromFailing⟩

def tiers (router : PluginRouter) (dataset : Text) (authPolicy : AuthPolicy) (now : ℚ) : Tiers :=
  applyAuthPolicy dataset authPolicy ((router.ordered dataset).foldl (router.place dataset now) ⟨[],[],[],[]⟩)

def degradedWarning (name dataset : Text) : Text :=
  "Provider '".toList ++ name ++ "' is DEGRADED for dataset '".toList ++ dataset ++ "'.".toList

def failingWarning (name dataset : Text) : Text :=
  "Provider '".toList ++ name ++ "' is FAILING for dataset '".toList ++ dataset ++ "'. allow_failing_fallback is enabled.".toList

structure Selection where
  selected : Option ProviderPlugin
  fallback : Bool
  reason : Text
  warnings : List Text

def select (policy : RoutingPolicy) (dataset : Text) (tiers : Tiers) : Selection :=
  match policy.preferHealthy,tiers.healthy with
  | true,provider :: _ => ⟨some provider,false,"selected by health-aware default priority (HEALTHY/UNKNOWN)".toList,[]⟩
  | _,_ =>
    match policy.allowDegraded,tiers.degraded with
    | true,provider :: _ =>
      ⟨some provider,true,"fallback to DEGRADED provider (no HEALTHY provider available)".toList,
        [degradedWarning provider.name dataset]⟩
    | _,_ =>
      match policy.allowFailingFallback,tiers.failing with
      | true,provider :: _ =>
        ⟨some provider,true,"last-resort fallback to FAILING provider".toList,[failingWarning provider.name dataset]⟩
      | _,_ => ⟨none,false,[],[]⟩

def buildHealthSnapshot (router : PluginRouter) (providers : List ProviderPlugin) (dataset : Text) : List (Text × ProviderHealth) :=
  providers.map (fun provider => (provider.name,router.healthStore.get provider.name dataset))

-- The decision that is recorded, and what is returned or raised.
def resolveAuto (router : PluginRouter) (dataset : Text) (authPolicy : AuthPolicy) (now : ℚ) :
    RoutingDecision × Except RoutingFailure ProviderPlugin :=
  let candidates := router.registry.providersFor dataset
  if candidates.isEmpty then
    (⟨dataset,none,none,[],[],false,"no providers registered for this dataset".toList,[],[]⟩,
      .error (.unsupportedDataset dataset))
  else
    let tiers := router.tiers dataset authPolicy now
    let selection := select router.policy dataset tiers
    let names := candidates.map ProviderPlugin.name
    let decision : RoutingDecision := ⟨dataset,none,selection.selected.map ProviderPlugin.name,names,tiers.rejected,
      selection.fallback,selection.reason,router.buildHealthSnapshot candidates dataset,selection.warnings⟩
    match selection.selected with
    | none => (decision,.error (.noHealthyProvider dataset names tiers.rejected))
    | some provider => (decision,.ok provider)

end PluginRouter
end OpenStock.Providers
