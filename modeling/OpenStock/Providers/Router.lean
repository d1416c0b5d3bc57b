import Mathlib.Data.List.MinMax
import OpenStock.Providers.Cache

namespace OpenStock.Providers
open Text

/- The registry: which class answers a method, and which sources share its load. -/

structure RegistryEntry where
  subModule : Text
  className : Text
  functionName : Text
  source : Text
deriving DecidableEq

inductive Node where
  | leaf (entry : RegistryEntry)
  | nested (methods : List (Text × RegistryEntry))

def quoteOhlcv : RegistryEntry := ⟨"api.quote".toList,"Quote".toList,"ohlcv".toList,"KBS".toList⟩
def quoteIntraday : RegistryEntry := ⟨"api.quote".toList,"Quote".toList,"intraday".toList,"KBS".toList⟩
def tradingPriceBoard : RegistryEntry := ⟨"api.trading".toList,"Trading".toList,"price_board".toList,"KBS".toList⟩

def securityMethods : List (Text × RegistryEntry) :=
  [("ohlcv".toList,quoteOhlcv),("quote".toList,tradingPriceBoard),("trades".toList,quoteIntraday)]

def marketDomain : List (Text × Node) :=
  [("quote".toList,.leaf tradingPriceBoard),
    ("equity".toList,.nested securityMethods),
    ("index".toList,.nested [("ohlcv".toList,quoteOhlcv)]),
    ("etf".toList,.nested securityMethods),
    ("futures".toList,.nested securityMethods),
    ("warrant".toList,.nested securityMethods),
    ("bond".toList,.nested securityMethods)]

def equityMarketDomain : List (Text × Node) :=
  [("ohlcv".toList,.leaf quoteOhlcv),("quote".toList,.leaf tradingPriceBoard),("trades".toList,.leaf quoteIntraday)]

-- The entries of layer `api` in the two domains that have pools.
def registry : List (Text × List (Text × Node)) :=
  [("Market".toList,marketDomain),("equity_market".toList,equityMarketDomain)]

def node (domainName methodName : Text) : Option Node :=
  (registry.lookup domainName).bind (fun domain => domain.lookup methodName)

abbrev PoolKey := List Text

def securitySources : List Text := ["KBS".toList,"VCI".toList,"DNSE".toList,"TCBS".toList]

def pools : List (PoolKey × List Text) :=
  [(["Market".toList,"equity".toList,"ohlcv".toList],securitySources),
    (["Market".toList,"equity".toList,"trades".toList],securitySources),
    (["Market".toList,"equity".toList,"quote".toList],securitySources),
    (["Market".toList,"etf".toList,"ohlcv".toList],["KBS".toList,"VCI".toList]),
    (["Market".toList,"futures".toList,"ohlcv".toList],["KBS".toList,"DNSE".toList]),
    (["Market".toList,"warrant".toList,"ohlcv".toList],["KBS".toList,"VCI".toList]),
    (["Market".toList,"index".toList,"ohlcv".toList],["KBS".toList,"VCI".toList]),
    (["equity_market".toList,"ohlcv".toList],securitySources),
    (["equity_market".toList,"price_board".toList],securitySources),
    (["equity_market".toList,"intraday".toList],securitySources)]

def buildPoolKey (domainName methodName : Text) (consumedSubdomain : Option Text) : PoolKey :=
  match consumedSubdomain with
  | some subdomain => [domainName,methodName,subdomain]
  | none => [domainName,methodName]

/- What goes wrong in a call. -/

-- How a provider's exception is classed.
inductive ErrorKind where
  | timeout
  | connection
  | valueError
  | runtimeError
  | other

inductive Failure where
  | unknownMethod (methodName domainName : Text)
  | unknownSubdomain (actual : Value) (methodName domainName : Text)
  | unhashable (value : Value)
  | missingKey (key : Value)
  | emptyPool
  | notText (source : Option Value)
  | concatenation
  | dataQuality
  | provider (kind : ErrorKind) (text arguments : Text)

def mentions (text : Text) (marks : List Text) : Bool := marks.any (fun mark => mark <:+: text)

def isRateLimit : Failure → Bool
  | .provider _ _ arguments => mentions (lower arguments) ["429".toList,"rate limit".toList,"too many requests".toList]
  | _ => false

def transientMarks : List Text :=
  ["429".toList,"rate limit".toList,"too many requests".toList,"503".toList,"502".toList,"500".toList]

-- The texts of the other errors hold none of the marks, and their classes are not asked.
def isRetriable : Failure → Bool
  | .provider .timeout _ _ => true
  | .provider .connection _ _ => true
  | .provider .valueError text _ => mentions (lower text) transientMarks
  | .provider .runtimeError text _ => mentions (lower text) transientMarks
  | _ => false

/- The router. -/

structure ProviderRouter where
  counters : List (PoolKey × Nat)
  cooldowns : List ((PoolKey × Text) × ℚ)

def cooldownSecs : ℚ := 60
def rateLimitCooldownSecs : ℚ := 300

namespace ProviderRouter

def counter (router : ProviderRouter) (poolKey : PoolKey) : Nat := (router.counters.lookup poolKey).getD 0

def cooldown (router : ProviderRouter) (poolKey : PoolKey) (source : Text) : ℚ :=
  (router.cooldowns.lookup (poolKey,source)).getD 0

def pick (router : ProviderRouter) (poolKey : PoolKey) (providers : List Text) (now : ℚ) :
    Except Failure (Text × ProviderRouter) :=
  match providers with
  | [] => .error .emptyPool
  | [provider] => .ok (provider,router)
  | first :: others =>
    let healthy := (first :: others).filter (fun provider => router.cooldown poolKey provider ≤ now)
    let idx := router.counter poolKey % healthy.length
    match healthy[idx]? with
    | some chosen =>
      let counters := (poolKey,(idx + 1) % healthy.length) :: router.counters.filter (fun entry => entry.1 ≠ poolKey)
      .ok (chosen,{router with counters:=counters})
    | none =>
      -- All of them cool down: the one whose cooldown ends first.
      .ok (((first :: others).argmin (router.cooldown poolKey)).getD first,router)

def markFailed (router : ProviderRouter) (poolKey : PoolKey) (source : Text) (rateLimit : Bool) (now : ℚ) : ProviderRouter :=
  let expiry := now + (if rateLimit then rateLimitCooldownSecs else cooldownSecs)
  let cooldowns := ((poolKey,source),expiry) :: router.cooldowns.filter (fun entry => entry.1 ≠ (poolKey,source))
  {router with cooldowns:=cooldowns}

theorem pick_member {router after : ProviderRouter}
    (picked : router.pick poolKey providers now = .ok (chosen,after)) : chosen ∈ providers := by
  unfold pick at picked
  split at picked
  · cases picked
  · cases picked
    exact List.mem_cons_self
  · rename_i first others _
    dsimp only at picked
    split at picked
    · rename_i found
      cases picked
      exact List.mem_of_mem_filter (List.mem_of_getElem? found)
    · cases picked
      cases least : (first :: others).argmin (router.cooldown poolKey) with
      | none => exact List.mem_cons_self
      | some provider => exact List.argmin_mem least

end ProviderRouter
end OpenStock.Providers
