import OpenStock.Providers.Router

namespace OpenStock.Providers
open Text

/- One dispatch: registry, router, cache, multi-symbol fan-out, retry loop. -/

-- What a provider class is asked for: its constructor arguments, then the method's.
structure ProviderCall where
  subModule : Text
  className : Text
  functionName : Text
  init : Kwargs
  args : List Value
  kwargs : Kwargs

-- What a provider answered, and in which call of the interface.
structure Production where
  domainName : Text
  subdomain : Option Text
  call : ProviderCall
  data : Data

-- Everything the code meets and does not decide, by the number of the access. `report`
-- is what `validate_dataframe` says of a frame's validity, unless it raises.
structure World where
  clock : Nat → ℚ
  answer : Nat → ProviderCall → Except (ErrorKind × Text × Text) Data
  broken : Nat → Bool
  report : Text → List Text → Option Bool
  picklable : Data → Bool

structure QualityConfig where
  enabled : Bool
  mode : Text

section
variable [CacheHash]

-- The state of the process. `productions` only records.
structure Interface where
  cache : CacheManager
  router : ProviderRouter
  quality : QualityConfig
  accesses : Nat
  productions : List Production

def Interface.tick (ui : Interface) : Interface := {ui with accesses:=ui.accesses + 1}

-- `Quote.__init__` and `Trading.__init__`.
def initParameters : List Text := ["source".toList,"symbol".toList,"random_agent".toList,"show_log".toList]

def controlNames : List Text := ["source".toList,"random_agent".toList,"show_log".toList]

-- `init_kwargs[param] = kwargs.pop(param)`, from the dict of the caller.
def popped (state : Kwargs × Kwargs) (param : Text) : Kwargs × Kwargs :=
  match state.2.get param with
  | some value => (state.1.set param value,state.2.without [param])
  | none => state

-- One round of the loop over the constructor's parameters.
def takeParameter (symbol : Value) (state : Kwargs × Kwargs) (param : Text) : Kwargs × Kwargs :=
  if param ∉ initParameters then state
  else if param ∈ ["symbol".toList,"symbol_id".toList] then (state.1.set param symbol,state.2)
  else popped state param

def initKwargs (symbol : Value) (kwargs : Kwargs) : Kwargs × Kwargs :=
  ["symbol".toList,"symbol_id".toList,"source".toList,"random_agent".toList,"show_log".toList].foldl (takeParameter symbol)
    (Kwargs.empty,kwargs)

-- Both classes take a symbol and their methods take any keyword: nothing is filtered
-- further. The constructors call `source.lower()`.
def executeDispatch (world : World) (entry : RegistryEntry) (domainName : Text) (subdomain : Option Text) (symbol : Value)
    (args : List Value) (kwargs : Kwargs) (ui : Interface) : Interface × Kwargs × Except Failure Data :=
  let (init,kwargs) := initKwargs symbol kwargs
  let call : ProviderCall := ⟨entry.subModule,entry.className,entry.functionName,init,args,kwargs.without controlNames⟩
  match init.get "source".toList with
  | some (.str _) =>
    match world.answer ui.accesses call with
    | .ok data => ({ui.tick with productions:=ui.productions ++ [⟨domainName,subdomain,call,data⟩]},kwargs,.ok data)
    | .error (kind,text,arguments) => (ui.tick,kwargs,.error (.provider kind text arguments))
  | source => (ui,kwargs,.error (.notText source))

-- The arguments that the cache key is made of: keywords named `symbol` or `args`
-- replace the entries of those names.
def keyedArguments (symbol : Value) (args : List Value) (kwargs : Kwargs) : Kwargs :=
  ((Kwargs.empty.set "symbol".toList symbol).set "args".toList (.list args)).merge (kwargs.without controlNames)

structure Resolved where
  entry : RegistryEntry
  consumedSubdomain : Option Text
  args : List Value

def resolve (domainName methodName : Text) (args : List Value) : Except Failure Resolved :=
  match node domainName methodName with
  | none => .error (.unknownMethod methodName domainName)
  | some (.leaf entry) => .ok ⟨entry,none,args⟩
  | some (.nested methods) =>
    match args with
    | [] => .error (.missingKey (.int 0))
    | actual :: rest =>
      if ¬ actual.hashable then .error (.unhashable actual)
      else match actual with
        | .str name =>
          match methods.lookup name with
          | some entry => .ok ⟨entry,some name,rest⟩
          | none => .error (.unknownSubdomain actual methodName domainName)
        | _ => .error (.unknownSubdomain actual methodName domainName)

-- A call once its control keywords are popped and its source is chosen.
structure Plan where
  domainName : Text
  methodName : Text
  entry : RegistryEntry
  consumedSubdomain : Option Text
  symbol : Value
  args : List Value
  kwargs : Kwargs
  useCache : Value
  cacheTtl : Value
  check : Value
  qualityMode : Value
  pool : Option (PoolKey × List Text)

def Plan.subdomain (plan : Plan) : Text := plan.consumedSubdomain.getD []

def Plan.cacheKey (plan : Plan) : Option CacheHash.Digest :=
  makeCacheKey ((plan.kwargs.get "source".toList).getD (.str [])) plan.entry.functionName
    (keyedArguments plan.symbol plan.args plan.kwargs) plan.domainName plan.subdomain

def callerSetSource (kwargs : Kwargs) : Bool :=
  match kwargs.get "source".toList with
  | none => false
  | some .none => false
  | some _ => true

def prepare (world : World) (domainName methodName : Text) (symbol : Value) (args : List Value) (kwargs : Kwargs)
    (ui : Interface) : Interface × Except Failure Plan :=
  match resolve domainName methodName args with
  | .error failure => (ui,.error failure)
  | .ok ⟨entry,consumedSubdomain,args⟩ =>
    let explicit := callerSetSource kwargs
    let kwargs := if explicit then kwargs else kwargs.set "source".toList (.str entry.source)
    let (useCache,kwargs) := kwargs.pop "use_cache".toList .none
    let (cacheTtl,kwargs) := kwargs.pop "cache_ttl".toList .none
    let (check,kwargs) := kwargs.pop "validate".toList (.bool ui.quality.enabled)
    let (qualityMode,kwargs) := kwargs.pop "quality_mode".toList (.str ui.quality.mode)
    let plan : Plan := ⟨domainName,methodName,entry,consumedSubdomain,symbol,args,kwargs,useCache,cacheTtl,check,
      qualityMode,none⟩
    let poolKey := buildPoolKey domainName methodName consumedSubdomain
    match explicit,pools.lookup poolKey with
    | false,some providers =>
      match ui.router.pick poolKey providers (world.clock ui.accesses) with
      | .error failure => (ui.tick,.error failure)
      | .ok (source,router) =>
        ({ui.tick with router:=router},
          .ok {plan with kwargs:=kwargs.set "source".toList (.str source),pool:=some (poolKey,providers)})
    | _,_ => (ui,.ok plan)

-- The lookup: the cached value and the key to store under. A cache that raises is not
-- used for the rest of the call.
def lookUp (world : World) (plan : Plan) (ui : Interface) : Interface × Option Data × Option CacheHash.Digest :=
  match plan.useCache with
  | .bool false => (ui,none,none)
  | _ =>
    if ¬ ui.cache.enabled then (ui,none,none)
    else match plan.cacheKey with
      | none => (ui,none,none)
      | some key =>
        if world.broken ui.accesses then (ui.tick,none,none)
        else
          let (value,cache) := ui.cache.get key (world.clock ui.accesses)
          let ui := {ui.tick with cache:=cache}
          match value with
          | none => (ui,none,some key)
          | some .none => (ui,none,some key)
          | some data => (ui,some data,some key)

def Plan.ttl (plan : Plan) (ui : Interface) : Int :=
  match plan.cacheTtl with
  | .int ttl => ttl
  | .bool ttl => if ttl then 1 else 0
  | _ =>
    let smart := getDefaultTtl plan.domainName plan.subdomain plan.entry.functionName
    if smart > 0 then smart else ui.cache.ttl

def store (world : World) (plan : Plan) (key : Option CacheHash.Digest) (data : Data) (ui : Interface) : Interface :=
  match key with
  | none => ui
  | some key =>
    if world.broken ui.accesses then ui.tick
    else {ui.tick with cache:=ui.cache.set world.picklable key data (plan.ttl ui) (world.clock ui.accesses)}

def inferDatasetType (domainName methodName : Text) (consumedSubdomain : Option Text) : Option Text :=
  if domainName = "Market".toList then
    [("ohlcv".toList,"ohlcv".toList),("price_board".toList,"price_board".toList),
      ("intraday".toList,"intraday_trades".toList)].lookup (consumedSubdomain.getD methodName)
  else none

-- What strict validation refuses: a frame whose report is not valid. A validator that
-- raises is skipped.
def Plan.refuses (world : World) (plan : Plan) (rows : List Text) : Bool :=
  match inferDatasetType plan.domainName plan.methodName plan.consumedSubdomain with
  | some dataset => world.report dataset rows == some false
  | none => false

-- The optional validation of a frame raises in strict mode only.
def validated (world : World) (plan : Plan) (data : Data) : Except Failure Data :=
  match data,plan.qualityMode with
  | .frame rows,.str mode =>
    if plan.check.truthy && mode = "strict".toList && plan.refuses world rows then .error .dataQuality else .ok data
  | _,_ => .ok data

-- The retry loop. `remaining` counts the attempts after this one; the key does not move.
def attempts (world : World) (plan : Plan) (key : Option CacheHash.Digest) : Nat → Kwargs → Interface →
    Interface × Except Failure Data
  | remaining,kwargs,ui =>
    let (ui,kwargs,outcome) :=
      executeDispatch world plan.entry plan.domainName plan.consumedSubdomain plan.symbol plan.args kwargs ui
    let (ui,outcome) : Interface × Except Failure Data :=
      match outcome with
      | .error failure => (ui,.error failure)
      | .ok data => (store world plan key data ui,validated world plan data)
    match outcome,plan.pool with
    | .ok data,_ => (ui,.ok data)
    | .error failure,none => (ui,.error failure)
    | .error failure,some (poolKey,providers) =>
      if ¬ isRetriable failure then (ui,.error failure)
      else match kwargs.get "source".toList with
        | none => (ui,.error (.missingKey (.str "source".toList)))
        | some source =>
          let name := match source with
            | .str name => name
            | _ => []
          let ui := {ui.tick with router:=ui.router.markFailed poolKey name (isRateLimit failure) (world.clock ui.accesses)}
          match remaining with
          | 0 => (ui,.error failure)
          | remaining + 1 =>
            match ui.router.pick poolKey providers (world.clock ui.accesses) with
            | .error failure => (ui.tick,.error failure)
            | .ok (source,router) =>
              attempts world plan key remaining (kwargs.set "source".toList (.str source)) {ui.tick with router:=router}

-- `pd.concat(all_results).reset_index(drop=True)`, or the list.
def gathered (results : List Data) : Except Failure Data :=
  match results with
  | .frame _ :: _ =>
    match results.mapM (fun data => match data with
      | .frame rows => some rows
      | .none => some []
      | _ => none) with
    | some frames => .ok (.frame frames.flatten)
    | none => .error .concatenation
  | _ => .ok (.many results)

mutual
-- A list of symbols is dispatched symbol by symbol.
def dispatch (world : World) (symbol : Value) (domainName methodName : Text) (args : List Value) (kwargs : Kwargs)
    (ui : Interface) : Interface × Except Failure Data :=
  match prepare world domainName methodName symbol args kwargs ui with
  | (ui,.error failure) => (ui,.error failure)
  | (ui,.ok plan) =>
    match lookUp world plan ui with
    | (ui,some data,_) => (ui,.ok data)
    | (ui,none,key) =>
      match symbol with
      | .list symbols =>
        match dispatchEach world symbols domainName methodName plan.args plan.kwargs ui with
        | (ui,.error failure) => (ui,.error failure)
        | (ui,.ok results) => (ui,gathered results)
      | _ =>
        let maxAttempts := match plan.pool with
          | some (_,_ :: others) => others.length
          | _ => 0
        attempts world plan key maxAttempts plan.kwargs ui
def dispatchEach (world : World) (symbols : List Value) (domainName methodName : Text) (args : List Value) (kwargs : Kwargs)
    (ui : Interface) : Interface × Except Failure (List Data) :=
  match symbols with
  | [] => (ui,.ok [])
  | symbol :: symbols =>
    match dispatch world symbol domainName methodName args kwargs ui with
    | (ui,.error failure) => (ui,.error failure)
    | (ui,.ok data) =>
      match dispatchEach world symbols domainName methodName args kwargs ui with
      | (ui,.error failure) => (ui,.error failure)
      | (ui,.ok results) => (ui,.ok (data :: results))
end

end
end OpenStock.Providers
