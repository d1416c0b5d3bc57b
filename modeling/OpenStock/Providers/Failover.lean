import OpenStock.Providers.Origin

namespace OpenStock.Providers
open Text

section
variable [CacheHash]

/- One symbol through a pool of providers. -/

def sourced (entry : RegistryEntry) (kwargs : Kwargs) : Kwargs :=
  if callerSetSource kwargs then kwargs else kwargs.set "source".toList (.str entry.source)

-- The plan of a call before a provider is picked for it.
def Plan.unrouted (ui : Interface) (domainName methodName : Text) (symbol : Value) (resolved : Resolved) (kwargs : Kwargs) : Plan :=
  let kwargs := sourced resolved.entry kwargs
  let (useCache,kwargs) := kwargs.pop "use_cache".toList .none
  let (cacheTtl,kwargs) := kwargs.pop "cache_ttl".toList .none
  let (check,kwargs) := kwargs.pop "validate".toList (.bool ui.quality.enabled)
  let (qualityMode,kwargs) := kwargs.pop "quality_mode".toList (.str ui.quality.mode)
  ⟨domainName,methodName,resolved.entry,resolved.consumedSubdomain,symbol,resolved.args,kwargs,useCache,cacheTtl,check,
    qualityMode,none⟩

def Plan.through (plan : Plan) (poolKey : PoolKey) (providers : List Text) (source : Text) : Plan :=
  {plan with kwargs:=plan.kwargs.set "source".toList (.str source),pool:=some (poolKey,providers)}

-- From the choice of the provider to the end of the retry loop.
def routed (world : World) (plan : Plan) (poolKey : PoolKey) (providers : List Text) (ui : Interface) :
    Interface × Except Failure Data :=
  match ui.router.pick poolKey providers (world.clock ui.accesses) with
  | .error failure => (ui.tick,.error failure)
  | .ok (source,router) =>
    match lookUp world (plan.through poolKey providers source) {ui.tick with router:=router} with
    | (ui,some data,_) => (ui,.ok data)
    | (ui,none,key) =>
      attempts world (plan.through poolKey providers source) key (providers.length - 1)
        (plan.through poolKey providers source).kwargs ui

variable {world : World} {ui after : Interface}

theorem prepare_unrouted {domainName methodName : Text} {symbol : Value} {args : List Value} {kwargs : Kwargs}
    {resolved : Resolved} (found : resolve domainName methodName args = .ok resolved) :
    prepare world domainName methodName symbol args kwargs ui =
      match callerSetSource kwargs,pools.lookup (buildPoolKey domainName methodName resolved.consumedSubdomain) with
      | false,some providers => match ui.router.pick (buildPoolKey domainName methodName resolved.consumedSubdomain) providers
          (world.clock ui.accesses) with
        | .error failure => (ui.tick,.error failure)
        | .ok (source,router) => ({ui.tick with router:=router},
          .ok ((Plan.unrouted ui domainName methodName symbol resolved kwargs).through
            (buildPoolKey domainName methodName resolved.consumedSubdomain) providers source))
      | _,_ => (ui,.ok (Plan.unrouted ui domainName methodName symbol resolved kwargs)) := by
  obtain ⟨entry,consumed,rest⟩ := resolved
  unfold prepare Plan.unrouted sourced
  rw [found]
  dsimp only
  cases callerSetSource kwargs with
  | true => rfl
  | false =>
    cases pools.lookup (buildPoolKey domainName methodName consumed) with
    | none => rfl
    | some providers =>
      dsimp only
      cases ui.router.pick (buildPoolKey domainName methodName consumed) providers (world.clock ui.accesses) with
      | error failure => rfl
      | ok picked => rfl

variable {plan : Plan} {domainName methodName : Text} {args : List Value} {kwargs : Kwargs} {symbol : Value}

-- A prepared plan, with or without a provider of a pool.
theorem prepare_origin (prepared : prepare world domainName methodName symbol args kwargs ui = (after,.ok plan)) :
    ∃ resolved, resolve domainName methodName args = .ok resolved ∧
      (plan = Plan.unrouted ui domainName methodName symbol resolved kwargs ∨
        callerSetSource kwargs = false ∧ ∃ providers source,
          pools.lookup (buildPoolKey domainName methodName resolved.consumedSubdomain) = some providers ∧
          plan = (Plan.unrouted ui domainName methodName symbol resolved kwargs).through
            (buildPoolKey domainName methodName resolved.consumedSubdomain) providers source) := by
  cases found : resolve domainName methodName args with
  | error failure =>
    unfold prepare at prepared
    rw [found] at prepared
    cases prepared
  | ok resolved =>
    rw [prepare_unrouted found] at prepared
    refine ⟨resolved,rfl,?_⟩
    split at prepared
    · rename_i unset pooled
      split at prepared
      · cases prepared
      · cases prepared
        exact .inr ⟨unset,_,_,pooled,rfl⟩
    · cases prepared
      exact .inl rfl

variable {providers : List Text}

-- A dispatch for one symbol that names no source goes through the pool of its method.
theorem dispatch_routed (single : ∀ symbols, symbol ≠ .list symbols)
    (unset : callerSetSource kwargs = false) (found : resolve domainName methodName args = .ok resolved)
    (pooled : pools.lookup (buildPoolKey domainName methodName resolved.consumedSubdomain) = some providers) :
    dispatch world symbol domainName methodName args kwargs ui =
      routed world (Plan.unrouted ui domainName methodName symbol resolved kwargs)
        (buildPoolKey domainName methodName resolved.consumedSubdomain) providers ui := by
  unfold dispatch routed
  simp only [prepare_unrouted found,unset,pooled]
  cases picked : ui.router.pick (buildPoolKey domainName methodName resolved.consumedSubdomain) providers
    (world.clock ui.accesses) with
  | error failure => rfl
  | ok chosen =>
    obtain ⟨source,router⟩ := chosen
    dsimp only
    cases lookUp world ((Plan.unrouted ui domainName methodName symbol resolved kwargs).through
      (buildPoolKey domainName methodName resolved.consumedSubdomain) providers source) {ui.tick with router:=router} with
    | mk entered found =>
      obtain ⟨hit,key⟩ := found
      cases hit with
      | some data => rfl
      | none =>
        cases providers with
        | nil => cases picked
        | cons first others =>
          cases symbol with
          | list symbols => exact absurd rfl (single symbols)
          | _ => rfl

/- What failing over means. -/

-- What a provider of the pool is asked for.
def Plan.asked (plan : Plan) (poolKey : PoolKey) (providers : List Text) (source : Text) : ProviderCall :=
  (plan.through poolKey providers source).request

-- The source cools down since some moment of this call.
def Marked (world : World) (poolKey : PoolKey) (source : Text) (ui after : Interface) : Prop :=
  ∃ access, ui.accesses ≤ access ∧ ∃ rateLimit : Bool, after.router.cooldown poolKey source =
    world.clock access + if rateLimit then rateLimitCooldownSecs else cooldownSecs

structure FailsOver (world : World) (answer : ProviderCall → Except (ErrorKind × Text × Text) Data) (plan : Plan)
    (poolKey : PoolKey) (providers : List Text) (ui after : Interface) (outcome : Except Failure Data) : Prop where
  served : (∃ source ∈ providers, ∃ data, answer (plan.asked poolKey providers source) = .ok data) →
    ∃ source ∈ providers, ∃ data, answer (plan.asked poolKey providers source) = .ok data ∧ outcome = .ok data
  raised : ∀ failure, outcome = .error failure → ∃ source ∈ providers, ∃ kind text arguments,
    answer (plan.asked poolKey providers source) = .error (kind,text,arguments) ∧ failure = .provider kind text arguments
  marked : ∀ source router failure, ui.router.pick poolKey providers (world.clock ui.accesses) = .ok (source,router) →
    answer (plan.asked poolKey providers source) = .error failure → Marked world poolKey source ui after
  allMarked : ∀ failure, outcome = .error failure → ∀ source ∈ providers, Marked world poolKey source ui after

-- Each error that the pool's providers raise is worth a retry.
def Transient (answer : ProviderCall → Except (ErrorKind × Text × Text) Data) (plan : Plan) (poolKey : PoolKey)
    (providers : List Text) : Prop :=
  ∀ source ∈ providers, ∀ kind text arguments,
    answer (plan.asked poolKey providers source) = .error (kind,text,arguments) →
      isRetriable (.provider kind text arguments) = true

-- The provider whose turn it is returns data that strict validation, where the call
-- asks for it, accepts.
def FirstServes (world : World) (answer : ProviderCall → Except (ErrorKind × Text × Text) Data) (plan : Plan)
    (poolKey : PoolKey) (providers : List Text) (ui : Interface) : Prop :=
  ∃ source router data, ui.router.pick poolKey providers (world.clock ui.accesses) = .ok (source,router) ∧
    answer (plan.asked poolKey providers source) = .ok data ∧ validated world plan data = .ok data

/- The first execution decides. -/

omit [CacheHash] in
theorem through_source (plan : Plan) (poolKey : PoolKey) (providers : List Text) (source : Text) :
    (plan.through poolKey providers source).kwargs.get "source".toList = some (.str source) := by
  simp [Plan.through]

variable {source : Text} {data : Data}

theorem execute_served
    (given : plan.kwargs.get "source".toList = some (.str source)) (answered : world.answer ui.accesses plan.request = .ok data) :
    executeDispatch world plan.entry plan.domainName plan.consumedSubdomain plan.symbol plan.args plan.kwargs ui =
      ({ui.tick with productions:=ui.productions ++ [⟨plan.domainName,plan.consumedSubdomain,plan.request,data⟩]},
        (initKwargs plan.symbol plan.kwargs).2,.ok data) := by
  unfold Plan.request at answered
  unfold executeDispatch
  dsimp only
  rw [init_source,given]
  dsimp only
  rw [answered]
  rfl

variable {text arguments : Text} {kind : ErrorKind}

theorem execute_failed (given : plan.kwargs.get "source".toList = some (.str source))
    (answered : world.answer ui.accesses plan.request = .error (kind,text,arguments)) :
    executeDispatch world plan.entry plan.domainName plan.consumedSubdomain plan.symbol plan.args plan.kwargs ui =
      (ui.tick,(initKwargs plan.symbol plan.kwargs).2,.error (.provider kind text arguments)) := by
  unfold Plan.request at answered
  unfold executeDispatch
  dsimp only
  rw [init_source,given]
  dsimp only
  rw [answered]

omit [CacheHash] in
theorem validated_or (world : World) (plan : Plan) (data : Data) :
    validated world plan data = .ok data ∨ validated world plan data = .error .dataQuality := by
  unfold validated
  split
  · split
    · exact .inr rfl
    · exact .inl rfl
  · exact .inl rfl

variable {key : Option CacheHash.Digest} {remaining : Nat}

-- What a provider returned is the result, unless strict validation refuses it.
theorem attempts_answered
    (given : plan.kwargs.get "source".toList = some (.str source)) (answered : world.answer ui.accesses plan.request = .ok data) :
    (attempts world plan key remaining plan.kwargs ui).2 = validated world plan data := by
  unfold attempts
  rcases validated_or world plan data with accepted | refused
  · simp only [execute_served given answered,accepted]
  · simp only [execute_served given answered,refused]
    cases plan.pool with
    | none => rfl
    | some pool => rfl

variable {poolKey : PoolKey}

-- The handler reads the source that the executor took out of the arguments.
theorem attempts_failed
    (pooled : plan.pool = some (poolKey,providers)) (given : plan.kwargs.get "source".toList = some (.str source))
    (answered : world.answer ui.accesses plan.request = .error (kind,text,arguments))
    (transient : isRetriable (.provider kind text arguments) = true) :
    (attempts world plan key remaining plan.kwargs ui).2 = .error (.missingKey (.str "source".toList)) := by
  unfold attempts
  simp only [execute_failed given answered,pooled,transient,not_true_eq_false,if_false,rest_sourceless]

-- A routed call that misses the cache is its first execution.
theorem routed_missed (picked : ui.router.pick poolKey providers (world.clock ui.accesses) = .ok (source,router))
    (missed : (lookUp world (plan.through poolKey providers source) {ui.tick with router:=router}).2.1 = none)
    (ran : routed world plan poolKey providers ui = (after,outcome)) : ∃ entered key,
      outcome = (attempts world (plan.through poolKey providers source) key (providers.length - 1)
        (plan.through poolKey providers source).kwargs entered).2 := by
  unfold routed at ran
  rw [picked] at ran
  dsimp only at ran
  cases looked : lookUp world (plan.through poolKey providers source) {ui.tick with router:=router} with
  | mk entered found =>
    obtain ⟨hit,key⟩ := found
    rw [looked] at missed ran
    cases missed
    exact ⟨entered,key,(congrArg Prod.snd ran).symm⟩

-- The call fails over exactly where no failover is needed: each retriable error ends in
-- the handler's own missing key.
theorem failover_exactly {answer : ProviderCall → Except (ErrorKind × Text × Text) Data} {plan : Plan} {poolKey : PoolKey}
    {providers : List Text} {outcome : Except Failure Data} (settled : ∀ access call, world.answer access call = answer call)
    (transient : Transient answer plan poolKey providers)
    (missed : ∀ source router, ui.router.pick poolKey providers (world.clock ui.accesses) = .ok (source,router) →
      (lookUp world (plan.through poolKey providers source) {ui.tick with router:=router}).2.1 = none)
    (ran : routed world plan poolKey providers ui = (after,outcome)) :
    FailsOver world answer plan poolKey providers ui after outcome ↔ FirstServes world answer plan poolKey providers ui := by
  constructor
  · intro failsOver
    cases picked : ui.router.pick poolKey providers (world.clock ui.accesses) with
    | error failure =>
      unfold routed at ran
      rw [picked] at ran
      cases ran
      obtain ⟨_,_,kind,text,arguments,_,same⟩ := failsOver.raised failure rfl
      unfold ProviderRouter.pick at picked
      split at picked
      · cases picked
        cases same
      · cases picked
      · dsimp only at picked
        split at picked
        · cases picked
        · cases picked
    | ok chosen =>
      obtain ⟨source,router⟩ := chosen
      have member := ProviderRouter.pick_member picked
      obtain ⟨_,_,result⟩ := routed_missed picked (missed source router picked) ran
      have given := through_source plan poolKey providers source
      cases answered : answer (plan.asked poolKey providers source) with
      | error failure =>
        obtain ⟨kind,text,arguments⟩ := failure
        have failed := transient source member kind text arguments answered
        rw [attempts_failed rfl given ((settled _ _).trans answered) failed] at result
        obtain ⟨_,_,_,_,_,_,same⟩ := failsOver.raised _ result
        cases same
      | ok data =>
        rcases validated_or world (plan.through poolKey providers source) data with accepted | refused
        · exact ⟨source,router,data,picked,answered,accepted⟩
        · rw [attempts_answered given ((settled _ _).trans answered),refused] at result
          obtain ⟨_,_,_,_,_,_,same⟩ := failsOver.raised _ result
          cases same
  · intro serves
    obtain ⟨source,router,data,picked,answered,accepted⟩ := serves
    have member := ProviderRouter.pick_member picked
    obtain ⟨_,_,result⟩ := routed_missed picked (missed source router picked) ran
    have served : validated world (plan.through poolKey providers source) data = .ok data := accepted
    rw [attempts_answered (through_source plan poolKey providers source) ((settled _ _).trans answered),served] at result
    constructor
    · intro _
      exact ⟨source,member,data,answered,result⟩
    · intro failure raised
      rw [result] at raised
      cases raised
    · intro other _ failure same raised
      rw [picked] at same
      cases same
      rw [answered] at raised
      cases raised
    · intro failure raised
      rw [result] at raised
      cases raised

end

section
attribute [local instance] sampleHash

def unavailable : ErrorKind × Text × Text :=
  (.runtimeError,"503 Service Unavailable".toList,"503 Service Unavailable".toList)

-- KBS is down, every other source answers one bar.
def downAnswer (call : ProviderCall) : Except (ErrorKind × Text × Text) Data :=
  match call.init.get "source".toList with
  | some (.str source) => if source = "KBS".toList then .error unavailable else .ok (.frame ["bar".toList])
  | _ => .ok (.frame ["bar".toList])

def downWorld : World := {sampleWorld with answer:=fun _ => downAnswer}

def equityOhlcv : PoolKey := ["Market".toList,"equity".toList,"ohlcv".toList]

def ohlcvPlan : Plan := Plan.unrouted sampleStart "Market".toList "equity".toList (.str "FPT".toList)
  ⟨quoteOhlcv,some "ohlcv".toList,[]⟩ Kwargs.empty

theorem up_missed : ∀ source router,
    sampleStart.router.pick equityOhlcv securitySources (sampleWorld.clock sampleStart.accesses) = .ok (source,router) →
      (lookUp sampleWorld (ohlcvPlan.through equityOhlcv securitySources source) {sampleStart.tick with router:=router}).2.1 =
        none := by
  intro source router picked
  cases picked
  rfl

-- With every source up the call is served.
theorem failover_exactly_sample : FailsOver sampleWorld (fun _ => .ok (.frame ["bar".toList])) ohlcvPlan equityOhlcv securitySources
    sampleStart (routed sampleWorld ohlcvPlan equityOhlcv securitySources sampleStart).1
    (routed sampleWorld ohlcvPlan equityOhlcv securitySources sampleStart).2 := by
  apply (failover_exactly (fun _ _ => rfl) ?_ up_missed rfl).mpr
  · exact ⟨"KBS".toList,_,.frame ["bar".toList],rfl,rfl,rfl⟩
  · intro _ _ _ _ _ raised
    cases raised

-- KBS is unavailable and VCI would answer: the call ends in a missing key.
theorem failover_broken : (dispatch downWorld (.str "FPT".toList) "Market".toList "equity".toList [.str "ohlcv".toList]
      Kwargs.empty sampleStart).2 = .error (.missingKey (.str "source".toList)) ∧
    ¬ FailsOver downWorld downAnswer ohlcvPlan equityOhlcv securitySources sampleStart
      (routed downWorld ohlcvPlan equityOhlcv securitySources sampleStart).1
      (routed downWorld ohlcvPlan equityOhlcv securitySources sampleStart).2 := by
  constructor
  · rfl
  · intro failsOver
    obtain ⟨_,_,data,_,outcome⟩ := failsOver.served ⟨"VCI".toList,by decide,.frame ["bar".toList],rfl⟩
    have ended : (routed downWorld ohlcvPlan equityOhlcv securitySources sampleStart).2 =
      .error (.missingKey (.str "source".toList)) := by rfl
    rw [ended] at outcome
    cases outcome

end
end OpenStock.Providers
