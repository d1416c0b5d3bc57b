import OpenStock.Providers.StrictQuality

namespace OpenStock.Providers
open Text

/- Options that have the same effect. -/

def Plan.usesCache (plan : Plan) : Bool :=
  match plan.useCache with
  | .bool false => false
  | _ => true

-- The mode in which a result is validated, where it is validated at all.
def Plan.validation (plan : Plan) : Option Value :=
  match inferDatasetType plan.domainName plan.methodName plan.consumedSubdomain,plan.check.truthy with
  | some _,true =>
    match plan.qualityMode with
    | .str mode => if mode = "off".toList then none else some (.str mode)
    | mode => some mode
  | _,_ => none

theorem validated_by (world : World) (plan : Plan) (data : Data) : validated world plan data = match data,plan.validation with
    | .frame rows,some (.str mode) =>
      if mode = "strict".toList ∧ plan.refuses world rows = true then .error .dataQuality else .ok data
    | _,_ => .ok data := by
  unfold validated Plan.validation
  cases data with
  | frame rows =>
    cases mode : plan.qualityMode with
    | str text =>
      cases typed : inferDatasetType plan.domainName plan.methodName plan.consumedSubdomain with
      | none => simp [Plan.refuses,typed]
      | some dataset =>
        cases checked : plan.check.truthy with
        | false => simp
        | true =>
          by_cases off : text = "off".toList
          · simp [off]
          · simp only [if_neg off,Bool.true_and,Bool.and_eq_true,decide_eq_true_eq]
    | _ =>
      cases inferDatasetType plan.domainName plan.methodName plan.consumedSubdomain <;>
        cases plan.check.truthy <;> rfl
  | _ => rfl

section
variable [CacheHash]

structure SamePlan (left right : Plan) : Prop where
  domainName : left.domainName = right.domainName
  methodName : left.methodName = right.methodName
  entry : left.entry = right.entry
  consumedSubdomain : left.consumedSubdomain = right.consumedSubdomain
  symbol : left.symbol = right.symbol
  args : left.args = right.args
  kwargs : left.kwargs = right.kwargs
  cache : left.usesCache = right.usesCache
  ttl : ∀ ui : Interface, left.ttl ui = right.ttl ui
  validation : left.validation = right.validation
  pool : left.pool = right.pool

variable {world : World} {ui : Interface} {left right : Plan}

theorem SamePlan.cacheKey (same : SamePlan left right) : left.cacheKey = right.cacheKey := by
  unfold Plan.cacheKey Plan.subdomain
  rw [same.kwargs,same.entry,same.symbol,same.args,same.domainName,same.consumedSubdomain]

variable {plan : Plan}

theorem lookUp_unused (unused : plan.usesCache = false) : lookUp world plan ui = (ui,none,none) := by
  have off : plan.useCache = .bool false := by
    unfold Plan.usesCache at unused
    split at unused
    · assumption
    · cases unused
  unfold lookUp
  rw [off]

theorem lookUp_used (used : plan.usesCache = true) : lookUp world plan ui = lookUp world {plan with useCache:=.none} ui := by
  have on : plan.useCache ≠ .bool false := by
    intro off
    unfold Plan.usesCache at used
    rw [off] at used
    cases used
  unfold lookUp
  split
  · rename_i off
    exact absurd off on
  · rfl

theorem SamePlan.lookUp (same : SamePlan left right) : lookUp world left ui = lookUp world right ui := by
  cases used : left.usesCache with
  | false => rw [lookUp_unused used,lookUp_unused (same.cache.symm.trans used)]
  | true =>
    rw [lookUp_used used,lookUp_used (same.cache.symm.trans used)]
    have key : Plan.cacheKey {left with useCache:=.none} = Plan.cacheKey {right with useCache:=.none} := same.cacheKey
    unfold OpenStock.Providers.lookUp
    rw [key]

theorem SamePlan.store (same : SamePlan left right) (key : Option CacheHash.Digest) (data : Data) :
    store world left key data ui = store world right key data ui := by
  unfold OpenStock.Providers.store
  rw [same.ttl]

theorem SamePlan.validated (same : SamePlan left right) (data : Data) : validated world left data = validated world right data := by
  have refuses : ∀ rows, left.refuses world rows = right.refuses world rows := by
    intro rows
    unfold Plan.refuses
    rw [same.domainName,same.methodName,same.consumedSubdomain]
  rw [validated_by,validated_by,same.validation]
  simp only [refuses]

theorem SamePlan.attempts (same : SamePlan left right) (key : Option CacheHash.Digest) (remaining : Nat) (kwargs : Kwargs) :
    attempts world left key remaining kwargs ui = attempts world right key remaining kwargs ui := by
  induction remaining generalizing kwargs ui with
  | zero =>
    unfold OpenStock.Providers.attempts
    simp only [same.entry,same.domainName,same.consumedSubdomain,same.symbol,same.args,same.pool,same.store,same.validated]
  | succ remaining ih =>
    unfold OpenStock.Providers.attempts
    simp only [same.entry,same.domainName,same.consumedSubdomain,same.symbol,same.args,same.pool,same.store,same.validated,ih]

/- The call that a fan-out makes. -/

def Call.prepare (world : World) (call : Call) (ui : Interface) : Interface × Except Failure Plan :=
  OpenStock.Providers.prepare world call.domainName call.methodName call.symbol call.args call.kwargs ui

def SamePrepared : Interface × Except Failure Plan → Interface × Except Failure Plan → Prop
  | (left,.ok plan),(right,.ok other) => left = right ∧ SamePlan plan other
  | (left,.error failure),(right,.error other) => left = right ∧ failure = other
  | _,_ => False

-- From every state: the same entry and arguments, the same use of the cache and the same
-- TTL, the same validation, the same rotation.
def SameCall (world : World) (left right : Call) : Prop :=
  ∀ ui, SamePrepared (left.prepare world ui) (right.prepare world ui)

theorem perform_same {left right : Call} (same : SameCall world left right) (symbol : left.symbol = right.symbol)
    (domain : left.domainName = right.domainName) (method : left.methodName = right.methodName) :
    left.perform world ui = right.perform world ui := by
  have prepared := same ui
  unfold Call.prepare at prepared
  unfold Call.perform dispatch
  cases first : OpenStock.Providers.prepare world left.domainName left.methodName left.symbol left.args left.kwargs ui with
  | mk ready result =>
    cases second : OpenStock.Providers.prepare world right.domainName right.methodName right.symbol right.args right.kwargs
        ui with
    | mk other answer =>
      rw [first,second] at prepared
      cases result with
      | error failure =>
        cases answer with
        | error raised =>
          obtain ⟨rfl,rfl⟩ := prepared
          rfl
        | ok plan => cases prepared
      | ok plan =>
        cases answer with
        | error raised => cases prepared
        | ok direct =>
          obtain ⟨rfl,alike⟩ := prepared
          simp only [alike.lookUp,alike.attempts,alike.args,alike.kwargs,alike.pool,symbol,domain,method]

-- What the list call passes on for one of its symbols.
def Call.passed (call : Call) (plan : Plan) (symbol : Value) : Call :=
  ⟨symbol,call.domainName,call.methodName,plan.args,plan.kwargs⟩

-- The call with the caller's own options for one symbol.
def Call.one (call : Call) (symbol : Value) : Call := {call with symbol:=symbol}

def collected (fanned : Interface × Except Failure (List Data)) : Interface × Except Failure Data :=
  match fanned with
  | (ui,.error failure) => (ui,.error failure)
  | (ui,.ok results) => (ui,gathered results)

-- One call per symbol, in list order.
structure AsEach (world : World) (call : Call) (symbols : List Value) (ui ready : Interface) (plan : Plan) : Prop where
  missed : (lookUp world plan ready).2.1 = none
  calls : ∀ symbol ∈ symbols, SameCall world (call.passed plan symbol) (call.one symbol)
  ordered : call.perform world ui =
    collected (dispatchEach world symbols call.domainName call.methodName call.args call.kwargs (lookUp world plan ready).1)

variable {domainName methodName : Text} {symbols : List Value}

theorem dispatchEach_same {args others : List Value} {kwargs own : Kwargs} (same : ∀ symbol ∈ symbols,
      SameCall world ⟨symbol,domainName,methodName,args,kwargs⟩ ⟨symbol,domainName,methodName,others,own⟩) :
    dispatchEach world symbols domainName methodName args kwargs ui =
      dispatchEach world symbols domainName methodName others own ui := by
  induction symbols generalizing ui with
  | nil => rfl
  | cons symbol symbols ih =>
    have first : dispatch world symbol domainName methodName args kwargs ui =
        dispatch world symbol domainName methodName others own ui :=
      perform_same (same symbol (.head _)) rfl rfl rfl
    have rest := fun ui => @ih ui (fun symbol inside => same symbol (.tail _ inside))
    unfold dispatchEach
    simp only [first,rest]

variable {ready : Interface} {call : Call}

theorem perform_list (listed : call.symbol = .list symbols)
    (prepared : call.prepare world ui = (ready,.ok plan)) (missed : (lookUp world plan ready).2.1 = none) :
    call.perform world ui = collected (dispatchEach world symbols call.domainName call.methodName plan.args plan.kwargs
      (lookUp world plan ready).1) := by
  unfold Call.prepare at prepared
  unfold Call.perform dispatch
  rw [prepared]
  dsimp only
  cases looked : lookUp world plan ready with
  | mk entered found =>
    obtain ⟨hit,key⟩ := found
    rw [looked] at missed
    cases missed
    simp only [listed]
    rfl

/- When the options survive the fan-out. -/

def explicitTtl : Value → Option Int
  | .int ttl => some ttl
  | .bool ttl => some (if ttl then 1 else 0)
  | _ => none

-- The method is not nested in a sub-domain, no pool stands behind an unnamed source, the
-- cache is used, and for no other time than the default.
structure PassesOn (call : Call) (resolved : Resolved) : Prop where
  leaf : resolved.consumedSubdomain = none
  unrotated : callerSetSource call.kwargs = true ∨ pools.lookup (buildPoolKey call.domainName call.methodName none) = none
  cached : call.kwargs.get "use_cache".toList ≠ some (.bool false)
  ttl : ∀ ttl, explicitTtl ((call.kwargs.get "cache_ttl".toList).getD .none) = some ttl →
    ttl = getDefaultTtl call.domainName [] resolved.entry.functionName

omit [CacheHash] in
theorem usesCache_iff (plan : Plan) : plan.usesCache = true ↔ plan.useCache ≠ .bool false := by
  unfold Plan.usesCache
  split
  · rename_i off
    simp [off]
  · rename_i other
    simpa using other

theorem ttl_by (plan : Plan) (ui : Interface) : plan.ttl ui = (explicitTtl plan.cacheTtl).getD
    (if getDefaultTtl plan.domainName plan.subdomain plan.entry.functionName > 0 then
      getDefaultTtl plan.domainName plan.subdomain plan.entry.functionName else ui.cache.ttl) := by
  unfold Plan.ttl explicitTtl
  cases plan.cacheTtl <;> rfl

omit [CacheHash] in
theorem default_ttl (domainName subdomain : Text) (listed : entry ∈ registered) :
    getDefaultTtl domainName subdomain entry.functionName = 3600 := by
  have known : lower entry.functionName ∈ intradayMethods ∨
      lower entry.functionName ∉ intradayMethods ∧ lower entry.functionName ∈ marketMethods := by
    have all : ∀ entry ∈ registered, lower entry.functionName ∈ intradayMethods ∨
        lower entry.functionName ∉ intradayMethods ∧ lower entry.functionName ∈ marketMethods := by decide
    exact all entry listed
  unfold getDefaultTtl
  rcases known with intraday | ⟨other,market⟩
  · simp only [if_pos intraday]
    rfl
  · simp only [if_neg other,if_pos market]
    rfl

variable {resolved : Resolved} {args : List Value}

omit [CacheHash] in
-- A leaf passes its positional arguments on whole.
theorem resolve_leaf (found : resolve domainName methodName args = .ok resolved) (leaf : resolved.consumedSubdomain = none) :
    resolved.args = args ∧ inferDatasetType domainName methodName none = none := by
  have unmapped : ∀ domain ∈ registry, ∀ method ∈ domain.2, inferDatasetType domain.1 method.1 none = none := by decide
  unfold resolve at found
  split at found
  · cases found
  · rename_i entry read
    cases found
    obtain ⟨domain,inRegistry,inDomain⟩ := Option.bind_eq_some_iff.mp read
    exact ⟨rfl,unmapped _ (lookup_member inRegistry) _ (lookup_member inDomain)⟩
  · split at found
    · cases found
    · split at found
      · cases found
      · split at found
        · split at found
          · cases found
            cases leaf
          · cases found
        · cases found

def optionNames : List Text := ["use_cache".toList,"cache_ttl".toList,"validate".toList,"quality_mode".toList]

theorem unrouted_kwargs (ui : Interface) (domainName methodName : Text) (symbol : Value) (resolved : Resolved) (kwargs : Kwargs) :
    (Plan.unrouted ui domainName methodName symbol resolved kwargs).kwargs =
      (sourced resolved.entry kwargs).without optionNames := by
  simp only [Plan.unrouted,Kwargs.pop,Kwargs.without,List.filter_filter]
  congr 1
  apply List.filter_congr
  intro item _
  simp only [optionNames,List.mem_cons,List.not_mem_nil,or_false,not_or,← Bool.decide_and]
  rw [decide_eq_decide]
  constructor
  all_goals
    rintro ⟨first,second,third,fourth⟩
    exact ⟨fourth,third,second,first⟩

omit [CacheHash] in
theorem sourced_source (entry : RegistryEntry) (kwargs : Kwargs) : ∃ source, source ≠ Value.none ∧
    (sourced entry kwargs).get "source".toList = some source := by
  unfold sourced
  by_cases given : callerSetSource kwargs = true
  · rw [if_pos given]
    unfold callerSetSource at given
    cases named : kwargs.get "source".toList with
    | none =>
      rw [named] at given
      cases given
    | some source =>
      refine ⟨source,?_,rfl⟩
      intro absent
      rw [named,absent] at given
      cases given
  · rw [if_neg given,Kwargs.get_set]
    exact ⟨.str entry.source,(by intro absent; cases absent),rfl⟩

-- The arguments that a fan-out passes on name a source and hold no option.
structure Spent (kwargs : Kwargs) : Prop where
  explicit : callerSetSource kwargs = true
  spent : ∀ name ∈ optionNames, kwargs.get name = none

theorem unrouted_spent (ui : Interface) (domainName methodName : Text) (symbol : Value) (resolved : Resolved) (kwargs : Kwargs) :
    Spent (Plan.unrouted ui domainName methodName symbol resolved kwargs).kwargs := by
  rw [unrouted_kwargs]
  constructor
  · obtain ⟨source,given,named⟩ := sourced_source resolved.entry kwargs
    unfold callerSetSource
    rw [Kwargs.get_without _ (by decide),named]
    cases source with
    | none => exact absurd rfl given
    | _ => rfl
  · intro name listed
    exact Kwargs.get_removed _ listed

variable {kwargs : Kwargs}

-- So they are passed on unchanged.
theorem Spent.unrouted (spent : Spent kwargs) (ui : Interface) (domainName methodName : Text) (symbol : Value)
    (resolved : Resolved) : (Plan.unrouted ui domainName methodName symbol resolved kwargs).kwargs = kwargs := by
  rw [unrouted_kwargs,sourced,if_pos spent.explicit]
  exact Kwargs.without_absent kwargs spent.spent

omit [CacheHash] in
theorem Spent.through (spent : Spent kwargs) (source : Text) : Spent (kwargs.set "source".toList (.str source)) := by
  constructor
  · unfold callerSetSource
    rw [Kwargs.get_set]
  · intro name listed
    have other : name ≠ "source".toList := by
      have apart : ∀ name ∈ optionNames, name ≠ "source".toList := by decide
      exact apart name listed
    rw [Kwargs.get_set_other _ _ other]
    exact spent.spent name listed

theorem prepare_spent (prepared : call.prepare world ui = (ready,.ok plan)) : Spent plan.kwargs := by
  obtain ⟨resolved,_,unrouted | ⟨_,providers,source,_,routed⟩⟩ := prepare_origin prepared
  · rw [unrouted]
    exact unrouted_spent _ _ _ _ _ _
  · rw [routed]
    exact (unrouted_spent _ _ _ _ _ _).through source

theorem prepare_unpooled (world : World) (ui : Interface) {call : Call} {resolved : Resolved}
    (found : resolve call.domainName call.methodName call.args = .ok resolved) (unrotated : callerSetSource call.kwargs = true ∨
      pools.lookup (buildPoolKey call.domainName call.methodName resolved.consumedSubdomain) = none) : call.prepare world ui =
      (ui,.ok (Plan.unrouted ui call.domainName call.methodName call.symbol resolved call.kwargs)) := by
  unfold Call.prepare
  rw [prepare_unrouted found]
  rcases unrotated with explicit | unpooled
  · rw [explicit]
  · rw [unpooled]
    cases callerSetSource call.kwargs <;> rfl

-- A single symbol is prepared like the list.
theorem prepare_one (symbol : Value) (prepared : call.prepare world ui = (ready,.ok plan)) :
    (call.one symbol).prepare world ui = (ready,.ok {plan with symbol:=symbol}) := by
  unfold Call.prepare Call.one at *
  obtain ⟨resolved,found,_⟩ := prepare_origin prepared
  rw [prepare_unrouted found] at prepared
  rw [prepare_unrouted found]
  dsimp only
  cases unset : callerSetSource call.kwargs with
  | true =>
    rw [unset] at prepared
    cases prepared
    rfl
  | false =>
    cases pooled : pools.lookup (buildPoolKey call.domainName call.methodName resolved.consumedSubdomain) with
    | none =>
      rw [unset,pooled] at prepared
      cases prepared
      rfl
    | some providers =>
      rw [unset,pooled] at prepared
      dsimp only at prepared ⊢
      cases picked : ui.router.pick (buildPoolKey call.domainName call.methodName resolved.consumedSubdomain) providers
        (world.clock ui.accesses) with
      | error failure =>
        rw [picked] at prepared
        cases prepared
      | ok chosen =>
        rw [picked] at prepared
        cases prepared
        rfl

-- Without options the cache is used, for the default time.
theorem spent_effects (carried : Carries call ui resolved plan)
    (listed : resolved.entry ∈ registered) (spent : Spent call.kwargs) : plan.usesCache = true ∧
      ∀ state : Interface, plan.ttl state = getDefaultTtl plan.domainName plan.subdomain plan.entry.functionName := by
  constructor
  · rw [usesCache_iff,carried.useCache,spent.spent _ (by decide)]
    simp
  · intro state
    rw [ttl_by,carried.cacheTtl,spent.spent _ (by decide),carried.entry,default_ttl _ _ listed]
    rfl

omit [CacheHash] in
theorem unmapped_validation (unmapped : inferDatasetType plan.domainName plan.methodName plan.consumedSubdomain = none) :
    plan.validation = none := by
  unfold Plan.validation
  rw [unmapped]

-- Options that survive mean the same for the passed call.
theorem passes_calls
    (found : resolve call.domainName call.methodName call.args = .ok resolved) (passes : PassesOn call resolved)
    (prepared : call.prepare world ui = (ready,.ok plan)) (symbol : Value) :
    SameCall world (call.passed plan symbol) (call.one symbol) := by
  have listed := resolve_registered found
  obtain ⟨whole,unmapped⟩ := resolve_leaf found passes.leaf
  have unrotated : callerSetSource call.kwargs = true ∨
      pools.lookup (buildPoolKey call.domainName call.methodName resolved.consumedSubdomain) = none := by
    rw [passes.leaf]
    exact passes.unrotated
  have spent := prepare_spent prepared
  have own : plan.args = resolved.args ∧ plan.kwargs = (sourced resolved.entry call.kwargs).without optionNames := by
    rw [prepare_unpooled world ui found unrotated] at prepared
    cases prepared
    exact ⟨rfl,unrouted_kwargs _ _ _ _ _ _⟩
  have again : resolve call.domainName call.methodName plan.args = .ok resolved := by
    rw [own.1,whole]
    exact found
  intro state
  have passed := @unrouted_carries _ state (call.passed plan symbol) resolved again
  have direct := @unrouted_carries _ state (call.one symbol) resolved found
  obtain ⟨used,ttl⟩ := spent_effects passed listed spent
  have first := @prepare_unpooled _ world state (call.passed plan symbol) resolved again (.inl spent.explicit)
  have second := @prepare_unpooled _ world state (call.one symbol) resolved found unrotated
  rw [first,second]
  refine ⟨rfl,rfl,rfl,rfl,rfl,rfl,rfl,?_,?_,?_,?_,rfl⟩
  · rw [unrouted_kwargs state (call.one symbol).domainName]
    exact (spent.unrouted _ _ _ _ _).trans own.2
  · rw [used,eq_comm,usesCache_iff,direct.useCache]
    intro off
    apply passes.cached
    cases given : call.kwargs.get "use_cache".toList with
    | none =>
      simp only [Call.one,given] at off
      cases off
    | some value =>
      simp only [Call.one,given,Option.getD_some] at off
      rw [off]
  · intro other
    rw [ttl other,ttl_by,direct.cacheTtl]
    have same := passes.ttl
    rw [default_ttl _ _ listed] at same
    have standard : ∀ subdomain, getDefaultTtl call.domainName subdomain resolved.entry.functionName = 3600 :=
      fun subdomain => default_ttl _ _ listed
    cases given : explicitTtl ((call.kwargs.get "cache_ttl".toList).getD .none) with
    | none =>
      have plain : explicitTtl (((call.one symbol).kwargs.get "cache_ttl".toList).getD .none) = none := given
      rw [plain]
      show getDefaultTtl call.domainName _ resolved.entry.functionName =
        if getDefaultTtl call.domainName _ resolved.entry.functionName > 0 then
          getDefaultTtl call.domainName _ resolved.entry.functionName else _
      rw [standard,standard]
      rfl
    | some explicit =>
      have plain : explicitTtl (((call.one symbol).kwargs.get "cache_ttl".toList).getD .none) = some explicit := given
      rw [plain,Option.getD_some,same explicit given]
      exact standard _
  · have left : inferDatasetType call.domainName call.methodName resolved.consumedSubdomain = none := by
      rw [passes.leaf]
      exact unmapped
    rw [unmapped_validation,unmapped_validation]
    · exact left
    · exact left

omit [CacheHash] in
-- A sub-domain takes the first positional argument.
theorem resolve_nested (nested : node domainName methodName = some (.nested methods))
    (found : resolve domainName methodName args = .ok resolved) : args.length = resolved.args.length + 1 := by
  unfold resolve at found
  rw [nested] at found
  cases args with
  | nil => cases found
  | cons actual rest =>
    dsimp only at found
    split at found
    · cases found
    · split at found
      · split at found
        · cases found
          rfl
        · cases found
      · cases found

omit [CacheHash] in
theorem resolve_consumed {domainName methodName name : Text}
    (found : resolve domainName methodName args = .ok resolved) (consumed : resolved.consumedSubdomain = some name) :
    ∃ methods, node domainName methodName = some (.nested methods) := by
  unfold resolve at found
  split at found
  · cases found
  · cases found
    cases consumed
  · rename_i methods read
    exact ⟨methods,read⟩

-- A passed call that means the same: its options survived.
theorem calls_pass (found : resolve call.domainName call.methodName call.args = .ok resolved)
    (prepared : call.prepare world ui = (ready,.ok plan))
    (same : SameCall world (call.passed plan symbol) (call.one symbol)) : PassesOn call resolved := by
  have spent := prepare_spent prepared
  have carried := prepare_carries prepared
  obtain ⟨own,carried⟩ := carried
  have owned : own = resolved := by
    have twice := carried.found.symm.trans found
    cases twice
    rfl
  subst owned
  have direct := prepare_one symbol prepared
  have here := same ui
  rw [direct] at here
  cases passed : (call.passed plan symbol).prepare world ui with
  | mk other result =>
    rw [passed] at here
    cases result with
    | error failure => cases here
    | ok again =>
      obtain ⟨_,alike⟩ := here
      obtain ⟨resolution,carriedAgain⟩ := prepare_carries passed
      obtain ⟨used,ttl⟩ := spent_effects carriedAgain (resolve_registered carriedAgain.found) spent
      have leaf : own.consumedSubdomain = none := by
        cases consumed : own.consumedSubdomain with
        | none => rfl
        | some name =>
          obtain ⟨methods,nested⟩ := resolve_consumed found consumed
          have shorter : plan.args.length = resolution.args.length + 1 := resolve_nested nested carriedAgain.found
          have equal : again.args = plan.args := alike.args
          rw [carriedAgain.args] at equal
          rw [equal] at shorter
          omega
      constructor
      · exact leaf
      · rw [← leaf]
        cases unset : callerSetSource call.kwargs with
        | true => exact .inl rfl
        | false =>
          cases pooled : pools.lookup (buildPoolKey call.domainName call.methodName own.consumedSubdomain) with
          | none => exact .inr rfl
          | some providers =>
            have unpooled := @prepare_unpooled _ world ui (call.passed plan symbol) resolution carriedAgain.found
              (.inl spent.explicit)
            rw [passed] at unpooled
            cases unpooled
            have pool : plan.pool = none := alike.pool.symm
            rw [Call.prepare,prepare_unrouted found,unset,pooled] at prepared
            dsimp only at prepared
            split at prepared
            · cases prepared
            · cases prepared
              cases pool
      · intro off
        have cached : plan.usesCache = true := alike.cache.symm.trans used
        rw [usesCache_iff,carried.useCache,off] at cached
        exact cached rfl
      · intro explicit given
        have equal : plan.ttl ui = again.ttl ui := (alike.ttl ui).symm
        rw [ttl ui,carriedAgain.entry,default_ttl _ _ (resolve_registered carriedAgain.found),ttl_by,carried.cacheTtl,given]
          at equal
        rw [default_ttl _ _ (resolve_registered found)]
        exact equal

end

section
attribute [local instance] sampleHash

def listedKwargs (name : Text) (value : Value) : Kwargs := (Kwargs.empty.set "source".toList (.str "KBS".toList)).set name value

def listCall (kwargs : Kwargs) : Call :=
  ⟨.list [.str "FPT".toList,.str "VNM".toList],"equity_market".toList,"ohlcv".toList,[],kwargs⟩

def leafOhlcv : Resolved := ⟨quoteOhlcv,none,[]⟩

def hourCall : Call := listCall (listedKwargs "cache_ttl".toList (.int 3600))

def freshCall : Call := listCall (listedKwargs "use_cache".toList (.bool false))

def listPlan (call : Call) : Plan :=
  Plan.unrouted sampleStart call.domainName call.methodName call.symbol leafOhlcv call.kwargs

theorem hour_passes : PassesOn hourCall leafOhlcv := by
  refine ⟨rfl,.inl rfl,?_,?_⟩
  · intro off
    cases off
  · intro explicit given
    cases given
    rfl

end
end OpenStock.Providers
