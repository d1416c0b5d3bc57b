import OpenStock.Providers.Dispatch

namespace OpenStock.Providers
open Text

/- What an execution does to the keyword arguments. -/

variable (state : Kwargs × Kwargs) (param : Text)

theorem popped_rest : (popped state param).2 = state.2.without [param] := by
  unfold popped
  cases found : state.2.get param with
  | some value => rfl
  | none =>
    apply (Kwargs.without_absent state.2 ?_).symm
    intro key listed
    rw [List.mem_singleton.mp listed,found]

theorem popped_self : (popped state param).1.get param = (state.2.get param).or (state.1.get param) := by
  unfold popped
  cases state.2.get param <;> simp

theorem popped_other {param other : Text} (differs : other ≠ param) : (popped state param).1.get other = state.1.get other := by
  unfold popped
  cases state.2.get param with
  | none => rfl
  | some value => exact Kwargs.get_set_other _ _ differs

theorem initKwargs_pops (symbol : Value) (kwargs : Kwargs) : initKwargs symbol kwargs =
    popped (popped (popped (Kwargs.empty.set "symbol".toList symbol,kwargs) "source".toList) "random_agent".toList)
      "show_log".toList := by
  have symbolTaken : ∀ state, takeParameter symbol state "symbol".toList = (state.1.set "symbol".toList symbol,state.2) := by
    intro state
    rw [takeParameter,if_neg (by decide),if_pos (by decide)]
  have idSkipped : ∀ state, takeParameter symbol state "symbol_id".toList = state := by
    intro state
    rw [takeParameter,if_pos (by decide)]
  have sourceTaken : ∀ state, takeParameter symbol state "source".toList = popped state "source".toList := by
    intro state
    rw [takeParameter,if_neg (by decide),if_neg (by decide)]
  have agentTaken : ∀ state, takeParameter symbol state "random_agent".toList = popped state "random_agent".toList := by
    intro state
    rw [takeParameter,if_neg (by decide),if_neg (by decide)]
  have logTaken : ∀ state, takeParameter symbol state "show_log".toList = popped state "show_log".toList := by
    intro state
    rw [takeParameter,if_neg (by decide),if_neg (by decide)]
  simp only [initKwargs,List.foldl_cons,List.foldl_nil,symbolTaken,idSkipped,sourceTaken,agentTaken,logTaken]

theorem init_source (symbol : Value) (kwargs : Kwargs) :
    (initKwargs symbol kwargs).1.get "source".toList = kwargs.get "source".toList := by
  rw [initKwargs_pops,popped_other _ (by decide),popped_other _ (by decide),popped_self,
    Kwargs.get_set_other _ _ (by decide)]
  simp [Kwargs.get,Kwargs.empty]

theorem init_symbol (symbol : Value) (kwargs : Kwargs) : (initKwargs symbol kwargs).1.get "symbol".toList = some symbol := by
  rw [initKwargs_pops,popped_other _ (by decide),popped_other _ (by decide),popped_other _ (by decide),Kwargs.get_set]

theorem init_rest (symbol : Value) (kwargs : Kwargs) : (initKwargs symbol kwargs).2 =
    ((kwargs.without ["source".toList]).without ["random_agent".toList]).without ["show_log".toList] := by
  rw [initKwargs_pops,popped_rest,popped_rest,popped_rest]

-- The source is gone after an execution, whatever it returned.
theorem rest_sourceless (symbol : Value) (kwargs : Kwargs) : (initKwargs symbol kwargs).2.get "source".toList = none := by
  rw [init_rest,Kwargs.get_without _ (by decide),Kwargs.get_without _ (by decide),Kwargs.get_removed _ (by decide)]

theorem rest_controls (symbol : Value) (kwargs : Kwargs) :
    (initKwargs symbol kwargs).2.without controlNames = kwargs.without controlNames := by
  rw [init_rest]
  simp only [Kwargs.without,List.filter_filter]
  congr 1
  apply List.filter_congr
  intro item _
  by_cases inside : item.1 ∈ controlNames
  · simp [inside]
  · have outside := inside
    simp only [controlNames,List.mem_cons,List.not_mem_nil,or_false,not_or] at outside
    simp [inside]
    exact ⟨outside.2.2,outside.2.1,outside.1⟩

theorem without_twice (kwargs : Kwargs) (keys : List Text) : (kwargs.without keys).without keys = kwargs.without keys := by
  simp [Kwargs.without,List.filter_filter]

/- What the log says of an entry. -/

def Production.source (production : Production) : Option Value := production.call.init.get "source".toList

def ProviderCall.symbol (call : ProviderCall) : Value := (call.init.get "symbol".toList).getD .none

def ProviderCall.keyed (call : ProviderCall) : Kwargs := keyedArguments call.symbol call.args call.kwargs

def registered : List RegistryEntry := [quoteOhlcv,quoteIntraday,tradingPriceBoard]

def Node.entries : Node → List RegistryEntry
  | .leaf entry => [entry]
  | .nested methods => methods.map Prod.snd

theorem lookup_member [BEq κ] [LawfulBEq κ] {entries : List (κ × ν)}
    (found : entries.lookup key = some value) : (key,value) ∈ entries := by
  obtain ⟨front,back,split,_⟩ := List.lookup_eq_some_iff.mp found
  simp [split]

theorem registry_registered : ∀ domain ∈ registry, ∀ method ∈ domain.2, ∀ entry ∈ method.2.entries, entry ∈ registered := by
  decide

theorem node_registered {found : Node} (read : node domainName methodName = some found) :
    ∀ entry ∈ found.entries, entry ∈ registered := by
  obtain ⟨domain,inRegistry,inDomain⟩ := Option.bind_eq_some_iff.mp read
  exact registry_registered _ (lookup_member inRegistry) _ (lookup_member inDomain)

theorem resolve_registered {resolved : Resolved}
    (found : resolve domainName methodName args = .ok resolved) : resolved.entry ∈ registered := by
  unfold resolve at found
  split at found
  · cases found
  · rename_i entry read
    cases found
    exact node_registered read entry (List.mem_singleton.mpr rfl)
  · rename_i methods read
    split at found
    · cases found
    · split at found
      · cases found
      · split at found
        · split at found
          · rename_i entry named
            cases found
            exact node_registered read entry (List.mem_map.mpr ⟨_,lookup_member named,rfl⟩)
          · cases found
        · cases found

-- One function name, one class.
theorem registered_function (left : first ∈ registered) (right : second ∈ registered)
    (same : first.functionName = second.functionName) : first = second := by
  have all : ∀ first ∈ registered, ∀ second ∈ registered, first.functionName = second.functionName → first = second := by
    decide
  exact all first left second right same

-- The same method of the same class, with keyed arguments that print alike.
structure SameRequest (made asked : ProviderCall) : Prop where
  subModule : made.subModule = asked.subModule
  className : made.className = asked.className
  functionName : made.functionName = asked.functionName
  keyed : ∀ name, (made.keyed.get name).bind Value.printed = (asked.keyed.get name).bind Value.printed

section
variable [CacheHash]

def Production.cacheKey (production : Production) : Option CacheHash.Digest :=
  makeCacheKey (production.source.getD (.str [])) production.call.functionName production.call.keyed
    production.domainName (production.subdomain.getD [])

-- The entry holds what some production returned, under that production's own key.
def Produced (productions : List Production) (entry : Entry) : Prop :=
  ∃ production ∈ productions, production.cacheKey = some entry.key ∧ production.data = entry.value

-- A production came from a registry entry and a named source.
structure Registered (production : Production) : Prop where
  entry : ∃ entry ∈ registered, production.call.subModule = entry.subModule ∧
    production.call.className = entry.className ∧ production.call.functionName = entry.functionName
  named : ∃ name, production.source = some (.str name)

structure Honest (ui : Interface) : Prop where
  produced : ∀ entry ∈ ui.cache.entries, Produced ui.productions entry
  registered : ∀ production ∈ ui.productions, Registered production

variable {entry : Entry}

theorem Produced.mono {before after : List Production} (grows : ∀ production ∈ before, production ∈ after)
    (produced : Produced before entry) : Produced after entry := by
  obtain ⟨production,inside,key,data⟩ := produced
  exact ⟨production,grows production inside,key,data⟩

-- Fewer entries over the same log.
theorem Honest.shrink {before after : Interface} (honest : Honest before) (entries : after.cache.entries ⊆ before.cache.entries)
    (log : after.productions = before.productions) : Honest after := by
  constructor
  · intro entry inside
    rw [log]
    exact honest.produced entry (entries inside)
  · rw [log]
    exact honest.registered

/- Each phase keeps the invariant. -/

variable {world : World} {ui after : Interface}

theorem execute_log {entry : RegistryEntry} {domainName : Text} {subdomain : Option Text} {symbol : Value} {args : List Value}
    {kwargs rest : Kwargs} {outcome : Except Failure Data}
    (ran : executeDispatch world entry domainName subdomain symbol args kwargs ui = (after,rest,outcome)) :
    rest = (initKwargs symbol kwargs).2 ∧ after.cache = ui.cache ∧ match outcome with
      | .ok data => ∃ name, kwargs.get "source".toList = some (.str name) ∧ after.productions = ui.productions ++
          [⟨domainName,subdomain,⟨entry.subModule,entry.className,entry.functionName,(initKwargs symbol kwargs).1,args,
            (initKwargs symbol kwargs).2.without controlNames⟩,data⟩]
      | .error _ => after.productions = ui.productions := by
  unfold executeDispatch at ran
  dsimp only at ran
  rw [init_source] at ran
  split at ran
  · rename_i name given
    split at ran
    · cases ran
      exact ⟨rfl,rfl,name,given,rfl⟩
    · cases ran
      exact ⟨rfl,rfl,rfl⟩
  · cases ran
    exact ⟨rfl,rfl,rfl⟩

-- No attempt is ever repeated: the handler that would choose the next source finds
-- none to mark as failed.
theorem attempts_log {plan : Plan} {key : Option CacheHash.Digest} {remaining : Nat} {kwargs : Kwargs}
    {outcome : Except Failure Data} (ran : attempts world plan key remaining kwargs ui = (after,outcome)) :
    ∃ executed rest answered,
      executeDispatch world plan.entry plan.domainName plan.consumedSubdomain plan.symbol plan.args kwargs ui =
        (executed,rest,answered) ∧ match answered with
      | .ok data => after.cache = (store world plan key data executed).cache ∧
          after.productions = (store world plan key data executed).productions
      | .error _ => after.cache = executed.cache ∧ after.productions = executed.productions := by
  unfold attempts at ran
  cases execution : executeDispatch world plan.entry plan.domainName plan.consumedSubdomain plan.symbol plan.args kwargs ui with
  | mk executed others =>
    obtain ⟨rest,answered⟩ := others
    refine ⟨executed,rest,answered,rfl,?_⟩
    have sourceless : rest.get "source".toList = none := by
      rw [(execute_log execution).1]
      exact rest_sourceless _ _
    simp only [execution,sourceless] at ran
    cases answered with
    | error failure =>
      dsimp only at ran ⊢
      split at ran
      · rename_i impossible
        cases impossible
      · cases ran
        exact ⟨rfl,rfl⟩
      · split at ran
        all_goals
          cases ran
          exact ⟨rfl,rfl⟩
    | ok data =>
      dsimp only at ran ⊢
      split at ran
      · cases ran
        exact ⟨rfl,rfl⟩
      · cases ran
        exact ⟨rfl,rfl⟩
      · split at ran
        all_goals
          cases ran
          exact ⟨rfl,rfl⟩

-- The production of a plan has the plan's own key.
theorem executed_key (plan : Plan) (data : Data) :
    Production.cacheKey ⟨plan.domainName,plan.consumedSubdomain,⟨plan.entry.subModule,plan.entry.className,
      plan.entry.functionName,(initKwargs plan.symbol plan.kwargs).1,plan.args,
      (initKwargs plan.symbol plan.kwargs).2.without controlNames⟩,data⟩ = plan.cacheKey := by
  simp only [Production.cacheKey,Production.source,ProviderCall.keyed,ProviderCall.symbol,init_source,init_symbol,
    Option.getD_some,rest_controls,keyedArguments,without_twice,Plan.cacheKey,Plan.subdomain]

theorem store_productions (plan : Plan) (key : Option CacheHash.Digest) (data : Data) :
    (store world plan key data ui).productions = ui.productions := by
  unfold store
  cases key with
  | none => rfl
  | some key =>
    dsimp only
    split
    · rfl
    · rfl

theorem store_entries (inside : entry ∈ (store world plan key data ui).cache.entries) :
    key = some entry.key ∧ entry.value = data ∨ entry ∈ ui.cache.entries := by
  unfold store at inside
  cases key with
  | none => exact .inr inside
  | some key =>
    dsimp only at inside
    split at inside
    · exact .inr inside
    · rcases set_subset inside with new | old
      · exact .inl (by simp [new])
      · exact .inr old

theorem attempts_honest (honest : Honest ui) (listed : plan.entry ∈ registered) (keyed : key = none ∨ key = plan.cacheKey)
    (ran : attempts world plan key remaining plan.kwargs ui = (after,outcome)) : Honest after := by
  obtain ⟨executed,rest,answered,execution,effect⟩ := attempts_log ran
  obtain ⟨_,untouched,log⟩ := execute_log execution
  cases answered with
  | error failure =>
    dsimp only at effect log
    apply honest.shrink
    · rw [effect.1,untouched]
      exact List.Subset.refl _
    · rw [effect.2,log]
  | ok data =>
    dsimp only at effect log
    obtain ⟨name,given,log⟩ := log
    have logged := effect.2.trans ((store_productions plan key data).trans log)
    have grows : ∀ production ∈ ui.productions, production ∈ after.productions := by
      intro production inside
      rw [logged]
      exact List.mem_append_left _ inside
    constructor
    · intro entry inside
      rw [effect.1] at inside
      rcases store_entries inside with ⟨own,value⟩ | old
      · refine ⟨_,by rw [logged]; exact List.mem_append_right _ (List.mem_singleton.mpr rfl),?_,value.symm⟩
        rw [executed_key]
        rcases keyed with absent | same
        · rw [absent] at own
          cases own
        · exact same.symm.trans own
      · rw [untouched] at old
        exact (honest.produced entry old).mono grows
    · intro production inside
      rw [logged] at inside
      rcases List.mem_append.mp inside with earlier | new
      · exact honest.registered production earlier
      · rw [List.mem_singleton.mp new]
        exact ⟨⟨plan.entry,listed,rfl,rfl,rfl⟩,name,(init_source _ _).trans given⟩

theorem prepare_kept (ran : prepare world domainName methodName symbol args kwargs ui = (after,result)) :
    after.cache = ui.cache ∧ after.productions = ui.productions ∧ ∀ plan, result = .ok plan → plan.entry ∈ registered := by
  unfold prepare at ran
  split at ran
  · cases ran
    exact ⟨rfl,rfl,nofun⟩
  · rename_i entry consumed rest found
    have listed := resolve_registered found
    dsimp only at ran
    split at ran
    · split at ran
      · cases ran
        exact ⟨rfl,rfl,nofun⟩
      · cases ran
        refine ⟨rfl,rfl,?_⟩
        intro plan made
        cases made
        exact listed
    · cases ran
      refine ⟨rfl,rfl,?_⟩
      intro plan made
      cases made
      exact listed

variable {hit : Option Data}

theorem lookUp_kept (ran : lookUp world plan ui = (after,hit,key)) :
    after.cache.entries ⊆ ui.cache.entries ∧ after.productions = ui.productions ∧ (key = none ∨ key = plan.cacheKey) ∧
      ∀ data, hit = some data → ∃ entry ∈ ui.cache.entries, plan.cacheKey = some entry.key ∧ entry.value = data := by
  unfold lookUp at ran
  split at ran
  · cases ran
    exact ⟨List.Subset.refl _,rfl,.inl rfl,nofun⟩
  · split at ran
    · cases ran
      exact ⟨List.Subset.refl _,rfl,.inl rfl,nofun⟩
    · split at ran
      · cases ran
        exact ⟨List.Subset.refl _,rfl,.inl rfl,nofun⟩
      · rename_i key keyed
        split at ran
        · cases ran
          exact ⟨List.Subset.refl _,rfl,.inl rfl,nofun⟩
        · have shrunk := get_subset ui.cache key (world.clock ui.accesses)
          dsimp only at ran
          split at ran
          · cases ran
            exact ⟨shrunk,rfl,.inr keyed.symm,nofun⟩
          · cases ran
            exact ⟨shrunk,rfl,.inr keyed.symm,nofun⟩
          · rename_i data _ read
            cases ran
            refine ⟨shrunk,rfl,.inr keyed.symm,?_⟩
            intro found same
            cases same
            obtain ⟨entry,inside,own,value⟩ := get_found read
            exact ⟨entry,inside,by rw [keyed,own],value⟩

theorem entered_honest (honest : Honest ui)
    (prepared : prepare world domainName methodName symbol args kwargs ui = (ready,.ok plan))
    (looked : lookUp world plan ready = (after,hit,key)) : Honest after := by
  obtain ⟨cache,log,_⟩ := prepare_kept prepared
  obtain ⟨entries,same,_⟩ := lookUp_kept looked
  apply honest.shrink
  · rw [← cache]
    exact entries
  · rw [same,log]

mutual
theorem dispatch_honest (world : World) : ∀ (symbol : Value) (domainName methodName : Text) (args : List Value)
    (kwargs : Kwargs) (ui : Interface), Honest ui → Honest (dispatch world symbol domainName methodName args kwargs ui).1
  | symbol,domainName,methodName,args,kwargs,ui,honest => by
    unfold dispatch
    cases prepared : prepare world domainName methodName symbol args kwargs ui with
    | mk ready result =>
      obtain ⟨cache,log,listed⟩ := prepare_kept prepared
      cases result with
      | error failure =>
        apply honest.shrink
        · rw [cache]
          exact List.Subset.refl _
        · exact log
      | ok plan =>
        dsimp only
        cases looked : lookUp world plan ready with
        | mk after found =>
          obtain ⟨hit,key⟩ := found
          have entered := entered_honest honest prepared looked
          obtain ⟨_,_,keyed,_⟩ := lookUp_kept looked
          cases hit with
          | some data => exact entered
          | none =>
            dsimp only
            split
            · rename_i symbols
              have each := dispatchEach_honest world symbols domainName methodName plan.args plan.kwargs after entered
              split
              · rename_i raised
                rw [raised] at each
                exact each
              · rename_i returned
                rw [returned] at each
                exact each
            · exact attempts_honest entered (listed plan rfl) keyed rfl
theorem dispatchEach_honest (world : World) : ∀ (symbols : List Value) (domainName methodName : Text) (args : List Value)
    (kwargs : Kwargs) (ui : Interface), Honest ui → Honest (dispatchEach world symbols domainName methodName args kwargs ui).1
  | [],_,_,_,_,_,honest => by
    unfold dispatchEach
    exact honest
  | symbol :: symbols,domainName,methodName,args,kwargs,ui,honest => by
    unfold dispatchEach
    have first := dispatch_honest world symbol domainName methodName args kwargs ui honest
    split
    · rename_i raised
      rw [raised] at first
      exact first
    · rename_i between data returned
      rw [returned] at first
      have rest := dispatchEach_honest world symbols domainName methodName args kwargs between first
      split
      · rename_i raised
        rw [raised] at rest
        exact rest
      · rename_i returned
        rw [returned] at rest
        exact rest
end

/- Runs. -/

-- A process that has just started, over an empty cache of either kind.
def coldStart (enabled sqlite : Bool) (ttl : Int) (maxSize : Nat) (router : ProviderRouter) (quality : QualityConfig) :
    Interface :=
  ⟨⟨enabled,ttl,maxSize,if sqlite then .sqlite [] 0 else .memory []⟩,router,quality,0,[]⟩

-- The states in which a dispatch can begin: after any dispatches, and inside one that
-- goes on to dispatch each of its symbols.
inductive Reached (world : World) (start : Interface) : Interface → Prop where
  | start : Reached world start start
  | dispatched (symbol : Value) (domainName methodName : Text) (args : List Value) (kwargs : Kwargs) {before : Interface}
      (path : Reached world start before) :
      Reached world start (dispatch world symbol domainName methodName args kwargs before).1
  | entered {before ready entered : Interface} (path : Reached world start before)
      (prepared : prepare world domainName methodName symbol args kwargs before = (ready,.ok plan))
      (missed : lookUp world plan ready = (entered,none,key)) : Reached world start entered

theorem cold_honest (enabled sqlite : Bool) (ttl : Int) (maxSize : Nat) (router : ProviderRouter) (quality : QualityConfig) :
    Honest (coldStart enabled sqlite ttl maxSize router quality) := by
  constructor
  · cases sqlite
    · exact nofun
    · exact nofun
  · exact nofun

theorem reached_honest (honest : Honest start) (reached : Reached world start ui) : Honest ui := by
  induction reached with
  | start => exact honest
  | dispatched symbol domainName methodName args kwargs _ ih => exact dispatch_honest _ _ _ _ _ _ _ ih
  | entered _ prepared missed ih => exact entered_honest ih prepared missed

/- The origin of what a cache answers. -/

-- What the plan would have asked of its provider.
def Plan.request (plan : Plan) : ProviderCall :=
  ⟨plan.entry.subModule,plan.entry.className,plan.entry.functionName,(initKwargs plan.symbol plan.kwargs).1,plan.args,
    (initKwargs plan.symbol plan.kwargs).2.without controlNames⟩

-- The production behind an entry found under a key.
theorem produced_agree (produced : Produced productions entry) (known : ∀ production ∈ productions, Registered production)
    (keyed : makeCacheKey provider method kwargs domain subdomain = some entry.key) :
    ∃ production ∈ productions, production.data = entry.value ∧ production.domainName = domain ∧
      production.subdomain.getD [] = subdomain ∧ production.call.functionName = method ∧
      (∀ name, (production.call.keyed.get name).bind Value.printed = (kwargs.get name).bind Value.printed) ∧
      ∀ name, provider = .str name → production.source = some (.str name) := by
  obtain ⟨production,inside,own,data⟩ := produced
  obtain ⟨inDomain,inSubdomain,source,method,arguments⟩ := keys_agree own keyed
  refine ⟨production,inside,data,inDomain,inSubdomain,method,arguments,?_⟩
  intro name given
  obtain ⟨named,spelled⟩ := (known production inside).named
  rw [spelled,given] at source
  rw [spelled,printed_text source]

theorem prepare_plan (explicit : kwargs.get "source".toList = some (.str provider))
    (prepared : prepare world domainName methodName symbol args kwargs ui = (after,.ok plan)) :
    plan.domainName = domainName ∧ plan.symbol = symbol ∧ plan.kwargs.get "source".toList = some (.str provider) := by
  have given : callerSetSource kwargs = true := by
    unfold callerSetSource
    rw [explicit]
  unfold prepare at prepared
  split at prepared
  · cases prepared
  · simp only [given,if_true] at prepared
    cases prepared
    refine ⟨rfl,rfl,?_⟩
    simp only [Kwargs.pop]
    rw [Kwargs.get_without _ (by decide),Kwargs.get_without _ (by decide),Kwargs.get_without _ (by decide),
      Kwargs.get_without _ (by decide),explicit]

end

section
abbrev sampleHash : CacheHash := ⟨Json,inferInstance,id,Function.injective_id⟩

attribute [local instance] sampleHash

-- Every source answers one bar.
def sampleWorld : World := ⟨fun access => access,fun _ _ => .ok (.frame ["bar".toList]),fun _ => false,fun _ _ => some true,fun _ => true⟩

def sampleKwargs (start : Value) : Kwargs :=
  ⟨[("start".toList,start),("source".toList,.str "KBS".toList)],by
    have names : (["start".toList,"source".toList] : List Text).Nodup := by decide
    exact names⟩

def startDay : Value := .object "date".toList "2024-01-01".toList
def startText : Value := .str "2024-01-01".toList

def sampleStart : Interface := coldStart true false 300 100 ⟨[],[]⟩ ⟨false,"warn".toList⟩

def sampleDispatch (start : Value) (ui : Interface) : Interface × Except Failure Data :=
  dispatch sampleWorld (.str "FPT".toList) "equity_market".toList "ohlcv".toList [] (sampleKwargs start) ui

-- The first call of the process, with a date object.
def sampleFetched : Interface := (sampleDispatch startDay sampleStart).1

def samplePlan : Plan := ⟨"equity_market".toList,"ohlcv".toList,quoteOhlcv,none,.str "FPT".toList,[],sampleKwargs startText,
  .none,.none,.bool false,.str "warn".toList,none⟩

theorem sample_reached : Reached sampleWorld sampleStart sampleFetched :=
  .dispatched _ _ _ _ _ .start

theorem sample_prepared : prepare sampleWorld "equity_market".toList "ohlcv".toList (.str "FPT".toList) []
    (sampleKwargs startText) sampleFetched = (sampleFetched,.ok samplePlan) := by
  rfl

theorem sample_answer : (lookUp sampleWorld samplePlan sampleFetched).2.1 = some (.frame ["bar".toList]) := by
  with_unfolding_all rfl

theorem sample_looked : lookUp sampleWorld samplePlan sampleFetched = ((lookUp sampleWorld samplePlan sampleFetched).1,
    some (.frame ["bar".toList]),(lookUp sampleWorld samplePlan sampleFetched).2.2) :=
  Prod.ext rfl (Prod.ext sample_answer rfl)

end
end OpenStock.Providers
