import OpenStock.Providers.Failover

namespace OpenStock.Providers
open Text

section
variable [CacheHash]

/- Runs of calls. -/

structure Call where
  symbol : Value
  domainName : Text
  methodName : Text
  args : List Value
  kwargs : Kwargs

structure Step where
  before : Interface
  call : Call
  outcome : Except Failure Data

def Call.perform (world : World) (call : Call) (ui : Interface) : Interface × Except Failure Data :=
  dispatch world call.symbol call.domainName call.methodName call.args call.kwargs ui

def steps (world : World) : List Call → Interface → List Step
  | [],_ => []
  | call :: calls,ui => ⟨ui,call,(call.perform world ui).2⟩ :: steps world calls (call.perform world ui).1

/- What a strict call promises. -/

-- `validate=True` and `quality_mode='strict'` on a dataset type that has a validator.
structure Call.Strict (call : Call) (dataset : Text) : Prop where
  validates : call.kwargs.get "validate".toList = some (.bool true)
  strict : call.kwargs.get "quality_mode".toList = some (.str "strict".toList)
  typed : ∃ resolved, resolve call.domainName call.methodName call.args = .ok resolved ∧
    inferDatasetType call.domainName call.methodName resolved.consumedSubdomain = some dataset

def ValidFrame (world : World) (dataset : Text) (data : Data) : Prop :=
  ∃ rows, data = .frame rows ∧ world.report dataset rows = some true

def Guaranteed (world : World) (dataset : Text) (outcome : Except Failure Data) : Prop :=
  ∀ data, outcome = .ok data → ValidFrame world dataset data

-- What the state holds for the call: a hit is itself a valid frame; a missed list is not
-- empty and its fan-out is refused; the provider of a missed symbol returns a frame that
-- the validator can judge.
structure Call.Sound (world : World) (dataset : Text) (call : Call) (ui : Interface) : Prop where
  hit : ∀ ready plan entered data key,
    prepare world call.domainName call.methodName call.symbol call.args call.kwargs ui = (ready,.ok plan) →
    lookUp world plan ready = (entered,some data,key) → ValidFrame world dataset data
  listed : ∀ ready plan entered key symbols,
    prepare world call.domainName call.methodName call.symbol call.args call.kwargs ui = (ready,.ok plan) →
    lookUp world plan ready = (entered,none,key) → call.symbol = .list symbols →
    symbols ≠ [] ∧ ∃ failure, resolve call.domainName call.methodName plan.args = .error failure
  answered : ∀ ready plan entered key source data,
    prepare world call.domainName call.methodName call.symbol call.args call.kwargs ui = (ready,.ok plan) →
    lookUp world plan ready = (entered,none,key) → (∀ symbols, call.symbol ≠ .list symbols) →
    plan.kwargs.get "source".toList = some (.str source) → world.answer entered.accesses plan.request = .ok data →
    ∃ rows judged, data = .frame rows ∧ world.report dataset rows = some judged

/- The options of a plan. -/

variable {world : World} {ui after : Interface}

omit [CacheHash] in
theorem sourced_get (entry : RegistryEntry) (kwargs : Kwargs) (other : name ≠ "source".toList) :
    (sourced entry kwargs).get name = kwargs.get name := by
  unfold sourced
  split
  · rfl
  · exact Kwargs.get_set_other _ _ other

-- What a prepared plan takes over from the call.
structure Carries (call : Call) (ui : Interface) (resolved : Resolved) (plan : Plan) : Prop where
  found : resolve call.domainName call.methodName call.args = .ok resolved
  domainName : plan.domainName = call.domainName
  methodName : plan.methodName = call.methodName
  entry : plan.entry = resolved.entry
  consumedSubdomain : plan.consumedSubdomain = resolved.consumedSubdomain
  symbol : plan.symbol = call.symbol
  args : plan.args = resolved.args
  useCache : plan.useCache = (call.kwargs.get "use_cache".toList).getD .none
  cacheTtl : plan.cacheTtl = (call.kwargs.get "cache_ttl".toList).getD .none
  check : plan.check = (call.kwargs.get "validate".toList).getD (.bool ui.quality.enabled)
  qualityMode : plan.qualityMode = (call.kwargs.get "quality_mode".toList).getD (.str ui.quality.mode)

theorem unrouted_carries {call : Call} {resolved : Resolved}
    (found : resolve call.domainName call.methodName call.args = .ok resolved) :
    Carries call ui resolved (Plan.unrouted ui call.domainName call.methodName call.symbol resolved call.kwargs) where
  found := found
  domainName := rfl
  methodName := rfl
  entry := rfl
  consumedSubdomain := rfl
  symbol := rfl
  args := rfl
  useCache := by
    simp only [Plan.unrouted,Kwargs.pop]
    rw [sourced_get _ _ (by decide)]
  cacheTtl := by
    simp only [Plan.unrouted,Kwargs.pop]
    rw [Kwargs.get_without _ (by decide),sourced_get _ _ (by decide)]
  check := by
    simp only [Plan.unrouted,Kwargs.pop]
    rw [Kwargs.get_without _ (by decide),Kwargs.get_without _ (by decide),sourced_get _ _ (by decide)]
  qualityMode := by
    simp only [Plan.unrouted,Kwargs.pop]
    rw [Kwargs.get_without _ (by decide),Kwargs.get_without _ (by decide),Kwargs.get_without _ (by decide),
      sourced_get _ _ (by decide)]

variable {call : Call} {plan : Plan}

theorem prepare_carries
    (prepared : prepare world call.domainName call.methodName call.symbol call.args call.kwargs ui = (after,.ok plan)) :
    ∃ resolved, Carries call ui resolved plan := by
  obtain ⟨resolved,found,unrouted | ⟨_,providers,source,_,routed⟩⟩ := prepare_origin prepared
  · rw [unrouted]
    exact ⟨resolved,unrouted_carries found⟩
  · rw [routed]
    -- The choice of a provider changes none of these fields.
    obtain ⟨found,domainName,methodName,entry,consumedSubdomain,symbol,args,useCache,cacheTtl,check,qualityMode⟩ :=
      unrouted_carries found
    exact ⟨resolved,found,domainName,methodName,entry,consumedSubdomain,symbol,args,useCache,cacheTtl,check,qualityMode⟩

/- One call. -/

-- Strict validation of what a provider returned.
theorem strict_validated {call : Call} {dataset : Text} {resolved : Resolved} {plan : Plan} (strict : call.Strict dataset)
    (carried : Carries call ui resolved plan) (data : Data) : validated world plan data = match data with
      | .frame rows => if world.report dataset rows = some false then .error .dataQuality else .ok data
      | _ => .ok data := by
  have check : plan.check.truthy = true := by
    rw [carried.check,strict.validates]
    rfl
  have mode : plan.qualityMode = .str "strict".toList := by
    rw [carried.qualityMode,strict.strict]
    rfl
  have typed : inferDatasetType plan.domainName plan.methodName plan.consumedSubdomain = some dataset := by
    obtain ⟨other,found,typed⟩ := strict.typed
    rw [carried.found] at found
    cases found
    rw [carried.domainName,carried.methodName,carried.consumedSubdomain,typed]
  unfold validated Plan.refuses
  rw [mode,typed]
  cases data with
  | frame rows => simp [check]
  | _ => rfl

variable {failure : Failure}

-- An execution that fails ends the call, which raises.
theorem attempts_raises (key : Option CacheHash.Digest) (remaining : Nat)
    (ran : executeDispatch world plan.entry plan.domainName plan.consumedSubdomain plan.symbol plan.args
      kwargs ui = (executed,(initKwargs plan.symbol kwargs).2,.error failure)) :
    ∃ raised, (attempts world plan key remaining kwargs ui).2 = .error raised := by
  unfold attempts
  simp only [ran,rest_sourceless]
  split
  · rename_i impossible
    cases impossible
  · exact ⟨_,rfl⟩
  · split
    · exact ⟨_,rfl⟩
    · exact ⟨_,rfl⟩

variable {key : Option CacheHash.Digest}

-- The retry loop returns only what its provider answered, as validated.
theorem attempts_returned (returned : (attempts world plan key remaining plan.kwargs ui).2 = .ok data) : ∃ source,
      plan.kwargs.get "source".toList = some (.str source) ∧ world.answer ui.accesses plan.request = .ok data ∧
      validated world plan data = .ok data := by
  cases ran : executeDispatch world plan.entry plan.domainName plan.consumedSubdomain plan.symbol plan.args plan.kwargs ui with
  | mk executed others =>
    obtain ⟨rest,answered⟩ := others
    obtain ⟨same,_,log⟩ := execute_log ran
    cases answered with
    | error failure =>
      rw [same] at ran
      obtain ⟨raised,ended⟩ := attempts_raises key remaining ran
      rw [ended] at returned
      cases returned
    | ok answer =>
      obtain ⟨source,given,_⟩ := log
      have served : world.answer ui.accesses plan.request = .ok answer := by
        cases answered : world.answer ui.accesses plan.request with
        | ok other =>
          rw [execute_served given answered] at ran
          cases ran
          rfl
        | error failure =>
          obtain ⟨kind,text,arguments⟩ := failure
          rw [execute_failed given answered] at ran
          cases ran
      rw [attempts_answered given served] at returned
      rcases validated_or world plan answer with accepted | refused
      · rw [accepted] at returned
        cases returned
        exact ⟨source,given,served,accepted⟩
      · rw [refused] at returned
        cases returned

-- A fan-out whose first dispatch is refused raises.
theorem dispatchEach_refused (world : World) (ui : Interface) (kwargs : Kwargs) (nonempty : symbols ≠ [])
    (refused : resolve domainName methodName args = .error failure) :
    (dispatchEach world symbols domainName methodName args kwargs ui).2 = .error failure := by
  cases symbols with
  | nil => exact absurd rfl nonempty
  | cons symbol symbols =>
    unfold dispatchEach dispatch prepare
    rw [refused]

theorem perform_single (single : ∀ symbols, call.symbol ≠ .list symbols)
    (prepared : prepare world call.domainName call.methodName call.symbol call.args call.kwargs ui = (ready,.ok plan))
    (missed : lookUp world plan ready = (entered,none,key)) :
    ∃ remaining, call.perform world ui = attempts world plan key remaining plan.kwargs entered := by
  unfold Call.perform dispatch
  rw [prepared]
  simp only [missed]
  cases symbol : call.symbol with
  | list symbols => exact absurd symbol (single symbols)
  | _ => exact ⟨_,rfl⟩

theorem sound_guarantees (strict : call.Strict dataset) (sound : call.Sound world dataset ui) :
    Guaranteed world dataset (call.perform world ui).2 := by
  intro data returned
  unfold Call.perform dispatch at returned
  cases prepared : prepare world call.domainName call.methodName call.symbol call.args call.kwargs ui with
  | mk ready result =>
    rw [prepared] at returned
    cases result with
    | error failure => cases returned
    | ok plan =>
      dsimp only at returned
      cases looked : lookUp world plan ready with
      | mk entered found =>
        obtain ⟨hit,key⟩ := found
        rw [looked] at returned
        cases hit with
        | some cached =>
          cases returned
          exact sound.hit ready plan entered data key prepared looked
        | none =>
          dsimp only at returned
          split at returned
          · rename_i symbols listed
            obtain ⟨nonempty,failure,refused⟩ := sound.listed ready plan entered key symbols prepared looked listed
            have raised := dispatchEach_refused world entered plan.kwargs nonempty refused
            split at returned
            · cases returned
            · rename_i ended
              rw [ended] at raised
              cases raised
          · rename_i single
            obtain ⟨source,given,answered,accepted⟩ := attempts_returned returned
            obtain ⟨rows,judged,frame,report⟩ :=
              sound.answered ready plan entered key source data prepared looked single given answered
            obtain ⟨resolved,carried⟩ := prepare_carries prepared
            rw [strict_validated strict carried,frame] at accepted
            refine ⟨rows,frame,?_⟩
            cases judged with
            | true => exact report
            | false =>
              simp [report] at accepted

-- For one symbol the condition is exact.
theorem guaranteed_sound (strict : call.Strict dataset)
    (single : ∀ symbols, call.symbol ≠ .list symbols) (guaranteed : Guaranteed world dataset (call.perform world ui).2) :
    call.Sound world dataset ui := by
  constructor
  · intro ready plan entered data key prepared looked
    unfold Call.perform dispatch at guaranteed
    rw [prepared] at guaranteed
    simp only [looked] at guaranteed
    exact guaranteed data rfl
  · intro _ _ _ _ symbols _ _ listed
    exact absurd listed (single symbols)
  · intro ready plan entered key source data prepared missed _ given answered
    obtain ⟨resolved,carried⟩ := prepare_carries prepared
    obtain ⟨remaining,performed⟩ := perform_single single prepared missed
    rw [performed,attempts_answered given answered,strict_validated strict carried] at guaranteed
    cases data with
    | frame rows =>
      cases report : world.report dataset rows with
      | some judged => exact ⟨rows,judged,rfl,report⟩
      | none =>
        obtain ⟨others,same,valid⟩ := guaranteed (.frame rows) (by simp [report])
        cases same
        rw [report] at valid
        cases valid
    | _ =>
      obtain ⟨_,impossible,_⟩ := guaranteed _ rfl
      cases impossible

/- Runs. -/

end

section
attribute [local instance] sampleHash

def strictKwargs : Kwargs :=
  ⟨[("source".toList,.str "KBS".toList),("validate".toList,.bool true),("quality_mode".toList,.str "strict".toList)],by
    have names : (["source".toList,"validate".toList,"quality_mode".toList] : List Text).Nodup := by decide
    exact names⟩

def strictCall : Call := ⟨.str "FPT".toList,"Market".toList,"equity".toList,[.str "ohlcv".toList],strictKwargs⟩

theorem strict_call : strictCall.Strict "ohlcv".toList := ⟨rfl,rfl,⟨quoteOhlcv,some "ohlcv".toList,[]⟩,rfl,rfl⟩

theorem strict_sound : strictCall.Sound sampleWorld "ohlcv".toList sampleStart := by
  constructor
  · intro ready plan entered data key prepared looked
    cases prepared
    cases looked
  · intro _ _ _ _ _ _ _ listed
    cases listed
  · intro _ _ _ _ _ data _ _ _ _ answered
    cases answered
    exact ⟨_,true,rfl,rfl⟩

-- A validator that refuses every frame. The strict call is rejected; the same call again
-- is answered with the frame that the first one cached.
def refusingWorld : World := {sampleWorld with report:=fun _ _ => some false}

end
end OpenStock.Providers
