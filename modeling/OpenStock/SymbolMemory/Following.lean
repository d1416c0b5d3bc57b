import OpenStock.SymbolMemory.Projection

namespace OpenStock.SymbolMemory
open Text Calendar

/- Rows that a turn leaves as they are. -/

theorem appendEvent_fresh {memory after : Memory} (fresh : memory.duplicated event = false)
    (appended : memory.appendEvent event = .ok (after,added)) : added = true := by
  unfold Memory.appendEvent at appended
  rw [fresh] at appended
  simp only [Bool.false_eq_true,if_false] at appended
  split at appended
  · cases appended
  · cases appended
    rfl

variable {row : MemoryClaim} {memory : Memory}

theorem expireEach_other {asOfDate : Date}
    (present : row ∈ memory.claims) (differs : ∀ claim ∈ listed, row.claimId ≠ claim.claimId) :
    row ∈ (Memory.expireEach asOfDate listed memory expired).1.claims := by
  induction listed generalizing memory expired with
  | nil => exact present
  | cons claim rest ih =>
    have later : ∀ claim ∈ rest, row.claimId ≠ claim.claimId := fun claim inside => differs claim (List.mem_cons_of_mem _ inside)
    unfold Memory.expireEach
    split
    · exact present
    · exact ih present later
    · split
      · exact ih present later
      · exact ih (transition_other present (differs claim List.mem_cons_self) _ _) later

-- The claims listed of another entity have other ids.
theorem listed_differs (present : row ∈ memory.claims) (other : row.entity ≠ entity) :
    ∀ claim ∈ memory.listEntityClaims entity statuses limit, row.claimId ≠ claim.claimId := by
  intro claim listed same
  obtain ⟨there,entity',_⟩ := mem_entityClaims.mp (listed_entity listed)
  rw [Rows.same_row memory.keyed present there same] at other
  exact other entity'

section following
variable [Digest]
variable {readers : PersistedEvidence} {claim : Option MemoryClaim} {evidence : MemoryEvidence}

-- What an ingestion did: nothing, or one acceptance.
theorem ingest_cases {memory after : Memory} (ingested : ingestEvidence readers memory evidence = .ok (after,claim)) :
    (memory.duplicated (evidenceEvent evidence) = true ∧ after = memory ∧ claim = none) ∨
      ∃ (noted : Memory) (stands : MemoryClaim), noted.claims = memory.claims ∧ noted.accept (claimOf evidence) = (after,.ok stands) ∧ claim = some stands := by
  unfold ingestEvidence at ingested
  cases valid : validateEvidence readers evidence with
  | error refusal =>
    rw [valid] at ingested
    cases ingested
  | ok checked =>
    rw [valid] at ingested
    cases appended : memory.appendEvent (evidenceEvent evidence) with
    | error refusal =>
      simp only [appended,bind,Except.bind] at ingested
      cases ingested
    | ok result =>
      obtain ⟨noted,added⟩ := result
      have claims := appendEvent_ok appended
      cases added with
      | false =>
        simp only [appended,bind,Except.bind,pure,Except.pure] at ingested
        cases ingested
        refine .inl ⟨?_,rfl,rfl⟩
        by_contra fresh
        rw [Bool.not_eq_true] at fresh
        cases appendEvent_fresh fresh appended
      | true =>
        simp only [appended,bind,Except.bind] at ingested
        cases accepted : noted.accept (claimOf evidence) with
        | mk store outcome =>
          rw [accepted] at ingested
          cases outcome with
          | error refusal => cases ingested
          | ok stands =>
            cases ingested
            exact .inr ⟨noted,stands,claims,accepted,rfl⟩

theorem ingest_other {memory after : Memory}
    {row : MemoryClaim} (ingested : ingestEvidence readers memory evidence = .ok (after,claim)) (present : row ∈ memory.claims)
    (other : ¬ sameKey row (claimOf evidence)) : row ∈ after.claims := by
  rcases ingest_cases ingested with ⟨_,same,_⟩ | ⟨noted,stands,claims,accepted,_⟩
  · rw [same]
    exact present
  · have kept := accept_other (claims ▸ present) other
    rwa [accepted] at kept

variable {warehouse : Warehouse} {items : List MemoryEvidence} {active : List MemoryClaim}

theorem ingestEach_other {memory after : Memory}
    {row : MemoryClaim} (done : ingestEach warehouse items active memory = .ok after) (present : row ∈ memory.claims)
    (other : ∀ item ∈ items, ¬ sameKey row (claimOf item)) : row ∈ after.claims := by
  induction items generalizing active memory with
  | nil =>
    cases done
    exact present
  | cons item rest ih =>
    have later : ∀ item ∈ rest, ¬ sameKey row (claimOf item) := fun item inside => other item (List.mem_cons_of_mem _ inside)
    unfold ingestEach at done
    split at done
    · exact ih done present later
    · cases ingested : ingestEvidence warehouse.persisted memory item with
      | error refusal =>
        rw [ingested] at done
        cases done
      | ok result =>
        rw [ingested] at done
        exact ih done (ingest_other ingested present (other item List.mem_cons_self)) later

theorem invalidateEach_other {memory after : Memory}
    {row : MemoryClaim} (done : invalidateEach invalid now listed memory = .ok after) (present : row ∈ memory.claims)
    (differs : ∀ claim ∈ listed, row.claimId ≠ claim.claimId) : row ∈ after.claims := by
  induction listed generalizing memory with
  | nil =>
    cases done
    exact present
  | cons claim rest ih =>
    have later : ∀ claim ∈ rest, row.claimId ≠ claim.claimId := fun claim inside => differs claim (List.mem_cons_of_mem _ inside)
    unfold invalidateEach at done
    split at done
    · have moved := transition_other present (differs claim List.mem_cons_self) .rejected invalidationReason
      cases appended : (memory.transition claim.claimId .rejected invalidationReason).appendEvent (invalidationEvent claim now) with
      | error refusal =>
        simp only [appended,bind,Except.bind] at done
        cases done
      | ok result =>
        simp only [appended,bind,Except.bind] at done
        exact ih done (appendEvent_ok appended ▸ moved) later
    · exact ih done present later

variable {symbol : Text}

theorem maintain_other {asOfDate : Date} {memory after : Memory}
    {row : MemoryClaim} (done : maintain warehouse symbol asOfDate now memory = .ok after) (present : row ∈ memory.claims)
    (other : row.entity ≠ symbolEntity symbol) : row ∈ after.claims := by
  unfold maintain at done
  dsimp only at done
  cases cleaned : invalidateEach (invalidSourceRefs warehouse symbol (memory.listEntityClaims (symbolEntity symbol) [] 1000)) now
      (memory.listEntityClaims (symbolEntity symbol) [.active] 100) memory with
  | error refusal =>
    rw [cleaned] at done
    cases done
  | ok store =>
    rw [cleaned] at done
    have there := invalidateEach_other cleaned present (listed_differs present other)
    have kept : row ∈ (store.expireDueEntityClaims (symbolEntity symbol) asOfDate).1.claims :=
      expireEach_other there (listed_differs there other)
    simp only [bind,Except.bind] at done
    split at done
    · rename_i expired ids shape
      cases done
      rwa [shape] at kept
    · cases done

/- One item of evidence after the other. -/

-- The evidence is said already, or is new and no compared claim keeps it out.
def Taken (memory : Memory) (active : List MemoryClaim) (evidence : MemoryEvidence) : Prop :=
  semanticallyCurrent active evidence = true ∨
    (memory.duplicated (evidenceEvent evidence) = false ∧
      ∀ existing ∈ memory.matching (claimOf evidence), equivalent existing (claimOf evidence) = true ∨ Prevails existing (claimOf evidence))

def AllTaken (warehouse : Warehouse) : List MemoryEvidence → List MemoryClaim → Memory → Prop
  | [],_,_ => True
  | evidence :: rest,active,memory => Taken memory active evidence ∧
    if semanticallyCurrent active evidence then AllTaken warehouse rest active memory
    else ∀ after claim, ingestEvidence warehouse.persisted memory evidence = .ok (after,claim) →
      AllTaken warehouse rest (active ++ claim.toList) after

theorem held_each {memory after : Memory}
    {claim : MemoryClaim} (held : Held memory claim) (done : ingestEach warehouse items active memory = .ok after)
    (other : ∀ item ∈ items, ¬ sameKey claim (claimOf item)) : Held after claim := by
  obtain ⟨row,present,status,key,value⟩ := held
  refine ⟨row,ingestEach_other done present ?_,status,key,value⟩
  intro item inside same
  exact other item inside (sameKey_trans (sameKey_symm key) same)

theorem ingest_held {memory after : Memory}
    (ingested : ingestEvidence readers memory evidence = .ok (after,claim)) (fresh : memory.duplicated (evidenceEvent evidence) = false)
    (prevails : ∀ existing ∈ memory.matching (claimOf evidence),
      equivalent existing (claimOf evidence) = true ∨ Prevails existing (claimOf evidence)) : Held after (claimOf evidence) := by
  rcases ingest_cases ingested with ⟨duplicated,_,_⟩ | ⟨noted,stands,claims,accepted,_⟩
  · rw [fresh] at duplicated
    cases duplicated
  · have matched : noted.matching (claimOf evidence) = memory.matching (claimOf evidence) := by
      unfold Memory.matching Memory.listEntityClaims Memory.entityClaims
      rw [claims]
    apply accepted_held rfl accepted
    rw [matched]
    exact prevails

theorem ingested_key {memory after : Memory} (ingested : ingestEvidence readers memory evidence = .ok (after,claim)) :
    ∀ stands ∈ claim.toList, sameKey stands (claimOf evidence) := by
  intro stands inside
  rcases ingest_cases ingested with ⟨_,_,none'⟩ | ⟨noted,accepted,_,made,some'⟩
  · rw [none'] at inside
    cases inside
  · rw [some',Option.toList_some,List.mem_singleton] at inside
    rw [inside]
    exact accept_key made

-- Items of different keys, each taken in its turn, are all held in the end.
theorem ingestEach_held
    {memory final : Memory} (distinct : items.Pairwise (fun left right => ¬ sameKey (claimOf left) (claimOf right)))
    (own : ∀ item ∈ items, item.symbol = symbol) (entity : ∀ row ∈ active, row.entity = symbolEntity symbol)
    (standing : ∀ row ∈ active, row.status = .active → ∀ item ∈ items, sameKey row (claimOf item) → row ∈ memory.claims)
    (taken : AllTaken warehouse items active memory) (done : ingestEach warehouse items active memory = .ok final) :
    ∀ item ∈ items, Held final (claimOf item) := by
  induction items generalizing active memory with
  | nil =>
    intro item inside
    cases inside
  | cons item rest ih =>
    obtain ⟨apart,others⟩ := List.pairwise_cons.mp distinct
    have ownRest : ∀ item ∈ rest, item.symbol = symbol := fun item inside => own item (List.mem_cons_of_mem _ inside)
    obtain ⟨first,later⟩ := taken
    unfold ingestEach at done
    by_cases current : semanticallyCurrent active item = true
    · rw [if_pos current] at done later
      have standingRest : ∀ row ∈ active, row.status = .active → ∀ item ∈ rest, sameKey row (claimOf item) → row ∈ memory.claims :=
        fun row inside status item among => standing row inside status item (List.mem_cons_of_mem _ among)
      have tail := ih others ownRest entity standingRest later done
      intro other inside
      rcases List.mem_cons.mp inside with same | among
      · rw [same]
        obtain ⟨row,listed,matched⟩ := List.any_eq_true.mp current
        simp only [Bool.and_eq_true,beq_iff_eq] at matched
        obtain ⟨⟨⟨status,claimType⟩,predicate⟩,value⟩ := matched
        have key : sameKey row (claimOf item) :=
          ⟨(entity row listed).trans (congrArg symbolEntity (own item List.mem_cons_self)).symm,claimType,predicate⟩
        exact held_each ⟨row,standing row listed status item List.mem_cons_self key,status,key,value⟩ done apart
      · exact tail other among
    · rw [if_neg current] at done later
      rcases first with now | ⟨fresh,prevails⟩
      · exact absurd now current
      cases ingested : ingestEvidence warehouse.persisted memory item with
      | error refusal =>
        rw [ingested] at done
        cases done
      | ok result =>
        obtain ⟨after,claim⟩ := result
        rw [ingested] at done
        have keys := ingested_key ingested
        have tail := ih others ownRest (by
          intro row inside
          rcases List.mem_append.mp inside with before | new
          · exact entity row before
          · exact (keys row new).1.trans (congrArg symbolEntity (own item List.mem_cons_self))) (by
          intro row inside status other among key
          rcases List.mem_append.mp inside with before | new
          · apply ingest_other ingested (standing row before status other (List.mem_cons_of_mem _ among) key)
            intro same
            exact apart other among (sameKey_trans (sameKey_symm same) key)
          · exact absurd (sameKey_trans (sameKey_symm (keys row new)) key) (apart other among))
          (later after claim ingested) done
        intro other inside
        rcases List.mem_cons.mp inside with same | among
        · rw [same]
          exact held_each (ingest_held ingested fresh prevails) done apart
        · exact tail other among

/- A turn, a run, a history. -/

theorem evidences_distinct (warehouse : Warehouse) (symbol : Text) (asOfDate : Date) (correlationId : Text) (now : DateTime) :
    (validatedEvidences warehouse symbol asOfDate correlationId now).Pairwise
      (fun left right => ¬ sameKey (claimOf left) (claimOf right)) := by
  unfold validatedEvidences
  apply List.pairwise_filterMap.mpr
  have apart : EvidenceFamily.all.Pairwise (fun left right => left ≠ right) := by decide
  apply apart.imp
  intro left right differs one foundLeft other foundRight same
  obtain ⟨finding,_,shape⟩ := Option.map_eq_some_iff.mp foundLeft
  obtain ⟨finding',_,shape'⟩ := Option.map_eq_some_iff.mp foundRight
  rw [←shape,←shape'] at same
  exact differs (EvidenceFamily.claimType_injective same.2.1)

-- Whatever the maintenance of a symbol leaves, its evidence is taken.
def HeededTurn (warehouse : Warehouse) (asOfDate : Date) (correlationId : Text) (memory : Memory) (turn : Turn) : Prop :=
  ∀ symbol maintained, normalizeSymbol turn.symbol = some symbol →
    maintain warehouse symbol asOfDate turn.now memory = .ok maintained →
    AllTaken warehouse (validatedEvidences warehouse symbol asOfDate correlationId turn.now)
      (maintained.listEntityClaims (symbolEntity symbol) [.active] 1000) maintained

variable {turns : List Turn}

section turns
variable {warehouse : Warehouse} {asOfDate : Date} {correlationId : Text} {turn : Turn}

-- A processed symbol had nothing to say and nothing said, or went through both parts.
theorem processed_cases {memory after : Memory}
    (processed : projectSymbol warehouse symbol asOfDate correlationId turn memory = .ok after) :
    (validatedEvidences warehouse symbol asOfDate correlationId turn.now = [] ∧ after = memory) ∨
      ∃ maintained, maintain warehouse symbol asOfDate turn.now memory = .ok maintained ∧
        ingestEach warehouse (validatedEvidences warehouse symbol asOfDate correlationId turn.now)
          (maintained.listEntityClaims (symbolEntity symbol) [.active] 1000) maintained = .ok after := by
  unfold projectSymbol at processed
  dsimp only at processed
  split at processed
  · rename_i empty
    cases processed
    simp only [Bool.and_eq_true,List.isEmpty_iff] at empty
    exact .inl ⟨empty.1,rfl⟩
  · cases maintained : maintain warehouse symbol asOfDate turn.now memory with
    | error refusal =>
      rw [maintained] at processed
      cases processed
    | ok store =>
      rw [maintained] at processed
      simp only [bind,Except.bind] at processed
      cases done : ingestEach warehouse (validatedEvidences warehouse symbol asOfDate correlationId turn.now)
          (store.listEntityClaims (symbolEntity symbol) [.active] 1000) store with
      | error refusal =>
        rw [done] at processed
        cases processed
      | ok settled =>
        rw [done] at processed
        dsimp only at processed
        split at processed
        · cases processed
          exact .inr ⟨store,rfl,done⟩
        · cases processed

theorem turn_followed {memory after : Memory} (named : normalizeSymbol turn.symbol = some symbol)
    (heeded : HeededTurn warehouse asOfDate correlationId memory turn)
    (processed : projectSymbol warehouse symbol asOfDate correlationId turn memory = .ok after) :
    Followed after warehouse symbol asOfDate := by
  have held : ∀ item ∈ validatedEvidences warehouse symbol asOfDate correlationId turn.now, Held after (claimOf item) := by
    rcases processed_cases processed with ⟨nothing,_⟩ | ⟨maintained,done,ingested⟩
    · rw [nothing]
      intro item inside
      cases inside
    · have own : ∀ item ∈ validatedEvidences warehouse symbol asOfDate correlationId turn.now, item.symbol = symbol := by
        intro item inside
        obtain ⟨family,_,found⟩ := List.mem_filterMap.mp inside
        obtain ⟨finding,_,shape⟩ := Option.map_eq_some_iff.mp found
        rw [←shape]
        rfl
      apply ingestEach_held (evidences_distinct warehouse symbol asOfDate correlationId turn.now) own _ _
        (heeded symbol maintained named done) ingested
      · intro row listed
        exact (mem_entityClaims.mp (listed_entity listed)).2.1
      · intro row listed _ _ _ _
        exact (mem_entityClaims.mp (listed_entity listed)).1
  intro family finding found
  have among : familyEvidence family symbol asOfDate correlationId turn.now finding ∈
      validatedEvidences warehouse symbol asOfDate correlationId turn.now := by
    apply List.mem_filterMap.mpr
    refine ⟨family,?_,by rw [found]; rfl⟩
    cases family <;> decide
  obtain ⟨row,present,status,key,value⟩ := held _ among
  exact ⟨row,present,status,key.1,key.2.1,key.2.2,value⟩

theorem other_followed {symbol other : Text} {memory after : Memory} (differs : other ≠ symbol)
    (followed : Followed memory warehouse other asOfDate)
    (processed : projectSymbol warehouse symbol asOfDate correlationId turn memory = .ok after) :
    Followed after warehouse other asOfDate := by
  intro family finding found
  obtain ⟨row,present,status,entity,claimType,predicate,value⟩ := followed family finding found
  have apart : row.entity ≠ symbolEntity symbol := by
    rw [entity]
    intro same
    exact differs (congrArg MemoryEntity.entityId same)
  refine ⟨row,?_,status,entity,claimType,predicate,value⟩
  rcases processed_cases processed with ⟨_,same⟩ | ⟨maintained,done,ingested⟩
  · rw [same]
    exact present
  · apply ingestEach_other ingested (maintain_other done present apart)
    intro item inside key
    obtain ⟨family',_,found'⟩ := List.mem_filterMap.mp inside
    obtain ⟨finding',_,shape⟩ := Option.map_eq_some_iff.mp found'
    rw [←shape] at key
    exact apart key.1

def AllHeededTurns (warehouse : Warehouse) (asOfDate : Date) (correlationId : Text) : ProjectionResult → List Turn → Prop
  | _,[] => True
  | result,turn :: rest => HeededTurn warehouse asOfDate correlationId result.memory turn ∧
      AllHeededTurns warehouse asOfDate correlationId (projectOne warehouse asOfDate correlationId result turn) rest

theorem turns_followed (followed : ∀ symbol ∈ result.processedSymbols, Followed result.memory warehouse symbol asOfDate)
    (heeded : AllHeededTurns warehouse asOfDate correlationId result turns) :
    ∀ symbol ∈ (turns.foldl (projectOne warehouse asOfDate correlationId) result).processedSymbols,
      Followed (turns.foldl (projectOne warehouse asOfDate correlationId) result).memory warehouse symbol asOfDate := by
  induction turns generalizing result with
  | nil => exact followed
  | cons turn rest ih =>
    obtain ⟨first,later⟩ := heeded
    refine ih ?_ later
    unfold projectOne
    cases named : normalizeSymbol turn.symbol with
    | none => exact followed
    | some symbol =>
      dsimp only
      cases processed : projectSymbol warehouse symbol asOfDate correlationId turn result.memory with
      | error refusal => exact followed
      | ok after =>
        intro other inside
        by_cases same : other = symbol
        · rw [same]
          exact turn_followed named first processed
        · rcases List.mem_append.mp inside with before | now
          · exact other_followed same (followed other before) processed
          · exact absurd (List.mem_singleton.mp now) same

end turns

-- The warehouse changes in any way between the runs.
inductive Change where
  | warehouse (next : Warehouse)
  | project (asOfDate : Date) (correlationId : Text) (turns : List Turn)

structure World where
  warehouse : Warehouse
  memory : Memory

def World.after (world : World) : Change → World
  | .warehouse next => {world with warehouse:=next}
  | .project asOfDate correlationId turns =>
    {world with memory:=(project world.warehouse asOfDate correlationId world.memory turns).memory}

-- Right after every run, for every symbol it reports as processed.
def AllFollowed (world : World) : List Change → Prop
  | [] => True
  | .warehouse next :: rest => AllFollowed (world.after (.warehouse next)) rest
  | .project asOfDate correlationId turns :: rest =>
    (∀ symbol ∈ (project world.warehouse asOfDate correlationId world.memory turns).processedSymbols,
      Followed (project world.warehouse asOfDate correlationId world.memory turns).memory world.warehouse symbol asOfDate) ∧
    AllFollowed (world.after (.project asOfDate correlationId turns)) rest

def AllHeeded (world : World) : List Change → Prop
  | [] => True
  | .warehouse next :: rest => AllHeeded (world.after (.warehouse next)) rest
  | .project asOfDate correlationId turns :: rest =>
    AllHeededTurns world.warehouse asOfDate correlationId ⟨world.memory,[],[]⟩ turns ∧
    AllHeeded (world.after (.project asOfDate correlationId turns)) rest

theorem memory_follows (world : World) (history : List Change) (heeded : AllHeeded world history) : AllFollowed world history := by
  induction history generalizing world with
  | nil => trivial
  | cons change rest ih =>
    cases change with
    | warehouse next => exact ih _ heeded
    | project asOfDate correlationId turns =>
      obtain ⟨now,later⟩ := heeded
      refine ⟨turns_followed ?_ now,ih _ later⟩
      intro symbol inside
      cases inside

-- A history in which every run is followed, up to one of its runs.
theorem run_followed {asOfDate : Date} {correlationId : Text}
    (followed : AllFollowed world (earlier ++ .project asOfDate correlationId turns :: rest)) :
    ∀ symbol ∈ (project (earlier.foldl World.after world).warehouse asOfDate correlationId
        (earlier.foldl World.after world).memory turns).processedSymbols,
      Followed (project (earlier.foldl World.after world).warehouse asOfDate correlationId
        (earlier.foldl World.after world).memory turns).memory (earlier.foldl World.after world).warehouse symbol asOfDate := by
  induction earlier generalizing world with
  | nil => exact followed.1
  | cons change earlier ih =>
    cases change with
    | warehouse next => exact ih followed
    | project date id others => exact ih followed.2

end following

/- The state of one candidate of one day. -/

def marchFifth : Date := .of 2024 3 5

def candidateValue (candidateClass : Text) : List (Text × Json) :=
  [("candidate_class".toList,.str candidateClass),("setup_type".toList,.null),("risk_flags".toList,.arr []),
   ("scoring_policy_id".toList,.str "policy".toList),("scoring_policy_hash".toList,.str "hash".toList)]

-- One row of `candidate_score`, and nothing else.
def candidateWarehouse (candidateClass : Text) : Warehouse where
  latest family symbol asOfDate :=
    if family = .candidateState ∧ symbol = "FPT".toList ∧ asOfDate = marchFifth then
      some ⟨"FPT:2024-03-05".toList,candidateValue candidateClass,some marchFifth⟩
    else none
  persisted :=
    { hasPersistedEvidence:=fun sourceRef symbol asOfDate claimType predicate value =>
        sourceRef == "candidate_score:FPT:2024-03-05".toList && symbol == "FPT".toList && asOfDate == marchFifth &&
          claimType == "candidate_state".toList && predicate == "candidate_classification".toList &&
          decide (value = candidateValue candidateClass)
      matchesPersistedResearchEvidence:=fun _ _ _ _ _ _ => false }

def fptTurn (minute : Nat) (bounded : minute < 60) : Turn :=
  ⟨"FPT".toList,⟨marchFifth,⟨18,minute,0,0,by omega⟩⟩,true⟩

def firstRun : List Change := [.project marchFifth "run".toList [fptTurn 0 (by decide)]]

theorem fpt_named : normalizeSymbol "FPT".toList = some "FPT".toList := by decide

theorem memory_follows_sample : @AllFollowed ⟨id⟩ ⟨candidateWarehouse "watch".toList,.empty⟩ firstRun := by
  let : Digest := ⟨id⟩
  apply memory_follows
  refine ⟨⟨?_,trivial⟩,trivial⟩
  intro symbol maintained named done
  have fpt : symbol = "FPT".toList := Option.some.inj (named.symm.trans fpt_named)
  subst fpt
  have settled : maintained = .empty := Except.ok.inj (done.symm.trans rfl)
  subst settled
  refine ⟨.inr ⟨rfl,?_⟩,?_⟩
  · intro existing inside
    cases inside
  · rw [if_neg (by decide)]
    exact fun _ _ _ => trivial

-- The class of a candidate changes and changes back.
def thereAndBack : List Change :=
  [.project marchFifth "first".toList [fptTurn 0 (by decide)],.warehouse (candidateWarehouse "avoid".toList),
   .project marchFifth "second".toList [fptTurn 1 (by decide)],.warehouse (candidateWarehouse "watch".toList)]

def returned [Digest] : World := thereAndBack.foldl World.after ⟨candidateWarehouse "watch".toList,.empty⟩

def thirdRun [Digest] : ProjectionResult :=
  project returned.warehouse marchFifth "third".toList returned.memory [fptTurn 2 (by decide)]

-- The next run reports the symbol as processed, and no claim of it is active.
theorem returned_value_lost : ¬ @AllFollowed ⟨id⟩ ⟨candidateWarehouse "watch".toList,.empty⟩
    (thereAndBack ++ [.project marchFifth "third".toList [fptTurn 2 (by decide)]]) := by
  let : Digest := ⟨id⟩
  intro followed
  have processed : "FPT".toList ∈ thirdRun.processedSymbols := by decide +kernel
  have silent : ∀ claim ∈ thirdRun.memory.claims, claim.status ≠ .active := by decide +kernel
  have third : Followed thirdRun.memory returned.warehouse "FPT".toList marchFifth := run_followed followed _ processed
  have yields : (returned.warehouse.latest .candidateState "FPT".toList marchFifth).isSome = true := by decide
  obtain ⟨finding,found⟩ := Option.isSome_iff_exists.mp yields
  obtain ⟨claim,present,status,_⟩ := third .candidateState finding found
  exact silent claim present status

end OpenStock.SymbolMemory
