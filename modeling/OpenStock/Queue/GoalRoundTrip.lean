import OpenStock.Queue.Goals

namespace OpenStock.Queue
open Text Calendar Json

/- Reading a dict in any member order gives back the goal that dumped it. -/

theorem rejectDuplicateKeys_distinct (distinct : (pairs.map Prod.fst).Nodup) : rejectDuplicateKeys pairs = some pairs := by
  have scan : ∀ later earlier : List (Text × Json), ((earlier ++ later).map Prod.fst).Nodup →
      later.foldlM (fun result pair =>
        if result.any (fun earlier => earlier.1 == pair.1) then none else some (result ++ [pair])) earlier =
        some (earlier ++ later) := by
    intro later
    induction later with
    | nil => simp
    | cons pair later ih =>
      intro earlier distinct
      have fresh : earlier.any (fun other => other.1 == pair.1) = false := by
        rw [List.any_eq_false]
        intro other inside same
        rw [List.map_append,List.nodup_append] at distinct
        exact distinct.2.2 other.1 (List.mem_map_of_mem inside) pair.1 (by simp) (by simpa using same)
      simp only [List.foldlM_cons,fresh,Bool.false_eq_true,if_false,Option.bind_eq_bind,Option.bind_some]
      rw [ih (earlier ++ [pair]) (by simpa using distinct)]
      simp
  exact scan pairs [] (by simpa using distinct)

theorem forbidExtra_known (known : ∀ entry ∈ members, entry.1 ∈ names.map String.toList) :
    forbidExtra members names = some () := by
  have covered : members.all (fun entry => names.any (fun name => name.toList == entry.1)) = true := by
    rw [List.all_eq_true]
    intro entry inside
    obtain ⟨name,listed,same⟩ := List.mem_map.mp (known entry inside)
    exact List.any_eq_true.mpr ⟨name,listed,by simpa using same⟩
  simp [forbidExtra,covered]

-- What a permutation of a dump answers, stated once for the three models.
structure Dumped (members dump : List (Text × Json)) (names : List String) : Prop where
  perm : members.Perm dump
  keys : dump.map Prod.fst = names.map String.toList
  distinct : (names.map String.toList).Nodup

theorem Dumped.lookup (dumped : Dumped members dump names) : ∀ entry ∈ dump, Json.lookup members entry.1 = some entry.2 := by
  intro entry inside
  have distinct : (members.map Prod.fst).Nodup := by
    rw [(dumped.perm.map Prod.fst).nodup_iff,dumped.keys]
    exact dumped.distinct
  exact (lookup_iff distinct).mpr (dumped.perm.mem_iff.mpr inside)

theorem Dumped.forbidExtra (dumped : Dumped members dump names) : forbidExtra members names = some () := by
  apply forbidExtra_known
  intro entry inside
  rw [← dumped.keys]
  exact List.mem_map_of_mem (dumped.perm.mem_iff.mp inside)

theorem read_capability (capability : ReadinessCapability) :
    strictEnum ReadinessCapability.ofValue (.str capability.value) = some capability := by
  cases capability <;> rfl

theorem read_enrichment (enrichment : GoalEnrichment) :
    strictEnum GoalEnrichment.ofValue (.str enrichment.value) = some enrichment := by
  cases enrichment <;> rfl

theorem read_refreshMode (mode : RefreshMode) : strictEnum RefreshMode.ofValue (.str mode.value) = some mode := by
  cases mode <;> rfl

theorem read_dataset (dataset : QueueDataset) : strictEnum QueueDataset.ofValue (.str dataset.value) = some dataset := by
  cases dataset; rfl

theorem read_entityType (entityType : QueueEntityType) :
    strictEnum QueueEntityType.ofValue (.str entityType.value) = some entityType := by
  cases entityType; rfl

theorem read_fallback (fallback : Option ReadinessCapability) :
    nullable (strictEnum ReadinessCapability.ofValue) (fallbackJson fallback) = some fallback := by
  cases fallback with
  | none => rfl
  | some capability => simp [fallbackJson,nullable,read_capability]

theorem read_enrichments (items : List GoalEnrichment) :
    tupleOf (strictEnum GoalEnrichment.ofValue) (.arr (items.map (fun item => .str item.value))) = some items := by
  induction items with
  | nil => rfl
  | cons item items ih =>
    simp only [tupleOf] at ih ⊢
    simp [read_enrichment,ih]

theorem mkEnsureCurrentSymbolGoal_goal (goal : EnsureCurrentSymbolGoal) :
    mkEnsureCurrentSymbolGoal goal.sourcePolicyVersion.val goal.symbol.val goal.effectiveDate
      goal.desiredCapability goal.allowedFallback goal.requestedEnrichments.val goal.refreshMode
      goal.contractVersion.val = .ok goal := by
  simp [mkEnsureCurrentSymbolGoal,Normalizer.validate_admitted,bind,Except.bind,goal.fallback]

theorem mkSyncDatasetRangeGoal_goal (goal : SyncDatasetRangeGoal) :
    mkSyncDatasetRangeGoal goal.sourcePolicyVersion.val goal.dataset goal.entityType goal.entityId.val
      goal.startDate goal.endDate goal.refreshMode goal.contractVersion.val = .ok goal := by
  simp only [mkSyncDatasetRangeGoal,Normalizer.validate_admitted,bind,Except.bind]
  split
  · rename_i message refused
    rw [goal.range] at refused
    cases refused
  · rfl

theorem mkFinalizeMarketSessionGoal_goal (goal : FinalizeMarketSessionGoal) :
    mkFinalizeMarketSessionGoal goal.sourcePolicyVersion.val goal.maintenanceRunId.val goal.resolvedSession
      goal.frozenUniverseHash.val goal.finalizationContractVersion.val = .ok goal := by
  simp [mkFinalizeMarketSessionGoal,Normalizer.validate_admitted,bind,Except.bind]

section decoding
variable [Platform]

theorem read_date (date : Date) : strictDate (.str date.isoformat) = some date :=
  Platform.readDate_isoformat date

theorem readEnsureCurrentSymbol_dump (goal : EnsureCurrentSymbolGoal)
    (dumped : Dumped members goal.modelDump ensureCurrentSymbolFields) : readEnsureCurrentSymbol members = some goal := by
  have found := dumped.lookup
  simp only [EnsureCurrentSymbolGoal.modelDump,List.forall_mem_cons,member] at found
  obtain ⟨policy,_,schema,symbol,date,desired,fallback,enrichments,mode,contract,_⟩ := found
  simp only [readEnsureCurrentSymbol,required,defaulted,dumped.forbidExtra,policy,schema,symbol,date,desired,
    fallback,enrichments,mode,contract,Option.bind_eq_bind,Option.bind_some,strictStr,literalSchemaVersion,
    read_date,read_capability,read_fallback,read_enrichments,read_refreshMode,if_true,
    mkEnsureCurrentSymbolGoal_goal,Except.toOption]

theorem readSyncDatasetRange_dump (goal : SyncDatasetRangeGoal)
    (dumped : Dumped members goal.modelDump syncDatasetRangeFields) : readSyncDatasetRange members = some goal := by
  have found := dumped.lookup
  simp only [SyncDatasetRangeGoal.modelDump,List.forall_mem_cons,member] at found
  obtain ⟨policy,_,schema,dataset,entityType,entityId,startDate,endDate,mode,contract,_⟩ := found
  simp only [readSyncDatasetRange,required,defaulted,dumped.forbidExtra,policy,schema,dataset,entityType,entityId,
    startDate,endDate,mode,contract,Option.bind_eq_bind,Option.bind_some,strictStr,literalSchemaVersion,
    read_date,read_dataset,read_entityType,read_refreshMode,if_true,mkSyncDatasetRangeGoal_goal,Except.toOption]

theorem readFinalizeMarketSession_dump (goal : FinalizeMarketSessionGoal)
    (dumped : Dumped members goal.modelDump finalizeMarketSessionFields) : readFinalizeMarketSession members = some goal := by
  have found := dumped.lookup
  simp only [FinalizeMarketSessionGoal.modelDump,List.forall_mem_cons,member] at found
  obtain ⟨policy,_,schema,runId,session,universeHash,contract,_⟩ := found
  simp only [readFinalizeMarketSession,required,defaulted,dumped.forbidExtra,policy,schema,runId,session,universeHash,
    contract,Option.bind_eq_bind,Option.bind_some,strictStr,literalSchemaVersion,read_date,if_true,
    mkFinalizeMarketSessionGoal_goal,Except.toOption]

end decoding

def ProvisioningGoal.fields : ProvisioningGoal → List String
  | .ensureCurrentSymbol _ => ensureCurrentSymbolFields
  | .syncDatasetRange _ => syncDatasetRangeFields
  | .finalizeMarketSession _ => finalizeMarketSessionFields

variable (goal : ProvisioningGoal)

theorem dumped_sorted : Dumped (goal.modelDump.insertionSort keyBefore) goal.modelDump goal.fields := by
  refine ⟨List.perm_insertionSort _ _,?_,?_⟩
  · cases goal <;> rfl
  · have distinct : (ensureCurrentSymbolFields.map String.toList).Nodup ∧
        (syncDatasetRangeFields.map String.toList).Nodup ∧
        (finalizeMarketSessionFields.map String.toList).Nodup := by decide
    cases goal
    · exact distinct.1
    · exact distinct.2.1
    · exact distinct.2.2

theorem schemaVersion_dump (dumped : Dumped members goal.modelDump goal.fields) : schemaVersionSupported members = some () := by
  have inside : member "schema_version" (.int currentGoalSchemaVersion) ∈ goal.modelDump := by
    cases goal <;> simp [ProvisioningGoal.modelDump,EnsureCurrentSymbolGoal.modelDump,
      SyncDatasetRangeGoal.modelDump,FinalizeMarketSessionGoal.modelDump]
  have found := dumped.lookup _ inside
  simp only [member] at found
  simp only [schemaVersionSupported,required,found,Option.bind_some,literalSchemaVersion,if_true]

theorem goalType_dump (dumped : Dumped members goal.modelDump goal.fields) :
    required members "goal_type" strictStr = some (goalType goal).value := by
  have inside : member "goal_type" (.str (goalType goal).value) ∈ goal.modelDump := by
    cases goal <;> simp [goalType,ProvisioningGoal.modelDump,EnsureCurrentSymbolGoal.modelDump,
      SyncDatasetRangeGoal.modelDump,FinalizeMarketSessionGoal.modelDump]
  have found := dumped.lookup _ inside
  simp only [member] at found
  simp only [required,found,Option.bind_some,strictStr]

theorem goalType_values (left right : GoalType) : left.value = right.value ↔ left = right := by
  cases left <;> cases right <;> decide

theorem validateJson_dump [Platform] (goal : ProvisioningGoal)
    (dumped : Dumped members goal.modelDump goal.fields) : validateJson members = some goal := by
  have discriminator := goalType_dump goal dumped
  simp only [validateJson,discriminator,Option.bind_eq_bind,Option.bind_some,goalType_values]
  cases goal with
  | ensureCurrentSymbol goal => simp [goalType,readEnsureCurrentSymbol_dump goal dumped]
  | syncDatasetRange goal => simp [goalType,readSyncDatasetRange_dump goal dumped]
  | finalizeMarketSession goal => simp [goalType,readFinalizeMarketSession_dump goal dumped]

/- The dump is flat: sorting its keys touches no value, and the decoder reads
every value back. -/

inductive Flat : Json → Prop where
  | null : Flat .null
  | int : Flat (.int value)
  | text : Flat (.str value)
  | texts (items : List Text) : Flat (.arr (items.map .str))

theorem modelDump_flat : ∀ entry ∈ goal.modelDump, Flat entry.2 := by
  have fallback : ∀ capability, Flat (fallbackJson capability) := by
    rintro (_ | capability)
    · exact .null
    · exact .text
  have texts : ∀ items : List GoalEnrichment, Flat (.arr (items.map (fun item => .str item.value))) := by
    intro items
    have shape : items.map (fun item => Json.str item.value) = (items.map GoalEnrichment.value).map .str := by simp
    rw [shape]
    exact .texts _
  cases goal <;> simp [ProvisioningGoal.modelDump,EnsureCurrentSymbolGoal.modelDump,member,
    SyncDatasetRangeGoal.modelDump,FinalizeMarketSessionGoal.modelDump,fallback,texts,Flat.text,Flat.int]

theorem sortItems_texts (items : List Text) : sortItems (items.map .str) = items.map .str := by
  induction items with
  | nil => rfl
  | cons item items ih => simp [sortItems,sortKeys,ih]

theorem flat_sortKeys (flat : Flat value) : sortKeys value = value := by
  cases flat with
  | null | int | text => simp [sortKeys]
  | texts items => simp [sortKeys,sortItems_texts]

theorem flat_readable (flat : Flat value) : Readable hook value := by
  cases flat with
  | null | int | text => simp [Readable]
  | texts items => simp [Readable,readableItems_iff]

theorem sortMembers_flat (flat : ∀ entry ∈ members, Flat entry.2) : sortMembers members = members := by
  induction members with
  | nil => rfl
  | cons entry members ih =>
    have first := flat_sortKeys (flat entry List.mem_cons_self)
    have later := ih (fun other inside => flat other (List.mem_cons_of_mem _ inside))
    simp [sortMembers,first,later]

theorem payloadJson_render : goal.payloadJson = render (.obj (goal.modelDump.insertionSort keyBefore)) := by
  rw [ProvisioningGoal.payloadJson,dumps,sortKeys,sortMembers_flat (modelDump_flat goal)]

theorem payload_readable : Readable rejectDuplicateKeys (.obj (goal.modelDump.insertionSort keyBefore)) := by
  have dumped := dumped_sorted goal
  refine ⟨rejectDuplicateKeys_distinct ?_,readableMembers_iff.mpr ?_⟩
  · rw [(dumped.perm.map Prod.fst).nodup_iff,dumped.keys]
    exact dumped.distinct
  · intro entry inside
    exact flat_readable (modelDump_flat goal entry (dumped.perm.mem_iff.mp inside))

/- Size: no payload comes near the decoder's limit. -/

variable {text : Text}

theorem token_escape (token : versionTail c = true) : escapeChar c = [c] := by
  have range : 45 ≤ c.toNat ∧ c.toNat ≤ 122 ∧ c ≠ '\\' := by
    simp only [versionTail,Bool.or_eq_true,beq_iff_eq] at token
    rcases token with ((letter | rfl) | rfl) | rfl
    · rw [alphanum_cases] at letter
      refine ⟨?_,?_,?_⟩
      · rcases letter with (upper | lower) | digit
        · have bound := upper_range upper; omega
        · have bound := lower_range lower; omega
        · have bound := digit_range digit; omega
      · rcases letter with (upper | lower) | digit
        · have bound := upper_range upper; omega
        · have bound := lower_range lower; omega
        · have bound := digit_range digit; omega
      · rintro rfl
        exact absurd letter (by decide)
    all_goals decide
  have absent : shortEscapes.lookup c = none := by
    rw [List.lookup_eq_none_iff]
    intro entry inside
    simp only [shortEscapes,List.mem_cons,List.not_mem_nil,or_false] at inside
    rcases inside with rfl | rfl | rfl | rfl | rfl | rfl | rfl
    all_goals simp only [bne_iff_ne,ne_eq]; rintro rfl; revert range; decide
  simp only [escapeChar,absent]
  exact if_pos (by omega)

theorem renderString_token (tokens : ∀ c ∈ text, versionTail c = true) : (renderString text).length = text.length + 2 := by
  have body : text.flatMap escapeChar = text := by
    induction text with
    | nil => rfl
    | cons c text ih =>
      simp [token_escape (tokens c List.mem_cons_self),ih (fun d inside => tokens d (List.mem_cons_of_mem _ inside))]
  simp [renderString,body]

theorem version_short (text : Text) (matched : versionPattern text = true) : (renderString text).length ≤ 66 := by
  have tokens : ∀ c ∈ text, versionTail c = true := by
    intro c inside
    rcases identifier_members matched c inside with letter | tail
    · simp [versionTail,letter]
    · exact tail
  rw [renderString_token tokens]
  have bound := identifier_length matched
  omega

theorem symbol_short (text : Text) (matched : symbolPattern text = true) : (renderString text).length ≤ 66 := by
  have tokens : ∀ c ∈ text, versionTail c = true := by
    intro c inside
    have kinds : c.isUpper = true ∨ symbolTail c = true := identifier_members matched c inside
    simp only [symbolTail,Bool.or_eq_true] at kinds
    simp only [versionTail,alphanum_cases,Bool.or_eq_true]
    tauto
  rw [renderString_token tokens]
  have bound := identifier_length matched
  omega

theorem date_short (date : Date) : (renderString date.isoformat).length ≤ 66 := by
  have tokens : ∀ c ∈ date.isoformat, versionTail c = true := by
    intro c inside
    rcases isoformat_chars date c inside with digit | rfl
    · simp [versionTail,Char.isAlphanum,digit]
    · decide
  rw [renderString_token tokens,isoformat_length]
  decide

theorem version_matched (accepted : normalizeVersion name raw = .ok value) : versionPattern value = true := by
  unfold normalizeVersion at accepted
  dsimp only at accepted
  split at accepted
  · rename_i matched
    cases accepted
    exact matched
  · cases accepted

theorem pinned_matched (accepted : (normalizeVersion name raw >>= pinnedTo supported other) = .ok value) :
    versionPattern value = true := by
  cases checked : normalizeVersion name raw with
  | error refused =>
    rw [checked] at accepted
    cases accepted
  | ok normalized =>
    have pinned : pinnedTo supported other normalized = .ok value := by rwa [checked] at accepted
    unfold pinnedTo at pinned
    split at pinned
    · cases pinned
      exact version_matched checked
    · cases pinned

theorem symbol_matched (accepted : normalizeSymbol raw = .ok value) : symbolPattern value = true := by
  unfold normalizeSymbol at accepted
  dsimp only at accepted
  split at accepted
  · rename_i matched
    cases accepted
    exact matched
  · cases accepted

theorem entityId_matched (accepted : normalizeEntityId raw = .ok value) : entityIdPattern value = true := by
  unfold normalizeEntityId at accepted
  dsimp only at accepted
  split at accepted
  · rename_i matched
    cases accepted
    exact matched
  · cases accepted

variable (items : enrichmentsField.Admitted)

theorem enrichments_short : items.val.length ≤ 7 := by
  have settled : items.val.dedup.insertionSort enrichmentBefore = items.val := Except.ok.inj items.property
  have distinct : items.val.Nodup := by
    rw [← settled,(List.perm_insertionSort _ _).nodup_iff]
    exact List.nodup_dedup _
  have known : items.val ⊆ [.companyContext,.sessionContext,.fundamentalContext,.officialEventContext,
      .shareCountContext,.flowContext,.valuationContext] := by
    intro item _
    cases item <;> simp
  exact (List.subperm_of_subset distinct known).length_le

-- The wire texts, measured once.
theorem wire_short : (∀ goalType : GoalType, (renderString goalType.value).length ≤ 66) ∧
    (∀ capability : ReadinessCapability, (renderString capability.value).length ≤ 66) ∧
    (∀ mode : RefreshMode, (renderString mode.value).length ≤ 66) ∧
    (∀ dataset : QueueDataset, (renderString dataset.value).length ≤ 66) ∧
    (∀ entityType : QueueEntityType, (renderString entityType.value).length ≤ 66) ∧
    (∀ enrichment : GoalEnrichment, (renderString enrichment.value).length ≤ 26) := by
  refine ⟨?_,?_,?_,?_,?_,?_⟩ <;> rintro ⟨⟩ <;> decide

theorem enrichments_render : (render (.arr (items.val.map (fun item => .str item.value)))).length ≤ 191 := by
  have each : ∀ item ∈ items.val.map (fun item => Json.str item.value), (render item).length ≤ 26 := by
    intro item inside
    obtain ⟨enrichment,_,rfl⟩ := List.mem_map.mp inside
    rw [render]
    exact wire_short.2.2.2.2.2 enrichment
  have bound := render_array_length each
  have few := enrichments_short items
  rw [List.length_map] at bound
  omega

theorem values_short : ∀ entry ∈ goal.modelDump, (render entry.2).length ≤ 191 := by
  have short : ∀ text : Text, (renderString text).length ≤ 66 → (render (.str text)).length ≤ 191 := by
    intro text bound
    rw [render]
    omega
  have schema : (render (.int currentGoalSchemaVersion)).length ≤ 191 := by decide
  have date := fun date => short _ (date_short date)
  have wire := wire_short
  cases goal with
  | ensureCurrentSymbol goal =>
    have policy := short _ (version_short _ (pinned_matched goal.sourcePolicyVersion.property))
    have symbol := short _ (symbol_short _ (symbol_matched goal.symbol.property))
    have contract := short _ (version_short _ (pinned_matched goal.contractVersion.property))
    have fallback : (render (fallbackJson goal.allowedFallback)).length ≤ 191 := by
      cases goal.allowedFallback with
      | none => decide
      | some capability => exact short _ (wire.2.1 capability)
    simp only [ProvisioningGoal.modelDump,EnsureCurrentSymbolGoal.modelDump,List.forall_mem_cons,member]
    exact ⟨policy,short _ (wire.1 _),schema,symbol,date _,short _ (wire.2.1 _),fallback,
      enrichments_render _,short _ (wire.2.2.1 _),contract,by simp⟩
  | syncDatasetRange goal =>
    have policy := short _ (version_short _ (pinned_matched goal.sourcePolicyVersion.property))
    have entity := short _ (version_short _ (entityId_matched goal.entityId.property))
    have contract := short _ (version_short _ (pinned_matched goal.contractVersion.property))
    simp only [ProvisioningGoal.modelDump,SyncDatasetRangeGoal.modelDump,List.forall_mem_cons,member]
    exact ⟨policy,short _ (wire.1 _),schema,short _ (wire.2.2.2.1 _),short _ (wire.2.2.2.2.1 _),entity,
      date _,date _,short _ (wire.2.2.1 _),contract,by simp⟩
  | finalizeMarketSession goal =>
    have policy := short _ (version_short _ (pinned_matched goal.sourcePolicyVersion.property))
    have runId := short _ (version_short _ (version_matched goal.maintenanceRunId.property))
    have universeHash := short _ (version_short _ (version_matched goal.frozenUniverseHash.property))
    have contract := short _ (version_short _ (pinned_matched goal.finalizationContractVersion.property))
    simp only [ProvisioningGoal.modelDump,FinalizeMarketSessionGoal.modelDump,List.forall_mem_cons,member]
    exact ⟨policy,short _ (wire.1 _),schema,runId,date _,universeHash,contract,by simp⟩

theorem keys_short : ∀ entry ∈ goal.modelDump, (renderString entry.1).length ≤ 31 := by
  have names : ∀ name ∈ ensureCurrentSymbolFields ++ syncDatasetRangeFields ++ finalizeMarketSessionFields,
      (renderString name.toList).length ≤ 31 := by decide
  have known : goal.fields ⊆ ensureCurrentSymbolFields ++ syncDatasetRangeFields ++ finalizeMarketSessionFields := by
    intro name inside
    cases goal <;> simp_all [ProvisioningGoal.fields]
  intro entry inside
  have key : entry.1 ∈ goal.fields.map String.toList := by
    rw [← (dumped_sorted goal).keys]
    exact List.mem_map_of_mem inside
  obtain ⟨name,listed,same⟩ := List.mem_map.mp key
  rw [← same]
  exact names name (known listed)

theorem payload_bounded : encodedLength goal.payloadJson ≤ maxGoalPayloadBytes := by
  have dumped := dumped_sorted goal
  have few : goal.modelDump.length ≤ 10 := by cases goal <;> exact Nat.le_of_ble_eq_true rfl
  have bound := render_object_length
    (fun entry inside => keys_short goal entry (dumped.perm.mem_iff.mp inside))
    (fun entry inside => values_short goal entry (dumped.perm.mem_iff.mp inside))
  rw [dumped.perm.length_eq] at bound
  rw [payloadJson_render,ascii_encodedLength (render_ascii _ _ (payload_readable goal)),maxGoalPayloadBytes]
  omega

theorem parse_payload [Platform] (goal : ProvisioningGoal) : parseGoalPayload goal.payloadJson = .ok goal := by
  have dumped := dumped_sorted goal
  have small : ¬ encodedLength goal.payloadJson > maxGoalPayloadBytes := Nat.not_lt.mpr (payload_bounded goal)
  have read : loads rejectDuplicateKeys goal.payloadJson =
      some (.obj (goal.modelDump.insertionSort keyBefore)) := by
    rw [payloadJson_render]
    exact loads_render _ (payload_readable goal)
  simp [parseGoalPayload,small,read,schemaVersion_dump goal dumped,validateJson_dump goal dumped]

theorem payload_injective [Platform] : Function.Injective ProvisioningGoal.payloadJson := by
  intro left right same
  have read := parse_payload left
  rw [same,parse_payload right] at read
  exact (Except.ok.inj read).symm

theorem identity_iff [Platform] (collisionFree : Function.Injective Platform.hexdigest) (left right : ProvisioningGoal) :
    goalIdentity left = goalIdentity right ↔ left = right := by
  constructor
  · intro same
    exact payload_injective (collisionFree same)
  · rintro rfl
    rfl

-- Decoding inverts encoding, and the digest of the encoding names the goal; an
-- accepted text is thereby normalized to one canonical text.
theorem goal_payload_identifies [Platform] (collisionFree : Function.Injective Platform.hexdigest) :
    (∀ goal : ProvisioningGoal, parseGoalPayload goal.payloadJson = .ok goal) ∧
    (∀ left right : ProvisioningGoal, goalIdentity left = goalIdentity right ↔ left = right) ∧
    (∀ text goal, parseGoalPayload text = .ok goal →
      (parseGoalPayload goal.payloadJson).map ProvisioningGoal.payloadJson = .ok goal.payloadJson) ∧
    ∀ first second left right, parseGoalPayload first = .ok left → parseGoalPayload second = .ok right →
      (parseGoalPayload first = parseGoalPayload second ↔ goalIdentity left = goalIdentity right) := by
  refine ⟨parse_payload,identity_iff collisionFree,?_,?_⟩
  · intro text goal _
    rw [parse_payload]
    rfl
  · intro first second left right readFirst readSecond
    rw [identity_iff collisionFree,readFirst,readSecond]
    exact Except.ok.injEq left right ▸ Iff.rfl

def sampleGoal : ProvisioningGoal :=
  .ensureCurrentSymbol ⟨⟨"policy-v1".toList,by decide⟩,⟨"FPT".toList,by decide⟩,
    .of 2026 7 15,.candidateRanking,some .priceAnalysis,
    ⟨[.companyContext,.flowContext],by decide⟩,.cacheFirst,⟨"current-symbol-v1".toList,by decide⟩,rfl⟩

def sampleDigest : Text := "d6eaf9092e1afa944daca30e7e187be1daabf57aeda4c9eaa2bbcde47ba474c8".toList

-- A digest that is the real one on the sample and collides nowhere.
def sampleHexdigest (text : Text) : Text :=
  if text = sampleGoal.payloadJson then sampleDigest else 'x' :: text

@[reducible]
def samplePlatform : Platform := ⟨sampleHexdigest,fromIsoformat,fromIsoformat_isoformat⟩

theorem sampleHexdigest_payload : sampleHexdigest sampleGoal.payloadJson = sampleDigest := if_pos rfl

theorem sampleHexdigest_injective : Function.Injective sampleHexdigest := by
  have head : ∀ text, sampleDigest ≠ 'x' :: text := by
    intro text same
    have first : sampleDigest.head? ≠ some 'x' := by decide
    exact first (by rw [same]; rfl)
  intro left right same
  unfold sampleHexdigest at same
  split at same <;> split at same
  · simp_all
  · exact absurd same (head _)
  · exact absurd same.symm (head _)
  · exact (List.cons.inj same).2

theorem goal_payload_identifies_sample : @parseGoalPayload samplePlatform sampleGoal.payloadJson = .ok sampleGoal ∧
    @goalIdentity samplePlatform sampleGoal = sampleDigest ∧
    ∀ other, @goalIdentity samplePlatform other = @goalIdentity samplePlatform sampleGoal ↔ other = sampleGoal := by
  have identified := @goal_payload_identifies samplePlatform sampleHexdigest_injective
  have digest : @goalIdentity samplePlatform sampleGoal = sampleDigest := by
    unfold goalIdentity
    exact sampleHexdigest_payload
  exact ⟨identified.1 sampleGoal,digest,fun other => identified.2.1 other sampleGoal⟩

-- Blanks, case and repetition disappear in the constructor.
example : (mkEnsureCurrentSymbolGoal " policy-v1 ".toList " fpt ".toList ⟨2026,7,15,by decide,by decide,by decide⟩
    .candidateRanking (some .priceAnalysis) [.flowContext,.companyContext,.flowContext] .cacheFirst
    "current-symbol-v1".toList).map .ensureCurrentSymbol = .ok sampleGoal := by decide

end OpenStock.Queue
