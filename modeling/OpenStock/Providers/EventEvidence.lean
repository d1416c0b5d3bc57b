import OpenStock.CorporateActions.Ingested
import OpenStock.Providers.EventTables

namespace OpenStock.Providers.Events
open Text CorporateActions Queue

/- The row of a record depends on what is read under each key. -/

variable {left right : List (Text × Json)}

theorem perm_lookups (leftDistinct : (left.map Prod.fst).Nodup)
    (rightDistinct : (right.map Prod.fst).Nodup) (same : Json.lookup left = Json.lookup right) : left.Perm right := by
  rw [List.perm_ext_iff_of_nodup leftDistinct.of_map rightDistinct.of_map]
  intro member
  rw [← Json.lookup_iff leftDistinct,← Json.lookup_iff rightDistinct,same]

-- The payload of a row tells apart what was read.
theorem payload_lookups (leftDistinct : (left.map Prod.fst).Nodup) (rightDistinct : (right.map Prod.fst).Nodup)
    (leftScalars : ∀ member ∈ left, isScalar member.2 = true ∧ Json.Printable member.2)
    (rightScalars : ∀ member ∈ right, isScalar member.2 = true ∧ Json.Printable member.2)
    (same : payloadText Json.compactPlain left = payloadText Json.compactPlain right) :
    Json.lookup left = Json.lookup right := by
  have plain : ∀ value, isScalar value = true → Json.sortKeys value = value := by
    intro value scalar
    cases value <;> first | rfl | cases scalar
  have read : ∀ members : List (Text × Json), (∀ member ∈ members, isScalar member.2 = true ∧ Json.Printable member.2) →
      (members.map Prod.fst).Nodup → ∀ key, (Json.lookup members key).map Json.sortKeys = Json.lookup members key := by
    intro members scalars distinct key
    cases found : Json.lookup members key with
    | none => rfl
    | some value =>
      have member := (Json.lookup_iff distinct).mp found
      rw [Option.map_some,plain value (scalars _ member).1]
  have printable : ∀ members : List (Text × Json),
      (∀ member ∈ members, isScalar member.2 = true ∧ Json.Printable member.2) → Json.Printable (.obj members) :=
    fun members scalars => Json.printableMembers_iff.mpr (fun member inside => (scalars member inside).2)
  have values := (Json.write_sorted Json.compactPlain (.obj left) (.obj right) (printable left leftScalars)
    (printable right rightScalars)).mp same
  rw [Json.sortKeys,Json.sortKeys,Json.obj.injEq] at values
  funext key
  rw [← read left leftScalars leftDistinct key,← read right rightScalars rightDistinct key,
    ← Json.lookup_sorted leftDistinct,← Json.lookup_sorted rightDistinct,values]

section reading
variable [Reading] [Platform]

theorem normalizeRaw_lookups {left right : List (Text × Json)} (leftDistinct : (left.map Prod.fst).Nodup)
    (rightDistinct : (right.map Prod.fst).Nodup) (same : Json.lookup left = Json.lookup right) (provider symbol : Text) :
    normalizeRaw left provider symbol = normalizeRaw right provider symbol := by
  have texts : ∀ layout, payloadText layout left = payloadText layout right := by
    intro layout
    rw [payloadText,payloadText,Json.sortKeys_perm leftDistinct (perm_lookups leftDistinct rightDistinct same)]
  have firsts : first left = first right := by
    funext keys
    rw [first,first,same]
  have stateds : stated left = stated right := by
    funext keys
    rw [stated,stated,firsts]
  have dates : dateValue left = dateValue right := by
    funext keys
    rw [dateValue,dateValue,firsts]
  have floats : floatValue left = floatValue right := by
    funext keys
    rw [floatValue,floatValue,firsts]
  have ratios : ratioValue left = ratioValue right := by
    funext keys
    rw [ratioValue,ratioValue,firsts,floats]
  have ids : eventId left = eventId right := by rw [eventId,eventId,stateds,texts]
  have symbols : eventSymbol left = eventSymbol right := by
    funext fallback
    rw [eventSymbol,eventSymbol,firsts]
  have classes : ∀ code title, classify code title left = classify code title right := by
    intro code title
    rw [classify,classify,same,floats,ratios]
  rw [normalizeRaw,normalizeRaw,symbols,ids,stateds,classes,floats,ratios,texts,dates]

end reading

/- What is read of a record in the table of a response. -/

-- The last of the columns that one name is given to.
def columnOf (response : List ProviderEvent) (name : Text) : Option Text :=
  (columns response).reverse.find? (fun column => snakeCase column = name)

theorem dictOf_members (pairs : List (Text × Json)) : ∀ member ∈ dictOf pairs, member ∈ pairs := by
  induction pairs using List.reverseRecOn with
  | nil => simp [dictOf]
  | append_singleton pairs pair ih =>
    intro member inside
    rw [dictOf_append,Rows.mem_upsert_key] at inside
    rcases inside with rfl | ⟨before,_⟩
    · simp
    · exact List.mem_append_left _ (ih member before)

section reading
variable [Reading]

def readRecord (response : List ProviderEvent) (event : ProviderEvent) : List (Text × Json) :=
  dictOf ((tableRecord response event).map (fun member => (lower (strip member.1),jsonSafe member.2)))

-- The value of the record that is read in a column.
def evidence (response : List ProviderEvent) (event : ProviderEvent) (column : Text) : Json :=
  jsonSafe (tableCell (floated response column) (event.cell column))

variable (response : List ProviderEvent) (event : ProviderEvent)

theorem readRecord_safe : readRecord response event =
      dictOf ((tableRecord response event).map (fun member => (member.1,jsonSafe member.2))) := by
  rw [readRecord]
  congr 1
  apply List.map_congr_left
  intro member inside
  obtain ⟨column,_,rfl⟩ := List.mem_map.mp (dictOf_members _ member inside)
  rw [snakeCase_stable]

theorem lookup_readRecord (name : Text) :
    Json.lookup (readRecord response event) name = (columnOf response name).map (evidence response event) := by
  have distinct := dictOf_distinct ((columns response).map (fun column =>
    (snakeCase column,tableCell (floated response column) (event.cell column))))
  rw [readRecord_safe,lookup_dictOf_distinct (by simpa [tableRecord,Function.comp_def] using distinct),lookup_mapped,tableRecord,lookup_dictOf,
    ← List.map_reverse,List.find?_map,Option.map_map,Option.map_map,columnOf]
  rfl

theorem readRecord_distinct : ((readRecord response event).map Prod.fst).Nodup := dictOf_distinct _

theorem evidence_scalar (column : Text) :
    isScalar (evidence response event column) = true ∧ Json.Printable (evidence response event column) := by
  have safe : ∀ value, isScalar value = true ∧ Json.Printable value →
      isScalar (jsonSafe value) = true ∧ Json.Printable (jsonSafe value) := by
    intro value good
    unfold jsonSafe
    split
    · exact ⟨rfl,trivial⟩
    · exact good
  apply safe
  cases found : event.cell column with
  | none => exact ⟨rfl,by show Json.isLexeme "NaN".toList = true; decide⟩
  | some value =>
    have good := event.scalars _ ((Json.lookup_iff event.distinct).mp found)
    cases value with
    | int number =>
      rw [tableCell]
      split
      · exact ⟨rfl,Reading.ofInt_lexeme number⟩
      · exact ⟨rfl,trivial⟩
    | _ => exact good

theorem readRecord_scalars : ∀ member ∈ readRecord response event, isScalar member.2 = true ∧ Json.Printable member.2 := by
  intro member inside
  have found := (Json.lookup_iff (readRecord_distinct response event)).mpr inside
  rw [lookup_readRecord] at found
  obtain ⟨column,_,value⟩ := Option.map_eq_some_iff.mp found
  rw [← value]
  exact evidence_scalar response event column

-- Both tables have the columns of the same names, and under each name they hold
-- the same value of the record.
structure SameTable (left right : List ProviderEvent) (event : ProviderEvent) : Prop where
  names : ∀ name, (columnOf left name).isSome = (columnOf right name).isSome
  values : ∀ name column other, columnOf left name = some column → columnOf right name = some other →
    evidence left event column = evidence right event other

theorem sameTable_iff (left right : List ProviderEvent) (event : ProviderEvent) :
    SameTable left right event ↔ Json.lookup (readRecord left event) = Json.lookup (readRecord right event) := by
  constructor
  · intro same
    funext name
    rw [lookup_readRecord,lookup_readRecord]
    have names := same.names name
    cases leftColumn : columnOf left name with
    | none =>
      rw [leftColumn] at names
      have absent : columnOf right name = none := by simpa using names.symm
      rw [absent]
      rfl
    | some column =>
      cases rightColumn : columnOf right name with
      | none => rw [leftColumn,rightColumn] at names; cases names
      | some other => simp [same.values name column other leftColumn rightColumn]
  · intro same
    have lookups : ∀ name, (columnOf left name).map (evidence left event) = (columnOf right name).map (evidence right event) := by
      intro name
      rw [← lookup_readRecord,← lookup_readRecord,same]
    constructor
    · intro name
      have sizes := congrArg Option.isSome (lookups name)
      simpa using sizes
    · intro name column other leftColumn rightColumn
      have values := lookups name
      rw [leftColumn,rightColumn] at values
      exact Option.some.inj values

omit [Reading] in
theorem columns_empty : columns response = [] ↔ ∀ name, (columnOf response name).isSome = false := by
  constructor
  · intro empty name
    simp [columnOf,empty]
  · intro absent
    cases shape : columns response with
    | nil => rfl
    | cons column rest =>
      have missing := absent (snakeCase column)
      rw [Option.isSome_eq_false_iff,Option.isNone_iff_eq_none,columnOf,List.find?_eq_none] at missing
      exact absurd (missing column (by simp [shape])) (by simp)

variable [Platform]

theorem eventRow_iff (left right : List ProviderEvent) (provider symbol : Text) (event : ProviderEvent) :
    eventRow left provider symbol event = eventRow right provider symbol event ↔ SameTable left right event := by
  have rows : ∀ response, eventRow response provider symbol event =
      if columns response = [] then none
      else some (normalizeRaw (readRecord response event) (strip (upper provider)) (strip (upper symbol))) := fun _ => rfl
  rw [rows,rows]
  constructor
  · intro same
    by_cases leftEmpty : columns left = []
    · rw [if_pos leftEmpty] at same
      have rightEmpty : columns right = [] := by
        by_cases rightEmpty : columns right = []
        · exact rightEmpty
        · rw [if_neg rightEmpty] at same; cases same
      have leftNone := (columns_empty left).mp leftEmpty
      have rightNone := (columns_empty right).mp rightEmpty
      refine ⟨fun name => by rw [leftNone,rightNone],?_⟩
      intro name column _ found
      have absent := leftNone name
      rw [found] at absent
      cases absent
    · rw [if_neg leftEmpty] at same
      by_cases rightEmpty : columns right = []
      · rw [if_pos rightEmpty] at same; cases same
      · rw [if_neg rightEmpty] at same
        rw [sameTable_iff]
        have payloads := congrArg NormalizedAction.sourcePayloadJson (Option.some.inj same)
        exact payload_lookups (readRecord_distinct left event) (readRecord_distinct right event)
          (readRecord_scalars left event) (readRecord_scalars right event) payloads
  · intro same
    have empties : columns left = [] ↔ columns right = [] := by
      rw [columns_empty,columns_empty]
      simp only [same.names]
    have records := normalizeRaw_lookups (readRecord_distinct left event) (readRecord_distinct right event)
      ((sameTable_iff left right event).mp same) (strip (upper provider)) (strip (upper symbol))
    by_cases empty : columns left = []
    · rw [if_pos empty,if_pos (empties.mp empty)]
    · rw [if_neg empty,if_neg (fun other => empty (empties.mpr other)),records]

-- Evidence that is stored already is not stored again.
omit [Reading] in
theorem ingest_known (call again : IngestCall) (record : again.record = call.record) (provider : again.provider = call.provider)
    (warehouse : ResearchWarehouse) (known : warehouse.actions.stored call.rawEvidenceId = true) :
    ∃ outcome, ingestRecord again warehouse = .ok (warehouse,outcome) ∧ outcome.rawInserted = false := by
  have same : again.rawEvidenceId = call.rawEvidenceId := by
    rw [IngestCall.rawEvidenceId,IngestCall.rawEvidenceId,IngestCall.providerEventId,IngestCall.providerEventId,
      IngestCall.contentHash,IngestCall.contentHash,record,provider]
  rw [ingestRecord,same,if_pos known]
  split
  · exact ⟨_,rfl,rfl⟩
  · exact ⟨_,rfl,rfl⟩

-- An event has one row in two responses exactly when their tables show it alike;
-- ingestion then takes the second for the first.
theorem evidence_alone_exactly (left right : List ProviderEvent) (provider symbol : Text) (event : ProviderEvent) :
    (eventRow left provider symbol event = eventRow right provider symbol event ↔ SameTable left right event) ∧
    (SameTable left right event → ∀ first second, eventRow left provider symbol event = some first →
      eventRow right provider symbol event = some second → ∀ call again : IngestCall, call.record = first.record →
      again.record = second.record → again.provider = call.provider → ∀ warehouse : ResearchWarehouse,
      warehouse.actions.stored call.rawEvidenceId = true →
      ∃ outcome, ingestRecord again warehouse = .ok (warehouse,outcome) ∧ outcome.rawInserted = false) := by
  refine ⟨eventRow_iff left right provider symbol event,?_⟩
  intro same first second leftRow rightRow call again callRecord againRecord providers warehouse known
  have rows : some first = some second := by
    rw [← leftRow,← rightRow,eventRow_iff]
    exact same
  apply ingest_known call again _ providers warehouse known
  rw [callRecord,againRecord,Option.some.inj rows]

end reading

theorem pointed_lexeme (number : Int) : Json.isLexeme (Json.renderInt number ++ ".0".toList) = true := by
  obtain ⟨c,tail,shape,head⟩ := Json.renderInt_head number
  have tokens : ∀ d ∈ Json.renderInt number, Json.isToken d = true := by
    intro d inside
    rcases Json.renderInt_members number d inside with rfl | digit
    · rfl
    · exact Json.digit_token digit
  have ending : ∀ d ∈ ".0".toList, Json.isToken d = true := List.all_eq_true.mp (by decide)
  have all : (Json.renderInt number ++ ".0".toList).all Json.isToken = true := by
    rw [List.all_eq_true]
    intro d inside
    exact (List.mem_append.mp inside).elim (tokens d) (ending d)
  have point : '.' ∈ Json.renderInt number ++ ".0".toList := List.mem_append_right _ (by decide)
  have marked : (Json.renderInt number ++ ".0".toList).any (fun d => d == '.' || d == 'e' || d == 'N' || d == 'I') = true :=
    List.any_eq_true.mpr ⟨'.',point,rfl⟩
  rw [Json.isLexeme,all,marked,shape]
  rcases head with rfl | digit
  · rfl
  · simp [digit]

-- Floats that are not read and dates that are not given.
@[reducible]
def sampleReading : Reading :=
  ⟨fun number => Json.renderInt number ++ ".0".toList,pointed_lexeme,fun _ => none,id,fun left _ => left,fun _ => none⟩

def oneKey (key : String) (number : Int) : ProviderEvent :=
  ⟨[(key.toList,.int number)],List.nodup_singleton _,by simp [isScalar,Json.Printable]⟩

theorem evidence_alone_sample : letI := sampleReading; letI := CorporateActions.samplePlatform
    eventRow [oneKey "id" 1] "VCI".toList "SSI".toList (oneKey "id" 1) =
      eventRow [oneKey "id" 1,oneKey "id" 2] "VCI".toList "SSI".toList (oneKey "id" 1) := by
  let := sampleReading
  let := CorporateActions.samplePlatform
  apply (evidence_alone_exactly _ _ _ _ _).1.mpr
  have names : columns [oneKey "id" 1] = columns [oneKey "id" 1,oneKey "id" 2] := by decide
  have found : ∀ name, columnOf [oneKey "id" 1] name = columnOf [oneKey "id" 1,oneKey "id" 2] name := by
    intro name
    rw [columnOf,columnOf,names]
  refine ⟨fun name => by rw [found],?_⟩
  intro name column other leftColumn rightColumn
  rw [found,rightColumn] at leftColumn
  cases leftColumn
  have inside := List.mem_of_find?_eq_some rightColumn
  rw [← names,List.mem_reverse] at inside
  have only : column = "id".toList := by
    have shape : columns [oneKey "id" 1] = ["id".toList] := by decide
    simpa [shape] using inside
  rw [only]
  decide

-- A neighbour with a key of its own adds a column to the evidence.
theorem neighbour_shows : ¬ ∀ [Reading] [Platform] (left right : List ProviderEvent) (provider symbol : Text)
    (event : ProviderEvent), event ∈ left → event ∈ right →
    eventRow left provider symbol event = eventRow right provider symbol event := by
  intro alone
  have rows := @alone sampleReading CorporateActions.samplePlatform [oneKey "id" 1] [oneKey "id" 1,oneKey "note" 2] "VCI".toList "SSI".toList
    (oneKey "id" 1) (by simp) (by simp)
  have table := (@eventRow_iff sampleReading CorporateActions.samplePlatform _ _ _ _ _).mp rows
  have name := @SameTable.names sampleReading _ _ _ table "note".toList
  exact absurd name (by decide)

end OpenStock.Providers.Events
