import OpenStock.Ingestion.CanonicalPromotion

namespace OpenStock.Ingestion
open Text Calendar

/- Raw bars that the ranking leaves equal: whether a build depends on the order
in which the database returns them. -/

-- Any answer to the query of `load_ranked_candidates`, whatever it does with ties.
structure Returned (epoch : Int) (raw : List RawBar) (symbol : Option Text) (interval : Text) (range : Option (Date × Date))
    (rows : List RawBar) : Prop where
  complete : rows.Perm (raw.filter (RawBar.inScope symbol interval range))
  ranked : rows.Pairwise (Ranked epoch)

def observations (raw : List RawBar) (symbol : Option Text) (interval : Text) (range : Option (Date × Date))
    (key : BarKey) : List RawBar :=
  (raw.filter (RawBar.inScope symbol interval range)).filter (fun row => decide (row.candidate.key = key))

-- The provider an index prefers among these rows, when it prefers one.
def preferredProvider (symbol : Text) (rows : List RawBar) : Option IndexProviderPreference :=
  (resolveIndexProviderConflict symbol (rows.filterMap RawBar.provider)).map IndexConflictResolution.selectedProvider

def namesPreferred (preferred : IndexProviderPreference) (provider : Option Text) : Bool :=
  provider.any (fun provider => !provider.isEmpty && names provider preferred)

def eligible (symbol : Text) (rows : List RawBar) (row : RawBar) : Bool :=
  (preferredProvider symbol rows).all (fun preferred => namesPreferred preferred row.provider)

-- No eligible row is ranked strictly before it.
structure Leads (epoch : Int) (symbol : Text) (rows : List RawBar) (row : RawBar) : Prop where
  present : row ∈ rows
  chosen : eligible symbol rows row = true
  first : ∀ other ∈ rows, eligible symbol rows other = true → Ranked epoch row other

-- The row violates no rule among the others of its bar.
def Promotes (rows : List RawBar) (row : RawBar) : Prop :=
  validateCandidate row.candidate ((rows.erase row).map RawBar.candidate) = []

instance : Decidable (Promotes rows row) := inferInstanceAs (Decidable (_ = _))

def Alike (left right : RawBar) : Prop := ohlcvValues left.candidate = ohlcvValues right.candidate ∧ left.provider = right.provider

-- The rows tied at the top of a bar all fail, or all pass with one content.
def TiesAgree (epoch : Int) (raw : List RawBar) (symbol : Option Text) (interval : Text) (range : Option (Date × Date)) : Prop :=
  ∀ key first second, Leads epoch key.1 (observations raw symbol interval range key) first →
    Leads epoch key.1 (observations raw symbol interval range key) second →
      (Promotes (observations raw symbol interval range key) first ↔ Promotes (observations raw symbol interval range key) second) ∧
        (Promotes (observations raw symbol interval range key) first → Alike first second)

/- What depends on the set of rows alone. -/

variable (symbol : Text)

theorem resolve_perm {left right : List Text} (same : left.Perm right) :
    (resolveIndexProviderConflict symbol left = none ∧ resolveIndexProviderConflict symbol right = none) ∨
      ∃ first second, resolveIndexProviderConflict symbol left = some first ∧
        resolveIndexProviderConflict symbol right = some second ∧ first.selectedProvider = second.selectedProvider ∧
        first.rejectedProviders.Perm second.rejectedProviders := by
  cases family : indexFamily symbol with
  | none => simp [resolveIndexProviderConflict,family]
  | some family_ =>
    have present : (left.filter (fun provider => !provider.isEmpty)).Perm (right.filter (fun provider => !provider.isEmpty)) :=
      same.filter _
    have sought : (fun preferred => (left.filter (fun provider => !provider.isEmpty)).any (fun provider => names provider preferred)) =
        fun preferred => (right.filter (fun provider => !provider.isEmpty)).any (fun provider => names provider preferred) := by
      funext preferred
      exact present.any_eq
    cases found : (policyByFamily family_).find? (fun preferred =>
        (right.filter (fun provider => !provider.isEmpty)).any (fun provider => names provider preferred)) with
    | none =>
      left
      simp only [resolveIndexProviderConflict,family,Option.bind_eq_bind,Option.bind_some,sought,found,Option.bind_none,and_self]
    | some preferred =>
      right
      refine ⟨⟨preferred,(left.filter (fun provider => !provider.isEmpty)).filter (fun provider => !names provider preferred),family_⟩,
        ⟨preferred,(right.filter (fun provider => !provider.isEmpty)).filter (fun provider => !names provider preferred),family_⟩,?_,?_,rfl,
        present.filter _⟩
      · simp only [resolveIndexProviderConflict,family,Option.bind_eq_bind,Option.bind_some,sought,found]
        rfl
      · simp only [resolveIndexProviderConflict,family,Option.bind_eq_bind,Option.bind_some,found]
        rfl

variable {left right : List RawBar}

theorem preferred_perm (same : left.Perm right) : preferredProvider symbol left = preferredProvider symbol right := by
  unfold preferredProvider
  rcases resolve_perm symbol (same.filterMap RawBar.provider) with ⟨none,also⟩ | ⟨first,second,found,also,one,_⟩
  · rw [none,also]
  · rw [found,also,Option.map_some,Option.map_some,one]

theorem eligible_perm (same : left.Perm right) : eligible symbol left = eligible symbol right := by
  funext row
  rw [eligible,eligible,preferred_perm symbol same]

variable {left right : List CanonicalCandidate} (candidate : CanonicalCandidate)

theorem conflict_perm (same : left.Perm right) : conflictRules candidate left = conflictRules candidate right := by
  unfold conflictRules
  rcases resolve_perm candidate.symbol ((same.cons candidate).filterMap CanonicalCandidate.provider) with
    ⟨none,also⟩ | ⟨first,second,found,also,one,rejected⟩
  · simp only [none,also]
  · have named : ∀ provider : Text, (first.rejectedProviders.any fun rejected => lower (strip provider) == lower (strip rejected)) =
        second.rejectedProviders.any fun rejected => lower (strip provider) == lower (strip rejected) :=
      fun provider => rejected.any_eq
    simp only [found,also,one,named]

theorem validate_perm (same : left.Perm right) : validateCandidate candidate left = validateCandidate candidate right := by
  have conflicting := same.filter (fun peer => isIndependentlyValidPassingObservation peer &&
    peer.provider != candidate.provider && ohlcvValues peer != ohlcvValues candidate)
  have none : (left.filter (fun peer => isIndependentlyValidPassingObservation peer &&
      peer.provider != candidate.provider && ohlcvValues peer != ohlcvValues candidate) = []) =
        (right.filter (fun peer => isIndependentlyValidPassingObservation peer &&
          peer.provider != candidate.provider && ohlcvValues peer != ohlcvValues candidate) = []) :=
    propext ⟨fun empty => (empty ▸ conflicting).nil_eq.symm,fun empty => (empty ▸ conflicting).eq_nil⟩
  simp only [validateCandidate,conflict_perm candidate conflicting,none]

/- One bar. -/

section bar
variable {symbol : Text} {rows : List RawBar}

-- Where an index prefers a provider, one of its rows comes from it.
theorem preferred_present (found : preferredProvider symbol rows = some preferred) :
    ∃ row ∈ rows, namesPreferred preferred row.provider = true := by
  obtain ⟨resolution,resolved,rfl⟩ := Option.map_eq_some_iff.mp found
  simp only [resolveIndexProviderConflict,Option.bind_eq_bind,Option.bind_eq_some_iff] at resolved
  obtain ⟨family,_,preferred,sought,same⟩ := resolved
  cases same
  have some' : ((rows.filterMap RawBar.provider).filter (fun provider => !provider.isEmpty)).any
      (fun provider => names provider preferred) = true := by simpa using List.find?_some sought
  obtain ⟨provider,listed,named⟩ := List.any_eq_true.mp some'
  obtain ⟨inside,filled⟩ := List.mem_filter.mp listed
  obtain ⟨row,member,provided⟩ := List.mem_filterMap.mp inside
  exact ⟨row,member,by simp [namesPreferred,provided,filled,named]⟩

theorem eligible_present (symbol : Text) (filled : rows ≠ []) : ∃ row ∈ rows, eligible symbol rows row = true := by
  unfold eligible
  cases found : preferredProvider symbol rows with
  | none =>
    obtain ⟨row,inside⟩ := List.exists_mem_of_ne_nil rows filled
    exact ⟨row,inside,rfl⟩
  | some preferred => exact preferred_present found

-- The place that is selected is that of the first eligible row.
theorem selectedPlace_first (filled : rows ≠ []) (one : ∀ row ∈ rows, row.symbol = symbol) :
    selectedPlace (rows.map RawBar.candidate) = rows.findIdx (eligible symbol rows) := by
  obtain ⟨row,rest,rfl⟩ := List.exists_cons_of_ne_nil filled
  have named : row.candidate.symbol = symbol := one row List.mem_cons_self
  have providers : ((row :: rest).map RawBar.candidate).filterMap CanonicalCandidate.provider =
      (row :: rest).filterMap RawBar.provider := List.filterMap_map
  rw [List.map_cons,selectedPlace,← List.map_cons,providers,named]
  cases resolved : resolveIndexProviderConflict symbol ((row :: rest).filterMap RawBar.provider) with
  | none =>
    have all : eligible symbol (row :: rest) row = true := by simp [eligible,preferredProvider,resolved]
    rw [List.findIdx_cons,all]
    rfl
  | some resolution =>
    have preferred : preferredProvider symbol (row :: rest) = some resolution.selectedProvider := by
      rw [preferredProvider,resolved]
      rfl
    have tested : eligible symbol (row :: rest) = fun other => namesPreferred resolution.selectedProvider other.provider := by
      funext other
      rw [eligible,preferred]
      rfl
    obtain ⟨other,inside,chosen⟩ := preferred_present preferred
    have placed : (row :: rest).findIdx (fun other => namesPreferred resolution.selectedProvider other.provider) <
        (row :: rest).length := List.findIdx_lt_length_of_exists ⟨other,inside,chosen⟩
    rw [tested]
    simp only
    rw [List.findIdx?_map]
    have found : (row :: rest).findIdx? (fun other => namesPreferred resolution.selectedProvider other.provider) =
        some ((row :: rest).findIdx (fun other => namesPreferred resolution.selectedProvider other.provider)) :=
      List.findIdx?_eq_some_of_exists ⟨other,inside,chosen⟩
    exact congrArg (fun place => place.getD 0) found

-- The selected candidate is the first eligible row; the others are its peers.
theorem select_first (symbol : Text) (filled : rows ≠ []) (one : ∀ row ∈ rows, row.symbol = symbol) :
    ∃ row peers, rows.find? (eligible symbol rows) = some row ∧ rows.Perm (row :: peers) ∧
      selectCanonicalCandidate (rows.map RawBar.candidate) = some (row.candidate,peers.map RawBar.candidate) := by
  obtain ⟨other,inside,chosen⟩ := eligible_present symbol filled
  have placed : rows.findIdx (eligible symbol rows) < rows.length := List.findIdx_lt_length_of_exists ⟨other,inside,chosen⟩
  refine ⟨rows[rows.findIdx (eligible symbol rows)],rows.eraseIdx (rows.findIdx (eligible symbol rows)),?_,?_,?_⟩
  · exact List.find?_eq_some_iff_getElem.mpr ⟨List.findIdx_getElem,_,placed,rfl,
      fun earlier before => by simpa using List.not_of_lt_findIdx before⟩
  · exact (List.getElem_cons_eraseIdx_perm placed).symm
  · rw [selectCanonicalCandidate,selectedPlace_first filled one,List.getElem?_map,List.getElem?_eq_getElem placed,
      List.eraseIdx_map]
    rfl

variable {epoch : Int} {members : List RawBar}

-- In ranked rows the first eligible one leads.
theorem first_leads (same : rows.Perm members) (ranked : rows.Pairwise (Ranked epoch))
    (found : rows.find? (eligible symbol rows) = some row) : Leads epoch symbol members row := by
  obtain ⟨chosen,before,after,split,skipped⟩ := List.find?_eq_some_iff_append.mp found
  have test := eligible_perm symbol same
  refine ⟨same.mem_iff.mp (List.mem_of_find?_eq_some found),test ▸ chosen,?_⟩
  intro other inside also
  have listed := same.mem_iff.mpr inside
  rw [split] at listed ranked
  rcases List.mem_append.mp listed with earlier | later
  · have passed := skipped other earlier
    rw [test,also] at passed
    cases passed
  · rcases List.mem_cons.mp later with rfl | behind
    · exact le_refl _
    · exact (List.pairwise_cons.mp (List.pairwise_append.mp ranked).2.1).1 other behind

-- Any leading row comes first in some ranked order.
theorem leads_first (leads : Leads epoch symbol members row) :
    ((row :: members.erase row).insertionSort (Ranked epoch)).find? (eligible symbol members) = some row := by
  rw [List.insertionSort_cons,List.orderedInsert_eq_take_drop,List.find?_append]
  have none : (((members.erase row).insertionSort (Ranked epoch)).takeWhile (fun other => decide ¬Ranked epoch row other)).find?
      (eligible symbol members) = none := by
    apply List.find?_eq_none.mpr
    intro other early chosen
    have inside := (List.mem_insertionSort _).mp ((List.takeWhile_sublist _).subset early)
    have behind := leads.first other (List.mem_of_mem_erase inside) chosen
    have ahead := List.all_eq_true.mp List.all_takeWhile other early
    exact absurd behind (of_decide_eq_true ahead)
  rw [none,List.find?_cons_of_pos leads.chosen]
  rfl

end bar

section build
variable [AuditHash] {epoch now : Int} {raw : List RawBar} {symbol : Option Text} {interval : Text}
variable {range : Option (Date × Date)} {tables : PromotionTables} {key : BarKey} {rows : List RawBar}

-- The row a bar is left with when this observation is selected among these.
def outcome (raw rows : List RawBar) (row : RawBar) (earlier : Option CanonicalBar) : Option CanonicalBar :=
  if Promotes rows row then some (promotedBar raw row.candidate earlier) else none

omit [AuditHash] in
theorem observed_symbol (inside : row ∈ observations raw symbol interval range key) : row.symbol = key.1 := by
  have keyed : row.candidate.key = key := of_decide_eq_true (List.mem_filter.mp inside).2
  exact congrArg Prod.fst keyed

omit [AuditHash] in
theorem returned_observations (returned : Returned epoch raw symbol interval range rows) (key : BarKey) :
    (rows.filter (fun row => decide (row.candidate.key = key))).Perm (observations raw symbol interval range key) :=
  returned.complete.filter _

-- Of a bar that was observed, the first eligible row decides.
theorem verdict_outcome (returned : Returned epoch raw symbol interval range rows)
    (found : (rows.filter (fun row => decide (row.candidate.key = key))).find?
      (eligible key.1 (observations raw symbol interval range key)) = some row) (earlier : Option CanonicalBar) :
    verdict raw ((rows.map RawBar.candidate).filter (fun candidate => decide (candidate.key = key))) earlier =
      outcome raw (observations raw symbol interval range key) row earlier := by
  have same := returned_observations returned key
  have filled : rows.filter (fun row => decide (row.candidate.key = key)) ≠ [] := by
    intro empty
    rw [empty] at found
    cases found
  obtain ⟨first,peers,chosen,split,selected⟩ := select_first key.1 filled
    (fun other inside => observed_symbol (same.mem_iff.mp inside))
  rw [eligible_perm key.1 same,found] at chosen
  cases chosen
  have inside : row ∈ observations raw symbol interval range key := same.mem_iff.mp (List.mem_of_find?_eq_some found)
  have others : peers.Perm ((observations raw symbol interval range key).erase row) :=
    (split.symm.trans (same.trans (List.perm_cons_erase inside))).cons_inv
  have mapped : (rows.map RawBar.candidate).filter (fun candidate => decide (candidate.key = key)) =
      (rows.filter (fun row => decide (row.candidate.key = key))).map RawBar.candidate := List.filter_map
  have rules := validate_perm row.candidate (others.map RawBar.candidate)
  rw [mapped,verdict,selected]
  simp only [rules]
  rfl

-- No observation of a daily bar is swept.
omit [AuditHash] in
theorem observed_kept (inside : row ∈ observations raw symbol interval range key) :
    ¬((interval = oneDay ∧ range = none) ∧ stray symbol interval key = true) := by
  rintro ⟨⟨daily,_⟩,swept⟩
  obtain ⟨covered,keyed⟩ := List.mem_filter.mp inside
  have loaded : row.candidate ∈ loadRankedCandidates 0 raw symbol interval range :=
    List.mem_map_of_mem ((List.mem_insertionSort (Ranked 0)).mpr covered)
  have kept := loaded_midnight daily loaded
  rw [of_decide_eq_true keyed,swept] at kept
  cases kept

theorem promoteRows_outcome (returned : Returned epoch raw symbol interval range rows)
    (found : (rows.filter (fun row => decide (row.candidate.key = key))).find?
      (eligible key.1 (observations raw symbol interval range key)) = some row) :
    (promoteRows now raw symbol interval range tables rows).1.canonical.find key =
      outcome raw (observations raw symbol interval range key) row (tables.canonical.find key) := by
  have inside : row ∈ observations raw symbol interval range key :=
    (returned_observations returned key).mem_iff.mp (List.mem_of_find?_eq_some found)
  rw [promoteRows_find,if_neg (observed_kept inside)]
  exact verdict_outcome returned found _

-- A ranked answer in which a leading row comes first for its bar.
omit [AuditHash] in
theorem leads_returned (leads : Leads epoch key.1 (observations raw symbol interval range key) row) :
    ∃ rows, Returned epoch raw symbol interval range rows ∧ (rows.filter (fun row => decide (row.candidate.key = key))).find?
        (eligible key.1 (observations raw symbol interval range key)) = some row := by
  obtain ⟨covered,keyed⟩ := List.mem_filter.mp leads.present
  refine ⟨(row :: (raw.filter (RawBar.inScope symbol interval range)).erase row).insertionSort (Ranked epoch),⟨?_,?_⟩,?_⟩
  · exact (List.perm_insertionSort _ _).trans (List.perm_cons_erase covered).symm
  · exact List.pairwise_insertionSort _ _
  · have kept : (row :: (raw.filter (RawBar.inScope symbol interval range)).erase row).filter
        (fun row => decide (row.candidate.key = key)) = row :: (observations raw symbol interval range key).erase row := by
      simp only [List.filter_cons,if_pos keyed,observations,List.erase_filter]
    rw [Grouping.filter_insertionSort,kept]
    exact leads_first leads

variable {first second : RawBar}

omit [AuditHash] in
theorem leads_tied (left : Leads epoch key.1 (observations raw symbol interval range key) first)
    (right : Leads epoch key.1 (observations raw symbol interval range key) second) :
    first.rankKey epoch = second.rankKey epoch :=
  le_antisymm (left.first second right.present right.chosen) (right.first first left.present left.chosen)

omit [AuditHash] in
theorem payload_same {left right : CanonicalCandidate} (keyed : left.key = right.key) (provider : left.provider = right.provider) :
    selectionPayload raw left = selectionPayload raw right := by
  cases left
  cases right
  simp only [CanonicalCandidate.key,Prod.mk.injEq] at keyed
  obtain ⟨rfl,rfl,rfl⟩ := keyed
  cases provider
  rfl

-- Tied rows of one content that both pass leave one bar.
theorem promoted_same {left right : RawBar} (keyed : left.candidate.key = right.candidate.key)
    (tied : left.rankKey epoch = right.rankKey epoch) (alike : Alike left right)
    (sound : left.candidate.priceBasis = right.candidate.priceBasis) (earlier : Option CanonicalBar) :
    promotedBar raw left.candidate earlier = promotedBar raw right.candidate earlier := by
  have run : left.ingestionRunId = right.ingestionRunId := by
    simp only [RawBar.rankKey,EmbeddingLike.apply_eq_iff_eq,Prod.mk.injEq] at tied
    exact tied.2.2.2.2.2.2.2
  have provider : left.candidate.provider = right.candidate.provider := alike.2
  have payload : selectionPayload raw left.candidate = selectionPayload raw right.candidate := payload_same keyed provider
  obtain ⟨symbol,rest⟩ := Prod.mk.injEq .. ▸ keyed
  obtain ⟨time,interval⟩ := Prod.mk.injEq .. ▸ rest
  have values := alike.1
  simp only [ohlcvValues,List.cons.injEq,and_true] at values
  obtain ⟨opening,high,low,close,volume⟩ := values
  have told : left.candidate.ingestionRunId = right.candidate.ingestionRunId := run
  simp only [promotedBar,symbol,time,interval,opening,high,low,close,volume,provider,sound,told,payload]

theorem outcome_same (left : Leads epoch key.1 (observations raw symbol interval range key) first)
    (right : Leads epoch key.1 (observations raw symbol interval range key) second)
    (verdicts : Promotes (observations raw symbol interval range key) first ↔
      Promotes (observations raw symbol interval range key) second)
    (alike : Promotes (observations raw symbol interval range key) first → Alike first second) (earlier : Option CanonicalBar) :
    outcome raw (observations raw symbol interval range key) first earlier =
      outcome raw (observations raw symbol interval range key) second earlier := by
  unfold outcome
  by_cases passes : Promotes (observations raw symbol interval range key) first
  · have also := verdicts.mp passes
    have keyed : first.candidate.key = second.candidate.key :=
      (of_decide_eq_true (List.mem_filter.mp left.present).2).trans (of_decide_eq_true (List.mem_filter.mp right.present).2).symm
    have sound : first.candidate.priceBasis = second.candidate.priceBasis :=
      (valid_sound passes).basis.trans (valid_sound also).basis.symm
    rw [if_pos passes,if_pos also,promoted_same keyed (leads_tied left right) (alike passes) sound]
  · rw [if_neg passes,if_neg (fun also => passes (verdicts.mpr also))]

-- Conversely the bar that is left tells the verdict and the content.
theorem outcome_tells {members : List RawBar} (same : outcome raw members first earlier = outcome raw members second earlier) :
    (Promotes members first ↔ Promotes members second) ∧ (Promotes members first → Alike first second) := by
  unfold outcome at same
  by_cases passes : Promotes members first
  · rw [if_pos passes] at same
    by_cases also : Promotes members second
    · rw [if_pos also] at same
      refine ⟨⟨fun _ => also,fun _ => passes⟩,fun _ => ?_⟩
      have bars := Option.some.inj same
      have opening := congrArg CanonicalBar.opening bars
      have high := congrArg CanonicalBar.high bars
      have low := congrArg CanonicalBar.low bars
      have close := congrArg CanonicalBar.close bars
      have volume := congrArg CanonicalBar.volume bars
      simp only [promotedBar] at opening high low close volume
      exact ⟨by simp [ohlcvValues,opening,high,low,close,volume],congrArg CanonicalBar.selectedProvider bars⟩
    · rw [if_neg also] at same
      cases same
  · rw [if_neg passes] at same
    by_cases also : Promotes members second
    · rw [if_pos also] at same
      cases same
    · exact ⟨⟨fun impossible => absurd impossible passes,fun impossible => absurd impossible also⟩,
        fun impossible => absurd impossible passes⟩

-- The bars of a build, as a set.
def SameBars (left right : PromotionTables × BuildCounts) : Prop :=
  ∀ bar, bar ∈ left.1.canonical.rows ↔ bar ∈ right.1.canonical.rows

omit [AuditHash] in
theorem sameBars_find {left right : PromotionTables × BuildCounts} :
    SameBars left right ↔ ∀ key, left.1.canonical.find key = right.1.canonical.find key := by
  constructor
  · intro same key
    apply Option.ext
    intro bar
    have keyed : ∀ table : CanonicalOhlcv, table.find key = some bar ↔ bar ∈ table.rows ∧ bar.key = key := by
      intro table
      constructor
      · intro found
        exact ⟨List.mem_of_find?_eq_some found,by simpa using List.find?_some found⟩
      · rintro ⟨inside,rfl⟩
        exact (find_row table bar).mp inside
    rw [keyed,keyed,same bar]
  · intro same bar
    rw [find_row,find_row,same]

theorem ties_same {first second : List RawBar} (agree : TiesAgree epoch raw symbol interval range)
    (left : Returned epoch raw symbol interval range first) (right : Returned epoch raw symbol interval range second) :
    SameBars (promoteRows now raw symbol interval range tables first) (promoteRows now raw symbol interval range tables second) := by
  apply sameBars_find.mpr
  intro key
  have one := returned_observations left key
  have other := returned_observations right key
  cases found : (first.filter (fun row => decide (row.candidate.key = key))).find?
      (eligible key.1 (observations raw symbol interval range key)) with
  | none =>
    -- No row was observed for the bar.
    have empty : first.filter (fun row => decide (row.candidate.key = key)) = [] := by
      by_contra filled
      obtain ⟨row,inside,chosen⟩ := eligible_present key.1 filled
      rw [eligible_perm key.1 one] at chosen
      exact absurd chosen (List.find?_eq_none.mp found row inside)
    have also : second.filter (fun row => decide (row.candidate.key = key)) = [] :=
      (other.trans (empty ▸ one).symm).eq_nil
    rw [promoteRows_find,promoteRows_find,List.filter_map,List.filter_map]
    exact congrArg (fun members : List RawBar => if (interval = oneDay ∧ range = none) ∧ stray symbol interval key = true then none
      else verdict raw (members.map RawBar.candidate) (tables.canonical.find key)) (empty.trans also.symm)
  | some row =>
    have leads : Leads epoch key.1 (observations raw symbol interval range key) row :=
      first_leads one (left.ranked.filter _) (eligible_perm key.1 one ▸ found)
    have filled : second.filter (fun row => decide (row.candidate.key = key)) ≠ [] := by
      intro empty
      have listed := other.mem_iff.mpr leads.present
      rw [empty] at listed
      cases listed
    obtain ⟨rival,_,also,_⟩ := select_first key.1 filled
      (fun row inside => observed_symbol (other.mem_iff.mp inside))
    have rivals : Leads epoch key.1 (observations raw symbol interval range key) rival :=
      first_leads other (right.ranked.filter _) also
    obtain ⟨verdicts,alike⟩ := agree key row rival leads rivals
    rw [promoteRows_outcome left found,promoteRows_outcome right (eligible_perm key.1 other ▸ also)]
    exact outcome_same leads rivals verdicts alike _

theorem same_ties (same : ∀ first second, Returned epoch raw symbol interval range first →
    Returned epoch raw symbol interval range second →
      SameBars (promoteRows now raw symbol interval range tables first) (promoteRows now raw symbol interval range tables second)) :
    TiesAgree epoch raw symbol interval range := by
  intro key first second left right
  obtain ⟨rows,returned,found⟩ := leads_returned left
  obtain ⟨others,also,chosen⟩ := leads_returned right
  have equal := sameBars_find.mp (same rows others returned also) key
  rw [promoteRows_outcome returned found,promoteRows_outcome also chosen] at equal
  exact outcome_tells equal

end build

/- A whole build. -/

def Answers (epoch : Int) (raw : List RawBar) (request : BuildRequest) (rows : List RawBar) : Prop :=
  ∀ range, request.range = .ok range → Returned epoch raw request.symbol request.interval range rows

-- `build_canonical_ohlcv` over an answer of the database; `buildCanonicalOhlcv` is given the sorted one.
def buildAnswered [AuditHash] (now : Int) (raw : List RawBar) (request : BuildRequest) (tables : PromotionTables)
    (rows : List RawBar) : Except RangeError (PromotionTables × BuildCounts) :=
  request.range.map (fun range => promoteRows now raw request.symbol request.interval range tables rows)

def SameResult : Except RangeError (PromotionTables × BuildCounts) → Except RangeError (PromotionTables × BuildCounts) → Prop
  | .ok left,.ok right => SameBars left right
  | .error left,.error right => left = right
  | _,_ => False

theorem sorted_answers [AuditHash] (epoch now : Int) (raw : List RawBar) (request : BuildRequest) (tables : PromotionTables) :
    ∃ rows, Answers epoch raw request rows ∧
      buildCanonicalOhlcv epoch now raw request tables = buildAnswered now raw request tables rows := by
  cases bounds : request.range with
  | error error =>
    refine ⟨[],?_,by rw [buildCanonicalOhlcv,buildAnswered,bounds]; rfl⟩
    intro range found
    rw [bounds] at found
    cases found
  | ok range =>
    refine ⟨(raw.filter (RawBar.inScope request.symbol request.interval range)).insertionSort (Ranked epoch),?_,
      by rw [buildCanonicalOhlcv,buildAnswered,bounds]; rfl⟩
    intro other found
    rw [bounds] at found
    cases found
    exact ⟨List.perm_insertionSort _ _,List.pairwise_insertionSort _ _⟩

-- Over every raw table and request: the answers agree exactly when the tied rows do.
theorem canonical_ties_exact [AuditHash] (epoch now : Int) (raw : List RawBar) (request : BuildRequest) (tables : PromotionTables) :
    (∀ first second, Answers epoch raw request first → Answers epoch raw request second →
      SameResult (buildAnswered now raw request tables first) (buildAnswered now raw request tables second)) ↔
        ∀ range, request.range = .ok range → TiesAgree epoch raw request.symbol request.interval range := by
  constructor
  · intro same range bounds
    refine @same_ties _ epoch now raw request.symbol request.interval range tables ?_
    intro first second left right
    have answers : ∀ {rows}, Returned epoch raw request.symbol request.interval range rows → Answers epoch raw request rows := by
      intro rows returned other found
      rw [bounds] at found
      cases found
      exact returned
    have equal := same first second (answers left) (answers right)
    rw [buildAnswered,buildAnswered,bounds] at equal
    exact equal
  · intro agree first second left right
    rw [buildAnswered,buildAnswered]
    cases bounds : request.range with
    | error error => rfl
    | ok range => exact ties_same (agree range bounds) (left range bounds) (right range bounds)

/- One run with two observations of a day, at nine and at three. -/

def openingRaw : RawBar := {sampleRaw with time := ⟨marchDay,⟨9,0,0,0,by decide⟩⟩}
def closingRaw : RawBar := {sampleRaw with time := ⟨marchDay,⟨15,0,0,0,by decide⟩⟩,close := some 12}
def freshTables : PromotionTables := ⟨⟨[],List.nodup_nil⟩,[],[],[]⟩

theorem canonical_depends_on_order : ¬ ∀ (hash : AuditHash) (epoch now : Int) (raw : List RawBar) (request : BuildRequest)
    (tables : PromotionTables) (first second : List RawBar),
    Answers epoch raw request first → Answers epoch raw request second →
      SameResult (@buildAnswered hash now raw request tables first) (@buildAnswered hash now raw request tables second) := by
  intro same
  have answers : Answers 0 [openingRaw,closingRaw] wholeRequest [openingRaw,closingRaw] ∧
      Answers 0 [openingRaw,closingRaw] wholeRequest [closingRaw,openingRaw] := by
    constructor <;> intro range found <;> cases found
    · exact ⟨by decide,by decide⟩
    · exact ⟨by decide,by decide⟩
  have equal : SameBars (@promoteRows sampleHash 1 [openingRaw,closingRaw] none oneDay none freshTables [openingRaw,closingRaw])
      (@promoteRows sampleHash 1 [openingRaw,closingRaw] none oneDay none freshTables [closingRaw,openingRaw]) :=
    same sampleHash 0 1 _ wholeRequest freshTables _ _ answers.1 answers.2
  have closes := congrArg (Option.bind · CanonicalBar.close) (sameBars_find.mp equal ("FPT".toList,⟨marchDay,.midnight⟩,oneDay))
  exact absurd closes (by decide)

end OpenStock.Ingestion
