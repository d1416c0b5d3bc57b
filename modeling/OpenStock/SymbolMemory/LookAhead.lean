import OpenStock.Foundations.Ranks
import OpenStock.SymbolMemory.CurrentClaims
import OpenStock.SymbolMemory.Retrieval

namespace OpenStock.SymbolMemory
open Text Calendar

/- Retrieval as of a day, when no budget refuses a claim. -/

-- The claims retrieval sees and may present for that day.
def SeenAt (memory : Memory) (entity : MemoryEntity) (day : Date) (claim : MemoryClaim) : Prop :=
  claim ∈ memory.listEntityClaims entity [] 100 ∧ Eligible claim (some day)

def entityRank (memory : Memory) (entity : MemoryEntity) (claim : MemoryClaim) : Nat :=
  Ranks.rank created (memory.entityClaims entity []) claim

variable (memory : Memory) (entity : MemoryEntity) (statuses : List ClaimStatus)

theorem created_distinct : ((memory.entityClaims entity statuses).map created).Nodup := by
  have ids : ((memory.entityClaims entity statuses).map MemoryClaim.claimId).Nodup :=
    (List.Sublist.map _ List.filter_sublist).nodup memory.keyed
  apply List.Nodup.of_map (fun key : DateTime ×ₗ Text => (ofLex key).2)
  rw [List.map_map]
  exact ids

theorem priority_distinct (limit : Int) : ((memory.listEntityClaims entity statuses limit).map priority).Nodup := by
  have ids := listed_nodup memory entity statuses limit
  apply List.Nodup.of_map (fun key : Nat ×ₗ Nat ×ₗ Int ×ₗ Int ×ₗ Text =>
    (ofLex (ofLex (ofLex (ofLex key).2).2).2).2)
  rw [List.map_map]
  exact ids

variable (left right : MemoryClaim)

theorem created_ordered : createdBefore left right ↔ created left ≤ created right := Iff.rfl

theorem priority_ordered : priorityBefore left right ↔ priority left ≤ priority right := Iff.rfl

variable (claim : MemoryClaim)

theorem listed_iff : claim ∈ memory.listEntityClaims entity [] 100 ↔
      claim ∈ memory.claims ∧ claim.entity = entity ∧ entityRank memory entity claim < 100 := by
  unfold Memory.listEntityClaims
  rw [limited_default,Ranks.mem_leading created_ordered (created_distinct memory entity []),mem_entityClaims]
  simp [entityRank,and_assoc]

section budget
variable [Payload]

-- A budget that refuses none of the claims.
structure Ample (budget : MemoryContextBudget) (claims : List MemoryClaim) : Prop where
  sections : budget.sectionTokenBudgets = []
  total : tokensOf claims ≤ budget.totalTokens

variable {budget : MemoryContextBudget}

theorem consider_ample {claim : MemoryClaim}
    (sections : budget.sectionTokenBudgets = []) (room : selection.usedTokens + claimTokens claim ≤ budget.totalTokens)
    (asOfDate : Option Date) : (consider asOfDate budget selection claim).selected =
        selection.selected ++ [claim].filter (fun claim => (ineligibleReason claim asOfDate).isNone) ∧
      (consider asOfDate budget selection claim).usedTokens ≤ selection.usedTokens + claimTokens claim := by
  unfold consider
  cases judged : ineligibleReason claim asOfDate with
  | some reason => simp [Selection.omit',judged]
  | none =>
    dsimp only
    rw [sections,List.lookup_nil,if_neg (by simp),if_neg (by omega)]
    simp [judged]

theorem pass_ample (sections : budget.sectionTokenBudgets = []) (asOfDate : Option Date)
    (listed : List MemoryClaim) (selection : Selection) (room : selection.usedTokens + tokensOf listed ≤ budget.totalTokens) :
    (listed.foldl (consider asOfDate budget) selection).selected =
      selection.selected ++ listed.filter (fun claim => (ineligibleReason claim asOfDate).isNone) := by
  induction listed generalizing selection with
  | nil => simp
  | cons claim listed ih =>
    have split : tokensOf (claim :: listed) = claimTokens claim + tokensOf listed := by simp [tokensOf]
    obtain ⟨taken,used⟩ := consider_ample sections (show selection.usedTokens + claimTokens claim ≤ budget.totalTokens by omega) asOfDate
    rw [List.foldl_cons,ih _ (by omega),taken,List.append_assoc,←List.filter_append]
    rfl

theorem retrieve_ample {memory : Memory} {entity : MemoryEntity}
    (ample : Ample budget (memory.listEntityClaims entity [] 100)) (asOfDate : Option Date) :
    (retrieveEntity memory entity asOfDate budget).selectedClaims =
      ((memory.listEntityClaims entity [] 100).insertionSort priorityBefore).filter
        (fun claim => (ineligibleReason claim asOfDate).isNone) := by
  have perm := List.perm_insertionSort priorityBefore (memory.listEntityClaims entity [] 100)
  have same : tokensOf ((memory.listEntityClaims entity [] 100).insertionSort priorityBefore) =
    tokensOf (memory.listEntityClaims entity [] 100) := (perm.map claimTokens).sum_eq
  apply pass_ample ample.sections asOfDate _ .start
  rw [same,Selection.start,Nat.zero_add]
  exact ample.total

-- Two stores with the same claims to present for a day present the same.
theorem retrieve_same {left right : Memory} {entity : MemoryEntity}
    (ampleLeft : Ample budget (left.listEntityClaims entity [] 100)) (ampleRight : Ample budget (right.listEntityClaims entity [] 100))
    (day : Date) :
    (retrieveEntity left entity (some day) budget).selectedClaims = (retrieveEntity right entity (some day) budget).selectedClaims ↔
      ∀ claim, SeenAt left entity day claim ↔ SeenAt right entity day claim := by
  have member (memory : Memory) (claim : MemoryClaim) :
      claim ∈ ((memory.listEntityClaims entity [] 100).insertionSort priorityBefore).filter
          (fun claim => (ineligibleReason claim (some day)).isNone) ↔ SeenAt memory entity day claim := by
    rw [List.mem_filter,(List.perm_insertionSort priorityBefore _).mem_iff,Option.isNone_iff_eq_none,eligible_iff]
    exact Iff.rfl
  have sorted (memory : Memory) : (((memory.listEntityClaims entity [] 100).insertionSort priorityBefore).filter
      (fun claim => (ineligibleReason claim (some day)).isNone)).Pairwise (fun one other => priority one < priority other) :=
    (Ranks.sorted_strict priority_ordered (priority_distinct memory entity [] 100)).sublist List.filter_sublist
  rw [retrieve_ample ampleLeft,retrieve_ample ampleRight]
  constructor
  · intro same claim
    rw [←member left,←member right,same]
  · intro same
    apply Ranks.strict_unique (sorted left) (sorted right)
    intro claim
    rw [member left,member right]
    exact same claim

end budget

/- What the acceptance of a later claim does to the claims seen for a day. -/

-- A claim about a later day that was observed on a later day.
structure After (day : Date) (claim : MemoryClaim) : Prop where
  dated : ∃ date ∈ claim.asOfDate, day < date
  observed : ∃ instant ∈ claim.observedAt, day < instant.date

def Displaces (claim existing : MemoryClaim) : Prop :=
  effective existing ≤ effective claim ∧ claimAuthority existing ≤ claimAuthority claim

theorem weigh_store (state : Memory × MemoryClaim) (existing : MemoryClaim) :
    ((weigh claim state existing).1 = state.1 ∧ ¬ Displaces claim existing) ∨
      (Displaces claim existing ∧ ∃ status reason, (weigh claim state existing).1 = state.1.transition existing.claimId status reason ∧
        (status = .superseded ∨ (status = .conflicted ∧ effective existing = effective claim))) := by
  unfold weigh Displaces
  simp only [Bool.and_eq_true,decide_eq_true_eq,sameEffectiveDate_iff,isNewer_iff]
  split
  · rename_i higher
    exact .inr ⟨⟨higher.1.le,higher.2.le⟩,_,_,rfl,.inl rfl⟩
  · rename_i notHigher
    split
    · rename_i equal
      exact .inr ⟨⟨equal.1.le,equal.2.le⟩,_,_,rfl,.inr ⟨rfl,equal.1⟩⟩
    · rename_i notEqual
      split
      · rename_i newer
        exact .inr ⟨⟨newer.1.le,newer.2⟩,_,_,rfl,.inl rfl⟩
      · rename_i notNewer
        have kept : ¬ (effective existing ≤ effective claim ∧ claimAuthority existing ≤ claimAuthority claim) := by
          intro ⟨dated,authority⟩
          rcases dated.lt_or_eq with earlier | same
          · exact notNewer ⟨earlier,authority⟩
          · rcases Nat.lt_or_eq_of_le authority with lower | equal
            · exact notHigher ⟨same,lower⟩
            · exact notEqual ⟨same,equal⟩
        split
        · exact .inl ⟨rfl,kept⟩
        · exact .inl ⟨rfl,kept⟩

section acceptance
variable {day : Date} {claim row : MemoryClaim}

theorem later_ineligible (dated : ∃ date ∈ claim.asOfDate, day < date) (same : moved.asOfDate = claim.asOfDate) :
    ¬ Eligible moved (some day) := by
  intro eligible
  obtain ⟨date,there,later⟩ := dated
  exact absurd (eligible.effective day rfl date (by rw [same]; exact there)) (not_le.mpr later)

variable {state : Memory × MemoryClaim}

theorem weigh_seen (dated : ∃ date ∈ claim.asOfDate, day < date) (eligible : Eligible row (some day))
    (present : existing ∈ state.1.claims) : row ∈ (weigh claim state existing).1.claims ↔
      row ∈ state.1.claims ∧ (row.claimId = existing.claimId → ¬ Displaces claim existing) := by
  rcases weigh_store claim state existing with ⟨same,kept⟩ | ⟨displaces,status,reason,moved,standing⟩
  · rw [same]
    exact ⟨fun inside => ⟨inside,fun _ => kept⟩,fun both => both.1⟩
  · rw [moved,mem_transition present]
    have gone : row ≠ existing.moved status reason := by
      intro same
      rw [same] at eligible
      rcases standing with superseded | ⟨_,equal⟩
      · rcases eligible.standing with active | conflicted
        · rw [show (existing.moved status reason).status = status from rfl,superseded] at active
          cases active
        · rw [show (existing.moved status reason).status = status from rfl,superseded] at conflicted
          cases conflicted
      · exact later_ineligible dated (show (existing.moved status reason).asOfDate = claim.asOfDate from effective_inj.mp equal) eligible
    constructor
    · intro either
      rcases either with ⟨inside,differs⟩ | same
      · exact ⟨inside,fun ids => absurd ids differs⟩
      · exact absurd same gone
    · intro ⟨inside,kept⟩
      exact .inl ⟨inside,fun ids => kept ids displaces⟩

theorem weigh_present (present : existing ∈ state.1.claims)
    (inside : other ∈ state.1.claims) (differs : other.claimId ≠ existing.claimId) :
    other ∈ (weigh claim state existing).1.claims := by
  rcases weigh_store claim state existing with ⟨same,_⟩ | ⟨_,status,reason,moved,_⟩
  · rw [same]
    exact inside
  · rw [moved]
    exact (mem_transition present status reason).mpr (.inl ⟨inside,differs⟩)

theorem settled_seen (dated : ∃ date ∈ claim.asOfDate, day < date) (eligible : Eligible row (some day)) {listed : List MemoryClaim}
    (distinct : (listed.map MemoryClaim.claimId).Nodup) (present : ∀ existing ∈ listed, existing ∈ state.1.claims) :
    row ∈ (listed.foldl (weigh claim) state).1.claims ↔
      row ∈ state.1.claims ∧ ∀ existing ∈ listed, row.claimId = existing.claimId → ¬ Displaces claim existing := by
  induction listed generalizing state with
  | nil => simp
  | cons existing listed ih =>
    rw [List.map_cons,List.nodup_cons] at distinct
    have there := present existing List.mem_cons_self
    have later : ∀ other ∈ listed, other ∈ (weigh claim state existing).1.claims := by
      intro other inside
      apply weigh_present there (present other (List.mem_cons_of_mem _ inside))
      intro same
      exact distinct.1 (List.mem_map.mpr ⟨other,inside,same⟩)
    rw [List.foldl_cons,ih distinct.2 later,weigh_seen dated eligible there,and_assoc,List.forall_mem_cons]

-- The columns that place a claim among those of its entity.
def frame (claim : MemoryClaim) : MemoryEntity × (DateTime ×ₗ Text) := (claim.entity,created claim)

theorem settled_frame (claim : MemoryClaim) (listed : List MemoryClaim) (state : Memory × MemoryClaim) :
    (listed.foldl (weigh claim) state).1.claims.map frame = state.1.claims.map frame := by
  induction listed generalizing state with
  | nil => rfl
  | cons existing listed ih =>
    rw [List.foldl_cons,ih]
    rcases weigh_store claim state existing with ⟨same,_⟩ | ⟨_,status,reason,moved,_⟩
    · rw [same]
    · rw [moved]
      unfold Memory.transition Rows.updateWhere
      rw [List.map_map]
      apply List.map_congr_left
      intro other _
      by_cases same : other.claimId = existing.claimId
      · simp [same,frame,created,MemoryClaim.moved]
      · simp [same]

theorem settled_createdAt (claim : MemoryClaim) (listed : List MemoryClaim) (state : Memory × MemoryClaim) :
    (listed.foldl (weigh claim) state).2.createdAt = state.2.createdAt := by
  induction listed generalizing state with
  | nil => rfl
  | cons existing listed ih =>
    rw [List.foldl_cons,ih]
    unfold weigh
    dsimp only
    repeat' split
    all_goals rfl

theorem rank_frame {left right : Memory} (same : left.claims.map frame = right.claims.map frame) (entity : MemoryEntity)
    (row : MemoryClaim) : entityRank left entity row = entityRank right entity row := by
  have keys (memory : Memory) : (memory.entityClaims entity []).map created =
      ((memory.claims.map frame).filter (fun columns => columns.1 == entity)).map Prod.snd := by
    unfold Memory.entityClaims
    rw [List.filter_map,List.map_map]
    simp [Function.comp_def,frame]
  apply Ranks.rank_keys
  rw [keys,keys,same]

theorem rank_added {memory after : Memory} (claims : after.claims = memory.claims ++ [added])
    (entity : MemoryEntity) (row : MemoryClaim) : entityRank after entity row = entityRank memory entity row +
      if added.entity = entity ∧ created added < created row then 1 else 0 := by
  have rows : after.entityClaims entity [] = memory.entityClaims entity [] ++ if added.entity = entity then [added] else [] := by
    unfold Memory.entityClaims
    rw [claims,List.filter_append]
    by_cases same : added.entity = entity <;> simp [same]
  unfold entityRank
  rw [rows]
  by_cases same : added.entity = entity
  · rw [if_pos same,Ranks.rank_append]
    simp [same]
  · simp [same]

-- What keeps a claim seen when another one is accepted.
def Spares (memory : Memory) (entity : MemoryEntity) (claim row : MemoryClaim) : Prop :=
  (∃ existing ∈ memory.matching claim, equivalent existing claim = true) ∨
    ((row ∈ memory.matching claim → ¬ Displaces claim row) ∧
      (Storable memory claim → claim.entity = entity → created claim < created row → entityRank memory entity row + 1 < 100))

theorem accept_seen (later : After day claim) (row : MemoryClaim) :
    SeenAt (memory.accept claim).1 entity day row ↔ SeenAt memory entity day row ∧ Spares memory entity claim row := by
  unfold Memory.accept
  cases found : (memory.matching claim).find? (fun existing => equivalent existing claim) with
  | some existing =>
    have same : equivalent existing claim = true := by simpa using List.find?_some found
    exact ⟨fun seen => ⟨seen,.inl ⟨existing,List.mem_of_find?_eq_some found,same⟩⟩,fun both => both.1⟩
  | none =>
    dsimp only
    have differs : ¬ ∃ existing ∈ memory.matching claim, equivalent existing claim = true := by
      intro ⟨existing,inside,same⟩
      exact absurd same (List.find?_eq_none.mp found existing inside)
    have distinct : ((memory.matching claim).map MemoryClaim.claimId).Nodup :=
      (List.Sublist.map _ List.filter_sublist).nodup (listed_nodup memory claim.entity [.active] 100)
    have present : ∀ existing ∈ memory.matching claim, existing ∈ memory.claims := fun _ inside => (matching_active inside).1
    have version := settled_kept claim (memory.matching claim) (memory,claim)
    have instant := settled_createdAt claim (memory.matching claim) (memory,claim)
    have frames := settled_frame claim (memory.matching claim) (memory,claim)
    have kept (eligible : Eligible row (some day)) : row ∈ ((memory.matching claim).foldl (weigh claim) (memory,claim)).1.claims ↔
        row ∈ memory.claims ∧ ∀ existing ∈ memory.matching claim, row.claimId = existing.claimId → ¬ Displaces claim existing :=
      settled_seen later.dated eligible distinct present
    generalize (memory.matching claim).foldl (weigh claim) (memory,claim) = settled at version instant frames kept
    dsimp only at version instant frames
    have ids : settled.1.claims.map MemoryClaim.claimId = memory.claims.map MemoryClaim.claimId := by
      have columns := congrArg (List.map (fun columns : MemoryEntity × (DateTime ×ₗ Text) => (ofLex columns.2).2)) frames
      rw [List.map_map,List.map_map] at columns
      exact columns
    have inserted : created settled.2 = created claim := by
      unfold created
      rw [version.claimId,instant]
    have rest (eligible : Eligible row (some day)) :
        row ∈ settled.1.claims ↔ row ∈ memory.claims ∧ (row ∈ memory.matching claim → ¬ Displaces claim row) := by
      rw [kept eligible]
      constructor
      · intro ⟨inside,spared⟩
        exact ⟨inside,fun matched => spared row matched rfl⟩
      · intro ⟨inside,spared⟩
        refine ⟨inside,fun existing matched same => ?_⟩
        rw [←Rows.same_row memory.keyed inside (present existing matched) same]
        apply spared
        rw [Rows.same_row memory.keyed inside (present existing matched) same]
        exact matched
    rcases create_cases settled.1 settled.2 with ⟨storable,after,made,claims⟩ | ⟨refused,refusal,made⟩
    · rw [made]
      dsimp only
      unfold SeenAt Spares
      rw [listed_iff,listed_iff,rank_added claims,rank_frame frames,claims,inserted,version.key.1]
      constructor
      · intro ⟨⟨inside,same,low⟩,eligible⟩
        have old : row ∈ settled.1.claims := by
          rcases List.mem_append.mp inside with old | new
          · exact old
          · rw [List.mem_singleton.mp new] at eligible
            exact absurd eligible (later_ineligible later.dated version.asOfDate)
        obtain ⟨before,spared⟩ := (rest eligible).mp old
        refine ⟨⟨⟨before,same,by omega⟩,eligible⟩,.inr ⟨spared,fun _ entity' earlier => ?_⟩⟩
        rwa [if_pos ⟨entity',earlier⟩] at low
      · intro ⟨⟨⟨before,same,low⟩,eligible⟩,spared⟩
        rcases spared with equal | ⟨spared,room⟩
        · exact absurd equal differs
        · refine ⟨⟨List.mem_append.mpr (.inl ((rest eligible).mpr ⟨before,spared⟩)),same,?_⟩,eligible⟩
          split
          · rename_i pushed
            exact room ((storable_version version ids).mp storable) pushed.1 pushed.2
          · omega
    · rw [made]
      dsimp only
      unfold SeenAt Spares
      rw [listed_iff,listed_iff,rank_frame frames]
      constructor
      · intro ⟨⟨inside,same,low⟩,eligible⟩
        obtain ⟨before,spared⟩ := (rest eligible).mp inside
        exact ⟨⟨⟨before,same,low⟩,eligible⟩,
          .inr ⟨spared,fun storable => absurd ((storable_version version ids).mpr storable) refused⟩⟩
      · intro ⟨⟨⟨before,same,low⟩,eligible⟩,spared⟩
        rcases spared with equal | ⟨spared,_⟩
        · exact absurd equal differs
        · exact ⟨⟨(rest eligible).mpr ⟨before,spared⟩,same,low⟩,eligible⟩

end acceptance

/- A sequence of later claims. -/

def acceptAll (memory : Memory) (claims : List MemoryClaim) : Memory := claims.foldl (fun store claim => (store.accept claim).1) memory

-- No claim of the sequence takes away a claim seen for the day.
def AllSpared (entity : MemoryEntity) (day : Date) (memory : Memory) : List MemoryClaim → Prop
  | [] => True
  | claim :: rest => (∀ row, SeenAt memory entity day row → Spares memory entity claim row) ∧
      AllSpared entity day (memory.accept claim).1 rest

variable {claims : List MemoryClaim} {day : Date}

theorem seen_shrinks {entity : MemoryEntity} (later : ∀ claim ∈ claims, After day claim)
    {memory : Memory} {row : MemoryClaim} (seen : SeenAt (acceptAll memory claims) entity day row) : SeenAt memory entity day row := by
  induction claims generalizing memory with
  | nil => exact seen
  | cons claim rest ih =>
    have after := ih (fun other inside => later other (List.mem_cons_of_mem _ inside)) seen
    exact ((accept_seen memory entity (later claim List.mem_cons_self) row).mp after).1

theorem seen_all_iff {entity : MemoryEntity} (later : ∀ claim ∈ claims, After day claim) (memory : Memory) :
    (∀ row, SeenAt memory entity day row ↔ SeenAt (acceptAll memory claims) entity day row) ↔ AllSpared entity day memory claims := by
  induction claims generalizing memory with
  | nil => simp [acceptAll,AllSpared]
  | cons claim rest ih =>
    have first := accept_seen memory entity (later claim List.mem_cons_self)
    have rests : ∀ other ∈ rest, After day other := fun other inside => later other (List.mem_cons_of_mem _ inside)
    have shape : acceptAll memory (claim :: rest) = acceptAll (memory.accept claim).1 rest := rfl
    unfold AllSpared
    rw [←ih rests (memory.accept claim).1,shape]
    constructor
    · intro same
      constructor
      · intro row seen
        exact ((first row).mp (seen_shrinks rests ((same row).mp seen))).2
      · intro row
        exact ⟨fun seen => (same row).mp ((first row).mp seen).1,fun seen => seen_shrinks rests seen⟩
    · intro ⟨spared,same⟩ row
      constructor
      · intro seen
        exact (same row).mp ((first row).mpr ⟨seen,spared row seen⟩)
      · intro seen
        exact ((first row).mp ((same row).mpr seen)).1

-- Retrieval for a day selects the same claims before and after a sequence of
-- later ones, exactly where each of them spares what is seen.
theorem no_look_ahead_iff [Payload] (memory : Memory) (entity : MemoryEntity) (day : Date) (claims : List MemoryClaim)
    (later : ∀ claim ∈ claims, After day claim) (budget : MemoryContextBudget)
    (ampleBefore : Ample budget (memory.listEntityClaims entity [] 100))
    (ampleAfter : Ample budget ((acceptAll memory claims).listEntityClaims entity [] 100)) :
    (retrieveEntity memory entity (some day) budget).selectedClaims =
        (retrieveEntity (acceptAll memory claims) entity (some day) budget).selectedClaims ↔
      AllSpared entity day memory claims := by
  rw [retrieve_same ampleBefore ampleAfter,seen_all_iff later]

-- A note that was observed on its day.
def observedNote (claimId : Text) (day : Nat) (bounded : 1 ≤ day ∧ day ≤ 31) (value : Int) : MemoryClaim :=
  {marchNote claimId day bounded value with observedAt:=some ⟨⟨2024,3,day,Calendar.in_2024,Calendar.in_march,bounded⟩,.midnight⟩}

def oneNote : Memory := ⟨[observedNote "seen".toList 5 fifth 1],[],by unfold Rows.Distinct; decide⟩

def laterNote : MemoryClaim := observedNote "later".toList 8 eighth 2

def marchSixth : Date := .of 2024 3 6

theorem later_after : ∀ claim ∈ [laterNote], After marchSixth claim := by
  intro claim inside
  rw [List.mem_singleton.mp inside]
  exact ⟨⟨_,rfl,by decide⟩,⟨_,rfl,by decide⟩⟩

theorem no_look_ahead_sample : letI : Payload := ⟨fun _ => 0⟩
    (retrieveEntity oneNote ⟨.symbol,"FPT".toList⟩ (some marchSixth) ⟨1600,[]⟩).selectedClaims =
        (retrieveEntity (acceptAll oneNote [laterNote]) ⟨.symbol,"FPT".toList⟩ (some marchSixth) ⟨1600,[]⟩).selectedClaims ↔
      AllSpared ⟨.symbol,"FPT".toList⟩ marchSixth oneNote [laterNote] := by
  let : Payload := ⟨fun _ => 0⟩
  exact no_look_ahead_iff oneNote ⟨.symbol,"FPT".toList⟩ marchSixth [laterNote] later_after ⟨1600,[]⟩
    ⟨rfl,by decide⟩ ⟨rfl,by decide⟩

-- A newer note supersedes the one that was current on the day.
theorem later_note_hides : letI : Payload := ⟨fun _ => 0⟩
    (∀ claim ∈ [laterNote], After marchSixth claim) ∧
    (retrieveEntity oneNote ⟨.symbol,"FPT".toList⟩ (some marchSixth) ⟨1600,[]⟩).selectedClaims =
      [observedNote "seen".toList 5 (by decide) 1] ∧
    (retrieveEntity (acceptAll oneNote [laterNote]) ⟨.symbol,"FPT".toList⟩ (some marchSixth) ⟨1600,[]⟩).selectedClaims = [] := by
  let : Payload := ⟨fun _ => 0⟩
  exact ⟨later_after,by decide,by decide⟩

end OpenStock.SymbolMemory
