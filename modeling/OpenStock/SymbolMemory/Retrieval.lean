import Mathlib.Algebra.BigOperators.Group.List.Basic
import Mathlib.Algebra.Order.Field.Rat
import OpenStock.SymbolMemory.Lifecycle

namespace OpenStock.SymbolMemory
open Text Calendar

-- Neither budget is negative.
structure MemoryContextBudget where
  totalTokens : Nat
  sectionTokenBudgets : List (Text × Nat)

inductive OmitReason where
  | inactive
  | future
  | expired
  | sectionBudget (part : Text)
  | budget

structure MemoryRetrievalResult where
  entity : MemoryEntity
  selectedClaims : List MemoryClaim
  omittedClaims : List (Text × OmitReason)
  tokenEstimate : Nat
  asOfDate : Option Date
  sourceCoverage : ℚ
  conflictClaimIds : List Text
  riskClaimIds : List Text
  caveatClaimIds : List Text
  missingDataClaimIds : List Text

-- `len(json.dumps(asdict(claim), sort_keys=True, default=str))`
class Payload where
  length : MemoryClaim → Nat

def claimTokens [payload : Payload] (claim : MemoryClaim) : Nat := max 1 ((payload.length claim + 3) / 4)

def priority (claim : MemoryClaim) : Nat ×ₗ Nat ×ₗ Int ×ₗ Int ×ₗ Text :=
  toLex (if claim.pinned then 0 else 1,toLex (if claim.status = .conflicted then 0 else 1,
    toLex (-(claimAuthority claim : Int),toLex (claim.asOfDate.elim 0 (fun date => -(date.toOrdinal : Int)),claim.claimId))))

def priorityBefore (left right : MemoryClaim) : Prop := priority left ≤ priority right

instance : DecidableRel priorityBefore := fun left right => inferInstanceAs (Decidable (priority left ≤ priority right))

def ineligibleReason (claim : MemoryClaim) (asOfDate : Option Date) : Option OmitReason :=
  if claim.status ≠ .active ∧ claim.status ≠ .conflicted then some .inactive
  else match asOfDate with
  | none => none
  | some date =>
    if claim.asOfDate.any (date < ·) then some .future
    else if claim.observedAt.any (fun observed => date < observed.date) then some .future
    else if claim.sourcePublishedAt.any (date < ·) then some .future
    else if claim.validFrom.any (date < ·) then some .future
    else if claim.validUntil.any (· < date) then some .expired
    else none

def sectionFor (claim : MemoryClaim) : Text :=
  if claim.claimType ∈ ["risk_or_caveat".toList,"data_quality_caveat".toList,"open_question".toList] then "risk".toList
  else if claim.claimType ∈ ["market_or_sector_context".toList,"technical_observation".toList] then "context".toList
  else if claim.claimType = "user_note".toList then "user_note".toList
  else "fact".toList

-- What one pass over the listed claims has placed so far.
structure Selection where
  selected : List MemoryClaim
  omitted : List (Text × OmitReason)
  usedTokens : Nat
  sectionTokens : Text → Nat

def Selection.start : Selection := ⟨[],[],0,fun _ => 0⟩

def Selection.omit' (selection : Selection) (claim : MemoryClaim) (reason : OmitReason) : Selection :=
  {selection with omitted:=selection.omitted ++ [(claim.claimId,reason)]}

-- `str(claim.value.get("status", "")).lower() in {"missing", "unavailable"}`
def missingData (claim : MemoryClaim) : Bool :=
  match Json.lookup claim.value "status".toList with
  | some (.str status) => lower status == "missing".toList || lower status == "unavailable".toList
  | _ => false

section retrieval
variable [Payload]

def consider (asOfDate : Option Date) (budget : MemoryContextBudget) (selection : Selection) (claim : MemoryClaim) : Selection :=
  match ineligibleReason claim asOfDate with
  | some reason => selection.omit' claim reason
  | none =>
    let tokens := claimTokens claim
    let part := sectionFor claim
    if (budget.sectionTokenBudgets.lookup part).any (fun limit => limit < selection.sectionTokens part + tokens) then
      selection.omit' claim (.sectionBudget part)
    else if budget.totalTokens < selection.usedTokens + tokens then selection.omit' claim .budget
    else ⟨selection.selected ++ [claim],selection.omitted,selection.usedTokens + tokens,
      Function.update selection.sectionTokens part (selection.sectionTokens part + tokens)⟩

def selectFrom (asOfDate : Option Date) (budget : MemoryContextBudget) (listed : List MemoryClaim) : Selection :=
  (listed.insertionSort priorityBefore).foldl (consider asOfDate budget) .start

def retrieveEntity (memory : Memory) (entity : MemoryEntity) (asOfDate : Option Date) (budget : MemoryContextBudget) :
    MemoryRetrievalResult :=
  let selection := selectFrom asOfDate budget (memory.listEntityClaims entity [] 100)
  let selected := selection.selected
  let ids (test : MemoryClaim → Bool) := (selected.filter test).map MemoryClaim.claimId
  { entity:=entity
    selectedClaims:=selected
    omittedClaims:=selection.omitted
    tokenEstimate:=selection.usedTokens
    asOfDate:=asOfDate
    sourceCoverage:=if selected = [] then 0 else
      (selected.countP (fun claim => !claim.sourceRefs.isEmpty) : ℚ) / selected.length
    conflictClaimIds:=ids (fun claim => claim.status == .conflicted)
    riskClaimIds:=ids (fun claim => claim.claimType == "risk_or_caveat".toList)
    caveatClaimIds:=ids (fun claim => claim.claimType == "data_quality_caveat".toList)
    missingDataClaimIds:=ids (fun claim => claim.claimType == "data_quality_caveat".toList && missingData claim) }

end retrieval

/- Eligibility, by the dates of a claim. -/

structure Eligible (claim : MemoryClaim) (asOfDate : Option Date) : Prop where
  standing : claim.status = .active ∨ claim.status = .conflicted
  effective : ∀ date ∈ asOfDate, ∀ dated ∈ claim.asOfDate, dated ≤ date
  observed : ∀ date ∈ asOfDate, ∀ observed ∈ claim.observedAt, observed.date ≤ date
  published : ∀ date ∈ asOfDate, ∀ published ∈ claim.sourcePublishedAt, published ≤ date
  started : ∀ date ∈ asOfDate, ∀ start ∈ claim.validFrom, start ≤ date
  lasting : ∀ date ∈ asOfDate, ∀ ending ∈ claim.validUntil, date ≤ ending

theorem refused_none {value : Option α} : value.any test = false ↔ ∀ inner ∈ value, test inner = false := by
  cases value <;> simp

theorem eligible_iff (claim : MemoryClaim) (asOfDate : Option Date) :
    ineligibleReason claim asOfDate = none ↔ Eligible claim asOfDate := by
  unfold ineligibleReason
  by_cases standing : claim.status = .active ∨ claim.status = .conflicted
  · rw [if_neg (by tauto)]
    cases asOfDate with
    | none => exact ⟨fun _ => ⟨standing,by simp,by simp,by simp,by simp,by simp⟩,fun _ => rfl⟩
    | some date =>
      dsimp only
      constructor
      · intro open'
        repeat' split at open'
        all_goals cases open'
        rename_i effective observed published started lasting
        simp only [Bool.not_eq_true] at effective observed published started lasting
        constructor
        · exact standing
        all_goals
          intro asOf same inner member
          cases same
          first
            | simpa using refused_none.mp effective inner member
            | simpa using refused_none.mp observed inner member
            | simpa using refused_none.mp published inner member
            | simpa using refused_none.mp started inner member
            | simpa using refused_none.mp lasting inner member
      · intro eligible
        have effective : claim.asOfDate.any (date < ·) = false :=
          refused_none.mpr (fun inner member => by simpa using eligible.effective date rfl inner member)
        have observed : claim.observedAt.any (fun observed => date < observed.date) = false :=
          refused_none.mpr (fun inner member => by simpa using eligible.observed date rfl inner member)
        have published : claim.sourcePublishedAt.any (date < ·) = false :=
          refused_none.mpr (fun inner member => by simpa using eligible.published date rfl inner member)
        have started : claim.validFrom.any (date < ·) = false :=
          refused_none.mpr (fun inner member => by simpa using eligible.started date rfl inner member)
        have lasting : claim.validUntil.any (· < date) = false :=
          refused_none.mpr (fun inner member => by simpa using eligible.lasting date rfl inner member)
        simp [effective,observed,published,started,lasting]
  · rw [if_pos (by tauto)]
    constructor
    · intro open'
      cases open'
    · intro eligible
      exact absurd eligible.standing standing

/- One pass over the listed claims. -/

def OmitReason.isBudget : OmitReason → Bool
  | .sectionBudget _ => true
  | .budget => true
  | _ => false

section pass
variable [Payload] {asOfDate : Option Date} {budget : MemoryContextBudget}

def tokensOf (claims : List MemoryClaim) : Nat := (claims.map claimTokens).sum

def ofSection (part : Text) (claims : List MemoryClaim) : List MemoryClaim := claims.filter (fun claim => sectionFor claim == part)

-- The sums that the pass keeps, within their budgets.
structure Within (budget : MemoryContextBudget) (selection : Selection) : Prop where
  used : selection.usedTokens = tokensOf selection.selected
  total : selection.usedTokens ≤ budget.totalTokens
  parts : ∀ part, selection.sectionTokens part = tokensOf (ofSection part selection.selected)
  limits : ∀ part limit, budget.sectionTokenBudgets.lookup part = some limit → selection.sectionTokens part ≤ limit

-- What a pass over some claims does with each of them.
structure Placed (asOfDate : Option Date) (seen : List MemoryClaim) (selection : Selection) : Prop where
  once : (selection.selected.map MemoryClaim.claimId ++ selection.omitted.map Prod.fst).Perm (seen.map MemoryClaim.claimId)
  selected : ∀ claim ∈ selection.selected, claim ∈ seen ∧ Eligible claim asOfDate
  excused : ∀ claim ∈ seen, Eligible claim asOfDate →
    claim ∈ selection.selected ∨ ∃ reason, reason.isBudget = true ∧ (claim.claimId,reason) ∈ selection.omitted

-- A claim is left out, or taken within what is left of the budgets.
theorem consider_cases (asOfDate : Option Date) (budget : MemoryContextBudget) (selection : Selection) (claim : MemoryClaim) :
    (∃ reason, (Eligible claim asOfDate → reason.isBudget = true) ∧
        consider asOfDate budget selection claim = selection.omit' claim reason) ∨ (Eligible claim asOfDate ∧
        (∀ limit, budget.sectionTokenBudgets.lookup (sectionFor claim) = some limit →
          selection.sectionTokens (sectionFor claim) + claimTokens claim ≤ limit) ∧
        selection.usedTokens + claimTokens claim ≤ budget.totalTokens ∧ consider asOfDate budget selection claim =
          ⟨selection.selected ++ [claim],selection.omitted,selection.usedTokens + claimTokens claim,
            Function.update selection.sectionTokens (sectionFor claim)
              (selection.sectionTokens (sectionFor claim) + claimTokens claim)⟩) := by
  unfold consider
  cases judged : ineligibleReason claim asOfDate with
  | some reason =>
    refine .inl ⟨reason,?_,rfl⟩
    intro eligible
    rw [(eligible_iff claim asOfDate).mpr eligible] at judged
    cases judged
  | none =>
    have eligible := (eligible_iff claim asOfDate).mp judged
    dsimp only
    split
    · exact .inl ⟨_,fun _ => rfl,rfl⟩
    · rename_i room
      split
      · exact .inl ⟨_,fun _ => rfl,rfl⟩
      · rename_i fits
        refine .inr ⟨eligible,?_,by omega,rfl⟩
        intro limit found
        rw [found] at room
        simpa using room

variable {selection : Selection}

theorem consider_within (within : Within budget selection) (claim : MemoryClaim) :
    Within budget (consider asOfDate budget selection claim) := by
  rcases consider_cases asOfDate budget selection claim with ⟨reason,_,shape⟩ | ⟨_,room,fits,shape⟩
  · rw [shape]
    exact ⟨within.used,within.total,within.parts,within.limits⟩
  · rw [shape]
    constructor
    · simp [tokensOf,within.used]
    · exact fits
    · intro part
      dsimp only [ofSection]
      rw [List.filter_append]
      by_cases same : sectionFor claim = part
      · subst same
        simp [tokensOf,ofSection,within.parts]
      · rw [Function.update_of_ne (Ne.symm same),within.parts]
        simp [tokensOf,ofSection,same]
    · intro part limit found
      by_cases same : sectionFor claim = part
      · subst same
        simpa using room limit found
      · dsimp only
        rw [Function.update_of_ne (Ne.symm same)]
        exact within.limits part limit found

theorem consider_placed (placed : Placed asOfDate seen selection) (claim : MemoryClaim) :
    Placed asOfDate (seen ++ [claim]) (consider asOfDate budget selection claim) := by
  have kept : ∀ other ∈ selection.selected, other ∈ seen ++ [claim] ∧ Eligible other asOfDate :=
    fun other inside => ⟨List.mem_append.mpr (.inl (placed.selected other inside).1),(placed.selected other inside).2⟩
  rcases consider_cases asOfDate budget selection claim with ⟨reason,budgeted,shape⟩ | ⟨eligible,_,_,shape⟩
  · rw [shape]
    constructor
    · simp only [Selection.omit',List.map_append,List.map_cons,List.map_nil]
      rw [←List.append_assoc]
      exact placed.once.append_right _
    · exact kept
    · intro other inside eligible
      rcases List.mem_append.mp inside with before | last
      · rcases placed.excused other before eligible with taken | ⟨cause,isBudget,left⟩
        · exact .inl taken
        · exact .inr ⟨cause,isBudget,List.mem_append.mpr (.inl left)⟩
      · cases List.mem_singleton.mp last
        exact .inr ⟨reason,budgeted eligible,List.mem_append.mpr (.inr List.mem_cons_self)⟩
  · rw [shape]
    constructor
    · simp only [List.map_append,List.map_cons,List.map_nil,List.append_assoc]
      exact (List.perm_append_comm.append_left _).trans
        (by rw [←List.append_assoc]; exact placed.once.append_right _)
    · intro other inside
      rcases List.mem_append.mp inside with before | last
      · exact kept other before
      · cases List.mem_singleton.mp last
        exact ⟨List.mem_append.mpr (.inr List.mem_cons_self),eligible⟩
    · intro other inside eligible
      rcases List.mem_append.mp inside with before | last
      · rcases placed.excused other before eligible with taken | excuse
        · exact .inl (List.mem_append.mpr (.inl taken))
        · exact .inr excuse
      · cases List.mem_singleton.mp last
        exact .inl (List.mem_append.mpr (.inr List.mem_cons_self))

theorem pass_placed (asOfDate : Option Date) (budget : MemoryContextBudget) (listed : List MemoryClaim) :
    Within budget (listed.foldl (consider asOfDate budget) .start) ∧
      Placed asOfDate listed (listed.foldl (consider asOfDate budget) .start) := by
  induction listed using List.reverseRecOn with
  | nil =>
    refine ⟨⟨rfl,Nat.zero_le _,fun _ => rfl,fun _ _ _ => Nat.zero_le _⟩,⟨.refl _,?_,?_⟩⟩
    · intro claim inside
      cases inside
    · intro claim inside
      cases inside
  | append_singleton listed claim ih =>
    rw [List.foldl_append]
    exact ⟨consider_within ih.1 claim,consider_placed ih.2 claim⟩

theorem selectFrom_placed (asOfDate : Option Date) (budget : MemoryContextBudget) (listed : List MemoryClaim) :
    Within budget (selectFrom asOfDate budget listed) ∧ Placed asOfDate listed (selectFrom asOfDate budget listed) := by
  obtain ⟨within,placed⟩ := pass_placed asOfDate budget (listed.insertionSort priorityBefore)
  have sorted := List.perm_insertionSort priorityBefore listed
  refine ⟨within,⟨placed.once.trans (sorted.map _),?_,?_⟩⟩
  · intro claim inside
    exact ⟨sorted.mem_iff.mp (placed.selected claim inside).1,(placed.selected claim inside).2⟩
  · intro claim inside
    exact placed.excused claim (sorted.mem_iff.mpr inside)

end pass

/- What retrieval misses. -/

section completeness
variable [Payload]

-- Every claim of the entity is placed once, an eligible one is left out for a
-- budget only, and the budgets hold.
structure MissesNothing (memory : Memory) (entity : MemoryEntity) (asOfDate : Option Date) (budget : MemoryContextBudget) : Prop where
  once : ∀ claim ∈ memory.claims, claim.entity = entity →
    (((retrieveEntity memory entity asOfDate budget).selectedClaims.map MemoryClaim.claimId ++
      (retrieveEntity memory entity asOfDate budget).omittedClaims.map Prod.fst).count claim.claimId) = 1
  excused : ∀ claim ∈ memory.claims, claim.entity = entity → Eligible claim asOfDate →
    claim ∈ (retrieveEntity memory entity asOfDate budget).selectedClaims ∨
      ∃ reason, reason.isBudget = true ∧ (claim.claimId,reason) ∈ (retrieveEntity memory entity asOfDate budget).omittedClaims
  total : tokensOf (retrieveEntity memory entity asOfDate budget).selectedClaims ≤ budget.totalTokens
  sections : ∀ part limit, budget.sectionTokenBudgets.lookup part = some limit →
    tokensOf (ofSection part (retrieveEntity memory entity asOfDate budget).selectedClaims) ≤ limit

variable {entity : MemoryEntity} {memory : Memory}

theorem nothing_missed (few : (memory.entityClaims entity []).length ≤ 100)
    (asOfDate : Option Date) (budget : MemoryContextBudget) : MissesNothing memory entity asOfDate budget := by
  obtain ⟨within,placed⟩ := selectFrom_placed asOfDate budget (memory.listEntityClaims entity [] 100)
  have inside {claim : MemoryClaim} (present : claim ∈ memory.claims) (same : claim.entity = entity) :
      claim ∈ memory.listEntityClaims entity [] 100 :=
    (listed_all few).mem_iff.mpr (mem_entityClaims.mpr ⟨present,same,.inl rfl⟩)
  constructor
  · intro claim present same
    apply List.count_eq_one_of_mem
    · exact placed.once.nodup_iff.mpr (listed_nodup memory entity [] 100)
    · exact placed.once.mem_iff.mpr (List.mem_map.mpr ⟨claim,inside present same,rfl⟩)
  · intro claim present same eligible
    exact placed.excused claim (inside present same) eligible
  · exact within.used ▸ within.total
  · intro part limit found
    exact within.parts part ▸ within.limits part limit found

-- Of more claims than are listed, one is placed nowhere.
theorem beyond_missed (many : 100 < (memory.entityClaims entity []).length)
    (asOfDate : Option Date) (budget : MemoryContextBudget) : ¬ MissesNothing memory entity asOfDate budget := by
  intro complete
  have placed := (selectFrom_placed asOfDate budget (memory.listEntityClaims entity [] 100)).2
  have listed : (memory.listEntityClaims entity [] 100).length = 100 := by
    rw [listed_length]
    omega
  have entityDistinct : (memory.entityClaims entity []).Nodup :=
    List.Nodup.of_map MemoryClaim.claimId ((List.Sublist.map _ List.filter_sublist).nodup memory.keyed)
  have covered : memory.entityClaims entity [] ⊆ memory.listEntityClaims entity [] 100 := by
    intro claim inside
    obtain ⟨present,same,_⟩ := mem_entityClaims.mp inside
    have counted : ((selectFrom asOfDate budget (memory.listEntityClaims entity [] 100)).selected.map MemoryClaim.claimId ++
        (selectFrom asOfDate budget (memory.listEntityClaims entity [] 100)).omitted.map Prod.fst).count claim.claimId = 1 :=
      complete.once claim present same
    have among : claim.claimId ∈ (memory.listEntityClaims entity [] 100).map MemoryClaim.claimId := by
      apply placed.once.mem_iff.mp
      apply List.count_pos_iff.mp
      omega
    obtain ⟨other,there,ids⟩ := List.mem_map.mp among
    rw [←Rows.same_row memory.keyed (mem_entityClaims.mp (listed_entity there)).1 present ids]
    exact there
  have shorter := (entityDistinct.subperm covered).length_le
  omega

theorem misses_nothing_iff (memory : Memory) (entity : MemoryEntity) (asOfDate : Option Date) (budget : MemoryContextBudget) :
    MissesNothing memory entity asOfDate budget ↔ (memory.entityClaims entity []).length ≤ 100 := by
  constructor
  · intro complete
    by_contra many
    exact beyond_missed (not_le.mp many) asOfDate budget complete
  · intro few
    exact nothing_missed few asOfDate budget

end completeness

-- One claim more than is listed.
def manyNotes : Memory :=
  ⟨(List.range 101).map (fun number => marchNote (List.replicate (number + 1) 'n') 5 fifth number),[],
    by unfold Rows.Distinct; decide +kernel⟩

theorem hundred_and_one_missed : ¬ @MissesNothing ⟨fun _ => 0⟩ manyNotes ⟨.symbol,"FPT".toList⟩ none ⟨1600,[]⟩ := by
  let : Payload := ⟨fun _ => 0⟩
  apply beyond_missed
  decide

end OpenStock.SymbolMemory
