import Mathlib.Data.List.TakeWhile
import OpenStock.SymbolMemory.Lifecycle

namespace OpenStock.SymbolMemory
open Text Calendar

-- The store, and the claims that were superseded on arrival.
structure History where
  memory : Memory
  turnedAway : List Text

def History.start : History := ⟨.empty,[]⟩

-- A claim arrives active.
inductive Call where
  | accept (claim : MemoryClaim) (arriving : claim.status = .active)
  | correct (claimId reason : Text) (now : DateTime)
  | expire (entity : MemoryEntity) (asOfDate : Date)

def turned (outcome : Except MemoryError MemoryClaim) : List Text :=
  match outcome with
  | .ok stands => if stands.status = .superseded then [stands.claimId] else []
  | .error _ => []

def step [Digest] (history : History) : Call → History
  | .accept claim _ =>
    let result := history.memory.accept claim
    ⟨result.1,history.turnedAway ++ turned result.2⟩
  | .correct claimId reason now => ⟨(history.memory.correct claimId reason now).1,history.turnedAway⟩
  | .expire entity asOfDate => ⟨(history.memory.expireDueEntityClaims entity asOfDate).1,history.turnedAway⟩

def Outranked (turnedAway : List Text) (claim : MemoryClaim) : Prop :=
  claim.status = .superseded ∨ claim.claimId ∈ turnedAway

-- What an active claim leaves no room for: another active one, one in conflict at
-- its date, one that lost although it is newer and of no less authority.
def Room (turnedAway : List Text) (claim other : MemoryClaim) : Prop :=
  other.status ≠ .active ∧ (other.status = .conflicted → effective other ≠ effective claim) ∧
    (Outranked turnedAway other → claimAuthority claim ≤ claimAuthority other → ¬ effective claim < effective other)

def Beside (turnedAway : List Text) (claim other : MemoryClaim) : Prop :=
  sameKey claim other → claim.status = .active → Room turnedAway claim other

def OneCurrent (history : History) : Prop :=
  Rows.Apart MemoryClaim.claimId (Beside history.turnedAway) history.memory.claims

/- One row changes, or one is added. -/

-- No other claim of its key is active.
def Alone (memory : Memory) (claim : MemoryClaim) : Prop :=
  ∀ row ∈ memory.claims, row.claimId ≠ claim.claimId → sameKey row claim → row.status ≠ .active

theorem active_alone (one : OneCurrent ⟨memory,turnedAway⟩) (present : claim ∈ memory.claims) (active : claim.status = .active) :
    Alone memory claim := by
  intro row inside differs same activeRow
  exact (one row inside claim present differs same activeRow).1 active

theorem retired_current (one : OneCurrent ⟨memory,turnedAway⟩) (present : old ∈ memory.claims) (inactive : status ≠ .active)
    (quiet : (status ≠ .conflicted ∧ status ≠ .superseded) ∨ Alone memory old) (reason : Text) :
    OneCurrent ⟨memory.transition old.claimId status reason,turnedAway⟩ := by
  rw [OneCurrent,transition_apart present]
  constructor
  · intro left insideLeft right insideRight _ _ differs
    exact one left insideLeft right insideRight differs
  · intro row inside differs
    constructor
    · intro _ active
      exact absurd active inactive
    · intro same active
      rcases quiet with ⟨notConflicted,notSuperseded⟩ | alone
      · have before := one row inside old present differs same active
        refine ⟨inactive,fun conflicted => absurd conflicted notConflicted,?_⟩
        intro outranked
        rcases outranked with superseded | away
        · exact absurd superseded notSuperseded
        · exact before.2.2 (.inr away)
      · exact absurd active (alone row inside differs same)

variable {extra : List Text}

theorem room_turned (only : ∀ id ∈ extra, id ≠ other.claimId) (claim : MemoryClaim) :
    Room (turnedAway ++ extra) claim other ↔ Room turnedAway claim other := by
  have outranked : Outranked (turnedAway ++ extra) other ↔ Outranked turnedAway other := by
    constructor
    · intro either
      rcases either with superseded | away
      · exact .inl superseded
      · rcases List.mem_append.mp away with earlier | now
        · exact .inr earlier
        · exact absurd rfl (only _ now)
    · intro either
      rcases either with superseded | away
      · exact .inl superseded
      · exact .inr (List.mem_append.mpr (.inl away))
  unfold Room
  rw [outranked]

-- An active claim of which no other version is stored fits in exactly where there is room.
def Fits (history : History) (claim : MemoryClaim) : Prop :=
  ∀ row ∈ history.memory.claims, sameKey row claim → Room history.turnedAway claim row

variable {after : Memory}

theorem added_current (one : OneCurrent ⟨memory,turnedAway⟩) (fresh : ∀ row ∈ memory.claims, row.claimId ≠ claim.claimId)
    (active : claim.status = .active) (claims : after.claims = memory.claims ++ [claim]) :
    OneCurrent ⟨after,turnedAway⟩ ↔ Fits ⟨memory,turnedAway⟩ claim := by
  unfold OneCurrent
  rw [claims,Rows.apart_append fresh]
  constructor
  · intro ⟨_,beside⟩ row inside same
    exact (beside row inside).1 (sameKey_symm same) active
  · intro fits
    refine ⟨one,?_⟩
    intro row inside
    exact ⟨fun same _ => fits row inside (sameKey_symm same),fun same activeRow => absurd activeRow (fits row inside same).1⟩

theorem added_inactive (one : OneCurrent ⟨memory,turnedAway⟩)
    (fresh : ∀ row ∈ memory.claims, row.claimId ≠ claim.claimId) (inactive : claim.status ≠ .active)
    (only : ∀ id ∈ extra, id = claim.claimId)
    (room : ∀ row ∈ memory.claims, sameKey row claim → row.status = .active → Room (turnedAway ++ extra) row claim)
    (claims : after.claims = memory.claims ++ [claim]) : OneCurrent ⟨after,turnedAway ++ extra⟩ := by
  unfold OneCurrent
  rw [claims,Rows.apart_append fresh]
  constructor
  · intro left insideLeft right insideRight differs same activeLeft
    apply (room_turned _ left).mpr
    · exact one left insideLeft right insideRight differs same activeLeft
    · intro id extraId
      rw [only id extraId]
      exact (fresh right insideRight).symm
  · intro row inside
    exact ⟨fun _ active => absurd active inactive,fun same activeRow => room row inside same activeRow⟩

/- `accept` compares the arriving claim with one claim at most. -/

variable {memory : Memory}

theorem mem_matching {claim existing : MemoryClaim} : existing ∈ memory.matching claim ↔
      existing ∈ memory.listEntityClaims claim.entity [.active] 100 ∧ sameKey existing claim := by
  unfold Memory.matching
  rw [List.mem_filter]
  constructor
  · intro ⟨listed,same⟩
    simp only [Bool.and_eq_true,beq_iff_eq] at same
    exact ⟨listed,(mem_entityClaims.mp (listed_entity listed)).2.1,same.2,same.1⟩
  · intro ⟨listed,same⟩
    simp only [Bool.and_eq_true,beq_iff_eq]
    exact ⟨listed,same.2.2,same.2.1⟩

theorem matching_active (inside : existing ∈ memory.matching claim) :
    existing ∈ memory.claims ∧ existing.status = .active ∧ sameKey existing claim := by
  obtain ⟨listed,same⟩ := mem_matching.mp inside
  obtain ⟨present,_,status⟩ := mem_entityClaims.mp (listed_entity listed)
  simp only [List.cons_ne_nil,List.mem_singleton,false_or] at status
  exact ⟨present,status,same⟩

theorem matching_short (one : OneCurrent ⟨memory,turnedAway⟩) (claim : MemoryClaim) :
    memory.matching claim = [] ∨ ∃ existing, memory.matching claim = [existing] := by
  have distinct : ((memory.matching claim).map MemoryClaim.claimId).Nodup :=
    (List.Sublist.map _ List.filter_sublist).nodup (listed_nodup memory claim.entity [.active] 100)
  cases found : memory.matching claim with
  | nil => exact .inl rfl
  | cons first rest =>
    cases rest with
    | nil => exact .inr ⟨first,rfl⟩
    | cons second rest =>
      have left := matching_active (show first ∈ memory.matching claim by simp [found])
      have right := matching_active (show second ∈ memory.matching claim by simp [found])
      have differs : first.claimId ≠ second.claimId := by
        rw [found] at distinct
        simp only [List.map_cons,List.nodup_cons,List.mem_cons,not_or] at distinct
        exact distinct.1.1
      have same : sameKey first second := sameKey_trans left.2.2 (sameKey_symm right.2.2)
      exact absurd right.2.1 (one first left.1 second right.1 differs same left.2.1).1

/- The comparison with the one active claim. -/

-- The comparison leaves the arriving claim active.
def Prevails (existing claim : MemoryClaim) : Prop :=
  claimAuthority existing ≤ claimAuthority claim ∧
    ¬ (effective existing = effective claim ∧ claimAuthority existing = claimAuthority claim)

variable {claim : MemoryClaim}

-- What the comparison with one claim leaves: the store as it was, or that claim
-- moved out of the way.
theorem weigh_cases (memory : Memory) (existing : MemoryClaim) (arriving : claim.status = .active) :
    (¬ Prevails existing claim ∧ claimAuthority claim < claimAuthority existing ∧
        (weigh claim (memory,claim) existing).1 = memory ∧ (weigh claim (memory,claim) existing).2.status = .superseded) ∨
      (¬ Prevails existing claim ∧ (weigh claim (memory,claim) existing).2.status = .conflicted ∧
        ∃ reason, (weigh claim (memory,claim) existing).1 = memory.transition existing.claimId .conflicted reason) ∨
      (Prevails existing claim ∧ effective existing ≤ effective claim ∧ (weigh claim (memory,claim) existing).2.status = .active ∧
        ∃ reason, (weigh claim (memory,claim) existing).1 = memory.transition existing.claimId .superseded reason) ∨
      (Prevails existing claim ∧ effective claim < effective existing ∧ (weigh claim (memory,claim) existing).2.status = .active ∧
        (weigh claim (memory,claim) existing).1 = memory) := by
  unfold weigh Prevails
  simp only [Bool.and_eq_true,decide_eq_true_eq,sameEffectiveDate_iff,isNewer_iff]
  by_cases higher : claimAuthority claim < claimAuthority existing
  · rw [if_neg (fun both => higher.not_gt both.2),if_neg (fun both => higher.ne' both.2),
      if_neg (fun both => higher.not_ge both.2),if_pos higher]
    exact .inl ⟨fun prevails => higher.not_ge prevails.1,higher,rfl,rfl⟩
  have broad : claimAuthority existing ≤ claimAuthority claim := not_lt.mp higher
  by_cases same : effective existing = effective claim
  · rcases broad.lt_or_eq with lower | equal
    · rw [if_pos ⟨same,lower⟩]
      exact .inr (.inr (.inl ⟨⟨broad,fun both => lower.ne both.2⟩,same.le,arriving,_,rfl⟩))
    · rw [if_neg (fun both => both.2.ne equal),if_pos ⟨same,equal⟩]
      exact .inr (.inl ⟨fun prevails => prevails.2 ⟨same,equal⟩,rfl,_,rfl⟩)
  · rw [if_neg (fun both => same both.1),if_neg (fun both => same both.1)]
    by_cases newer : effective existing < effective claim
    · rw [if_pos ⟨newer,broad⟩]
      exact .inr (.inr (.inl ⟨⟨broad,fun both => same both.1⟩,newer.le,arriving,_,rfl⟩))
    · rw [if_neg (fun both => newer both.1),if_neg higher]
      have older : effective claim < effective existing := lt_of_le_of_ne (not_lt.mp newer) (Ne.symm same)
      exact .inr (.inr (.inr ⟨⟨broad,fun both => same both.1⟩,older,arriving,rfl⟩))

/- The condition under which a call keeps one current claim. -/

-- Nothing of the key of an arriving claim that becomes current stands in its way.
def Clear (history : History) (claim : MemoryClaim) : Prop :=
  ∀ row ∈ history.memory.claims, sameKey row claim →
    (row.status = .active → effective row ≤ effective claim) ∧
    (row.status = .conflicted → effective row ≠ effective claim) ∧
    (Outranked history.turnedAway row → claimAuthority claim ≤ claimAuthority row → ¬ effective claim < effective row)

-- The active claims of its key are among the hundred that are compared, and if it
-- wins over all of them nothing stands in its way.
def HeededAccept (history : History) (claim : MemoryClaim) : Prop :=
  (∀ row ∈ history.memory.claims, sameKey row claim → row.status = .active →
    row ∈ history.memory.listEntityClaims claim.entity [.active] 100) ∧
  ((∀ row ∈ history.memory.claims, sameKey row claim → row.status = .active → Prevails row claim ∧ equivalent row claim = false) →
    Clear history claim)

def Storable (memory : Memory) (claim : MemoryClaim) : Prop :=
  validateClaim claim = .ok () ∧ ∀ row ∈ memory.claims, row.claimId ≠ claim.claimId

theorem version_fits (version : Version left right) : Fits history left ↔ Fits history right := by
  have same (row : MemoryClaim) : sameKey row left ↔ sameKey row right :=
    ⟨fun key => sameKey_trans key version.key,fun key => sameKey_trans key (sameKey_symm version.key)⟩
  have dated : effective left = effective right := effective_inj.mpr version.asOfDate
  unfold Fits Room
  simp only [same,dated,version.authority]

theorem create_cases (memory : Memory) (claim : MemoryClaim) :
    (Storable memory claim ∧ ∃ after, memory.createClaim claim = .ok after ∧ after.claims = memory.claims ++ [claim]) ∨
      (¬ Storable memory claim ∧ ∃ refusal, memory.createClaim claim = .error refusal) := by
  cases created : memory.createClaim claim with
  | ok after =>
    obtain ⟨valid,fresh,claims,_⟩ := createClaim_ok.mp created
    exact .inl ⟨⟨valid,fresh⟩,after,rfl,claims⟩
  | error refusal =>
    refine .inr ⟨?_,refusal,rfl⟩
    intro ⟨valid,fresh⟩
    have made := createClaim_ok.mpr (⟨valid,fresh,rfl,rfl⟩ :
      validateClaim claim = .ok () ∧ (∀ row ∈ memory.claims, row.claimId ≠ claim.claimId) ∧
        (⟨memory.claims ++ [claim],memory.events,Rows.append_distinct memory.keyed fresh⟩ : Memory).claims =
          memory.claims ++ [claim] ∧ memory.events = memory.events)
    rw [created] at made
    cases made

theorem transition_ids (memory : Memory) (claimId : Text) (status : ClaimStatus) (reason : Text) :
    (memory.transition claimId status reason).claims.map MemoryClaim.claimId = memory.claims.map MemoryClaim.claimId := by
  unfold Memory.transition Rows.updateWhere
  rw [List.map_map]
  apply List.map_congr_left
  intro row _
  by_cases same : row.claimId = claimId <;> simp [same,MemoryClaim.moved]

theorem storable_version (version : Version left right)
    (ids : after.claims.map MemoryClaim.claimId = memory.claims.map MemoryClaim.claimId) :
    Storable after left ↔ Storable memory right := by
  have fresh (store : Memory) (claimId : Text) :
      (∀ row ∈ store.claims, row.claimId ≠ claimId) ↔ claimId ∉ store.claims.map MemoryClaim.claimId := by
    constructor
    · intro differs inside
      obtain ⟨row,member,same⟩ := List.mem_map.mp inside
      exact differs row member same
    · intro absent row member same
      exact absent (List.mem_map.mpr ⟨row,member,same⟩)
  unfold Storable
  rw [version.valid,fresh,fresh,version.claimId,ids]

section comparison
variable {memory : Memory} {turnedAway : List Text} {existing claim : MemoryClaim}

theorem only_active (one : OneCurrent ⟨memory,turnedAway⟩) (inside : existing ∈ memory.matching claim)
    (present : row ∈ memory.claims) (same : sameKey row claim) (active : row.status = .active) : row = existing := by
  obtain ⟨there,activeThere,sameThere⟩ := matching_active inside
  by_cases ids : row.claimId = existing.claimId
  · exact Rows.same_row memory.keyed present there ids
  · exact absurd active (active_alone one there activeThere row present ids (sameKey_trans same (sameKey_symm sameThere)))

-- Nothing active is compared: there is room, or an active claim is out of sight.
theorem heeded_unmatched (none' : memory.matching claim = []) :
    Fits ⟨memory,turnedAway⟩ claim ↔ HeededAccept ⟨memory,turnedAway⟩ claim := by
  constructor
  · intro fits
    constructor
    · intro row present same active
      exact absurd active (fits row present same).1
    · intro _ row present same
      obtain ⟨inactive,undisputed,newest⟩ := fits row present same
      exact ⟨fun active => absurd active inactive,undisputed,newest⟩
  · intro ⟨listed,clear⟩
    have inactive : ∀ row ∈ memory.claims, sameKey row claim → row.status ≠ .active := by
      intro row present same active
      have matched := mem_matching.mpr ⟨listed row present same active,same⟩
      rw [none'] at matched
      cases matched
    have open' := clear (fun row present same active => absurd active (inactive row present same))
    intro row present same
    exact ⟨inactive row present same,(open' row present same).2⟩

theorem heeded_matched (one : OneCurrent ⟨memory,turnedAway⟩) (inside : existing ∈ memory.matching claim)
    (settled : ¬ (Prevails existing claim ∧ equivalent existing claim = false) ∨ Clear ⟨memory,turnedAway⟩ claim) :
    HeededAccept ⟨memory,turnedAway⟩ claim := by
  constructor
  · intro row present same active
    rw [only_active one inside present same active]
    exact (mem_matching.mp inside).1
  · intro wins
    obtain ⟨there,active,same⟩ := matching_active inside
    rcases settled with loses | clear
    · exact absurd (wins existing there same active) loses
    · exact clear

-- It takes the place of an active claim that is not newer.
theorem heeded_superseding (one : OneCurrent ⟨memory,turnedAway⟩) (inside : existing ∈ memory.matching claim)
    (differs : equivalent existing claim = false) (prevails : Prevails existing claim) (newer : effective existing ≤ effective claim)
    (reason : Text) : Fits ⟨memory.transition existing.claimId .superseded reason,turnedAway⟩ claim ↔
      HeededAccept ⟨memory,turnedAway⟩ claim := by
  obtain ⟨there,active,same⟩ := matching_active inside
  constructor
  · intro fits
    apply heeded_matched one inside
    apply Or.inr
    intro row present sameRow
    by_cases ids : row.claimId = existing.claimId
    · rw [Rows.same_row memory.keyed present there ids]
      refine ⟨fun _ => newer,fun conflicted => ?_,fun _ _ => not_lt.mpr newer⟩
      rw [active] at conflicted
      cases conflicted
    · have room := fits row ((mem_transition there _ _).mpr (.inl ⟨present,ids⟩)) sameRow
      exact ⟨fun activeRow => absurd activeRow room.1,room.2⟩
  · intro ⟨_,clear⟩ row inside' sameRow
    have wins := clear (by
      intro other present sameOther activeOther
      rw [only_active one inside present sameOther activeOther]
      exact ⟨prevails,differs⟩)
    rcases (mem_transition there _ _).mp inside' with ⟨present,ids⟩ | moved
    · have inactive := active_alone one there active row present ids (sameKey_trans sameRow (sameKey_symm same))
      exact ⟨inactive,(wins row present sameRow).2⟩
    · rw [moved]
      refine ⟨by simp [MemoryClaim.moved],fun conflicted => ?_,fun _ _ => not_lt.mpr newer⟩
      simp [MemoryClaim.moved] at conflicted

-- After the comparison with one active claim, the insertion.
theorem settled_current (one : OneCurrent ⟨memory,turnedAway⟩) (inside : existing ∈ memory.matching claim)
    (differs : equivalent existing claim = false) (arriving : claim.status = .active)
    (weighed : weigh claim (memory,claim) existing = settled) : OneCurrent ⟨settled.1,turnedAway⟩ ∧
      ∀ after : Memory, after.claims = settled.1.claims ++ [settled.2] →
        (∀ row ∈ settled.1.claims, row.claimId ≠ settled.2.claimId) →
        (OneCurrent ⟨after,turnedAway ++ turned (.ok settled.2)⟩ ↔ HeededAccept ⟨memory,turnedAway⟩ claim) := by
  obtain ⟨there,active,same⟩ := matching_active inside
  have alone := active_alone one there active
  have version : Version settled.2 claim := by
    rw [←weighed]
    exact weigh_version claim (memory,claim) existing
  have other {row : MemoryClaim} (present : row ∈ memory.claims) (ids : row.claimId ≠ existing.claimId)
      (sameRow : sameKey row settled.2) : row.status ≠ .active :=
    alone row present ids (sameKey_trans (sameKey_trans sameRow version.key) (sameKey_symm same))
  rcases weigh_cases memory existing arriving with
    ⟨loses,higher,store,status⟩ | ⟨loses,status,reason,store⟩ | ⟨prevails,newer,status,reason,store⟩ | ⟨prevails,older,status,store⟩
  · rw [weighed] at store status
    rw [store]
    refine ⟨one,fun after claims fresh => ⟨fun _ => heeded_matched one inside (.inl (fun both => loses both.1)),fun _ => ?_⟩⟩
    apply added_inactive one fresh (by simp [status]) (by simp [turned,status]) _ claims
    intro row present sameRow activeRow
    have least : row = existing := only_active one inside present (sameKey_trans sameRow version.key) activeRow
    refine ⟨by simp [status],fun conflicted => by simp [status] at conflicted,fun _ weaker => ?_⟩
    rw [least,version.authority] at weaker
    omega
  · rw [weighed] at store status
    have moved : OneCurrent ⟨settled.1,turnedAway⟩ := by
      rw [store]
      exact retired_current one there (by simp) (.inr alone) reason
    refine ⟨moved,fun after claims fresh => ⟨fun _ => heeded_matched one inside (.inl (fun both => loses both.1)),fun _ => ?_⟩⟩
    apply added_inactive moved fresh (by simp [status]) (by simp [turned,status]) _ claims
    intro row present sameRow activeRow
    rw [store] at present
    rcases (mem_transition there _ _).mp present with ⟨present,ids⟩ | edited
    · exact absurd activeRow (other present ids sameRow)
    · rw [edited] at activeRow
      cases activeRow
  · rw [weighed] at store status
    have moved : OneCurrent ⟨settled.1,turnedAway⟩ := by
      rw [store]
      exact retired_current one there (by simp) (.inr alone) reason
    refine ⟨moved,fun after claims fresh => ?_⟩
    rw [show turned (.ok settled.2) = [] by simp [turned,status],List.append_nil,
      added_current moved fresh status claims,version_fits version,store]
    exact heeded_superseding one inside differs prevails newer reason
  · rw [weighed] at store status
    rw [store]
    refine ⟨one,fun after claims fresh => ?_⟩
    rw [show turned (.ok settled.2) = [] by simp [turned,status],List.append_nil,
      added_current one fresh status claims,version_fits version]
    constructor
    · intro fits
      exact absurd active (fits existing there same).1
    · intro ⟨_,clear⟩
      have open' := clear (by
        intro row present sameRow activeRow
        rw [only_active one inside present sameRow activeRow]
        exact ⟨prevails,differs⟩)
      exact absurd older (not_lt.mpr ((open' existing there same).1 active))

end comparison

variable {history : History}

theorem accept_current [Digest] (one : OneCurrent history) (arriving : claim.status = .active) :
    OneCurrent (step history (.accept claim arriving)) ↔ (Storable history.memory claim → HeededAccept history claim) := by
  obtain ⟨memory,turnedAway⟩ := history
  dsimp only [step]
  unfold Memory.accept
  cases found : (memory.matching claim).find? (fun existing => equivalent existing claim) with
  | some existing =>
    have inside := List.mem_of_find?_eq_some found
    have same : equivalent existing claim = true := by simpa using List.find?_some found
    have active := (matching_active inside).2.1
    have kept : turned (.ok existing) = [] := by simp [turned,active]
    dsimp only
    rw [kept,List.append_nil]
    exact ⟨fun _ _ => heeded_matched one inside (.inl (fun both => by simp [same] at both)),fun _ => one⟩
  | none =>
    dsimp only
    have differs : ∀ existing ∈ memory.matching claim, equivalent existing claim = false := by
      intro existing inside
      simpa using List.find?_eq_none.mp found existing inside
    rcases matching_short one claim with unmatched | ⟨existing,matched⟩
    · rw [unmatched,List.foldl_nil]
      dsimp only
      rcases create_cases memory claim with ⟨storable,after,made,claims⟩ | ⟨refused,refusal,made⟩
      · rw [made]
        dsimp only
        rw [show turned (.ok claim) = [] by simp [turned,arriving],List.append_nil,
          added_current one storable.2 arriving claims,heeded_unmatched unmatched]
        exact ⟨fun heeded _ => heeded,fun heeded => heeded storable⟩
      · rw [made]
        dsimp only [turned]
        rw [List.append_nil]
        exact ⟨fun _ storable => absurd storable refused,fun _ => one⟩
    · have inside : existing ∈ memory.matching claim := by simp [matched]
      rw [matched,List.foldl_cons,List.foldl_nil]
      cases weighed : weigh claim (memory,claim) existing with
      | mk store accepted =>
        obtain ⟨moved,inserted⟩ := settled_current one inside (differs existing inside) arriving weighed
        have version : Version accepted claim := by
          have kept := weigh_version claim (memory,claim) existing
          rwa [weighed] at kept
        have ids : store.claims.map MemoryClaim.claimId = memory.claims.map MemoryClaim.claimId := by
          have stores := weigh_cases memory existing arriving
          rw [weighed] at stores
          rcases stores with ⟨_,_,same,_⟩ | ⟨_,_,_,same⟩ | ⟨_,_,_,_,same⟩ | ⟨_,_,_,same⟩
          · rw [show store = memory from same]
          · rw [show store = _ from same,transition_ids]
          · rw [show store = _ from same,transition_ids]
          · rw [show store = memory from same]
        dsimp only
        rcases create_cases store accepted with ⟨storable,after,made,claims⟩ | ⟨refused,refusal,made⟩
        · rw [made]
          dsimp only
          rw [inserted after claims storable.2]
          exact ⟨fun heeded _ => heeded,fun heeded => heeded ((storable_version version ids).mp storable)⟩
        · rw [made]
          dsimp only [turned]
          rw [List.append_nil]
          exact ⟨fun _ storable => absurd ((storable_version version ids).mpr storable) refused,fun _ => moved⟩

/- `correct` rejects one claim, and may make another active. -/

namespace Memory

def takes (memory : Memory) (event : MemoryEvent) : Bool :=
  !memory.duplicated event && !memory.events.any (fun row => row.eventId == event.eventId)

def noted (memory : Memory) (event : MemoryEvent) : Memory := ⟨memory.claims,memory.events ++ [event],memory.keyed⟩

theorem record_ok : memory.record event refusal = .ok after ↔ memory.takes event = true ∧ after = memory.noted event := by
  unfold record appendEvent takes noted
  cases memory.duplicated event with
  | true => simp
  | false =>
    cases memory.events.any (fun row => row.eventId == event.eventId) with
    | true => simp
    | false => simp [eq_comm]

theorem unresolved_mem {claim resolved : MemoryClaim} (waits : resolved ∈ memory.unresolved claim) :
    resolved ∈ memory.claims ∧ resolved.claimId ≠ claim.claimId ∧ sameKey resolved claim ∧ effective resolved = effective claim := by
  obtain ⟨listed,same⟩ := List.mem_filter.mp waits
  obtain ⟨present,entity,_⟩ := mem_entityClaims.mp (listed_entity listed)
  simp only [Bool.and_eq_true,bne_iff_ne,beq_iff_eq] at same
  obtain ⟨⟨⟨differs,claimType⟩,predicate⟩,dated⟩ := same
  exact ⟨present,differs,⟨entity,claimType,predicate⟩,effective_inj.mpr dated⟩

end Memory

-- Where the corrected claim leaves one conflicting claim, that claim has room.
def HeededCorrect [Digest] (history : History) (claimId reason : Text) (now : DateTime) : Prop :=
  ∀ claim resolved, history.memory.getClaim claimId = some claim → strip reason ≠ [] →
    history.memory.takes (Memory.correctionEvent claim reason now) = true →
    (history.memory.noted (Memory.correctionEvent claim reason now)).takes
      (Memory.resolutionEvent claim resolved reason now) = true →
    (history.memory.transition claim.claimId .rejected reason).unresolved claim = [resolved] →
    ∀ row ∈ history.memory.claims, row.claimId ≠ claim.claimId → row.claimId ≠ resolved.claimId → sameKey row claim →
      Room history.turnedAway resolved row

-- The reason given to a resolved claim is not blank.
theorem resolution_reason (rest : Text) : strip ("Conflict resolved after correction of ".toList ++ rest) ≠ [] := by
  have first : "Conflict resolved after correction of ".toList = 'C' :: "onflict resolved after correction of ".toList := by
    decide
  have visible : isSpace 'C' = false := by decide
  have head : stripLeft ("Conflict resolved after correction of ".toList ++ rest) =
      'C' :: ("onflict resolved after correction of ".toList ++ rest) := by
    rw [first]
    simp [stripLeft,visible]
  intro blank
  unfold strip at blank
  rw [List.reverse_eq_nil_iff,head] at blank
  have spaces := List.dropWhile_eq_nil_iff.mp blank
  have space := spaces 'C' (by simp)
  rw [visible] at space
  cases space

section correction
variable [Digest] {memory : Memory} {turnedAway : List Text} {claim : MemoryClaim} {reason : Text} {now : DateTime}

-- The claim rejected and the event noted.
def rejected (memory : Memory) (claim : MemoryClaim) (reason : Text) (now : DateTime) : Memory :=
  (memory.transition claim.claimId .rejected reason).noted (Memory.correctionEvent claim reason now)

theorem corrected_cases (memory : Memory) (claim : MemoryClaim) (reason : Text) (now : DateTime) :
    (strip reason ≠ [] ∧ memory.takes (Memory.correctionEvent claim reason now) = true ∧
        memory.corrected claim reason now = (rejected memory claim reason now).resolve claim reason now) ∨
      (¬ (strip reason ≠ [] ∧ memory.takes (Memory.correctionEvent claim reason now) = true) ∧
        ∃ refusal, memory.corrected claim reason now = .error refusal) := by
  unfold Memory.corrected Memory.transitionClaim
  by_cases blank : strip reason = []
  · rw [if_pos blank]
    exact .inr ⟨fun both => both.1 blank,_,rfl⟩
  · rw [if_neg blank]
    dsimp only [bind,Except.bind]
    cases noted : (memory.transition claim.claimId .rejected reason).record (Memory.correctionEvent claim reason now)
        "Memory correction audit event was not recorded.".toList with
    | error refusal =>
      refine .inr ⟨?_,refusal,rfl⟩
      intro ⟨_,taken⟩
      have free : (memory.transition claim.claimId .rejected reason).takes (Memory.correctionEvent claim reason now) = true := taken
      rw [Memory.record_ok.mpr ⟨free,rfl⟩] at noted
      cases noted
    | ok store =>
      obtain ⟨taken,shape⟩ := Memory.record_ok.mp noted
      refine .inl ⟨blank,taken,?_⟩
      rw [shape]
      rfl

variable {resolved : MemoryClaim}

-- One claim left in conflict becomes active, if its event is taken.
theorem resolve_one (waiting : memory.unresolved claim = [resolved]) (after : Memory) :
    memory.resolve claim reason now = .ok after ↔ memory.takes (Memory.resolutionEvent claim resolved reason now) = true ∧
        after = (memory.transition resolved.claimId .active
          ("Conflict resolved after correction of ".toList ++ claim.claimId ++ ".".toList)).noted
            (Memory.resolutionEvent claim resolved reason now) := by
  have visible := resolution_reason (claim.claimId ++ ".".toList)
  rw [←List.append_assoc] at visible
  unfold Memory.resolve Memory.transitionClaim
  rw [waiting]
  dsimp only
  rw [if_neg visible]
  exact Memory.record_ok

theorem resolve_other (several : ∀ resolved, memory.unresolved claim ≠ [resolved]) :
    memory.resolve claim reason now = .ok memory := by
  unfold Memory.resolve
  split
  · rename_i resolved waiting
    exact absurd waiting (several resolved)
  · rfl

omit [Digest] in
-- A claim made active again fits in exactly where there is room.
theorem raised_current (one : OneCurrent ⟨memory,turnedAway⟩) (present : resolved ∈ memory.claims) (cause : Text) :
    OneCurrent ⟨memory.transition resolved.claimId .active cause,turnedAway⟩ ↔
      ∀ row ∈ memory.claims, row.claimId ≠ resolved.claimId → sameKey row resolved → Room turnedAway resolved row := by
  rw [OneCurrent,transition_apart present]
  constructor
  · intro ⟨_,beside⟩ row inside differs same
    exact (beside row inside differs).1 (sameKey_symm same) rfl
  · intro room
    refine ⟨fun left insideLeft right insideRight _ _ differs => one left insideLeft right insideRight differs,?_⟩
    intro row inside differs
    exact ⟨fun same _ => room row inside differs (sameKey_symm same),
      fun same active => absurd active (room row inside differs same).1⟩

omit [Digest] in
-- Beside the resolved claim, the rejected one leaves room.
theorem rejected_room (present : claim ∈ memory.claims) (same : sameKey resolved claim)
    (dated : effective resolved = effective claim) :
    (∀ row ∈ (memory.transition claim.claimId .rejected reason).claims, row.claimId ≠ resolved.claimId → sameKey row resolved →
        Room turnedAway resolved row) ↔
      ∀ row ∈ memory.claims, row.claimId ≠ claim.claimId → row.claimId ≠ resolved.claimId → sameKey row claim →
        Room turnedAway resolved row := by
  constructor
  · intro room row inside other differs sameRow
    exact room row ((mem_transition present _ _).mpr (.inl ⟨inside,other⟩)) differs (sameKey_trans sameRow (sameKey_symm same))
  · intro room row inside differs sameRow
    rcases (mem_transition present _ _).mp inside with ⟨before,other⟩ | moved
    · exact room row before other differs (sameKey_trans sameRow same)
    · rw [moved]
      refine ⟨by simp [MemoryClaim.moved],by simp [MemoryClaim.moved],fun _ _ => ?_⟩
      rw [dated]
      exact lt_irrefl (effective claim)

theorem correct_current {history : History} (one : OneCurrent history) (claimId reason : Text) (now : DateTime) :
    OneCurrent (step history (.correct claimId reason now)) ↔ HeededCorrect history claimId reason now := by
  obtain ⟨memory,turnedAway⟩ := history
  dsimp only [step]
  unfold Memory.correct
  cases found : memory.getClaim claimId with
  | none =>
    refine ⟨fun _ claim resolved missing => ?_,fun _ => one⟩
    rw [found] at missing
    cases missing
  | some claim =>
    have present := (getClaim_some found).1
    have settled : OneCurrent ⟨memory.transition claim.claimId .rejected reason,turnedAway⟩ :=
      retired_current one present (by simp) (.inl ⟨by simp,by simp⟩) reason
    dsimp only
    rcases corrected_cases memory claim reason now with ⟨visible,taken,shape⟩ | ⟨refused,refusal,failed⟩
    · rw [shape]
      by_cases single : ∃ resolved, (rejected memory claim reason now).unresolved claim = [resolved]
      · obtain ⟨resolved,waiting⟩ := single
        obtain ⟨there,differs,same,dated⟩ := Memory.unresolved_mem (show resolved ∈
          (rejected memory claim reason now).unresolved claim by simp [waiting])
        have heeded : HeededCorrect ⟨memory,turnedAway⟩ claimId reason now ↔
            ((rejected memory claim reason now).takes (Memory.resolutionEvent claim resolved reason now) = true →
              OneCurrent ⟨(memory.transition claim.claimId .rejected reason).transition resolved.claimId .active
                ("Conflict resolved after correction of ".toList ++ claim.claimId ++ ".".toList),turnedAway⟩) := by
          rw [raised_current settled there,rejected_room present same dated]
          constructor
          · intro heeded taken'
            exact heeded claim resolved found visible taken taken' waiting
          · intro room claim' resolved' found' _ _ taken' waiting'
            cases found.symm.trans found'
            cases waiting.symm.trans waiting'
            exact room taken'
        rw [heeded]
        cases resolving : (rejected memory claim reason now).resolve claim reason now with
        | error refusal =>
          refine ⟨fun _ taken' => ?_,fun _ => one⟩
          rw [(resolve_one waiting _).mpr ⟨taken',rfl⟩] at resolving
          cases resolving
        | ok after =>
          obtain ⟨taken',shape⟩ := (resolve_one waiting after).mp resolving
          rw [shape]
          exact ⟨fun current _ => current,fun current => current taken'⟩
      · rw [resolve_other (fun resolved waiting => single ⟨resolved,waiting⟩)]
        refine ⟨fun _ claim' resolved found' _ _ _ waiting => ?_,fun _ => settled⟩
        cases found.symm.trans found'
        exact absurd ⟨resolved,waiting⟩ single
    · rw [failed]
      refine ⟨fun _ claim' resolved found' visible taken _ _ => ?_,fun _ => one⟩
      cases found.symm.trans found'
      exact absurd ⟨visible,taken⟩ refused

end correction

theorem expireEach_current {turnedAway expired : List Text}
    (one : OneCurrent ⟨memory,turnedAway⟩) (ids : ∀ claim ∈ listed, ∃ row ∈ memory.claims, row.claimId = claim.claimId) :
    OneCurrent ⟨(Memory.expireEach asOfDate listed memory expired).1,turnedAway⟩ := by
  induction listed generalizing memory expired with
  | nil => exact one
  | cons claim rest ih =>
    have later : ∀ claim ∈ rest, ∃ row ∈ memory.claims, row.claimId = claim.claimId :=
      fun claim inside => ids claim (List.mem_cons_of_mem _ inside)
    unfold Memory.expireEach
    split
    · exact one
    · exact ih one later
    · split
      · exact ih one later
      · obtain ⟨row,present,same⟩ := ids claim List.mem_cons_self
        rw [←same]
        apply ih (retired_current one present (by simp) (.inl ⟨by simp,by simp⟩) _)
        intro other inside
        obtain ⟨kept,there,sameOther⟩ := later other inside
        have among : other.claimId ∈ memory.claims.map MemoryClaim.claimId := List.mem_map.mpr ⟨kept,there,sameOther⟩
        rw [←transition_ids memory row.claimId .expired] at among
        exact List.mem_map.mp among

theorem expire_current [Digest] (one : OneCurrent history) (entity : MemoryEntity) (asOfDate : Date) :
    OneCurrent (step history (.expire entity asOfDate)) := by
  apply expireEach_current one
  intro claim listed
  exact ⟨claim,(mem_entityClaims.mp (listed_entity listed)).1,rfl⟩

/- Every run from the empty store. -/

theorem empty_current : OneCurrent .start := by
  intro left inside
  cases inside

section runs
variable [Digest]

def Heeded (history : History) : Call → Prop
  | .accept claim _ => Storable history.memory claim → HeededAccept history claim
  | .correct claimId reason now => HeededCorrect history claimId reason now
  | .expire _ _ => True

def run (history : History) (calls : List Call) : History := calls.foldl step history

theorem step_current {history : History} (one : OneCurrent history) (call : Call) :
    OneCurrent (step history call) ↔ Heeded history call := by
  cases call with
  | accept claim arriving => exact accept_current one arriving
  | correct claimId reason now => exact correct_current one claimId reason now
  | expire entity asOfDate => exact ⟨fun _ => trivial,fun _ => expire_current one entity asOfDate⟩

-- One current claim in every state of a run, exactly where every call is heeded.
theorem current_when (calls : List Call) : (∀ earlier, earlier <+: calls → OneCurrent (run .start earlier)) ↔
      ∀ earlier call, earlier ++ [call] <+: calls → Heeded (run .start earlier) call := by
  have later (earlier : List Call) (call : Call) : run .start (earlier ++ [call]) = step (run .start earlier) call := by
    simp [run]
  constructor
  · intro current earlier call within
    have before : earlier <+: calls := (List.prefix_append earlier [call]).trans within
    have after := current _ within
    rw [later] at after
    exact (step_current (current earlier before) call).mp after
  · intro heeded earlier
    induction earlier using List.reverseRecOn with
    | nil => exact fun _ => empty_current
    | append_singleton earlier call ih =>
      intro within
      rw [later]
      exact (step_current (ih ((List.prefix_append earlier [call]).trans within)) call).mpr (heeded earlier call within)

end runs

def laterThenEarlier : List Call :=
  [.accept (marchNote "later".toList 8 eighth 1) rfl,.accept (marchNote "earlier".toList 5 fifth 2) rfl]

-- A backfilled note of the same authority stays active beside the newer one.
theorem backfill_two_current : ¬ OneCurrent (@run ⟨id⟩ .start laterThenEarlier) := by
  have rows : (@run ⟨id⟩ .start laterThenEarlier).memory.claims =
      [marchNote "later".toList 8 (by decide) 1,marchNote "earlier".toList 5 (by decide) 2] := by decide
  intro one
  have beside := one (marchNote "later".toList 8 (by decide) 1) (by simp [rows])
    (marchNote "earlier".toList 5 (by decide) 2) (by simp [rows]) (by decide)
  exact (beside ⟨rfl,rfl,rfl⟩ rfl).1 rfl

end OpenStock.SymbolMemory
