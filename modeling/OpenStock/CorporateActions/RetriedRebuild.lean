import OpenStock.CorporateActions.Factors
import OpenStock.CorporateActions.RangedRebuild
import OpenStock.Foundations.Grouping

namespace OpenStock.CorporateActions
open Text Calendar Outcomes Queue

/- `rebuild_pending_adjusted_ranges`, called again after every return and raise. -/

-- What tells the rows of `adjustment_factor` apart.
structure FactorCore where
  factorId : Text
  revision : Text × Text
  contentHash : Text

def StoredFactor.core (row : StoredFactor) : FactorCore := ⟨row.factorId,row.revision,row.contentHash⟩

-- One revision with two contents, or one id for two revisions.
def Clash (stored new : FactorCore) : Prop :=
  (stored.revision = new.revision ∧ stored.contentHash ≠ new.contentHash) ∨
    (stored.factorId = new.factorId ∧ stored.revision ≠ new.revision)

-- The signals one call would take without a limit.
def AdjustedWarehouse.waiting (warehouse : AdjustedWarehouse) : List AffectedRange :=
  (warehouse.research.actions.affectedRanges.filter (fun range => range.resolvedAt.isNone)).insertionSort
    (fun left right => left.createdAt ≤ right.createdAt)

section
variable [Platform] [DecimalText]

def PersistCall.core (call : PersistCall) : FactorCore :=
  ⟨factorId call.factor,(call.actionRevisionId,call.factor.version),call.factor.contentHash⟩

theorem persist_exact (table : FactorTable factors) (call : PersistCall) :
    (∃ after reported, call.persist factors = .ok (after,reported)) ↔ ∀ row ∈ factors, ¬ Clash row.core call.core := by
  constructor
  · rintro ⟨after,reported,ran⟩ row inside clash
    cases stored : existingFactor factors call.actionRevisionId call.factor.version with
    | none =>
      rcases clash with ⟨same,_⟩ | ⟨same,_⟩
      · exact existing_none.mp stored row inside same
      · exact persist_free stored ran row inside same
    | some old =>
      obtain ⟨present,keyed⟩ := existing_some stored
      have hash := (repeated_same stored ran).2
      rcases clash with ⟨same,differs⟩ | ⟨same,differs⟩
      · obtain rfl := Rows.same_row table.revisions present inside (keyed.trans same.symm)
        exact differs hash
      · have named : old.factorId = factorId call.factor := by rw [table.named old present,hash,factorId]
        obtain rfl := Rows.same_row table.ids present inside (named.trans same.symm)
        exact differs keyed
  · intro apart
    apply persist_ok
    · intro row stored
      obtain ⟨present,keyed⟩ := existing_some stored
      by_contra differs
      exact apart row present (.inl ⟨keyed,differs⟩)
    · intro new row inside same
      exact apart row inside (.inr ⟨same,existing_none.mp new row inside⟩)

-- The call adds its own row, up to what is told apart.
theorem persisted_cores (table : FactorTable factors) (wrote : Persisted call factors after)
    (core : FactorCore) : core ∈ after.map StoredFactor.core ↔ core ∈ factors.map StoredFactor.core ∨ core = call.core := by
  cases wrote with
  | repeated row present same hash =>
    have stored : row.core = call.core := by
      simp [StoredFactor.core,PersistCall.core,same,hash,table.named row present,factorId]
    rw [← stored]
    constructor
    · exact .inl
    · rintro (inside | rfl)
      · exact inside
      · exact List.mem_map_of_mem present
  | first =>
    rw [List.map_append,List.mem_append]
    exact or_congr_right List.mem_singleton
  | replaced new free prior found =>
    have members := fun row : StoredFactor => (mem_replaced table new free found : row ∈ _ ↔ _)
    have present := (priorFactor_current found).1
    constructor
    · intro inside
      obtain ⟨row,written,rfl⟩ := List.mem_map.mp inside
      rcases (members row).mp written with rfl | rfl | ⟨stored,_⟩
      · exact .inl (List.mem_map.mpr ⟨prior,present,rfl⟩)
      · exact .inr rfl
      · exact .inl (List.mem_map_of_mem stored)
    · rintro (inside | rfl)
      · obtain ⟨row,stored,rfl⟩ := List.mem_map.mp inside
        by_cases same : row = prior
        · exact List.mem_map.mpr ⟨_,(members _).mpr (.inl rfl),by rw [same]; rfl⟩
        · exact List.mem_map_of_mem ((members row).mpr (.inr (.inr ⟨stored,same⟩)))
      · exact List.mem_map.mpr ⟨_,(members _).mpr (.inr (.inl rfl)),rfl⟩

/- One signal. -/

def derivedCore (rows : List CorporateAction) (signal : AffectedRange) : Option FactorCore :=
  (deriveFactorForRevision rows signal.revisionId).toOption.map
    (fun factor => ⟨factorId factor,(signal.revisionId,factor.version),factor.contentHash⟩)

-- A factor can be derived for the signal's revision.
def Derivable (warehouse : AdjustedWarehouse) (signal : AffectedRange) : Prop :=
  ∃ factor, deriveFactorForRevision warehouse.research.actions.corporateActions signal.revisionId = .ok factor

-- A factor can be derived, and neither a stored row nor the row of a signal before clashes with it.
def Ready (warehouse : AdjustedWarehouse) (earlier : List AffectedRange) (signal : AffectedRange) : Prop :=
  ∃ core, derivedCore warehouse.research.actions.corporateActions signal = some core ∧
    (∀ row ∈ warehouse.factors, ¬ Clash row.core core) ∧
    ∀ other ∈ earlier, ∀ written, derivedCore warehouse.research.actions.corporateActions other = some written →
      ¬ Clash written core

variable {rows : List CorporateAction}

omit [Platform] [DecimalText] in
theorem derived_identity (derived : deriveFactorForRevision rows revisionId = .ok factor) :
    ∃ identity, rows.find? (fun row => row.revisionId = revisionId) = some identity := by
  unfold deriveFactorForRevision at derived
  split at derived
  · cases derived
  · rename_i row found
    have keyed := List.find?_some found
    simp only [Bool.and_eq_true,decide_eq_true_eq] at keyed
    cases identity : rows.find? (fun row => row.revisionId = revisionId) with
    | none => exact absurd (decide_eq_true keyed.1) (List.find?_eq_none.mp identity row (List.mem_of_find?_eq_some found))
    | some row => exact ⟨row,rfl⟩

omit [Platform] [DecimalText] in
theorem resolved_waiting (ranges : List AffectedRange) :
    (resolveRange signalId reference now ranges).filter (fun range => range.resolvedAt.isNone) =
      (ranges.filter (fun range => range.resolvedAt.isNone)).filter (fun range => range.signalId ≠ signalId) := by
  induction ranges with
  | nil => rfl
  | cons range ranges ih =>
    have shape : resolveRange signalId reference now (range :: ranges) =
        (if range.signalId = signalId then {range with resolvedAt:=some now,resolutionRef:=some reference} else range) ::
          resolveRange signalId reference now ranges := by
      simp [resolveRange,Rows.updateWhere]
    rw [shape,List.filter_cons,List.filter_cons,ih]
    by_cases chosen : range.signalId = signalId
    · cases range.resolvedAt <;> simp [chosen]
    · cases open_ : range.resolvedAt <;> simp [chosen,open_]

-- What a rebuilt signal leaves in the tables.
structure RebuiltOnce (signal : AffectedRange) (core : FactorCore) (before after : AdjustedWarehouse) : Prop where
  rows : after.research.actions.corporateActions = before.research.actions.corporateActions
  table : FactorTable after.factors
  cores : ∀ other, other ∈ after.factors.map StoredFactor.core ↔ other ∈ before.factors.map StoredFactor.core ∨ other = core
  ranges : ∃ reference now, after.research.actions.affectedRanges =
    resolveRange signal.signalId reference now before.research.actions.affectedRanges

def signalCall (now : Int) (identity : CorporateAction) (signal : AffectedRange) (factor : AdjustmentFactor) : PersistCall :=
  ⟨now,identity.actionId,signal.revisionId,factor⟩

theorem derived_core (read : derivedCore rows signal = some core) :
    ∃ factor identity, deriveFactorForRevision rows signal.revisionId = .ok factor ∧
      rows.find? (fun row => row.revisionId = signal.revisionId) = some identity ∧
      ∀ now, (signalCall now identity signal factor).core = core := by
  unfold derivedCore at read
  cases derived : deriveFactorForRevision rows signal.revisionId with
  | error refused =>
    rw [derived] at read
    cases read
  | ok factor =>
    obtain ⟨identity,found⟩ := derived_identity derived
    rw [derived] at read
    cases read
    exact ⟨factor,identity,rfl,found,fun _ => rfl⟩

variable {warehouse : AdjustedWarehouse}

theorem rebuildSignal_free (table : FactorTable warehouse.factors)
    (read : derivedCore warehouse.research.actions.corporateActions signal = some core)
    (apart : ∀ row ∈ warehouse.factors, ¬ Clash row.core core) (now : Int) :
    ∃ after result, rebuildSignal now signal warehouse = .ok (after,result) ∧ RebuiltOnce signal core warehouse after := by
  obtain ⟨factor,identity,derived,found,same⟩ := derived_core read
  obtain ⟨factors,reported,ran⟩ := (persist_exact table (signalCall now identity signal factor)).mpr (same now ▸ apart)
  have persisted : persistAdjustmentFactor now identity.actionId signal.revisionId factor warehouse.factors =
      .ok (factors,reported) := ran
  have wrote := persist_wrote ran
  have cores := persisted_cores table wrote
  rw [same now] at cores
  unfold rebuildSignal deriveAndPersistFactor
  simp only [found,derived,persisted,bind,Except.bind,pure,Except.pure]
  exact ⟨_,_,rfl,rfl,persisted_table table wrote,cores,_,_,rfl⟩

theorem rebuildSignal_blocked (table : FactorTable warehouse.factors)
    (blocked : ∀ core, derivedCore warehouse.research.actions.corporateActions signal = some core →
      ∃ row ∈ warehouse.factors, Clash row.core core) (now : Int) :
    ∃ refused, rebuildSignal now signal warehouse = .error refused := by
  unfold rebuildSignal deriveAndPersistFactor
  cases found : warehouse.research.actions.corporateActions.find? (fun row => row.revisionId = signal.revisionId) with
  | none => exact ⟨_,rfl⟩
  | some identity =>
    cases derived : deriveFactorForRevision warehouse.research.actions.corporateActions signal.revisionId with
    | error refused => exact ⟨refused,by simp [bind,Except.bind]⟩
    | ok factor =>
      obtain ⟨row,inside,clash⟩ := blocked (signalCall now identity signal factor).core (by rw [derivedCore,derived]; rfl)
      cases ran : persistAdjustmentFactor now identity.actionId signal.revisionId factor warehouse.factors with
      | error refused => exact ⟨refused,by simp [ran,bind,Except.bind]⟩
      | ok result =>
        exact absurd clash ((persist_exact table (signalCall now identity signal factor)).mp ⟨_,_,ran⟩ row inside)

/- A call, and calls again. What has been resolved is the front of the first queue. -/

structure Progress (start warehouse : AdjustedWarehouse) (resolved waiting : List AffectedRange) : Prop where
  rows : warehouse.research.actions.corporateActions = start.research.actions.corporateActions
  table : FactorTable warehouse.factors
  cores : ∀ core, core ∈ warehouse.factors.map StoredFactor.core ↔ core ∈ start.factors.map StoredFactor.core ∨
    ∃ signal ∈ resolved, derivedCore start.research.actions.corporateActions signal = some core
  queue : warehouse.waiting = waiting
  signals : warehouse.research.actions.affectedRanges.map AffectedRange.signalId =
    start.research.actions.affectedRanges.map AffectedRange.signalId
  whole : start.waiting = resolved ++ waiting
  ready : ∀ earlier signal later, resolved = earlier ++ signal :: later → Ready start earlier signal

variable {start warehouse : AdjustedWarehouse}

theorem progress_ready (progress : Progress start warehouse resolved waiting)
    (signal : AffectedRange) : Ready start resolved signal ↔
      ∃ core, derivedCore warehouse.research.actions.corporateActions signal = some core ∧
        ∀ row ∈ warehouse.factors, ¬ Clash row.core core := by
  unfold Ready
  rw [progress.rows]
  refine exists_congr (fun core => and_congr_right (fun _ => ?_))
  constructor
  · rintro ⟨stored,written⟩ row inside
    rcases (progress.cores row.core).mp (List.mem_map_of_mem inside) with earlier | ⟨other,done,derived⟩
    · obtain ⟨source,present,same⟩ := List.mem_map.mp earlier
      exact same ▸ stored source present
    · exact written other done _ derived
  · intro apart
    have all : ∀ other ∈ warehouse.factors.map StoredFactor.core, ¬ Clash other core := by simpa using apart
    constructor
    · intro row inside
      exact all _ ((progress.cores row.core).mpr (.inl (List.mem_map_of_mem inside)))
    · intro other done written derived
      exact all _ ((progress.cores written).mpr (.inr ⟨other,done,derived⟩))

omit [Platform] [DecimalText] in
theorem waiting_distinct (distinct : Rows.Distinct AffectedRange.signalId warehouse.research.actions.affectedRanges) :
    Rows.Distinct AffectedRange.signalId warehouse.waiting :=
  ((List.perm_insertionSort _ _).map _).nodup_iff.mpr (distinct.sublist (List.filter_sublist.map _))

theorem progress_step (distinct : Rows.Distinct AffectedRange.signalId start.research.actions.affectedRanges)
    (progress : Progress start warehouse resolved (signal :: waiting)) (ready : Ready start resolved signal) (now : Int) :
    ∃ after result, rebuildSignal now signal warehouse = .ok (after,result) ∧
      Progress start after (resolved ++ [signal]) waiting := by
  obtain ⟨core,derived,apart⟩ := (progress_ready progress signal).mp ready
  obtain ⟨after,result,ran,rebuilt⟩ := rebuildSignal_free progress.table derived apart now
  obtain ⟨reference,time,ranges⟩ := rebuilt.ranges
  have keyed : Rows.Distinct AffectedRange.signalId (signal :: waiting) := by
    rw [← progress.queue]
    apply waiting_distinct
    rw [Rows.Distinct,progress.signals]
    exact distinct
  refine ⟨after,result,ran,rebuilt.rows.trans progress.rows,rebuilt.table,?_,?_,?_,?_,?_⟩
  · intro other
    rw [rebuilt.cores,progress.cores,or_assoc]
    apply or_congr_right
    rw [progress.rows] at derived
    constructor
    · rintro (⟨earlier,done,written⟩ | rfl)
      · exact ⟨earlier,List.mem_append_left _ done,written⟩
      · exact ⟨signal,by simp,derived⟩
    · rintro ⟨earlier,done,written⟩
      rcases List.mem_append.mp done with before | latest
      · exact .inl ⟨earlier,before,written⟩
      · rw [List.mem_singleton.mp latest,derived] at written
        exact .inr (Option.some.inj written).symm
  · have rest : (signal :: waiting).filter (fun range => range.signalId ≠ signal.signalId) = waiting := by
      obtain ⟨fresh,_⟩ := List.nodup_cons.mp keyed
      rw [List.filter_cons_of_neg (by simp),List.filter_eq_self]
      intro range inside
      simpa using fun same : range.signalId = signal.signalId => fresh (same ▸ List.mem_map_of_mem inside)
    rw [AdjustedWarehouse.waiting,ranges,resolved_waiting,← Grouping.filter_insertionSort]
    exact (congrArg _ progress.queue).trans rest
  · rw [ranges,← progress.signals,resolveRange,Rows.updateWhere,List.map_map]
    apply List.map_congr_left
    intro range _
    by_cases chosen : range.signalId = signal.signalId <;> simp [chosen]
  · rw [progress.whole]
    simp
  · intro earlier other later split_
    rcases List.eq_nil_or_concat later with rfl | ⟨front,last,rfl⟩
    · obtain ⟨rfl,same⟩ := List.append_inj' split_ rfl
      cases same
      exact ready
    · have front' : resolved ++ [signal] = (earlier ++ other :: front) ++ [last] := by simpa using split_
      obtain ⟨same,_⟩ := List.append_inj' front' rfl
      exact progress.ready earlier other front same

-- A call moves a front of its window, and stops before a signal that is not ready.
theorem progress_signals (distinct : Rows.Distinct AffectedRange.signalId start.research.actions.affectedRanges)
    (progress : Progress start warehouse resolved (window ++ rest)) (now : Int) : ∃ moved kept, window = moved ++ kept ∧
      Progress start (rebuildSignals now warehouse window).1 (resolved ++ moved) (kept ++ rest) ∧
      ∀ signal later, kept = signal :: later → ¬ Ready start (resolved ++ moved) signal := by
  induction window generalizing warehouse resolved with
  | nil => exact ⟨[],[],rfl,by simpa [rebuildSignals] using progress,by simp⟩
  | cons signal window ih =>
    by_cases ready : Ready start resolved signal
    · obtain ⟨after,result,ran,moved⟩ := progress_step distinct progress ready now
      obtain ⟨more,kept,rfl,later,stuck⟩ := ih moved
      refine ⟨signal :: more,kept,rfl,?_,?_⟩
      · simpa [rebuildSignals,ran] using later
      · simpa using stuck
    · have blocked : ∀ core, derivedCore warehouse.research.actions.corporateActions signal = some core →
          ∃ row ∈ warehouse.factors, Clash row.core core := by
        intro core derived
        by_contra none_
        refine ready ((progress_ready progress signal).mpr ⟨core,derived,?_⟩)
        intro row inside clash
        exact none_ ⟨row,inside,clash⟩
      obtain ⟨refused,failed⟩ := rebuildSignal_blocked progress.table blocked now
      refine ⟨[],signal :: window,rfl,?_,?_⟩
      · simpa [rebuildSignals,failed] using progress
      · intro other later same
        cases same
        simpa using ready

-- The state after the first `calls` calls.
def rebuiltTimes (now : Nat → Int) (limit : Nat) (warehouse : AdjustedWarehouse) : Nat → AdjustedWarehouse
  | 0 => warehouse
  | calls + 1 => (rebuildPendingAdjustedRanges (now calls) limit (rebuiltTimes now limit warehouse calls)).1

theorem progress_call (distinct : Rows.Distinct AffectedRange.signalId start.research.actions.affectedRanges)
    (progress : Progress start warehouse resolved waiting) (now : Int) (positive : 1 ≤ limit) :
    ∃ moved kept, waiting = moved ++ kept ∧
      Progress start (rebuildPendingAdjustedRanges now limit warehouse).1 (resolved ++ moved) kept ∧
      ∀ signal later, waiting = signal :: later → Ready start resolved signal → moved ≠ [] := by
  have parts : waiting = waiting.take limit ++ waiting.drop limit := (List.take_append_drop limit waiting).symm
  have pending : warehouse.pending limit = waiting.take limit := congrArg (List.take limit) progress.queue
  rw [parts] at progress
  obtain ⟨moved,kept,window,after,stuck⟩ := progress_signals distinct progress now
  refine ⟨moved,kept ++ waiting.drop limit,?_,?_,?_⟩
  · rw [← List.append_assoc,← window]
    exact parts
  · rw [rebuildPendingAdjustedRanges,pending]
    exact after
  · rintro signal later rfl ready rfl
    rw [List.nil_append] at window
    cases limit with
    | zero => omega
    | succ limit => exact stuck signal _ window.symm (by simpa using ready)

theorem progress_times (distinct : Rows.Distinct AffectedRange.signalId warehouse.research.actions.affectedRanges)
    (table : FactorTable warehouse.factors) (now : Nat → Int) (positive : 1 ≤ limit) (calls : Nat) :
    ∃ resolved waiting, Progress warehouse (rebuiltTimes now limit warehouse calls) resolved waiting ∧
      (calls ≤ resolved.length ∨ ∀ signal later, waiting = signal :: later → ¬ Ready warehouse resolved signal) := by
  induction calls with
  | zero => exact ⟨[],warehouse.waiting,⟨rfl,table,by simp [rebuiltTimes],rfl,rfl,rfl,by simp⟩,.inl (Nat.zero_le _)⟩
  | succ calls ih =>
    obtain ⟨resolved,waiting,progress,far⟩ := ih
    obtain ⟨moved,kept,parts,after,moves⟩ := progress_call distinct progress (now calls) positive
    refine ⟨resolved ++ moved,kept,after,?_⟩
    by_cases still : moved = []
    · right
      rintro signal later rfl ready
      rw [still,List.append_nil] at ready
      exact moves signal later (by rw [parts,still]; rfl) ready still
    · rcases far with far | stuck
      · left
        have grown := List.length_pos_of_ne_nil still
        rw [List.length_append]
        omega
      · obtain ⟨signal,front,rfl⟩ := List.exists_cons_of_ne_nil still
        exact absurd (after.ready resolved signal front (by simp)) (stuck signal (front ++ kept) parts)

/- A signal is resolved in the end exactly when it and all before it are ready. -/

def Resolved (warehouse : AdjustedWarehouse) (signal : AffectedRange) : Prop :=
  ∃ range ∈ warehouse.research.actions.affectedRanges, range.signalId = signal.signalId ∧ range.resolvedAt.isSome = true

omit [Platform] [DecimalText] in
theorem mem_waiting : range ∈ warehouse.waiting ↔
    range ∈ warehouse.research.actions.affectedRanges ∧ range.resolvedAt.isNone = true := by
  simp [AdjustedWarehouse.waiting]

theorem resolved_exact (distinct : Rows.Distinct AffectedRange.signalId start.research.actions.affectedRanges)
    (progress : Progress start warehouse resolved waiting) (queued : signal ∈ start.waiting) :
    Resolved warehouse signal ↔ signal ∈ resolved := by
  have apart := waiting_distinct distinct
  have keyed : Rows.Distinct AffectedRange.signalId warehouse.research.actions.affectedRanges := by
    rw [Rows.Distinct,progress.signals]
    exact distinct
  constructor
  · rintro ⟨range,inside,same,closed⟩
    by_contra unresolved
    have still : signal ∈ warehouse.waiting := by
      rw [progress.queue]
      rw [progress.whole] at queued
      exact (List.mem_append.mp queued).resolve_left unresolved
    obtain ⟨present,open_⟩ := mem_waiting.mp still
    rw [Rows.same_row keyed inside present same,Option.isSome_iff_ne_none] at closed
    exact closed (Option.isNone_iff_eq_none.mp open_)
  · intro done
    have listed : signal.signalId ∈ warehouse.research.actions.affectedRanges.map AffectedRange.signalId := by
      rw [progress.signals]
      exact List.mem_map_of_mem (mem_waiting.mp queued).1
    obtain ⟨range,inside,same⟩ := List.mem_map.mp listed
    refine ⟨range,inside,same,?_⟩
    cases closed : range.resolvedAt with
    | some now => rfl
    | none =>
      have again : range ∈ waiting := by
        rw [← progress.queue]
        exact mem_waiting.mpr ⟨inside,by rw [closed]; rfl⟩
      rw [Rows.Distinct,progress.whole,List.map_append,List.nodup_append] at apart
      exact absurd same.symm (apart.2.2 _ (List.mem_map_of_mem done) _ (List.mem_map_of_mem again))

def AllReady (warehouse : AdjustedWarehouse) (signals : List AffectedRange) : Prop :=
  ∀ earlier signal later, signals = earlier ++ signal :: later → Ready warehouse earlier signal

theorem eventually_resolved (distinct : Rows.Distinct AffectedRange.signalId warehouse.research.actions.affectedRanges)
    (table : FactorTable warehouse.factors) (now : Nat → Int) (positive : 1 ≤ limit)
    (queued : warehouse.waiting = earlier ++ signal :: later) :
    (∃ calls, Resolved (rebuiltTimes now limit warehouse calls) signal) ↔ AllReady warehouse (earlier ++ [signal]) := by
  have member : signal ∈ warehouse.waiting := queued ▸ List.mem_append_right _ List.mem_cons_self
  have apart := waiting_distinct distinct
  constructor
  · rintro ⟨calls,done⟩
    obtain ⟨resolved,waiting,progress,_⟩ := progress_times distinct table now positive calls
    obtain ⟨front,back,rfl⟩ := List.append_of_mem ((resolved_exact distinct progress member).mp done)
    have whole : earlier ++ signal :: later = front ++ signal :: (back ++ waiting) := by
      rw [← queued,progress.whole]
      simp
    have unique := List.Nodup.of_map _ apart
    rw [queued] at unique
    obtain ⟨_,rest,separate⟩ := List.nodup_append.mp unique
    have before : signal ∉ earlier := fun inside => separate _ inside _ List.mem_cons_self rfl
    obtain ⟨rfl,_,_⟩ := (List.append_cons_inj_of_notMem before (List.nodup_cons.mp rest).1).mp whole
    intro before other after same
    apply progress.ready before other (after ++ back)
    rw [← List.cons_append,← List.append_assoc,← same]
    simp
  · intro ready
    obtain ⟨resolved,waiting,progress,far⟩ := progress_times distinct table now positive (earlier.length + 1)
    refine ⟨earlier.length + 1,(resolved_exact distinct progress member).mpr ?_⟩
    have whole : resolved ++ waiting = earlier ++ signal :: later := by rw [← queued,progress.whole]
    rcases List.append_eq_append_iff.mp whole with ⟨more,same,rest⟩ | ⟨more,same,rest⟩
    · -- The calls stopped within the signals before, or right at this one.
      have short : resolved.length ≤ earlier.length := by simp [same]
      have stuck := far.resolve_left (by omega)
      cases more with
      | nil =>
        rw [List.append_nil] at same
        exact absurd (ready earlier signal [] rfl) (same ▸ stuck signal later rest)
      | cons other more =>
        exact absurd (ready resolved other (more ++ [signal]) (by simp [same])) (stuck other (more ++ signal :: later) rest)
    · cases more with
      | nil =>
        rw [List.append_nil] at same
        have stuck := far.resolve_left (by simp [same])
        exact absurd (ready earlier signal [] rfl) (same ▸ stuck signal later rest.symm)
      | cons other more =>
        cases rest
        rw [same]
        simp

-- Every waiting signal whose revision has a factor is resolved after some call.
def EventuallyRebuilt (now : Nat → Int) (limit : Nat) (warehouse : AdjustedWarehouse) : Prop :=
  ∀ signal ∈ warehouse.waiting, Derivable warehouse signal → ∃ calls, Resolved (rebuiltTimes now limit warehouse calls) signal

theorem eventually_rebuilt_exact {warehouse : AdjustedWarehouse}
    (persists : Runs (fun _ => PersistStep) [] calls warehouse.factors)
    (distinct : Rows.Distinct AffectedRange.signalId warehouse.research.actions.affectedRanges)
    (now : Nat → Int) (positive : 1 ≤ limit) :
    EventuallyRebuilt now limit warehouse ↔ ∀ earlier signal later, warehouse.waiting = earlier ++ signal :: later →
      Derivable warehouse signal → AllReady warehouse (earlier ++ [signal]) := by
  have table := runs_table persists
  constructor
  · intro rebuilt earlier signal later queued derivable
    exact (eventually_resolved distinct table now positive queued).mp
      (rebuilt signal (queued ▸ List.mem_append_right _ List.mem_cons_self) derivable)
  · intro ready signal inside derivable
    obtain ⟨earlier,later,queued⟩ := List.append_of_mem inside
    exact (eventually_resolved distinct table now positive queued).mpr (ready earlier signal later queued derivable)

end

/- VIC spins off a part, which has no adjustment method, and then splits. -/

def spinOff : CorporateAction := {earlySplit with actionType:="SPIN_OFF".toList}

def spinOffFirst : AdjustedWarehouse := (splitStart.revised [spinOff] earlySignal).revised [spinOff,lateSplit] lateSignal

section
attribute [local instance] samplePlatform sampleDecimals

theorem derivable_behind_spin_off : ¬ ∀ [Platform] [DecimalText] (calls : List PersistCall) (warehouse : AdjustedWarehouse)
    (now : Nat → Int) (limit : Nat), Runs (fun _ => PersistStep) [] calls warehouse.factors →
    Rows.Distinct AffectedRange.signalId warehouse.research.actions.affectedRanges → 1 ≤ limit →
    EventuallyRebuilt now limit warehouse := by
  intro rebuilds
  have distinct : Rows.Distinct AffectedRange.signalId spinOffFirst.research.actions.affectedRanges := by
    unfold Rows.Distinct
    decide
  have path : Runs (fun _ => PersistStep) [] [] spinOffFirst.factors := .nil
  have queued : spinOffFirst.waiting = [earlySignal] ++ lateSignal :: [] := by decide
  have derived : (deriveFactorForRevision spinOffFirst.research.actions.corporateActions lateSignal.revisionId).toOption.isSome =
      true := by decide
  have derivable : Derivable spinOffFirst lateSignal := by
    unfold Derivable
    cases made : deriveFactorForRevision spinOffFirst.research.actions.corporateActions lateSignal.revisionId with
    | error refused =>
      rw [made] at derived
      cases derived
    | ok factor => exact ⟨factor,rfl⟩
  have resolved := rebuilds [] spinOffFirst (fun _ => 3) 100 path distinct (by decide) lateSignal
    (queued ▸ List.mem_append_right _ List.mem_cons_self) derivable
  obtain ⟨core,read,_⟩ := (eventually_resolved distinct (runs_table path) (fun _ => 3) (by decide) queued).mp resolved
    [] earlySignal [lateSignal] rfl
  have underivable : derivedCore spinOffFirst.research.actions.corporateActions earlySignal = none := by decide
  rw [underivable] at read
  cases read

theorem eventually_rebuilt_exact_sample : EventuallyRebuilt (fun _ => 3) 1 earlyRevised := by
  have distinct : Rows.Distinct AffectedRange.signalId earlyRevised.research.actions.affectedRanges := by
    unfold Rows.Distinct
    decide
  have path : Runs (fun _ => PersistStep) [] [] earlyRevised.factors := .nil
  refine (eventually_rebuilt_exact path distinct (fun _ => 3) (by decide)).mpr ?_
  have queued : earlyRevised.waiting = [earlySignal] := by decide
  have derived : (derivedCore earlyRevised.research.actions.corporateActions earlySignal).isSome = true := by decide
  obtain ⟨core,read⟩ := Option.isSome_iff_exists.mp derived
  have ready : Ready earlyRevised [] earlySignal := ⟨core,read,by simp [show earlyRevised.factors = [] from rfl],by simp⟩
  intro earlier signal later same _ before other after parts
  rw [queued] at same
  obtain ⟨rfl,rfl,rfl⟩ : earlier = [] ∧ signal = earlySignal ∧ later = [] := by
    cases earlier with
    | nil => simpa [eq_comm] using same
    | cons head earlier => simp at same
  obtain ⟨rfl,rfl⟩ : before = [] ∧ other = earlySignal := by
    cases before with
    | nil =>
      cases parts
      exact ⟨rfl,rfl⟩
    | cons head before => simp at parts
  exact ready

end
end OpenStock.CorporateActions
