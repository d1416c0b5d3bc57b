import Mathlib.Algebra.Order.Group.Unbundled.Basic
import Mathlib.Data.List.Range
import OpenStock.Foundations.Ranks
import OpenStock.Ranking.ScoringPolicy
import OpenStock.Warehouse.SymbolLifecycle

namespace OpenStock.Ranking
open Text Calendar Warehouse

/- `save_watchlist` over the rows of `get_candidate_scores`. -/

structure CandidateScoreRow where
  symbol : Text
  date : Date
  score : ℚ
  candidateClass : Text
  setupType : Option Text
  riskFlagsJson : Option Text
  lineageJson : Option Text
  scoringPolicyId : Option Text
  scoringPolicyVersion : Option Text
  scoringPolicyHash : Option Text
  scoringPolicyStatus : Option Text
deriving DecidableEq

def CandidateScoreRow.key (row : CandidateScoreRow) : Text × Date := (row.symbol,row.date)

-- The rows of the table in the order in which they are stored.
structure CandidateScores where
  rows : List CandidateScoreRow
  distinct : Rows.Distinct CandidateScoreRow.key rows

structure WatchlistRow where
  date : Date
  rank : Nat
  symbol : Text
  score : ℚ
  candidateClass : Text
  setupType : Option Text
  riskFlagsJson : Option Text
  lineageJson : Option Text
  scoringPolicyId : Option Text
  scoringPolicyVersion : Option Text
  scoringPolicyHash : Option Text
  scoringPolicyStatus : Option Text

def WatchlistRow.key (row : WatchlistRow) : Date × Nat := (row.date,row.rank)

structure DailyWatchlist where
  rows : List WatchlistRow
  distinct : Rows.Distinct WatchlistRow.key rows

structure WatchlistRequest where
  date : Text
  topN : Int
  minScore : ℚ
  scoringPolicyId : Text
  scoringPolicyVersion : Text
  allowPolicyRebuild : Bool
  scoringPolicyAuto : Bool

/- `get_candidate_scores`: rows of equal scores come in the order they are stored. -/

def higher (left right : CandidateScoreRow) : Prop := right.score ≤ left.score

instance : DecidableRel higher := fun left right => inferInstanceAs (Decidable (right.score ≤ left.score))

def getCandidateScores (rows : List CandidateScoreRow) (date : Date) (minScore : ℚ) : List CandidateScoreRow :=
  (rows.filter (fun row => row.date == date && decide (minScore ≤ row.score))).insertionSort higher

def watchlistClasses : List Text := ["STRONG_CANDIDATE".toList,"WATCH_CANDIDATE".toList,"WEAK_CANDIDATE".toList]

-- `values[:stop]`, where a negative stop counts from the end.
def sliceTo (values : List α) (stop : Int) : List α :=
  if 0 ≤ stop then values.take stop.toNat else values.take (values.length - stop.natAbs)

def shortlist (rows : List CandidateScoreRow) (date : Date) (request : WatchlistRequest) : List CandidateScoreRow :=
  sliceTo ((getCandidateScores rows date request.minScore).filter (fun row => watchlistClasses.contains row.candidateClass))
    request.topN

/- `save_watchlist`. -/

inductive WatchlistError where
  | unreadableDate
  | policy (refused : PolicyError)
  | candidateIdentity
  | watchlistIdentity

def CandidateScoreRow.identity (row : CandidateScoreRow) : Text × Text × Text × Text :=
  (row.scoringPolicyId.getD [],row.scoringPolicyVersion.getD [],row.scoringPolicyHash.getD [],row.scoringPolicyStatus.getD [])

def WatchlistRow.identity (row : WatchlistRow) : Option Text × Option Text × Option Text × Option Text :=
  (row.scoringPolicyId,row.scoringPolicyVersion,row.scoringPolicyHash,row.scoringPolicyStatus)

def DailyWatchlist.on (store : DailyWatchlist) (date : Date) : List WatchlistRow := store.rows.filter (fun row => row.date == date)

def ranked (date : Date) (candidate : CandidateScoreRow) (rank : Nat) : WatchlistRow :=
  {date := date,rank := rank,symbol := candidate.symbol,score := candidate.score,candidateClass := candidate.candidateClass,
   setupType := candidate.setupType,riskFlagsJson := candidate.riskFlagsJson,lineageJson := candidate.lineageJson,
   scoringPolicyId := candidate.scoringPolicyId,scoringPolicyVersion := candidate.scoringPolicyVersion,
   scoringPolicyHash := candidate.scoringPolicyHash,scoringPolicyStatus := candidate.scoringPolicyStatus}

-- `enumerate(candidates, start=1)`.
def entries (date : Date) (candidates : List CandidateScoreRow) : List WatchlistRow :=
  (candidates.zipIdx 1).map (fun entry => ranked date entry.1 entry.2)

theorem entries_ranks (date : Date) (candidates : List CandidateScoreRow) :
    (entries date candidates).map WatchlistRow.rank = List.range' 1 candidates.length := by
  rw [entries,List.map_map]
  exact List.zipIdx_map_snd 1 candidates

theorem entries_symbols (date : Date) (candidates : List CandidateScoreRow) :
    (entries date candidates).map WatchlistRow.symbol = candidates.map CandidateScoreRow.symbol := by
  rw [entries,List.map_map]
  have through : (WatchlistRow.symbol ∘ fun entry : CandidateScoreRow × Nat => ranked date entry.1 entry.2) =
      CandidateScoreRow.symbol ∘ Prod.fst := rfl
  rw [through,← List.map_map,List.zipIdx_map_fst]

theorem entries_scores (date : Date) (candidates : List CandidateScoreRow) :
    (entries date candidates).map WatchlistRow.score = candidates.map CandidateScoreRow.score := by
  rw [entries,List.map_map]
  have through : (WatchlistRow.score ∘ fun entry : CandidateScoreRow × Nat => ranked date entry.1 entry.2) =
      CandidateScoreRow.score ∘ Prod.fst := rfl
  rw [through,← List.map_map,List.zipIdx_map_fst]

theorem entries_dated (inside : row ∈ entries date candidates) : row.date = date := by
  obtain ⟨entry,_,rfl⟩ := List.mem_map.mp inside
  rfl

-- The day is deleted and written again.
def DailyWatchlist.rewrite (store : DailyWatchlist) (date : Date) (candidates : List CandidateScoreRow) : DailyWatchlist where
  rows := store.rows.filter (fun row => row.date != date) ++ entries date candidates
  distinct := by
    unfold Rows.Distinct
    rw [List.map_append]
    apply List.Nodup.append
    · exact store.distinct.sublist (List.filter_sublist.map _)
    · have keyed : (entries date candidates).map WatchlistRow.key =
          ((entries date candidates).map WatchlistRow.rank).map (fun rank => (date,rank)) := by
        rw [List.map_map]
        apply List.map_congr_left
        intro row inside
        exact congrArg (fun day => (day,row.rank)) (entries_dated inside)
      rw [keyed,entries_ranks]
      exact List.Nodup.map (fun one other same => (Prod.mk.inj same).2) (List.nodup_range' 1)
    · intro key kept written
      obtain ⟨old,inside,rfl⟩ := List.mem_map.mp kept
      obtain ⟨new,added,same⟩ := List.mem_map.mp written
      have apart := (List.mem_filter.mp inside).2
      have day : old.date = date := by
        rw [← entries_dated added]
        exact (Prod.mk.inj same).1.symm
      simp [day] at apart

theorem rewrite_on (store : DailyWatchlist) (date : Date) (candidates : List CandidateScoreRow) :
    (store.rewrite date candidates).on date = entries date candidates := by
  have gone : (store.rows.filter (fun row => row.date != date)).filter (fun row => row.date == date) = [] := by
    rw [List.filter_filter]
    apply List.filter_eq_nil_iff.mpr
    intro row _
    simp
  have kept : (entries date candidates).filter (fun row => row.date == date) = entries date candidates := by
    apply List.filter_eq_self.mpr
    intro row inside
    simp [entries_dated inside]
  unfold DailyWatchlist.on DailyWatchlist.rewrite
  rw [List.filter_append,gone,kept,List.nil_append]

section
variable [SqlCasts] [PolicyHash]

def saveCandidates (store : DailyWatchlist) (active : Option ScoringPolicyDecision) (request : WatchlistRequest) (date : Date)
    (candidates : List CandidateScoreRow) : Except WatchlistError (DailyWatchlist × Nat) :=
  match resolveScoringPolicy request.scoringPolicyId request.scoringPolicyVersion request.date active
      request.scoringPolicyAuto with
  | .error refused => .error (.policy refused)
  | .ok policy =>
    let status := policy.lifecycleStatus.value
    if candidates.any (fun row => row.identity != (policy.policyId,policy.version,policy.payloadHash,status)) then
      .error .candidateIdentity
    else if (store.on date).any (fun row =>
        row.identity != (some policy.policyId,some policy.version,some policy.payloadHash,some status)) &&
        !request.allowPolicyRebuild then
      .error .watchlistIdentity
    else .ok (store.rewrite date candidates,candidates.length)

def saveWatchlist (scores : CandidateScores) (store : DailyWatchlist) (active : Option ScoringPolicyDecision)
    (request : WatchlistRequest) : Except WatchlistError (DailyWatchlist × Nat) :=
  match SqlCasts.date request.date with
  | none => .error .unreadableDate
  | some date => saveCandidates store active request date (shortlist scores.rows date request)

omit [SqlCasts] in
theorem saveCandidates_ok {store : DailyWatchlist}
    (returned : saveCandidates store active request date candidates = .ok saved) :
    saved = (store.rewrite date candidates,candidates.length) := by
  unfold saveCandidates at returned
  split at returned
  · cases returned
  · dsimp only at returned
    split at returned
    · cases returned
    · split at returned
      · cases returned
      · cases returned
        rfl

end

/- What a watchlist says about the eligible rows. -/

def eligible (rows : List CandidateScoreRow) (date : Date) (request : WatchlistRequest) : List CandidateScoreRow :=
  rows.filter (fun row => watchlistClasses.contains row.candidateClass && (row.date == date && decide (request.minScore ≤ row.score)))

theorem mem_eligible : row ∈ eligible rows date request ↔
    row ∈ rows ∧ watchlistClasses.contains row.candidateClass = true ∧ row.date = date ∧ request.minScore ≤ row.score := by
  simp [eligible]

theorem eligible_perm (perm : left.Perm right) (date : Date) (request : WatchlistRequest) :
    (eligible left date request).Perm (eligible right date request) := perm.filter _

theorem higher_keys (left right : CandidateScoreRow) : higher left right ↔ -left.score ≤ -right.score := neg_le_neg_iff.symm

theorem shortlist_sorted (rows : List CandidateScoreRow) (date : Date) (request : WatchlistRequest) :
    shortlist rows date request = sliceTo ((eligible rows date request).insertionSort higher) request.topN := by
  unfold shortlist getCandidateScores eligible
  rw [Ranks.filter_sort higher_keys,List.filter_filter]

structure Ranked (candidates : List CandidateScoreRow) (topN : Int) (written : List WatchlistRow) : Prop where
  ranks : written.map WatchlistRow.rank = List.range' 1 written.length
  ordered : (written.map WatchlistRow.score).Pairwise (fun earlier later => later ≤ earlier)
  count : (written.length : Int) = min topN candidates.length
  best : ∃ listed left : List CandidateScoreRow, (listed ++ left).Perm candidates ∧
    written.map WatchlistRow.symbol = listed.map CandidateScoreRow.symbol ∧
    written.map WatchlistRow.score = listed.map CandidateScoreRow.score ∧
    ∀ row ∈ listed, ∀ other ∈ left, other.score ≤ row.score

theorem entries_length (date : Date) (candidates : List CandidateScoreRow) : (entries date candidates).length = candidates.length := by
  simp [entries]

theorem shortlist_ranked {rows : List CandidateScoreRow} (perm : rows.Perm candidates) (positive : 0 ≤ topN) (date : Date) :
    Ranked candidates topN (entries date (sliceTo (rows.insertionSort higher) topN)) := by
  have sorted := Ranks.sorted_weak higher_keys rows
  have apart := List.pairwise_append.mp ((List.take_append_drop topN.toNat (rows.insertionSort higher)).symm ▸ sorted)
  unfold sliceTo
  rw [if_pos positive]
  refine ⟨?_,?_,?_,(rows.insertionSort higher).take topN.toNat,(rows.insertionSort higher).drop topN.toNat,?_,?_,?_,?_⟩
  · rw [entries_ranks,entries_length]
  · rw [entries_scores,List.pairwise_map]
    apply apart.1.imp
    intro earlier later before
    exact neg_le_neg_iff.mp before
  · rw [entries_length,List.length_take,(List.perm_insertionSort higher rows).length_eq,perm.length_eq]
    omega
  · rw [List.take_append_drop]
    exact (List.perm_insertionSort higher rows).trans perm
  · exact entries_symbols _ _
  · exact entries_scores _ _
  · intro row listed other left
    exact neg_le_neg_iff.mp (apart.2.2 row listed other left)

/- One watchlist for every order of the stored rows. -/

section law
variable [SqlCasts] [PolicyHash] {scores : CandidateScores} {store : DailyWatchlist}
  {active : Option ScoringPolicyDecision} {request : WatchlistRequest} {date : Date}

def listing (store : DailyWatchlist) (date : Date) : List (Nat × Text) :=
  (store.on date).map (fun row => (row.rank,row.symbol))

def WatchlistLaw (scores : CandidateScores) (store : DailyWatchlist) (active : Option ScoringPolicyDecision)
    (request : WatchlistRequest) (date : Date) : Prop :=
  ∃ list, ∀ physical : CandidateScores, physical.rows.Perm scores.rows →
    ∃ saved, saveWatchlist physical store active request = .ok saved ∧
      Ranked (eligible scores.rows date request) request.topN (saved.1.on date) ∧ listing saved.1 date = list

-- No tie among the scores that fewer than `top_n` eligible rows exceed.
def Untied (scores : CandidateScores) (request : WatchlistRequest) (date : Date) : Prop :=
  ∀ one ∈ eligible scores.rows date request, ∀ other ∈ eligible scores.rows date request, one.score = other.score →
    ((eligible scores.rows date request).countP (fun row => decide (one.score < row.score)) : Int) < request.topN → one = other

omit [SqlCasts] [PolicyHash] in
theorem rank_scores (rows : List CandidateScoreRow) (one : CandidateScoreRow) :
    Ranks.rank (fun row => -row.score) rows one = rows.countP (fun row => decide (one.score < row.score)) := by
  unfold Ranks.rank
  simp only [neg_lt_neg_iff]

theorem saved_shortlist (read : SqlCasts.date request.date = some date)
    (returned : saveWatchlist scores store active request = .ok saved) :
    saved = (store.rewrite date (shortlist scores.rows date request),(shortlist scores.rows date request).length) := by
  unfold saveWatchlist at returned
  rw [read] at returned
  exact saveCandidates_ok returned

omit [SqlCasts] [PolicyHash] in
-- A row stored before all others is listed before its ties.
theorem front_listed (positive : 0 ≤ request.topN) (inside : row ∈ eligible (row :: rest) date request)
    (low : Ranks.rank (fun row => -row.score) (eligible (row :: rest) date request) row < request.topN.toNat) :
    (shortlist (row :: rest) date request)[Ranks.rank (fun row => -row.score) (eligible (row :: rest) date request) row]? = some row := by
  have shape : eligible (row :: rest) date request = row :: eligible rest date request := by
    unfold eligible at inside ⊢
    exact List.filter_cons_of_pos (List.mem_filter.mp inside).2
  rw [shortlist_sorted,sliceTo,if_pos positive,List.getElem?_take_of_lt low,shape]
  exact Ranks.first_at_rank higher_keys row _

theorem watchlist_function_exact (read : SqlCasts.date request.date = some date)
    (returned : saveWatchlist scores store active request = .ok result) :
    WatchlistLaw scores store active request date ↔ 0 ≤ request.topN ∧ Untied scores request date := by
  constructor
  · rintro ⟨list,every⟩
    have positive : 0 ≤ request.topN := by
      obtain ⟨saved,_,ranked,_⟩ := every scores (List.Perm.refl _)
      have count := ranked.count
      omega
    refine ⟨positive,?_⟩
    intro one inside other also tied low
    have placed : ∀ row ∈ eligible scores.rows date request, row.score = one.score →
        (list[Ranks.rank (fun row => -row.score) (eligible scores.rows date request) one]?).map Prod.snd = some row.symbol := by
      intro row present same
      have front : (row :: scores.rows.erase row).Perm scores.rows := (List.perm_cons_erase (mem_eligible.mp present).1).symm
      have ranks : Ranks.rank (fun row => -row.score) (eligible scores.rows date request) one =
          Ranks.rank (fun row => -row.score) (eligible (row :: scores.rows.erase row) date request) row := by
        rw [Ranks.rank_perm (eligible_perm front date request),rank_scores,rank_scores,same]
      obtain ⟨saved,stored,_,shown⟩ := every ⟨row :: scores.rows.erase row,(front.map _).nodup_iff.mpr scores.distinct⟩ front
      have written := saved_shortlist read stored
      have first := front_listed positive ((eligible_perm front date request).mem_iff.mpr present)
        (by rw [← ranks,rank_scores]; omega)
      rw [← shown,written,listing,rewrite_on,entries,List.map_map,List.getElem?_map,List.getElem?_zipIdx,ranks,first]
      rfl
    have symbols : one.symbol = other.symbol := Option.some.inj ((placed one inside rfl).symm.trans (placed other also tied.symm))
    obtain ⟨stored,_,dated,_⟩ := mem_eligible.mp inside
    obtain ⟨kept,_,again,_⟩ := mem_eligible.mp also
    apply Rows.same_row scores.distinct stored kept
    rw [CandidateScoreRow.key,CandidateScoreRow.key,symbols,dated,again]
  · rintro ⟨positive,untied⟩
    refine ⟨listing result.1 date,?_⟩
    intro physical perm
    have moved := eligible_perm perm date request
    have chosen : shortlist physical.rows date request = shortlist scores.rows date request := by
      rw [shortlist_sorted,shortlist_sorted,sliceTo,sliceTo,if_pos positive,if_pos positive]
      have sorts := List.perm_insertionSort higher (eligible physical.rows date request)
      have others := List.perm_insertionSort higher (eligible scores.rows date request)
      apply Ranks.take_unique (Ranks.sorted_weak higher_keys _) (Ranks.sorted_weak higher_keys _)
        (sorts.trans (moved.trans others.symm))
      intro one inside other also tied low
      have listed := (sorts.trans moved).mem_iff.mp inside
      have kept := (sorts.trans moved).mem_iff.mp also
      apply untied one listed other kept (neg_injective tied)
      rw [Ranks.rank_perm (sorts.trans moved),rank_scores] at low
      omega
    have same : saveWatchlist physical store active request = .ok result := by
      rw [← returned]
      unfold saveWatchlist
      rw [read]
      dsimp only
      rw [chosen]
    refine ⟨result,same,?_,rfl⟩
    rw [saved_shortlist read returned]
    dsimp only
    rw [rewrite_on,shortlist_sorted]
    exact shortlist_ranked (List.Perm.refl _) positive date

end law

/- Two rows of one day; the second order stores them the other way. -/

def scoredRow (symbol : Text) (score : ℚ) : CandidateScoreRow :=
  {symbol := symbol,date := sampleDay,score := score,candidateClass := "WATCH_CANDIDATE".toList,setupType := none,
   riskFlagsJson := none,lineageJson := none,scoringPolicyId := some baselineScoringPolicy.policyId,
   scoringPolicyVersion := some baselineScoringPolicy.version,scoringPolicyHash := some "h".toList,
   scoringPolicyStatus := some "EXPERIMENTAL".toList}

def pairOf (first second : ℚ) : CandidateScores :=
  ⟨[scoredRow "AAA".toList first,scoredRow "BBB".toList second],by unfold Rows.Distinct; simp [scoredRow,CandidateScoreRow.key]⟩

def swapped (first second : ℚ) : CandidateScores :=
  ⟨[scoredRow "BBB".toList second,scoredRow "AAA".toList first],by unfold Rows.Distinct; simp [scoredRow,CandidateScoreRow.key]⟩

def topOne : WatchlistRequest :=
  {date := sampleDay.isoformat,topN := 1,minScore := 40/100,scoringPolicyId := baselineScoringPolicy.policyId,
   scoringPolicyVersion := baselineScoringPolicy.version,allowPolicyRebuild := false,scoringPolicyAuto := false}

def noWatchlist : DailyWatchlist := ⟨[],List.nodup_nil⟩

theorem watchlist_function_sample :
    @WatchlistLaw sampleCasts samplePolicyHash (pairOf (6/10) (5/10)) noWatchlist none topOne sampleDay ↔
      0 ≤ topOne.topN ∧ Untied (pairOf (6/10) (5/10)) topOne sampleDay := by
  have present : (@saveWatchlist sampleCasts samplePolicyHash (pairOf (6/10) (5/10)) noWatchlist none topOne).isOk = true := by
    decide +kernel
  cases returned : @saveWatchlist sampleCasts samplePolicyHash (pairOf (6/10) (5/10)) noWatchlist none topOne with
  | error refused =>
    rw [returned] at present
    cases present
  | ok result =>
    exact @watchlist_function_exact sampleCasts samplePolicyHash _ _ _ _ _ result (fromIsoformat_isoformat sampleDay) returned

theorem tie_order_kept : ¬ ∀ (scores : CandidateScores) (store : DailyWatchlist) (active : Option ScoringPolicyDecision)
    (request : WatchlistRequest) (date : Date) (result : DailyWatchlist × Nat),
    @SqlCasts.date sampleCasts request.date = some date →
      @saveWatchlist sampleCasts samplePolicyHash scores store active request = .ok result →
        @WatchlistLaw sampleCasts samplePolicyHash scores store active request date := by
  intro claim
  have stored : (@saveWatchlist sampleCasts samplePolicyHash (pairOf (6/10) (6/10)) noWatchlist none topOne).toOption.map
      (fun saved => listing saved.1 sampleDay) = some [(1,"AAA".toList)] := by decide +kernel
  have moved : (@saveWatchlist sampleCasts samplePolicyHash (swapped (6/10) (6/10)) noWatchlist none topOne).toOption.map
      (fun saved => listing saved.1 sampleDay) = some [(1,"BBB".toList)] := by decide +kernel
  cases returned : @saveWatchlist sampleCasts samplePolicyHash (pairOf (6/10) (6/10)) noWatchlist none topOne with
  | error refused =>
    rw [returned] at stored
    cases stored
  | ok result =>
    obtain ⟨list,every⟩ := claim _ _ _ _ sampleDay _ (fromIsoformat_isoformat sampleDay) returned
    obtain ⟨first,kept,_,listed⟩ := every (pairOf (6/10) (6/10)) (List.Perm.refl _)
    obtain ⟨second,again,_,also⟩ := every (swapped (6/10) (6/10)) (List.Perm.swap _ _ _)
    rw [kept] at stored
    rw [again] at moved
    have one := (Option.some.inj stored).symm.trans listed
    have other := (Option.some.inj moved).symm.trans also
    cases one.trans other.symm

end OpenStock.Ranking
