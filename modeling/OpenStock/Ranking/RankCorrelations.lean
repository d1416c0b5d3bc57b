import OpenStock.Foundations.RankCorrelation
import OpenStock.Foundations.Ranks
import OpenStock.Ranking.Metrics

namespace OpenStock.Ranking
open RankCorrelation

/- What `spearman_rank_correlation` computes, against the Pearson correlation of
average ranks. -/

-- Equal values share the mean of their positions.
def averageRanks (values : List ℚ) : List ℚ :=
  values.map (fun value => (values.countP (fun other => other < value) : ℚ) +
    (values.countP (fun other => other = value) + 1) / 2)

def covarianceOf (us vs : List ℚ) : ℚ :=
  ((us.zip vs).map (fun pair => (pair.1 - us.sum / us.length) * (pair.2 - vs.sum / vs.length))).sum

def Constant (values : List ℚ) : Prop := ∀ one ∈ values, ∀ other ∈ values, one = other

structure SpearmanLaw (ranks outcomes : List ℚ) : Prop where
  undefined : spearmanRankCorrelation ranks outcomes = none ↔ Constant ranks ∨ Constant outcomes
  pearson : ¬ (Constant ranks ∨ Constant outcomes) → ∃ result, spearmanRankCorrelation ranks outcomes = some result ∧
    result ^ 2 = covarianceOf (averageRanks (ranks.map Neg.neg)) (averageRanks outcomes) ^ 2 /
      (covarianceOf (averageRanks (ranks.map Neg.neg)) (averageRanks (ranks.map Neg.neg)) *
        covarianceOf (averageRanks outcomes) (averageRanks outcomes)) ∧
    SignType.sign result = SignType.sign (covarianceOf (averageRanks (ranks.map Neg.neg)) (averageRanks outcomes))
  permuted : ∀ pairs : List (ℚ × ℚ), pairs.Perm (ranks.zip outcomes) →
    spearmanRankCorrelation (pairs.map Prod.fst) (pairs.map Prod.snd) = spearmanRankCorrelation ranks outcomes

-- No value is repeated, or the outcomes fall exactly as the ranks rise.
def Comparable (ranks outcomes : List ℚ) : Prop :=
  (ranks.Nodup ∧ outcomes.Nodup) ∨ (¬ (Constant ranks ∨ Constant outcomes) ∧
    ∀ one ∈ ranks.zip outcomes, ∀ other ∈ ranks.zip outcomes, one.1 < other.1 ↔ other.2 < one.2)

/- The lists as families. -/

theorem ofFn_exists (length : values.length = n) : ∃ x : Fin n → α, values = List.ofFn x := by
  subst length
  exact ⟨values.get,(List.ofFn_get values).symm⟩

theorem countP_ofFn (x : Fin n → α) (test : α → Bool) :
    (List.ofFn x).countP test = (Finset.univ.filter (fun i => test (x i))).card := by
  rw [List.ofFn_eq_map,List.countP_map,Finset.card_filter,Fin.sum_univ_def]
  induction List.finRange n with
  | nil => rfl
  | cons i rest ih => by_cases met : test (x i) <;> simp [met,ih,Nat.add_comm]

variable (x : Fin n → ℚ)

theorem averageRanks_ofFn : averageRanks (List.ofFn x) = List.ofFn (averageRank x) := by
  unfold averageRanks averageRank
  rw [List.map_ofFn]
  congr 1
  funext i
  simp [countP_ofFn]

theorem covarianceOf_ofFn (u v : Fin n → ℚ) : covarianceOf (List.ofFn u) (List.ofFn v) = covariance u v := by
  have zipped : (List.ofFn u).zip (List.ofFn v) = List.ofFn (fun i => (u i,v i)) := by
    simp only [List.ofFn_eq_map,List.zip_map']
  unfold covarianceOf covariance RankCorrelation.mean
  rw [zipped,List.map_ofFn]
  simp [List.sum_ofFn]

theorem range_ofFn (n : Nat) : List.range n = List.ofFn (fun i : Fin n => i.val) := by simp [List.ofFn_eq_map]

-- The position of an index is the number of indices before it, by value and then by index.
theorem toRanks_ofFn : toRanks (List.ofFn x) = List.ofFn (ordinalRank x) := by
  have read : ∀ i : Fin n, (List.ofFn x)[i.val]?.getD 0 = x i := by simp
  unfold toRanks
  rw [List.length_ofFn,range_ofFn,List.map_ofFn]
  congr 1
  funext i
  have placed : (List.ofFn (fun i : Fin n => i.val)).Pairwise (fun left right => id left < id right) := by
    rw [← range_ofFn]
    exact List.pairwise_lt_range
  have ordered : ∀ left right : Nat, (List.ofFn x)[left]?.getD 0 ≤ (List.ofFn x)[right]?.getD 0 ↔
      (List.ofFn x)[left]?.getD 0 ≤ (List.ofFn x)[right]?.getD 0 := fun _ _ => Iff.rfl
  have sorted := Ranks.stable_sort ordered placed
  have perm := perm_sortBy (fun index => (List.ofFn x)[index]?.getD 0) (List.ofFn (fun i : Fin n => i.val))
  have inside : i.val ∈ sortBy (fun index => (List.ofFn x)[index]?.getD 0) (List.ofFn (fun i : Fin n => i.val)) :=
    perm.mem_iff.mpr (List.mem_ofFn.mpr ⟨i,rfl⟩)
  have counted := Ranks.idxOf_sorted sorted inside
  rw [Function.comp_apply]
  refine (congrArg Nat.cast (counted.trans (Ranks.rank_perm perm i.val))).trans ?_
  rw [Ranks.rank,countP_ofFn,ordinalRank]
  simp [Prod.Lex.toLex_lt_toLex]

theorem toRanks_positions (values : List ℚ) :
    (toRanks values).Perm ((List.range values.length).map (fun position : Nat => (position : ℚ))) := by
  unfold toRanks
  have perm := perm_sortBy (fun index => values[index]?.getD 0) (List.range values.length)
  generalize sortBy (fun index => values[index]?.getD 0) (List.range values.length) = order at perm
  have places : order.map (fun index => order.idxOf index) = List.range order.length := by
    apply List.ext_getElem
    · simp
    · intro position bound _
      simp [(perm.nodup_iff.mpr List.nodup_range).idxOf_getElem]
  have cast := congrArg (List.map (fun position : Nat => (position : ℚ))) places
  rw [List.map_map,perm.length_eq,List.length_range] at cast
  simp only
  rw [← cast]
  exact perm.symm.map _

theorem variance_ordinal_alike (x y : Fin n → ℚ) :
    covariance (ordinalRank x) (ordinalRank x) = covariance (ordinalRank y) (ordinalRank y) := by
  have alike : (List.ofFn (ordinalRank x)).Perm (List.ofFn (ordinalRank y)) := by
    rw [← toRanks_ofFn,← toRanks_ofFn]
    have one := toRanks_positions (List.ofFn x)
    have other := toRanks_positions (List.ofFn y)
    rw [List.length_ofFn] at one other
    exact one.trans other.symm
  have means : RankCorrelation.mean (ordinalRank x) = RankCorrelation.mean (ordinalRank y) := by
    unfold RankCorrelation.mean
    rw [← List.sum_ofFn,← List.sum_ofFn,alike.sum_eq]
  have squares := (alike.map (fun rank => (rank - RankCorrelation.mean (ordinalRank y)) *
    (rank - RankCorrelation.mean (ordinalRank y)))).sum_eq
  rw [List.map_ofFn,List.map_ofFn,List.sum_ofFn,List.sum_ofFn] at squares
  unfold covariance
  rw [means]
  exact squares

-- The two square roots of the code's divisor belong to one variance.
theorem spearman_ofFn (several : 2 ≤ n) (r o : Fin n → ℚ) : spearmanRankCorrelation (List.ofFn r) (List.ofFn o) =
    some (covariance (ordinalRank (-r)) (ordinalRank o) / covariance (ordinalRank (-r)) (ordinalRank (-r))) := by
  have negated : (List.ofFn r).map (fun value => -value) = List.ofFn (-r) := by
    rw [List.map_ofFn]
    rfl
  have apart : (⟨0,by omega⟩ : Fin n) ≠ ⟨1,by omega⟩ := by simp
  have positive : ∀ x : Fin n → ℚ, covariance (ordinalRank x) (ordinalRank x) ≠ 0 := fun x => (variance_ordinal_pos apart).ne'
  have left := covarianceOf_ofFn (ordinalRank (-r)) (ordinalRank o)
  have variance : ∀ x : Fin n → ℚ, ((List.ofFn (ordinalRank x)).map (fun value =>
      (value - (List.ofFn (ordinalRank x)).sum / n) ^ 2)).sum = covariance (ordinalRank x) (ordinalRank x) := by
    intro x
    rw [List.map_ofFn,List.sum_ofFn,List.sum_ofFn]
    unfold covariance RankCorrelation.mean
    simp [pow_two]
  unfold covarianceOf at left
  unfold spearmanRankCorrelation
  simp only [negated,toRanks_ofFn,List.length_ofFn,variance] at left ⊢
  rw [if_neg (by omega),if_neg (not_or.mpr ⟨positive _,positive _⟩),left]

/- Permuting the pairs. -/

variable (pairs : List ρ)

theorem averageRanks_map (f : ρ → ℚ) : averageRanks (pairs.map f) = pairs.map (fun pair =>
    (((pairs.map f).countP (fun other => other < f pair) : ℚ) +
      ((pairs.map f).countP (fun other => other = f pair) + 1) / 2)) := by
  rw [averageRanks,List.map_map]
  rfl

theorem covarianceOf_map (f g : ρ → ℚ) : covarianceOf (pairs.map f) (pairs.map g) =
    (pairs.map (fun pair => (f pair - (pairs.map f).sum / pairs.length) * (g pair - (pairs.map g).sum / pairs.length))).sum := by
  simp only [covarianceOf,List.zip_map',List.map_map,List.length_map]
  rfl

theorem covariance_perm {left right : List ρ} (perm : left.Perm right) (f g : ρ → ℚ) :
    covarianceOf (averageRanks (left.map f)) (averageRanks (left.map g)) =
      covarianceOf (averageRanks (right.map f)) (averageRanks (right.map g)) := by
  have ranked : ∀ f : ρ → ℚ, averageRanks (left.map f) = left.map (fun pair =>
      (((right.map f).countP (fun other => other < f pair) : ℚ) +
        ((right.map f).countP (fun other => other = f pair) + 1) / 2)) := by
    intro f
    rw [averageRanks_map]
    simp only [(perm.map f).countP_eq]
  rw [ranked,ranked,averageRanks_map right,averageRanks_map right,covarianceOf_map,covarianceOf_map,(perm.map _).sum_eq,
    (perm.map _).sum_eq,(perm.map _).sum_eq,perm.length_eq]

-- The two pairs at the front change places.
theorem ofFn_front (g : Fin (m + 2) → α) : List.ofFn g = g 0 :: g 1 :: List.ofFn (fun i : Fin m => g i.succ.succ) ∧
    List.ofFn (g ∘ Equiv.swap 0 1) = g 1 :: g 0 :: List.ofFn (fun i : Fin m => g i.succ.succ) := by
  have rest : ∀ i : Fin m, Equiv.swap (0 : Fin (m + 2)) 1 i.succ.succ = i.succ.succ := by
    intro i
    apply Equiv.swap_apply_of_ne_of_ne
    · exact Fin.succ_ne_zero _
    · rw [← Fin.succ_zero_eq_one,Ne,Fin.succ_inj]
      exact Fin.succ_ne_zero _
  constructor
  · simp [List.ofFn_succ]
  · simp [List.ofFn_succ,rest]

theorem neighbours (k : Fin (m + 2)) (notFirst : k ≠ 0) (notSecond : k ≠ 1) : k < 0 ↔ k < 1 := by
  rw [Fin.lt_def,Fin.lt_def]
  have first : k.val ≠ 0 := fun same => notFirst (Fin.ext same)
  have second : k.val ≠ 1 := fun same => notSecond (Fin.ext (by simpa using same))
  simp
  omega

theorem spearman_swapped
    (same : spearmanRankCorrelation ((first :: second :: rest).map Prod.fst) ((first :: second :: rest).map Prod.snd) =
      spearmanRankCorrelation ((second :: first :: rest).map Prod.fst) ((second :: first :: rest).map Prod.snd)) :
    first.1 = second.1 ↔ first.2 = second.2 := by
  obtain ⟨g,shape⟩ : ∃ g : Fin (rest.length + 2) → ℚ × ℚ, first :: second :: rest = List.ofFn g := ofFn_exists (by simp)
  obtain ⟨front,swapped⟩ := ofFn_front g
  have parts := shape.trans front
  obtain ⟨rfl,rfl,tail⟩ : first = g 0 ∧ second = g 1 ∧ rest = List.ofFn (fun i : Fin rest.length => g i.succ.succ) := by
    simpa using parts
  rw [← tail] at swapped
  rw [shape,← swapped] at same
  simp only [List.map_ofFn] at same
  rw [spearman_ofFn (by omega),spearman_ofFn (by omega)] at same
  have variance := variance_ordinal_alike (-(Prod.fst ∘ g ∘ Equiv.swap 0 1)) (-(Prod.fst ∘ g))
  have positive : 0 < covariance (ordinalRank (-(Prod.fst ∘ g))) (ordinalRank (-(Prod.fst ∘ g))) :=
    variance_ordinal_pos (show (0 : Fin (rest.length + 2)) ≠ 1 by simp)
  rw [variance] at same
  have covariances := (div_left_inj' positive.ne').mp (Option.some.inj same)
  have apart : (0 : Fin (rest.length + 2)) ≠ 1 := by simp
  constructor
  · intro tied
    by_contra differ
    exact covariance_swapped (x := -(Prod.fst ∘ g)) (y := Prod.snd ∘ g) apart neighbours (by simp [tied]) differ covariances.symm
  · intro tied
    by_contra differ
    have moved := covariance_swapped (x := Prod.snd ∘ g) (y := -(Prod.fst ∘ g)) apart neighbours tied (by simpa using differ)
    rw [covariance_comm,covariance_comm (ordinalRank (Prod.snd ∘ g))] at moved
    exact moved covariances.symm

-- Two pairs of a list can be brought to its front.
theorem front_pairs [DecidableEq α] {pairs : List α} (left : first ∈ pairs) (right : second ∈ pairs) (apart : second ≠ first) :
    ∃ rest, (first :: second :: rest).Perm pairs := by
  have inside : second ∈ pairs.erase first := (List.mem_erase_of_ne apart).mpr right
  exact ⟨(pairs.erase first).erase second,((List.perm_cons_erase left).trans ((List.perm_cons_erase inside).cons first)).symm⟩

variable {ranks outcomes : List ℚ}

theorem law_tied (law : SpearmanLaw ranks outcomes) :
    ∀ one ∈ ranks.zip outcomes, ∀ other ∈ ranks.zip outcomes, one.1 = other.1 ↔ one.2 = other.2 := by
  intro one left other right
  by_cases same : other = one
  · rw [same]
    exact ⟨fun _ => rfl,fun _ => rfl⟩
  · obtain ⟨rest,perm⟩ := front_pairs left right same
    apply spearman_swapped
    exact (law.permuted _ perm).trans (law.permuted _ ((List.Perm.swap one other rest).trans perm)).symm

section families
variable {r o : Fin n → ℚ}

theorem zip_ofFn (r o : Fin n → ℚ) : (List.ofFn r).zip (List.ofFn o) = List.ofFn (fun i => (r i,o i)) := by
  simp only [List.ofFn_eq_map,List.zip_map']

theorem constant_ofFn : Constant (List.ofFn r) ↔ ∀ i j, r i = r j := by
  simp [Constant]

theorem nodup_negated : (List.ofFn r).Nodup ↔ Function.Injective (-r) := by
  rw [List.nodup_ofFn]
  constructor
  · intro injective i j same
    exact injective (neg_inj.mp same)
  · intro injective i j same
    exact injective (neg_inj.mpr same)

theorem comparable_ofFn : Comparable (List.ofFn r) (List.ofFn o) ↔ (Function.Injective (-r) ∧ Function.Injective o) ∨
      (¬ ((∀ i j, r i = r j) ∨ ∀ i j, o i = o j) ∧ Concordant (-r) o) := by
  unfold Comparable Concordant
  rw [nodup_negated,List.nodup_ofFn,constant_ofFn,constant_ofFn,zip_ofFn]
  apply or_congr_right
  apply and_congr_right
  intro _
  simp only [List.forall_mem_ofFn_iff,Pi.neg_apply,neg_lt_neg_iff]
  exact forall_comm

theorem negated_ranks (r : Fin n → ℚ) : (List.ofFn r).map Neg.neg = List.ofFn (-r) := by
  rw [List.map_ofFn]
  rfl

-- Comparable families have the same ties.
theorem comparable_tied (comparable : (Function.Injective (-r) ∧ Function.Injective o) ∨
      (¬ ((∀ i j, r i = r j) ∨ ∀ i j, o i = o j) ∧ Concordant (-r) o)) : ∀ i j, (-r) i = (-r) j ↔ o i = o j := by
  intro i j
  rcases comparable with ⟨left,right⟩ | ⟨_,concordant⟩
  · rw [left.eq_iff,right.eq_iff]
  · rw [le_antisymm_iff,le_antisymm_iff,← not_lt,← not_lt,← not_lt,← not_lt,concordant,concordant]

theorem alike_average [Nonempty (Fin n)] {x y : Fin n → ℚ} (tied : ∀ i j, x i = x j ↔ y i = y j) :
    covariance (averageRank x) (averageRank x) = covariance (averageRank y) (averageRank y) := by
  have drifts : drifted y = drifted x := by rw [drifted,drift_tied tied,drifted]
  have ordinal := variance_ordinal_alike x y
  rw [covariance_tied (fun _ _ => Iff.rfl),covariance_tied (x:=y) (fun _ _ => Iff.rfl),drifts] at ordinal
  linarith

-- With the same ties in both, the code's ratio is shifted by the drift.
theorem spearman_tied (several : 2 ≤ n) (tied : ∀ i j, (-r) i = (-r) j ↔ o i = o j) :
    spearmanRankCorrelation (List.ofFn r) (List.ofFn o) = some ((covariance (averageRank (-r)) (averageRank o) + drifted (-r)) /
        (covariance (averageRank (-r)) (averageRank (-r)) + drifted (-r))) := by
  have : Nonempty (Fin n) := ⟨⟨0,by omega⟩⟩
  rw [spearman_ofFn several,covariance_tied tied,covariance_tied (fun _ _ => Iff.rfl)]

theorem constant_negated (differ : ¬ ∀ i j, r i = r j) : ∃ i j, (-r) i ≠ (-r) j := by
  push Not at differ
  obtain ⟨i,j,apart⟩ := differ
  exact ⟨i,j,fun same => apart (neg_inj.mp same)⟩

theorem comparable_exact (several : 2 ≤ n) (differ : ¬ ∀ i j, r i = r j) (tied : ∀ i j, (-r) i = (-r) j ↔ o i = o j) :
    spearmanRankCorrelation (List.ofFn r) (List.ofFn o) =
        some (covariance (averageRank (-r)) (averageRank o) / covariance (averageRank (-r)) (averageRank (-r))) ↔
      Function.Injective (-r) ∨ Concordant (-r) o := by
  have : Nonempty (Fin n) := ⟨⟨0,by omega⟩⟩
  obtain ⟨i,j,apart⟩ := constant_negated differ
  rw [spearman_tied several tied,Option.some.injEq,ratio_kept (variance_average_pos apart) (drifted_nonneg _),
    drifted_zero_iff,covariance_reached (alike_average tied)]

end families

theorem nodup_differ (several : 2 ≤ values.length) (nodup : values.Nodup) : ¬ Constant values := by
  intro constant
  have same := constant values[0] (List.getElem_mem _) values[1] (List.getElem_mem _)
  exact absurd (nodup.getElem_inj_iff.mp same) (by decide)

theorem comparable_differ (length : outcomes.length = ranks.length) (several : 2 ≤ ranks.length)
    (comparable : Comparable ranks outcomes) : ¬ (Constant ranks ∨ Constant outcomes) := by
  rcases comparable with ⟨left,right⟩ | ⟨differ,_⟩
  · exact not_or.mpr ⟨nodup_differ several left,nodup_differ (length ▸ several) right⟩
  · exact differ

theorem families_exist (length : outcomes.length = ranks.length) :
    ∃ (n : Nat) (r o : Fin n → ℚ), ranks.length = n ∧ ranks = List.ofFn r ∧ outcomes = List.ofFn o := by
  obtain ⟨r,ranked⟩ := ofFn_exists (rfl : ranks.length = ranks.length)
  obtain ⟨o,reached⟩ := ofFn_exists length
  exact ⟨_,r,o,rfl,ranked,reached⟩

theorem spearman_comparable (length : outcomes.length = ranks.length) (several : 2 ≤ ranks.length)
    (comparable : Comparable ranks outcomes) : spearmanRankCorrelation ranks outcomes =
      some (covarianceOf (averageRanks (ranks.map Neg.neg)) (averageRanks outcomes) /
        covarianceOf (averageRanks (ranks.map Neg.neg)) (averageRanks (ranks.map Neg.neg))) := by
  have differ := comparable_differ length several comparable
  obtain ⟨n,r,o,sized,rfl,rfl⟩ := families_exist length
  rw [sized] at several
  have families := comparable_ofFn.mp comparable
  rw [negated_ranks,averageRanks_ofFn,averageRanks_ofFn,covarianceOf_ofFn,covarianceOf_ofFn]
  apply (comparable_exact several (fun same => differ (.inl (constant_ofFn.mpr same))) (comparable_tied families)).mpr
  rcases families with ⟨left,_⟩ | ⟨_,concordant⟩
  · exact .inl left
  · exact .inr concordant

theorem comparable_perm {pairs : List (ℚ × ℚ)} (length : outcomes.length = ranks.length)
    (perm : pairs.Perm (ranks.zip outcomes)) (comparable : Comparable ranks outcomes) :
    Comparable (pairs.map Prod.fst) (pairs.map Prod.snd) := by
  have first := perm.map Prod.fst
  have second := perm.map Prod.snd
  rw [List.map_fst_zip (by omega)] at first
  rw [List.map_snd_zip (by omega)] at second
  have zipped : (pairs.map Prod.fst).zip (pairs.map Prod.snd) = pairs := by
    rw [List.zip_map']
    simp
  unfold Comparable Constant at *
  rw [zipped,first.nodup_iff,second.nodup_iff]
  simp only [first.mem_iff,second.mem_iff,perm.mem_iff]
  exact comparable

theorem spearman_law_exact (ranks outcomes : List ℚ) (length : outcomes.length = ranks.length) (several : 2 ≤ ranks.length) :
    SpearmanLaw ranks outcomes ↔ Comparable ranks outcomes := by
  constructor
  · intro law
    have tied := law_tied law
    obtain ⟨n,r,o,sized,rfl,rfl⟩ := families_exist length
    rw [sized] at several
    have : Nonempty (Fin n) := ⟨⟨0,by omega⟩⟩
    have differ : ¬ (Constant (List.ofFn r) ∨ Constant (List.ofFn o)) := by
      intro constant
      have missing := law.undefined.mpr constant
      rw [spearman_ofFn several] at missing
      cases missing
    obtain ⟨result,computed,pearson⟩ := law.pearson differ
    have ties : ∀ i j, (-r) i = (-r) j ↔ o i = o j := by
      rw [zip_ofFn] at tied
      intro i j
      simpa using tied (r i,o i) (List.mem_ofFn.mpr ⟨i,rfl⟩) (r j,o j) (List.mem_ofFn.mpr ⟨j,rfl⟩)
    have ranked : ¬ ∀ i j, r i = r j := fun same => differ (.inl (constant_ofFn.mpr same))
    obtain ⟨i,j,apart⟩ := constant_negated ranked
    rw [negated_ranks,averageRanks_ofFn,averageRanks_ofFn,covarianceOf_ofFn,covarianceOf_ofFn,covarianceOf_ofFn,
      ← alike_average ties,same_ratio (variance_average_pos apart)] at pearson
    rw [pearson] at computed
    rw [comparable_ofFn]
    rcases (comparable_exact several ranked ties).mp computed with injective | concordant
    · refine .inl ⟨injective,?_⟩
      intro i j same
      exact injective ((ties i j).mpr same)
    · exact .inr ⟨fun same => differ (same.imp constant_ofFn.mpr constant_ofFn.mpr),concordant⟩
  · intro comparable
    have differ := comparable_differ length several comparable
    have computed := spearman_comparable length several comparable
    refine ⟨?_,?_,?_⟩
    · rw [computed]
      exact ⟨fun missing => (by cases missing),fun constant => absurd constant differ⟩
    · intro _
      refine ⟨_,computed,?_⟩
      obtain ⟨n,r,o,sized,rfl,rfl⟩ := families_exist length
      rw [sized] at several
      have : Nonempty (Fin n) := ⟨⟨0,by omega⟩⟩
      obtain ⟨i,j,apart⟩ := constant_negated (fun same => differ (.inl (constant_ofFn.mpr same)))
      rw [negated_ranks,averageRanks_ofFn,averageRanks_ofFn,covarianceOf_ofFn,covarianceOf_ofFn,covarianceOf_ofFn,
        ← alike_average (comparable_tied (comparable_ofFn.mp comparable)),same_ratio (variance_average_pos apart)]
    · intro pairs perm
      have size := perm.length_eq
      rw [List.length_zip,length,Nat.min_self] at size
      have first : (ranks.zip outcomes).map Prod.fst = ranks := List.map_fst_zip (by omega)
      have second : (ranks.zip outcomes).map Prod.snd = outcomes := List.map_snd_zip (by omega)
      have moved : spearmanRankCorrelation (pairs.map Prod.fst) (pairs.map Prod.snd) = _ :=
        spearman_comparable (by simp) (by simpa [size] using several) (comparable_perm length perm comparable)
      have negated : ranks.map Neg.neg = (ranks.zip outcomes).map (Neg.neg ∘ Prod.fst) := by rw [← List.map_map,first]
      rw [moved,computed,List.map_map,negated,← second,covariance_perm perm (Neg.neg ∘ Prod.fst) Prod.snd,
        covariance_perm perm (Neg.neg ∘ Prod.fst) (Neg.neg ∘ Prod.fst),second]

-- Equal outcomes are given the positions of their indices.
theorem constant_outcomes_correlated : ¬ ∀ ranks outcomes : List ℚ, outcomes.length = ranks.length → 2 ≤ ranks.length →
    SpearmanLaw ranks outcomes := by
  intro law
  have undefined := (law [1,2] [0,0] rfl (by decide)).undefined.mpr (.inr (by simp [Constant]))
  have computed : spearmanRankCorrelation [1,2] [0,0] = some (-1) := by decide +kernel
  rw [computed] at undefined
  cases undefined

theorem spearman_law_exact_sample : SpearmanLaw [1,2,3] [3 / 10,1 / 10,2 / 10] :=
  (spearman_law_exact [1,2,3] [3 / 10,1 / 10,2 / 10] rfl (by decide)).mpr (.inl (by decide +kernel))

end OpenStock.Ranking
