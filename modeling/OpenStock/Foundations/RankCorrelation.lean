import Mathlib.Algebra.BigOperators.Field
import Mathlib.Algebra.Order.BigOperators.Group.Finset
import Mathlib.Algebra.Order.Field.Rat
import Mathlib.Data.Fintype.BigOperators
import Mathlib.Data.Sign.Basic
import Mathlib.Tactic.FieldSimp
import Mathlib.Tactic.Linarith
import Mathlib.Tactic.Ring

namespace OpenStock.RankCorrelation

/- Ranks of a finite family of values: the average ranks, which give equal values
one rank, and the ordinal ranks, which take equal values in the order of their
indices. Centered, the two differ by a drift within the ties. -/

variable (x : ι → ℚ)

section values
variable [Fintype ι]

def averageRank (x : ι → ℚ) (i : ι) : ℚ :=
  (Finset.univ.filter (fun j => x j < x i)).card + ((Finset.univ.filter (fun j => x j = x i)).card + 1) / 2

def mean (z : ι → ℚ) : ℚ := (∑ i, z i) / Fintype.card ι

def covariance (u v : ι → ℚ) : ℚ := ∑ i, (u i - mean u) * (v i - mean v)

-- 1 above, -1 below, 0 at the same place.
def side [LinearOrder κ] (one other : κ) : ℚ := if other < one then 1 else if one < other then -1 else 0

theorem side_swap [LinearOrder κ] (one other : κ) : side other one = -side one other := by
  unfold side
  rcases lt_trichotomy one other with less | rfl | more
  · simp [less,less.not_gt]
  · simp
  · simp [more,more.not_gt]

theorem side_mono [LinearOrder κ] (less : one < other) (third : κ) : side one third ≤ side other third := by
  unfold side
  rcases lt_trichotomy third one with below | rfl | above
  · simp [below,below.trans less]
  · simp [less]
  · rcases lt_trichotomy third other with between | rfl | beyond
    · simp [above.not_gt,above,between]
    · simp [above.not_gt,above]
    · simp [above.not_gt,above,beyond.not_gt,beyond]

def offset (x : ι → ℚ) (i : ι) : ℚ := (∑ j, side (x i) (x j)) / 2

theorem covariance_comm (u v : ι → ℚ) : covariance u v = covariance v u :=
  Finset.sum_congr rfl (fun _ _ => mul_comm _ _)

-- What lies above and below, and the ties, are all there is.
theorem averageRank_offset (i : ι) : averageRank x i = offset x i + (Fintype.card ι + 1) / 2 := by
  have parts : ∀ j, (if x j < x i then (1 : ℚ) else 0) + (if x j = x i then (1 : ℚ) else 0) / 2 =
      side (x i) (x j) / 2 + 1 / 2 := by
    intro j
    unfold side
    rcases lt_trichotomy (x j) (x i) with less | same | more
    · simp [less,less.ne]
      norm_num
    · simp [same]
    · simp [more.not_gt,more.ne',more]
      norm_num
  have total := Finset.sum_congr rfl (fun j (_ : j ∈ Finset.univ) => parts j)
  rw [Finset.sum_add_distrib,Finset.sum_add_distrib,← Finset.sum_div,← Finset.sum_div,Finset.sum_const,Finset.card_univ,
    nsmul_eq_mul] at total
  simp only [Finset.sum_boole] at total
  unfold averageRank offset
  linarith

-- A double sum whose terms change sign when the indices are swapped vanishes.
theorem sum_antisymmetric {term : ι → ι → ℚ} (antisymmetric : ∀ i j, term j i = -term i j) : ∑ i, ∑ j, term i j = 0 := by
  have swapped : ∑ i, ∑ j, term i j = -∑ i, ∑ j, term i j := by
    calc ∑ i, ∑ j, term i j = ∑ j, ∑ i, term i j := Finset.sum_comm
      _ = ∑ j, ∑ i, -term j i := Finset.sum_congr rfl (fun j _ => Finset.sum_congr rfl (fun i _ => antisymmetric j i))
      _ = -∑ i, ∑ j, term i j := by simp only [Finset.sum_neg_distrib]
  linarith

theorem sum_offset : ∑ i, offset x i = 0 := by
  unfold offset
  rw [← Finset.sum_div,sum_antisymmetric (fun i j => side_swap (x i) (x j)),zero_div]

theorem offset_shared : ∀ i j, x j = x i → offset x j = offset x i := by
  intro i j tied
  rw [offset,offset,tied]

theorem offset_less {x : ι → ℚ} (less : x i < x j) : offset x i < offset x j := by
  unfold offset
  rw [div_lt_div_iff_of_pos_right (by norm_num : (0 : ℚ) < 2)]
  apply Finset.sum_lt_sum
  · intro k _
    exact side_mono less (x k)
  · exact ⟨i,Finset.mem_univ i,by simp [side,less]⟩

theorem offset_lt_iff (i j : ι) : offset x i < offset x j ↔ x i < x j := by
  constructor
  · intro less
    rcases lt_trichotomy (x i) (x j) with low | same | high
    · exact low
    · exact absurd (offset_shared x i j same.symm) less.ne'
    · exact absurd (offset_less high) less.not_gt
  · exact offset_less

-- Of shifted families only the centered parts count.
theorem covariance_centered [Nonempty ι] {z w u v : ι → ℚ} {c d : ℚ} (left : ∀ i, z i = u i + c) (right : ∀ i, w i = v i + d)
    (leftCentered : ∑ i, u i = 0) (rightCentered : ∑ i, v i = 0) : covariance z w = ∑ i, u i * v i := by
  have size : (Fintype.card ι : ℚ) ≠ 0 := by simp
  have leftMean : mean z = c := by
    simp only [mean,left,Finset.sum_add_distrib,leftCentered,Finset.sum_const,Finset.card_univ,nsmul_eq_mul,zero_add]
    field_simp
  have rightMean : mean w = d := by
    simp only [mean,right,Finset.sum_add_distrib,rightCentered,Finset.sum_const,Finset.card_univ,nsmul_eq_mul,zero_add]
    field_simp
  unfold covariance
  apply Finset.sum_congr rfl
  intro i _
  rw [leftMean,rightMean,left,right]
  ring

theorem covariance_average [Nonempty ι] (x y : ι → ℚ) :
    covariance (averageRank x) (averageRank y) = ∑ i, offset x i * offset y i :=
  covariance_centered (averageRank_offset x) (averageRank_offset y) (sum_offset x) (sum_offset y)

-- Values that are not all equal have average ranks of positive variance.
theorem variance_average_pos [Nonempty ι] {x : ι → ℚ} (differ : x i ≠ x j) : 0 < covariance (averageRank x) (averageRank x) := by
  rw [covariance_average]
  have squares : ∀ k ∈ Finset.univ, 0 ≤ offset x k * offset x k := fun k _ => mul_self_nonneg _
  rcases (Finset.sum_nonneg squares).lt_or_eq with positive | zero
  · exact positive
  · have none' := (Finset.sum_eq_zero_iff_of_nonneg squares).mp zero.symm
    have level : ∀ k, offset x k = 0 := fun k => mul_self_eq_zero.mp (none' k (Finset.mem_univ k))
    rcases lt_or_gt_of_ne differ with less | more
    · have apart := offset_less less
      rw [level,level] at apart
      exact absurd apart (lt_irrefl _)
    · have apart := offset_less more
      rw [level,level] at apart
      exact absurd apart (lt_irrefl _)

def Concordant (x y : ι → ℚ) : Prop := ∀ i j, x i < x j ↔ y i < y j

-- Of equal variances, the covariance reaches them only for families of one order.
theorem covariance_reached [Nonempty ι] {x y : ι → ℚ}
    (alike : covariance (averageRank x) (averageRank x) = covariance (averageRank y) (averageRank y)) :
    covariance (averageRank x) (averageRank y) = covariance (averageRank x) (averageRank x) ↔ Concordant x y := by
  rw [covariance_average,covariance_average] at *
  constructor
  · intro reached i j
    have gap : ∑ k, (offset x k - offset y k) * (offset x k - offset y k) = 0 := by
      have expand : ∀ k, (offset x k - offset y k) * (offset x k - offset y k) =
          offset x k * offset x k - 2 * (offset x k * offset y k) + offset y k * offset y k := fun k => by ring
      simp only [expand,Finset.sum_add_distrib,Finset.sum_sub_distrib,← Finset.mul_sum]
      linarith
    have equal : ∀ k, offset x k = offset y k := by
      intro k
      have zero := (Finset.sum_eq_zero_iff_of_nonneg (fun k _ => mul_self_nonneg _)).mp gap k (Finset.mem_univ k)
      exact sub_eq_zero.mp (mul_self_eq_zero.mp zero)
    rw [← offset_lt_iff,← offset_lt_iff y,equal,equal]
  · intro concordant
    have equal : offset x = offset y := by
      funext i
      unfold offset side
      simp only [concordant i,concordant _ i]
    rw [equal]

end values

section ordered
variable [Fintype ι] [LinearOrder ι]

def ordinalRank (x : ι → ℚ) (i : ι) : ℚ :=
  (Finset.univ.filter (fun j => x j < x i ∨ (x j = x i ∧ j < i))).card

def drift (x : ι → ℚ) (i : ι) : ℚ := (∑ j, if x j = x i then side i j else 0) / 2

theorem ordinalRank_offset (i : ι) : ordinalRank x i = offset x i + drift x i + (Fintype.card ι - 1) / 2 := by
  have parts : ∀ j, (if x j < x i ∨ (x j = x i ∧ j < i) then (1 : ℚ) else 0) =
      side (x i) (x j) / 2 + (if x j = x i then side i j else 0) / 2 + 1 / 2 - (if j = i then (1 : ℚ) else 0) / 2 := by
    intro j
    rcases lt_trichotomy (x j) (x i) with less | same | more
    · have apart : j ≠ i := fun equal => less.ne (congrArg x equal)
      simp [side,less,less.ne,apart]
      norm_num
    · rcases lt_trichotomy j i with before | rfl | after
      · simp [side,same,before,before.ne]
        norm_num
      · simp [side]
      · simp [side,same,after.not_gt,after,after.ne']
        norm_num
    · have apart : j ≠ i := fun equal => more.ne' (congrArg x equal)
      simp [side,more.not_gt,more,more.ne',apart]
      norm_num
  have total := Finset.sum_congr rfl (fun j (_ : j ∈ Finset.univ) => parts j)
  rw [Finset.sum_sub_distrib,Finset.sum_add_distrib,Finset.sum_add_distrib,← Finset.sum_div,← Finset.sum_div,← Finset.sum_div,
    ← Finset.sum_div,Finset.sum_const,Finset.card_univ,nsmul_eq_mul,Finset.sum_ite_eq'] at total
  simp only [Finset.sum_boole,Finset.mem_univ,if_true] at total
  unfold ordinalRank offset drift
  linarith

-- The drift is orthogonal to whatever the ties share.
theorem sum_shared_drift (x z : ι → ℚ) (shared : ∀ i j, x j = x i → z j = z i) : ∑ i, z i * drift x i = 0 := by
  have terms : ∑ i, z i * drift x i = (∑ i, ∑ j, z i * if x j = x i then side i j else 0) / 2 := by
    rw [Finset.sum_div]
    apply Finset.sum_congr rfl
    intro i _
    rw [drift,← Finset.mul_sum]
    ring
  rw [terms,sum_antisymmetric,zero_div]
  intro i j
  by_cases tied : x j = x i
  · simp [tied,shared i j tied,side_swap i j]
  · simp [tied,Ne.symm tied]

theorem sum_drift : ∑ i, drift x i = 0 := by
  simpa using sum_shared_drift x (fun _ => 1) (fun _ _ _ => rfl)

-- Two tied indices drift apart.
theorem drift_less {x : ι → ℚ} (tied : x i = x j) (before : i < j) : drift x i < drift x j := by
  unfold drift
  rw [div_lt_div_iff_of_pos_right (by norm_num : (0 : ℚ) < 2)]
  apply Finset.sum_lt_sum
  · intro k _
    by_cases level : x k = x i
    · rw [if_pos level,if_pos (level.trans tied)]
      exact side_mono before k
    · rw [if_neg level,if_neg (fun same => level (same.trans tied.symm))]
  · exact ⟨i,Finset.mem_univ i,by simp [side,tied,before]⟩

theorem drift_zero_iff : (∀ i, drift x i = 0) ↔ Function.Injective x := by
  constructor
  · intro still i j tied
    rcases lt_trichotomy i j with before | same | after
    · have less := drift_less tied before
      rw [still,still] at less
      exact absurd less (lt_irrefl _)
    · exact same
    · have less := drift_less tied.symm after
      rw [still,still] at less
      exact absurd less (lt_irrefl _)
  · intro injective i
    have terms : ∀ j, (if x j = x i then side i j else 0) = 0 := by
      intro j
      by_cases tied : x j = x i
      · obtain rfl := injective tied
        simp [side]
      · simp [tied]
    simp [drift,terms]

theorem covariance_ordinal [Nonempty ι] (x y : ι → ℚ) :
    covariance (ordinalRank x) (ordinalRank y) = ∑ i, (offset x i + drift x i) * (offset y i + drift y i) := by
  apply covariance_centered (ordinalRank_offset x) (ordinalRank_offset y)
  · rw [Finset.sum_add_distrib,sum_offset,sum_drift,add_zero]
  · rw [Finset.sum_add_distrib,sum_offset,sum_drift,add_zero]

def drifted (x : ι → ℚ) : ℚ := ∑ i, drift x i * drift x i

theorem drifted_nonneg : 0 ≤ drifted x := Finset.sum_nonneg (fun _ _ => mul_self_nonneg _)

theorem drifted_zero_iff : drifted x = 0 ↔ Function.Injective x := by
  rw [← drift_zero_iff,drifted,Finset.sum_eq_zero_iff_of_nonneg (fun _ _ => mul_self_nonneg _)]
  simp

theorem drift_tied {x y : ι → ℚ} (tied : ∀ i j, x i = x j ↔ y i = y j) : drift y = drift x := by
  funext i
  unfold drift
  simp only [tied]

-- Families with the same ties: the ordinal ranks add the drift to every covariance.
theorem covariance_tied [Nonempty ι] {x y : ι → ℚ} (tied : ∀ i j, x i = x j ↔ y i = y j) :
    covariance (ordinalRank x) (ordinalRank y) = covariance (averageRank x) (averageRank y) + drifted x := by
  have same := drift_tied tied
  have first : ∑ i, offset x i * drift x i = 0 := sum_shared_drift x _ (offset_shared x)
  have second : ∑ i, offset y i * drift x i = 0 := sum_shared_drift x _ (fun i j level => offset_shared y i j ((tied j i).mp level))
  have expand : ∀ i, (offset x i + drift x i) * (offset y i + drift x i) =
      offset x i * offset y i + offset x i * drift x i + offset y i * drift x i + drift x i * drift x i := fun i => by ring
  rw [covariance_ordinal,covariance_average,same,drifted]
  simp only [expand,Finset.sum_add_distrib,first,second,add_zero]

-- No two ordinal ranks are equal.
theorem ordinalRank_injective : Function.Injective (ordinalRank x) := by
  have below : ∀ i j, x i < x j ∨ (x i = x j ∧ i < j) → ordinalRank x i < ordinalRank x j := by
    intro i j before
    unfold ordinalRank
    rw [Nat.cast_lt]
    apply Finset.card_lt_card
    rw [Finset.ssubset_iff_of_subset]
    · exact ⟨i,by simpa using before,by simp⟩
    · intro k earlier
      simp only [Finset.mem_filter,Finset.mem_univ,true_and] at earlier ⊢
      rcases earlier with less | ⟨same,first⟩ <;> rcases before with lower | ⟨level,second⟩
      · exact .inl (less.trans lower)
      · exact .inl (level ▸ less)
      · exact .inl (same ▸ lower)
      · exact .inr ⟨same.trans level,first.trans second⟩
  intro i j same
  by_contra apart
  rcases lt_trichotomy (x i) (x j) with less | level | more
  · exact (below i j (.inl less)).ne same
  · rcases lt_or_gt_of_ne apart with before | after
    · exact (below i j (.inr ⟨level,before⟩)).ne same
    · exact (below j i (.inr ⟨level.symm,after⟩)).ne same.symm
  · exact (below j i (.inl more)).ne same.symm

/- Two neighbouring indices change places. -/

section neighbours
variable {a b : ι} (apart : a ≠ b) (next : ∀ k, k ≠ a → k ≠ b → (k < a ↔ k < b))
include apart next

omit [Fintype ι] in
theorem swap_order (other : ¬ (i = a ∧ j = b) ∧ ¬ (i = b ∧ j = a)) : j < i ↔ Equiv.swap a b j < Equiv.swap a b i := by
  have above : ∀ k, k ≠ a → k ≠ b → (a < k ↔ b < k) := by
    intro k notA notB
    rw [← not_le,← not_le,le_iff_lt_or_eq,le_iff_lt_or_eq,next k notA notB]
    simp [notA,notB]
  by_cases iA : i = a
  · subst iA
    by_cases jA : j = i
    · simp [jA]
    · have jB : j ≠ b := fun same => other.1 ⟨rfl,same⟩
      rw [Equiv.swap_apply_left,Equiv.swap_apply_of_ne_of_ne jA jB,next j jA jB]
  · by_cases iB : i = b
    · subst iB
      by_cases jB : j = i
      · simp [jB]
      · have jA : j ≠ a := fun same => other.2 ⟨rfl,same⟩
        rw [Equiv.swap_apply_right,Equiv.swap_apply_of_ne_of_ne jA jB,next j jA jB]
    · rw [Equiv.swap_apply_of_ne_of_ne iA iB]
      by_cases jA : j = a
      · subst jA
        rw [Equiv.swap_apply_left,above i iA iB]
      · by_cases jB : j = b
        · subst jB
          rw [Equiv.swap_apply_right,above i iA iB]
        · rw [Equiv.swap_apply_of_ne_of_ne jA jB]

theorem ordinalRank_swapped (differ : y a ≠ y b) (i : ι) :
    ordinalRank (y ∘ Equiv.swap a b) i = ordinalRank y (Equiv.swap a b i) := by
  unfold ordinalRank
  rw [Nat.cast_inj]
  apply Finset.card_equiv (Equiv.swap a b)
  intro j
  simp only [Finset.mem_filter,Finset.mem_univ,true_and,Function.comp_apply]
  apply or_congr_right
  apply and_congr_right
  intro level
  apply swap_order apart next
  constructor
  · rintro ⟨rfl,rfl⟩
    rw [Equiv.swap_apply_left,Equiv.swap_apply_right] at level
    exact differ level
  · rintro ⟨rfl,rfl⟩
    rw [Equiv.swap_apply_left,Equiv.swap_apply_right] at level
    exact differ level.symm

-- With a tie in one family only, the ordinal covariance depends on the order.
theorem covariance_swapped {x y : ι → ℚ} (tied : x a = x b) (differ : y a ≠ y b) :
    covariance (ordinalRank (x ∘ Equiv.swap a b)) (ordinalRank (y ∘ Equiv.swap a b)) ≠
      covariance (ordinalRank x) (ordinalRank y) := by
  have kept : x ∘ Equiv.swap a b = x := by
    funext i
    by_cases atA : i = a
    · simp [atA,tied]
    · by_cases atB : i = b
      · simp [atB,tied]
      · simp [Equiv.swap_apply_of_ne_of_ne atA atB]
  have moved : ordinalRank (y ∘ Equiv.swap a b) = ordinalRank y ∘ Equiv.swap a b :=
    funext (ordinalRank_swapped apart next differ)
  have average : mean (ordinalRank y ∘ Equiv.swap a b) = mean (ordinalRank y) := by
    unfold mean
    rw [Function.comp_def,Equiv.sum_comp (Equiv.swap a b) (ordinalRank y)]
  have gap : covariance (ordinalRank x) (ordinalRank y ∘ Equiv.swap a b) - covariance (ordinalRank x) (ordinalRank y) =
      (ordinalRank x a - ordinalRank x b) * (ordinalRank y b - ordinalRank y a) := by
    unfold covariance
    rw [average,← Finset.sum_sub_distrib]
    rw [Finset.sum_eq_add a b apart]
    · simp only [Function.comp_apply,Equiv.swap_apply_left,Equiv.swap_apply_right]
      ring
    · rintro k _ ⟨notA,notB⟩
      simp only [Function.comp_apply,Equiv.swap_apply_of_ne_of_ne notA notB,sub_self]
    · simp
    · simp
  rw [kept,moved]
  intro same
  rw [same,sub_self,eq_comm,mul_eq_zero,sub_eq_zero,sub_eq_zero] at gap
  rcases gap with left | right
  · exact apart (ordinalRank_injective x left)
  · exact apart (ordinalRank_injective y right).symm

end neighbours

theorem variance_ordinal_pos {x : ι → ℚ} {i j : ι} (apart : i ≠ j) : 0 < covariance (ordinalRank x) (ordinalRank x) := by
  unfold covariance
  have squares : ∀ k ∈ Finset.univ, 0 ≤ (ordinalRank x k - mean (ordinalRank x)) * (ordinalRank x k - mean (ordinalRank x)) :=
    fun k _ => mul_self_nonneg _
  rcases (Finset.sum_nonneg squares).lt_or_eq with positive | zero
  · exact positive
  · have level : ∀ k, ordinalRank x k = mean (ordinalRank x) := by
      intro k
      exact sub_eq_zero.mp (mul_self_eq_zero.mp ((Finset.sum_eq_zero_iff_of_nonneg squares).mp zero.symm k (Finset.mem_univ k)))
    exact absurd (ordinalRank_injective x ((level i).trans (level j).symm)) apart

end ordered

/- A ratio that gains the same amount above and below. -/

theorem ratio_kept {c v d : ℚ} (positive : 0 < v) (gain : 0 ≤ d) : (c + d) / (v + d) = c / v ↔ d = 0 ∨ c = v := by
  rw [div_eq_div_iff (by linarith) positive.ne']
  constructor
  · intro crossed
    have product : d * (v - c) = 0 := by linarith
    rcases mul_eq_zero.mp product with zero | level
    · exact .inl zero
    · exact .inr (by linarith)
  · rintro (rfl | rfl)
    · ring
    · ring

theorem same_ratio {ratio c v : ℚ} (positive : 0 < v) :
    (ratio ^ 2 = c ^ 2 / (v * v) ∧ SignType.sign ratio = SignType.sign c) ↔ ratio = c / v := by
  have scaled : SignType.sign (c / v) = SignType.sign c := by
    rw [div_eq_mul_inv,sign_mul,sign_pos (inv_pos.mpr positive),mul_one]
  have square : c ^ 2 / (v * v) = (c / v) ^ 2 := by rw [div_pow,pow_two v]
  rw [square,← scaled]
  constructor
  · rintro ⟨squares,signs⟩
    rcases sq_eq_sq_iff_eq_or_eq_neg.mp squares with same | opposite
    · exact same
    · rw [opposite,Left.sign_neg,SignType.neg_eq_self_iff,sign_eq_zero_iff] at signs
      rw [opposite,signs,neg_zero]
  · rintro rfl
    exact ⟨rfl,rfl⟩

end OpenStock.RankCorrelation
