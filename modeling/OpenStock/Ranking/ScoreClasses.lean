import OpenStock.Ranking.Scoring

namespace OpenStock.Ranking
open Text Blend

/- The stored score against its features and against the stored class. -/

-- One field moves in the favourable direction, all others stay.
inductive Raised : Features → Features → Prop
  | rs20 {features : Features} {old new : ℚ} : features.rs20dVsVnindex = some old → old ≤ new →
      Raised features {features with rs20dVsVnindex := some new}
  | rs60 {features : Features} {old new : ℚ} : features.rs60dVsVnindex = some old → old ≤ new →
      Raised features {features with rs60dVsVnindex := some new}
  | close {features : Features} {old new : ℚ} : features.close = some old → 0 < old → old ≤ new →
      Raised features {features with close := some new}
  | baseRange {features : Features} {old new : ℚ} : features.baseRange30d = some old → new ≤ old →
      Raised features {features with baseRange30d := some new}

variable {old new : ℚ} {other : Option ℚ}

theorem above_left (ordered : old ≤ new) (held : above (some old) other = true) : above (some new) other = true := by
  cases other with
  | none => cases held
  | some other =>
    simp only [above,decide_eq_true_eq] at held ⊢
    exact held.trans_le ordered

theorem above_right (ordered : new ≤ old) (held : above other (some old) = true) : above other (some new) = true := by
  cases other with
  | none => cases held
  | some other =>
    simp only [above,decide_eq_true_eq] at held ⊢
    exact ordered.trans_lt held

variable {features : Features}

-- A higher close never turns the share of the range in it into a flag.
theorem highAtr_lowered (read : features.close = some old) (positive : 0 < old)
    (ordered : old ≤ new) (held : detectHighAtr {features with close := some new} = true) : detectHighAtr features = true := by
  unfold detectHighAtr at held ⊢
  rw [read]
  cases range : features.atr14 with
  | none =>
    rw [range] at held
    cases held
  | some atr =>
    have larger : 0 < new := positive.trans_le ordered
    simp only [range,larger.ne',positive.ne',if_false,decide_eq_true_eq] at held ⊢
    have gained : 0 < atr := by
      by_contra lost
      have spent := div_nonpos_of_nonpos_of_nonneg (not_lt.mp lost) larger.le
      linarith
    exact held.trans_le (div_le_div_of_nonneg_left gained.le positive ordered)

theorem flags_lowered (read : features.close = some old) (positive : 0 < old) (ordered : old ≤ new) :
    (computeRiskFlags {features with close := some new}).length ≤ (computeRiskFlags features).length := by
  have fewer : (if detectHighAtr {features with close := some new} then [RiskFlag.highAtr] else []).length ≤
      (if detectHighAtr features then [RiskFlag.highAtr] else []).length := by
    split_ifs with flagged before
    · exact le_rfl
    · exact absurd (highAtr_lowered read positive ordered flagged) before
    · exact Nat.zero_le _
    · exact le_rfl
  unfold computeRiskFlags
  simp only [List.length_append]
  have others : detectThinVolume {features with close := some new} = detectThinVolume features ∧
      detectOverbought {features with close := some new} = detectOverbought features ∧
      detectExtendedFromMa {features with close := some new} = detectExtendedFromMa features ∧
      detectNearResistance {features with close := some new} = detectNearResistance features := ⟨rfl,rfl,rfl,rfl⟩
  rw [others.1,others.2.1,others.2.2.1,others.2.2.2]
  omega

def Outlives (earlier later : ℚ × Bool) : Prop :=
  earlier.1 = later.1 ∧ 0 ≤ earlier.1 ∧ (earlier.2 = true → later.2 = true)

theorem weighted_mono (kept : List.Forall₂ Outlives first second) : weighted first ≤ weighted second := by
  apply blend_mono
  rw [List.forall₂_map_left_iff,List.forall₂_map_right_iff]
  apply kept.imp
  rintro ⟨weight,rule⟩ ⟨other,stays⟩ ⟨same,nonneg,holds⟩
  refine ⟨same,nonneg,?_⟩
  cases rule with
  | false => simp
  | true =>
    have lasting : stays = true := holds rfl
    simp [lasting]

structure Dominates (policy : ScoringPolicy) (earlier later : Features) : Prop where
  trend : computeTrendScore policy earlier ≤ computeTrendScore policy later
  relativeStrength : computeRelativeStrengthScore policy earlier ≤ computeRelativeStrengthScore policy later
  volume : computeVolumeScore policy earlier ≤ computeVolumeScore policy later
  base : computeBaseScore policy earlier ≤ computeBaseScore policy later
  breakout : computeBreakoutScore policy earlier ≤ computeBreakoutScore policy later
  riskQuality : computeRiskQualityScore policy earlier ≤ computeRiskQualityScore policy later

section monotone
variable {policy : ScoringPolicy} (balanced : policy.Balanced)
include balanced

theorem normalized_mono (ordered : old ≤ new) : normalizedStrength policy old ≤ normalizedStrength policy new := by
  have range := balanced.strengthRange
  apply clamp_mono
  gcongr

variable {earlier later : Features}

theorem raised_dominates (raised : Raised earlier later) : Dominates policy earlier later := by
  have strengths := balanced.relativeStrength.nonneg
  have trends := balanced.trendRules.nonneg
  have breakouts := balanced.breakoutRules.nonneg
  simp only [List.mem_cons,List.not_mem_nil,or_false,forall_eq_or_imp,forall_eq] at strengths trends breakouts
  cases raised with
  | rs20 read ordered =>
    refine ⟨le_rfl,?_,le_rfl,le_rfl,le_rfl,le_rfl⟩
    simp only [computeRelativeStrengthScore,read,Option.getD_some]
    have grown := normalized_mono balanced ordered
    have weight := strengths.1
    gcongr
  | rs60 read ordered =>
    refine ⟨le_rfl,?_,le_rfl,le_rfl,le_rfl,le_rfl⟩
    simp only [computeRelativeStrengthScore,read,Option.getD_some]
    have grown := normalized_mono balanced ordered
    have weight := strengths.2
    gcongr
  | close read positive ordered =>
    refine ⟨?_,le_rfl,le_rfl,le_rfl,le_rfl,?_⟩
    · apply weighted_mono
      refine .cons ⟨rfl,trends.1,?_⟩ (.cons ⟨rfl,trends.2.1,?_⟩ (.cons ⟨rfl,trends.2.2.1,id⟩
        (.cons ⟨rfl,trends.2.2.2.1,id⟩ (.cons ⟨rfl,trends.2.2.2.2,id⟩ .nil))))
      · intro held
        simp only [rulePriceAboveMa20,read] at held ⊢
        exact above_left ordered held
      · intro held
        simp only [rulePriceAboveMa50,read] at held ⊢
        exact above_left ordered held
    · have fewer := flags_lowered read positive ordered
      have penalty := balanced.penalty
      unfold computeRiskQualityScore
      gcongr
  | baseRange read ordered =>
    have range := balanced.baseRange
    refine ⟨le_rfl,le_rfl,le_rfl,?_,?_,le_rfl⟩
    · simp only [computeBaseScore,read,Option.getD_some]
      apply clamp_mono
      gcongr
    · apply weighted_mono
      refine .cons ⟨rfl,breakouts.1,id⟩ (.cons ⟨rfl,breakouts.2.1,id⟩ (.cons ⟨rfl,breakouts.2.2.1,id⟩
        (.cons ⟨rfl,breakouts.2.2.2,?_⟩ .nil)))
      intro held
      simp only [ruleBaseCompression,read] at held ⊢
      exact above_right ordered held

theorem score_mono (raised : Raised earlier later) : weightedScore policy earlier ≤ weightedScore policy later := by
  obtain ⟨trend,relativeStrength,volume,base,breakout,riskQuality⟩ := raised_dominates balanced raised
  have weights := balanced.weights.nonneg
  simp only [List.mem_cons,List.not_mem_nil,or_false,forall_eq_or_imp,forall_eq] at weights
  obtain ⟨one,two,three,four,five,six⟩ := weights
  apply blend_mono
  exact .cons ⟨rfl,one,trend⟩ (.cons ⟨rfl,two,relativeStrength⟩ (.cons ⟨rfl,three,volume⟩ (.cons ⟨rfl,four,base⟩
    (.cons ⟨rfl,five,breakout⟩ (.cons ⟨rfl,six,riskQuality⟩ .nil)))))

end monotone

/- The class is the number of thresholds that a score has reached. -/

def CandidateClass.strength : CandidateClass → Nat
  | .ignore => 0
  | .weak => 1
  | .watch => 2
  | .strong => 3

def ScoringPolicy.marks (policy : ScoringPolicy) : List ℚ :=
  [policy.payload.candidateThresholds.strong,policy.payload.candidateThresholds.watch,policy.payload.candidateThresholds.weak]

variable {policy : ScoringPolicy}

theorem strength_reached (ordered : policy.marks.Pairwise (fun upper lower => lower ≤ upper)) (score : ℚ) :
    (classifyCandidate score policy).strength = policy.marks.countP (fun mark => mark ≤ score) := by
  simp only [ScoringPolicy.marks,List.pairwise_cons,List.mem_cons,List.not_mem_nil,or_false,forall_eq_or_imp,forall_eq] at ordered
  obtain ⟨⟨strongWatch,_⟩,watchWeak,_⟩ := ordered
  unfold classifyCandidate ScoringPolicy.marks
  split_ifs with strong watch weak
  · have watch := strongWatch.trans strong
    simp [strong,watch,watchWeak.trans watch,CandidateClass.strength]
  · simp [strong,watch,watchWeak.trans watch,CandidateClass.strength]
  · simp [strong,watch,weak,CandidateClass.strength]
  · simp [strong,watch,weak,CandidateClass.strength]

theorem countP_grows {values : List α} (kept : ∀ value ∈ values, p value = true → q value = true)
    (member : added ∈ values) (before : p added = false) (after : q added = true) : values.countP p < values.countP q := by
  induction values with
  | nil => cases member
  | cons value rest ih =>
    have later : ∀ other ∈ rest, p other = true → q other = true := fun other present => kept other (List.mem_cons_of_mem _ present)
    rcases List.mem_cons.mp member with rfl | inside
    · have monotone := List.countP_mono_left later
      simp only [List.countP_cons,before,after,if_true]
      simp
      omega
    · have less := ih later inside
      simp only [List.countP_cons]
      cases held : p value with
      | false => simp; omega
      | true => simp [kept value List.mem_cons_self held,less]

theorem strength_injective : Function.Injective CandidateClass.strength := by
  intro one other same
  cases one <;> cases other <;> first | rfl | cases same

-- A class is weaker where a threshold lies above the one score and not above the other.
theorem weaker_between (ordered : policy.marks.Pairwise (fun upper lower => lower ≤ upper))
    (first second : ℚ) : (classifyCandidate first policy).strength < (classifyCandidate second policy).strength ↔
      ∃ mark ∈ policy.marks, first < mark ∧ mark ≤ second := by
  rw [strength_reached ordered,strength_reached ordered]
  constructor
  · intro fewer
    by_contra none'
    push Not at none'
    apply fewer.not_ge
    apply List.countP_mono_left
    intro mark present reached
    by_contra missed
    simp only [decide_eq_true_eq,not_le] at reached missed
    exact absurd reached (none' mark present missed).not_ge
  · rintro ⟨mark,present,missed,reached⟩
    apply countP_grows _ present (by simp [missed]) (by simp [reached])
    intro other _ below
    simp only [decide_eq_true_eq] at below ⊢
    exact (below.trans missed.le).trans reached

/- The thresholds of the baseline are even marks of the grid of the stored scores. -/

theorem baseline_ordered : baselineScoringPolicy.marks.Pairwise (fun upper lower => lower ≤ upper) := by
  decide +kernel

theorem baseline_mark {mark : ℚ} (present : mark ∈ baselineScoringPolicy.marks) :
    ∃ grid : ℤ, Even grid ∧ mark = grid / 10 ^ 4 := by
  simp only [ScoringPolicy.marks,baseline_payload,baselinePayload,List.mem_cons,List.not_mem_nil,or_false] at present
  rcases present with rfl | rfl | rfl
  · exact ⟨7000,⟨3500,by norm_num⟩,by norm_num⟩
  · exact ⟨5000,⟨2500,by norm_num⟩,by norm_num⟩
  · exact ⟨3000,⟨1500,by norm_num⟩,by norm_num⟩

section marks
variable {mark : ℚ} (present : mark ∈ baselineScoringPolicy.marks) (score : ℚ)
include present

theorem mark_le_rounded : mark ≤ HalfEven.roundTo 4 score ↔ mark - 1 / 20000 ≤ score := by
  obtain ⟨grid,even,rfl⟩ := baseline_mark present
  rw [HalfEven.even_mark_le_roundTo even]
  norm_num

theorem mark_lt_rounded : mark < HalfEven.roundTo 4 score ↔ mark + 1 / 20000 < score := by
  obtain ⟨grid,even,rfl⟩ := baseline_mark present
  rw [HalfEven.even_mark_lt_roundTo even]
  norm_num

end marks

-- Rounding reaches every threshold that the score has reached, so the class of the
-- stored score is never the weaker one.
theorem rounded_class (score : ℚ) :
    classifyCandidate score baselineScoringPolicy = classifyCandidate (HalfEven.roundTo 4 score) baselineScoringPolicy ↔
      ¬ ∃ mark ∈ baselineScoringPolicy.marks, mark - 1 / 20000 ≤ score ∧ score < mark := by
  have stronger : ¬ (classifyCandidate (HalfEven.roundTo 4 score) baselineScoringPolicy).strength <
      (classifyCandidate score baselineScoringPolicy).strength := by
    rw [weaker_between baseline_ordered]
    rintro ⟨mark,present,missed,reached⟩
    rw [← not_le,mark_le_rounded present] at missed
    linarith
  have weaker := weaker_between baseline_ordered score (HalfEven.roundTo 4 score)
  have crossed : (∃ mark ∈ baselineScoringPolicy.marks, mark - 1 / 20000 ≤ score ∧ score < mark) ↔
      ∃ mark ∈ baselineScoringPolicy.marks, score < mark ∧ mark ≤ HalfEven.roundTo 4 score := by
    apply exists_congr
    intro mark
    apply and_congr_right
    intro present
    rw [mark_le_rounded present,and_comm]
  rw [crossed,← weaker,← strength_injective.eq_iff]
  omega

-- Two scores whose stored order runs against their classes are both stored as one threshold.
theorem inverted_classes (first second : ℚ) : HalfEven.roundTo 4 second ≤ HalfEven.roundTo 4 first ∧
        (classifyCandidate first baselineScoringPolicy).strength < (classifyCandidate second baselineScoringPolicy).strength ↔
      ∃ mark ∈ baselineScoringPolicy.marks, mark - 1 / 20000 ≤ first ∧ first < mark ∧ mark ≤ second ∧
        second ≤ mark + 1 / 20000 := by
  rw [weaker_between baseline_ordered]
  constructor
  · rintro ⟨stored,mark,present,missed,reached⟩
    have lower : mark ≤ HalfEven.roundTo 4 second := (mark_le_rounded present second).mpr (by linarith)
    have upper : ¬ mark < HalfEven.roundTo 4 first := by
      rw [mark_lt_rounded present]
      linarith
    have close : ¬ mark < HalfEven.roundTo 4 second := fun passed => upper (passed.trans_le stored)
    rw [mark_lt_rounded present] at close
    exact ⟨mark,present,(mark_le_rounded present first).mp (lower.trans stored),missed,reached,not_lt.mp close⟩
  · rintro ⟨mark,present,near,missed,reached,close⟩
    refine ⟨?_,mark,present,missed,reached⟩
    have lower : mark ≤ HalfEven.roundTo 4 first := (mark_le_rounded present first).mpr near
    have upper : ¬ mark < HalfEven.roundTo 4 second := by
      rw [mark_lt_rounded present]
      exact not_lt.mpr close
    exact (not_lt.mp upper).trans lower

/- The score of the baseline in hundredths, read off the features. -/

def held (rules : List Bool) : Nat := (rules.map Bool.toNat).sum

def trendRules (features : Features) : List Bool :=
  [rulePriceAboveMa20 features,rulePriceAboveMa50 features,ruleMa20AboveMa50 features,ruleMa50AboveMa100 features,
   rulePositiveMa20Slope features]

def breakoutRules (features : Features) : List Bool :=
  [ruleNear52wHigh features (-5 / 100),ruleCloseNearHigh features (70 / 100),ruleVolumeExpansion features (120 / 100),
   ruleBaseCompression features (8 / 100)]

def points (features : Features) : ℚ :=
  6 * held (trendRules features) + 25 / 2 * clamp (10 * features.rs20dVsVnindex.getD 0 + 1 / 2) +
    25 / 2 * clamp (10 * features.rs60dVsVnindex.getD 0 + 1 / 2) + 15 * clamp (features.volumeRatio.getD 1 / 2) +
    10 * clamp (1 - 20 / 3 * features.baseRange30d.getD (15 / 100)) + 5 / 2 * held (breakoutRules features) +
    (10 - 2 * (computeRiskFlags features).length)

variable (features : Features)

theorem flags_at_most : (computeRiskFlags features).length ≤ 5 := by
  unfold computeRiskFlags
  simp only [List.length_append]
  have single : ∀ (flagged : Bool) (flag : RiskFlag), (if flagged then [flag] else []).length ≤ 1 := by
    intro flagged flag
    cases flagged <;> simp
  have thin := single (detectThinVolume features) .thinVolume
  have atr := single (detectHighAtr features) .highAtr
  have overbought := single (detectOverbought features) .overbought
  have extended := single (detectExtendedFromMa features) .extendedFromMa
  have resistance := single (detectNearResistance features) .nearResistance
  omega

theorem weighted_equal (weight : ℚ) (rules : List Bool) :
    weighted (rules.map (fun rule => (weight,rule))) = weight * held rules := by
  unfold weighted blend held
  induction rules with
  | nil => simp
  | cons rule rest ih =>
    simp only [List.map_cons,List.sum_cons,Nat.cast_add] at ih ⊢
    rw [ih]
    ring

theorem score_points : weightedScore baselineScoringPolicy features = points features / 100 := by
  have trend : computeTrendScore baselineScoringPolicy features = 20 / 100 * held (trendRules features) :=
    weighted_equal (20 / 100) (trendRules features)
  have breakout : computeBreakoutScore baselineScoringPolicy features = 25 / 100 * held (breakoutRules features) :=
    weighted_equal (25 / 100) (breakoutRules features)
  have flags : ((computeRiskFlags features).length : ℚ) ≤ 5 := by exact_mod_cast flags_at_most features
  have riskQuality : computeRiskQualityScore baselineScoringPolicy features = 1 - (computeRiskFlags features).length * (20 / 100) := by
    simp only [computeRiskQualityScore,baseline_payload,baselinePayload]
    exact max_eq_right (by linarith)
  have normalized : ∀ strength, normalizedStrength baselineScoringPolicy strength = clamp (10 * strength + 1 / 2) := by
    intro strength
    simp only [normalizedStrength,baseline_payload,baselinePayload]
    congr 1
    ring
  have relativeStrength : computeRelativeStrengthScore baselineScoringPolicy features =
      50 / 100 * clamp (10 * features.rs20dVsVnindex.getD 0 + 1 / 2) +
        50 / 100 * clamp (10 * features.rs60dVsVnindex.getD 0 + 1 / 2) := by
    unfold computeRelativeStrengthScore
    rw [normalized,normalized]
    simp only [baseline_payload,baselinePayload]
  have base : computeBaseScore baselineScoringPolicy features =
      clamp (1 - 20 / 3 * features.baseRange30d.getD (15 / 100)) := by
    simp only [computeBaseScore,baseline_payload,baselinePayload]
    congr 1
    ring
  unfold weightedScore points
  rw [trend,relativeStrength,base,breakout,riskQuality]
  simp only [blend,baseline_payload,baselinePayload,computeVolumeScore,List.map_cons,List.map_nil,List.sum_cons,List.sum_nil]
  ring

theorem mem_marks {mark : ℚ} : mark ∈ baselineScoringPolicy.marks ↔ mark * 100 ∈ ([70,50,30] : List ℚ) := by
  have scaled : ∀ threshold : ℚ, mark = threshold / 100 ↔ mark * 100 = threshold := by
    intro threshold
    rw [eq_div_iff (by norm_num)]
  simp only [ScoringPolicy.marks,baseline_payload,baselinePayload,List.mem_cons,List.not_mem_nil,or_false,scaled]

/- The law of the scores, and when the code keeps it. -/

section law
variable [PolicyHash]

def componentScores (features : Features) : List ℚ :=
  [computeTrendScore baselineScoringPolicy features,computeRelativeStrengthScore baselineScoringPolicy features,
   computeVolumeScore baselineScoringPolicy features,computeBaseScore baselineScoringPolicy features,
   computeBreakoutScore baselineScoringPolicy features,computeRiskQualityScore baselineScoringPolicy features]

def scored (features : Features) : ScoredCandidate := computeCompositeScore features baselineScoringPolicy

def ScoredCandidate.numbers (result : ScoredCandidate) : List ℚ :=
  [result.score,result.trendScore,result.relativeStrengthScore,result.volumeScore,result.baseScore,result.breakoutScore,
   result.riskQualityScore]

structure ScoreLaw (features : Features) : Prop where
  components : ∀ number ∈ weightedScore baselineScoringPolicy features :: componentScores features, number ∈ Set.Icc 0 1
  stored : ∀ number ∈ (scored features).numbers, number ∈ Set.Icc 0 1
  monotone : ∀ later, Raised features later →
    weightedScore baselineScoringPolicy features ≤ weightedScore baselineScoringPolicy later ∧
      (scored features).score ≤ (scored later).score
  agrees : (scored features).candidateClass = classifyCandidate (scored features).score baselineScoringPolicy

-- No row has at least the score of another and a strictly weaker class.
def ClassesFollow (first second : Features) : Prop :=
  ¬ ((scored second).score ≤ (scored first).score ∧
    (scored first).candidateClass.strength < (scored second).candidateClass.strength)

-- Less than half a step of the stored scores below a threshold.
def JustBelow (features : Features) : Prop :=
  ∃ mark ∈ ([70,50,30] : List ℚ), mark - 1 / 200 ≤ points features ∧ points features < mark

-- One below a threshold and one not, both within half a step of it.
def Straddle (first second : Features) : Prop :=
  ∃ mark ∈ ([70,50,30] : List ℚ), mark - 1 / 200 ≤ points first ∧ points first < mark ∧ mark ≤ points second ∧
    points second ≤ mark + 1 / 200

omit [PolicyHash] in
theorem components_unit :
    ∀ number ∈ weightedScore baselineScoringPolicy features :: componentScores features, number ∈ Set.Icc 0 1 := by
  intro number present
  simp only [componentScores,List.mem_cons,List.not_mem_nil,or_false] at present
  rcases present with rfl | rfl | rfl | rfl | rfl | rfl | rfl
  · exact score_unit baseline_balanced features
  · exact trend_unit baseline_balanced features
  · exact relativeStrength_unit baseline_balanced features
  · exact clamp_unit _
  · exact clamp_unit _
  · exact breakout_unit baseline_balanced features
  · exact riskQuality_unit baseline_balanced features

omit [PolicyHash] in
theorem rounded_unit {number : ℚ} (inside : number ∈ Set.Icc 0 1) : HalfEven.roundTo 4 number ∈ Set.Icc 0 1 := by
  have least := HalfEven.roundTo_mono 4 inside.1
  have most := HalfEven.roundTo_mono 4 inside.2
  have zero : HalfEven.roundTo 4 (0 : ℚ) = 0 := by
    have fixed : HalfEven.roundTo 4 ((0 : ℤ) / 10 ^ 4 : ℚ) = (0 : ℤ) / 10 ^ 4 := HalfEven.roundTo_even_mark ⟨0,rfl⟩ 4
    simpa using fixed
  have one : HalfEven.roundTo 4 (1 : ℚ) = 1 := by
    have fixed : HalfEven.roundTo 4 ((10000 : ℤ) / 10 ^ 4 : ℚ) = (10000 : ℤ) / 10 ^ 4 :=
      HalfEven.roundTo_even_mark ⟨5000,by norm_num⟩ 4
    norm_num at fixed
    exact fixed
  rw [zero] at least
  rw [one] at most
  exact ⟨least,most⟩

theorem stored_unit : ∀ number ∈ (scored features).numbers, number ∈ Set.Icc 0 1 := by
  have rounded : (scored features).numbers =
      (weightedScore baselineScoringPolicy features :: componentScores features).map (HalfEven.roundTo 4) := rfl
  rw [rounded]
  intro number present
  obtain ⟨exact',inside,rfl⟩ := List.mem_map.mp present
  exact rounded_unit (components_unit features exact' inside)

theorem class_agrees :
    (scored features).candidateClass = classifyCandidate (scored features).score baselineScoringPolicy ↔ ¬ JustBelow features := by
  have rounding := rounded_class (weightedScore baselineScoringPolicy features)
  have crossed : (∃ mark ∈ baselineScoringPolicy.marks, mark - 1 / 20000 ≤ weightedScore baselineScoringPolicy features ∧
      weightedScore baselineScoringPolicy features < mark) ↔ JustBelow features := by
    rw [score_points]
    constructor
    · rintro ⟨mark,present,near,missed⟩
      exact ⟨mark * 100,mem_marks.mp present,by linarith,by linarith⟩
    · rintro ⟨mark,present,near,missed⟩
      exact ⟨mark / 100,mem_marks.mpr (by simpa using present),by linarith,by linarith⟩
  rw [← crossed]
  exact rounding

theorem classes_follow (first second : Features) : ClassesFollow first second ↔ ¬ Straddle first second := by
  have inverted := inverted_classes (weightedScore baselineScoringPolicy first) (weightedScore baselineScoringPolicy second)
  rw [score_points,score_points] at inverted
  have crossed : (∃ mark ∈ baselineScoringPolicy.marks, mark - 1 / 20000 ≤ points first / 100 ∧ points first / 100 < mark ∧
      mark ≤ points second / 100 ∧ points second / 100 ≤ mark + 1 / 20000) ↔ Straddle first second := by
    constructor
    · rintro ⟨mark,present,near,missed,reached,close⟩
      exact ⟨mark * 100,mem_marks.mp present,by linarith,by linarith,by linarith,by linarith⟩
    · rintro ⟨mark,present,near,missed,reached,close⟩
      exact ⟨mark / 100,mem_marks.mpr (by simpa using present),by linarith,by linarith,by linarith,by linarith⟩
  unfold ClassesFollow
  rw [← crossed,← inverted,← score_points,← score_points]
  rfl

theorem score_law_exact : (∀ features, ScoreLaw features ↔ ¬ JustBelow features) ∧
    ∀ first second, ClassesFollow first second ↔ ¬ Straddle first second := by
  refine ⟨fun features => ⟨fun law => (class_agrees features).mp law.agrees,fun clear => ?_⟩,classes_follow⟩
  refine ⟨components_unit features,stored_unit features,?_,(class_agrees features).mpr clear⟩
  intro later raised
  have grown := score_mono baseline_balanced raised
  exact ⟨grown,HalfEven.roundTo_mono 4 grown⟩

end law

/- A score of 69.9965 hundredths is stored as the threshold it has not reached. -/

def sampleFeatures (volumeRatio : ℚ) : Features :=
  {close := some 100,ma20 := some 99,ma50 := some 98,ma100 := some 97,ma20Slope := some 1,volumeMa20 := some 200000,
   volumeRatio := some volumeRatio,atr14 := some 1,rs20dVsVnindex := some (5 / 100),rs60dVsVnindex := some (5 / 100),
   distanceToMa20 := some (1 / 100),distanceTo52wHigh := some (-10 / 100),baseRange30d := none,closeStrength := none}

theorem stored_above_class :
    (¬ ∀ features, @ScoreLaw samplePolicyHash features) ∧ ¬ ∀ first second, @ClassesFollow samplePolicyHash first second := by
  have below : (@scored samplePolicyHash (sampleFeatures (6662 / 10000))).score = 7 / 10 ∧
      (@scored samplePolicyHash (sampleFeatures (6662 / 10000))).candidateClass = .watch := by decide +kernel
  have reached : (@scored samplePolicyHash (sampleFeatures (2 / 3))).score = 7 / 10 ∧
      (@scored samplePolicyHash (sampleFeatures (2 / 3))).candidateClass = .strong := by decide +kernel
  constructor
  · intro claim
    have agrees := @ScoreLaw.agrees samplePolicyHash _ (claim (sampleFeatures (6662 / 10000)))
    rw [below.1,below.2] at agrees
    exact absurd agrees (by decide +kernel)
  · intro claim
    apply claim (sampleFeatures (6662 / 10000)) (sampleFeatures (2 / 3))
    rw [below.1,below.2,reached.1,reached.2]
    exact ⟨le_rfl,by decide⟩

end OpenStock.Ranking
