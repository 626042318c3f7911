import Mathlib.Probability.CDF
import Mathlib.Probability.Distributions.Gaussian.Real
import UrbanFlow.Core.Rounding

/-!
# The Latin-hypercube sampler

`inverse_cdf`, `_sample_factor` and `sample_conditions` over the reals. The normal law of a
mean and a deviation, the shuffles and the jitters are parameters. Against them stands the
law of a factor: its distribution conditioned on the bounds, as an order isomorphism
between the bounds and the probabilities.
-/

namespace UrbanFlow.Uncertainty
namespace Sampler

theorem atLeastTwo_two : Nat.AtLeastTwo 2 := ⟨le_rfl⟩

theorem atLeastTwo_ten : Nat.AtLeastTwo 10 := ⟨by decide⟩

theorem atLeastTwo_thousand : Nat.AtLeastTwo 1000 := ⟨by decide⟩

/-! ## Factors -/

/-- `NormalDist(mean, sd)`: `cdf` and `inv_cdf` are monotone and inverse to each other. -/
structure NormalDist where
  cdf : ℝ → ℝ
  invCdf : ℝ → ℝ
  cdf_mono : Monotone cdf
  cdf_mem : ∀ x, cdf x ∈ Set.Ioo 0 1
  invCdf_cdf : ∀ x, invCdf (cdf x) = x
  cdf_invCdf : ∀ p ∈ Set.Ioo (0 : ℝ) 1, cdf (invCdf p) = p

/-- A deviation, as the specification accepts one. -/
abbrev Deviation := {sd : ℝ // 0 < sd}

inductive Distribution
  | uniform
  | triangular (mode : ℝ)
  | truncatedNormal (mean : ℝ) (sd : Deviation)
  | lognormal (mu : ℝ) (sigma : Deviation)

section

attribute [local instance] atLeastTwo_thousand

/-- What the specification asks of a distribution with its bounds. -/
def Distribution.Accepts (normal : ℝ → Deviation → NormalDist) (low high : ℝ) : Distribution → Prop
  | uniform => True
  | triangular mode => low ≤ mode ∧ mode ≤ high
  | truncatedNormal mean sd => 1 / 1000 ≤ (normal mean sd).cdf high - (normal mean sd).cdf low
  | lognormal mu sigma =>
    0 < low ∧ 1 / 1000 ≤
      (normal mu sigma).cdf (Real.log high) - (normal mu sigma).cdf (Real.log low)

end

/-- `Factor`, as far as the sampler reads it. -/
structure Factor (normal : ℝ → Deviation → NormalDist) where
  id : String
  distribution : Distribution
  low : ℝ
  high : ℝ
  ordered : low < high
  accepted : distribution.Accepts normal low high

/-! ## The sampler -/

section

attribute [local instance] atLeastTwo_ten

noncomputable def edge : ℝ := 1 / 10 ^ 12

noncomputable def clamp01 (p : ℝ) : ℝ := min (max p edge) (1 - edge)

noncomputable def inverseCdf (normal : ℝ → Deviation → NormalDist) (distribution : Distribution)
    (low high u : ℝ) : ℝ :=
  let u := clamp01 u
  match distribution with
  | .uniform => low + u * (high - low)
  | .triangular mode =>
    let fc := (mode - low) / (high - low)
    if u < fc then low + Real.sqrt (u * (high - low) * (mode - low))
    else high - Real.sqrt ((1 - u) * (high - low) * (high - mode))
  | .truncatedNormal mean sd =>
    let dist := normal mean sd
    let loP := dist.cdf low
    let hiP := dist.cdf high
    dist.invCdf (clamp01 (loP + u * (hiP - loP)))
  | .lognormal mu sigma =>
    let dist := normal mu sigma
    let loP := dist.cdf (Real.log low)
    let hiP := dist.cdf (Real.log high)
    Real.exp (dist.invCdf (clamp01 (loP + u * (hiP - loP))))

/-- `round(value, VALUE_DECIMALS)`. -/
noncomputable def rounded (value : ℝ) : ℝ := nearestDecimal 10 value 6

end

/-- What the generators draw for a seed and a factor: `shuffle` leaves a permutation of
the strata, `random` a number below one for each. -/
structure Draws where
  shuffled : Nat → String → (n : Nat) → Equiv.Perm (Fin n)
  jitter : Nat → String → Nat → Set.Ico (0 : ℝ) 1

/-- `UncertaintySpec`, as far as the sampler reads it. -/
structure UncertaintySpec (normal : ℝ → Deviation → NormalDist) where
  factors : List (Factor normal)
  conditions : Nat
  replications : Nat
  seed : Nat
  conditionsValid : 1 ≤ conditions ∧ conditions ≤ 1000
  uniqueIds : (factors.map Factor.id).Nodup

structure Condition where
  index : Nat
  values : List (String × ℝ)
  strata : List (String × Nat)
  seeds : List Nat

variable {normal : ℝ → Deviation → NormalDist}

section

variable (draws : Draws)

/-- The probability that is drawn in a stratum. -/
noncomputable def jittered (seed : Nat) (factor : String) (n : Nat) (i : Fin n) : ℝ :=
  ((draws.shuffled seed factor n i : ℕ) + (draws.jitter seed factor i : ℝ)) / n

/-- `_sample_factor`: the value and the stratum of a condition. -/
noncomputable def sampleFactor (factor : Factor normal) (n seed : Nat) (i : Fin n) : ℝ × Fin n :=
  let stratum := draws.shuffled seed factor.id n i
  let u := jittered draws seed factor.id n i
  let value := rounded (inverseCdf normal factor.distribution factor.low factor.high u)
  (min (max value factor.low) factor.high, stratum)

noncomputable def sampleConditions (deriveSeed : Nat → Nat → Nat → Nat)
    (spec : UncertaintySpec normal) : List Condition :=
  (List.finRange spec.conditions).map fun i : Fin spec.conditions =>
    { index := i
      values := spec.factors.map fun factor =>
        (factor.id, (sampleFactor draws factor spec.conditions spec.seed i).1)
      strata := spec.factors.map fun factor =>
        (factor.id, (sampleFactor draws factor spec.conditions spec.seed i).2)
      seeds := (List.range spec.replications).map (deriveSeed spec.seed i) }

end

/-! ## The law of a factor -/

/-- A law on its bounds: every probability has one quantile. -/
abbrev BoundedLaw (low high : ℝ) := Set.Icc low high ≃o Set.Icc (0 : ℝ) 1

/-- A law from its distribution function and its quantiles. -/
noncomputable def BoundedLaw.of {low high : ℝ} (cumulative quantile : ℝ → ℝ)
    (isInside : ∀ v ∈ Set.Icc low high, cumulative v ∈ Set.Icc 0 1)
    (isStrict : StrictMonoOn cumulative (Set.Icc low high))
    (isBetween : ∀ q ∈ Set.Icc 0 1, quantile q ∈ Set.Icc low high)
    (isInverse : ∀ q ∈ Set.Icc 0 1, cumulative (quantile q) = q) : BoundedLaw low high :=
  StrictMono.orderIsoOfRightInverse (fun v => ⟨cumulative v, isInside v v.2⟩)
    (fun v w less => isStrict v.2 w.2 less)
    (fun q => ⟨quantile q, isBetween q q.2⟩)
    (fun q => Subtype.ext (isInverse q q.2))

/-! ### The uniform law -/

section

variable {low high : ℝ}

noncomputable def uniformCumulative (low high v : ℝ) : ℝ := (v - low) / (high - low)

noncomputable def uniformQuantile (low high q : ℝ) : ℝ := low + q * (high - low)

noncomputable def uniformLaw (isOrdered : low < high) : BoundedLaw low high :=
  BoundedLaw.of (uniformCumulative low high) (uniformQuantile low high) (by
      intro v isInside
      have isWide := sub_pos.mpr isOrdered
      exact ⟨div_nonneg (sub_nonneg.mpr isInside.1) isWide.le,
        (div_le_one isWide).mpr (sub_le_sub_right isInside.2 low)⟩)
    (by
      intro v _ w _ less
      exact div_lt_div_of_pos_right (sub_lt_sub_right less low) (sub_pos.mpr isOrdered))
    (by
      intro q isInside
      have isWide := sub_pos.mpr isOrdered
      have isAbove := mul_nonneg isInside.1 isWide.le
      have isBelow := mul_le_of_le_one_left isWide.le isInside.2
      unfold uniformQuantile
      constructor <;> linarith)
    (by
      intro q _
      have isWide := sub_pos.mpr isOrdered
      unfold uniformCumulative uniformQuantile
      field_simp
      ring)

/-! ### The triangular law -/

noncomputable def triangularCumulative (low mode high v : ℝ) : ℝ :=
  if v < mode then (v - low) ^ 2 / ((high - low) * (mode - low))
  else 1 - (high - v) ^ 2 / ((high - low) * (high - mode))

noncomputable def triangularQuantile (low mode high q : ℝ) : ℝ :=
  if q < (mode - low) / (high - low) then low + Real.sqrt (q * (high - low) * (mode - low))
  else high - Real.sqrt ((1 - q) * (high - low) * (high - mode))

variable {mode : ℝ}

section

variable (isOrdered : low < high)

include isOrdered

theorem triangularCumulative_below {v : ℝ} (isAbove : low ≤ v) (isBelow : v < mode) :
    0 ≤ triangularCumulative low mode high v ∧
      triangularCumulative low mode high v < (mode - low) / (high - low) := by
  have isWide := sub_pos.mpr isOrdered
  have isMode : 0 < mode - low := by linarith
  rw [triangularCumulative, if_pos isBelow]
  refine ⟨by positivity, ?_⟩
  rw [div_lt_div_iff₀ (by positivity) isWide]
  have isLess : (v - low) ^ 2 < (mode - low) ^ 2 := by nlinarith
  nlinarith

theorem triangularCumulative_above {v : ℝ} (isAbove : mode ≤ v) (isBelow : v ≤ high) :
    (mode - low) / (high - low) ≤ triangularCumulative low mode high v ∧
      triangularCumulative low mode high v ≤ 1 := by
  have isWide := sub_pos.mpr isOrdered
  rw [triangularCumulative, if_neg (not_lt.mpr isAbove)]
  have isRest : 0 ≤ high - mode := by linarith
  constructor
  · obtain isLess | isEnd := isRest.lt_or_eq
    · have isFraction : (high - v) ^ 2 / ((high - low) * (high - mode)) ≤
          (high - mode) / (high - low) := by
        rw [div_le_div_iff₀ (by positivity) isWide]
        have isLess : (high - v) ^ 2 ≤ (high - mode) ^ 2 := by nlinarith
        nlinarith
      have isSplit : (mode - low) / (high - low) = 1 - (high - mode) / (high - low) := by
        field_simp
        ring
      linarith
    · have isMode : mode - low = high - low := by linarith
      rw [← isEnd, mul_zero, div_zero, sub_zero, isMode, div_self isWide.ne']
  · have isFraction : 0 ≤ (high - v) ^ 2 / ((high - low) * (high - mode)) := by positivity
    linarith

theorem triangularCumulative_strictMono :
    StrictMonoOn (triangularCumulative low mode high) (Set.Icc low high) := by
  intro v isV w isW less
  have isWide := sub_pos.mpr isOrdered
  by_cases isBelow : w < mode
  · rw [triangularCumulative, triangularCumulative, if_pos isBelow, if_pos (less.trans isBelow)]
    have isMode : 0 < mode - low := by linarith [isW.1]
    have isLess : (v - low) ^ 2 < (w - low) ^ 2 := by nlinarith [isV.1]
    exact div_lt_div_of_pos_right isLess (by positivity)
  · by_cases isBelow' : v < mode
    · exact (triangularCumulative_below isOrdered isV.1 isBelow').2.trans_le
        (triangularCumulative_above isOrdered (not_lt.mp isBelow) isW.2).1
    · rw [triangularCumulative, triangularCumulative, if_neg isBelow, if_neg isBelow']
      have isRest : 0 < high - mode := by linarith [isW.2, not_lt.mp isBelow']
      have isLess : (high - w) ^ 2 < (high - v) ^ 2 := by nlinarith [isW.2]
      exact sub_lt_sub_left (div_lt_div_of_pos_right isLess (by positivity)) 1

theorem triangularQuantile_below {q : ℝ} (isNonneg : 0 ≤ q)
    (isBelow : q < (mode - low) / (high - low)) :
    triangularQuantile low mode high q ∈ Set.Ico low mode ∧
      triangularCumulative low mode high (triangularQuantile low mode high q) = q := by
  have isWide := sub_pos.mpr isOrdered
  have isArea : q * (high - low) < mode - low := (lt_div_iff₀ isWide).mp isBelow
  have isMode : 0 < mode - low := lt_of_le_of_lt (by positivity) isArea
  have isRoot : Real.sqrt (q * (high - low) * (mode - low)) < mode - low := by
    rw [Real.sqrt_lt' isMode]
    nlinarith
  have isInside : triangularQuantile low mode high q ∈ Set.Ico low mode := by
    rw [triangularQuantile, if_pos isBelow]
    exact ⟨le_add_of_nonneg_right (Real.sqrt_nonneg _), by linarith⟩
  refine ⟨isInside, ?_⟩
  rw [triangularCumulative, if_pos isInside.2, triangularQuantile, if_pos isBelow,
    add_sub_cancel_left, Real.sq_sqrt (by positivity)]
  field_simp

theorem triangularQuantile_above (isMode : mode ≤ high) {q : ℝ}
    (isAbove : (mode - low) / (high - low) ≤ q) (isAtMost : q ≤ 1) :
    triangularQuantile low mode high q ∈ Set.Icc mode high ∧
      triangularCumulative low mode high (triangularQuantile low mode high q) = q := by
  have isWide := sub_pos.mpr isOrdered
  have isArea : mode - low ≤ q * (high - low) := (div_le_iff₀ isWide).mp isAbove
  have isRest : 0 ≤ high - mode := sub_nonneg.mpr isMode
  have isLeft : 0 ≤ 1 - q := sub_nonneg.mpr isAtMost
  have isRoot : Real.sqrt ((1 - q) * (high - low) * (high - mode)) ≤ high - mode := by
    rw [Real.sqrt_le_left isRest]
    nlinarith
  have isInside : triangularQuantile low mode high q ∈ Set.Icc mode high := by
    rw [triangularQuantile, if_neg (not_lt.mpr isAbove)]
    exact ⟨by linarith, sub_le_self high (Real.sqrt_nonneg _)⟩
  refine ⟨isInside, ?_⟩
  rw [triangularCumulative, if_neg (not_lt.mpr isInside.1), triangularQuantile,
    if_neg (not_lt.mpr isAbove), sub_sub_cancel, Real.sq_sqrt (by positivity)]
  obtain isLess | isEnd := isRest.lt_or_eq
  · field_simp
    ring
  · have isOne : q = 1 := by
      apply le_antisymm isAtMost
      have isSame : mode - low = high - low := by linarith
      rwa [isSame, div_self isWide.ne'] at isAbove
    rw [isOne, ← isEnd]
    simp

theorem mode_mem_fraction (isInside : low ≤ mode ∧ mode ≤ high) :
    0 ≤ (mode - low) / (high - low) ∧ (mode - low) / (high - low) ≤ 1 := by
  have isWide := sub_pos.mpr isOrdered
  exact ⟨div_nonneg (sub_nonneg.mpr isInside.1) isWide.le,
    (div_le_one isWide).mpr (sub_le_sub_right isInside.2 low)⟩

end

section

variable (isOrdered : low < high) (isMode : low ≤ mode ∧ mode ≤ high)

include isOrdered isMode

theorem triangularCumulative_mem {v : ℝ} (isInside : v ∈ Set.Icc low high) :
    triangularCumulative low mode high v ∈ Set.Icc 0 1 := by
  have isFraction := mode_mem_fraction isOrdered isMode
  obtain isBelow | isAbove := lt_or_ge v mode
  · have isHere := triangularCumulative_below isOrdered isInside.1 isBelow
    exact ⟨isHere.1, isHere.2.le.trans isFraction.2⟩
  · have isHere := triangularCumulative_above isOrdered isAbove isInside.2
    exact ⟨isFraction.1.trans isHere.1, isHere.2⟩

theorem triangularQuantile_spec {q : ℝ} (isInside : q ∈ Set.Icc (0 : ℝ) 1) :
    triangularQuantile low mode high q ∈ Set.Icc low high ∧
      triangularCumulative low mode high (triangularQuantile low mode high q) = q := by
  obtain isBelow | isAbove := lt_or_ge q ((mode - low) / (high - low))
  · obtain ⟨isHere, isInverse⟩ := triangularQuantile_below isOrdered isInside.1 isBelow
    exact ⟨⟨isHere.1, isHere.2.le.trans isMode.2⟩, isInverse⟩
  · obtain ⟨isHere, isInverse⟩ := triangularQuantile_above isOrdered isMode.2 isAbove isInside.2
    exact ⟨⟨isMode.1.trans isHere.1, isHere.2⟩, isInverse⟩

noncomputable def triangularLaw : BoundedLaw low high :=
  BoundedLaw.of (triangularCumulative low mode high) (triangularQuantile low mode high)
    (fun _ isInside => triangularCumulative_mem isOrdered isMode isInside)
    (triangularCumulative_strictMono isOrdered)
    (fun _ isInside => (triangularQuantile_spec isOrdered isMode isInside).1)
    (fun _ isInside => (triangularQuantile_spec isOrdered isMode isInside).2)

end

/-! ### The normal law within bounds -/

namespace NormalDist

variable (dist : NormalDist)

theorem cdf_strictMono : StrictMono dist.cdf :=
  dist.cdf_mono.strictMono_of_injective (Function.LeftInverse.injective dist.invCdf_cdf)

/-- Probabilities between those of two numbers have quantiles between them. -/
theorem invCdf_mem {low high p : ℝ} (isInside : p ∈ Set.Icc (dist.cdf low) (dist.cdf high)) :
    p ∈ Set.Ioo 0 1 ∧ dist.invCdf p ∈ Set.Icc low high := by
  have isOpen : p ∈ Set.Ioo 0 1 :=
    ⟨(dist.cdf_mem low).1.trans_le isInside.1, isInside.2.trans_lt (dist.cdf_mem high).2⟩
  rw [← dist.cdf_invCdf p isOpen] at isInside
  exact ⟨isOpen, dist.cdf_strictMono.le_iff_le.mp isInside.1,
    dist.cdf_strictMono.le_iff_le.mp isInside.2⟩

/-- The probability within the bounds. -/
def mass (low high : ℝ) : ℝ := dist.cdf high - dist.cdf low

/-- The distribution function, conditioned on the bounds. -/
noncomputable def conditional (low high v : ℝ) : ℝ :=
  (dist.cdf v - dist.cdf low) / dist.mass low high

/-- The quantiles of the law conditioned on the bounds. -/
noncomputable def quantile (low high q : ℝ) : ℝ :=
  dist.invCdf (dist.cdf low + q * dist.mass low high)

variable {low high : ℝ}

section

variable (isOrdered : low < high)

include isOrdered

theorem mass_pos : 0 < dist.mass low high := sub_pos.mpr (dist.cdf_strictMono isOrdered)

theorem share_mem {q : ℝ} (isInside : q ∈ Set.Icc (0 : ℝ) 1) :
    dist.cdf low + q * dist.mass low high ∈ Set.Icc (dist.cdf low) (dist.cdf high) := by
  have isPositive := dist.mass_pos isOrdered
  have isAbove := mul_nonneg isInside.1 isPositive.le
  have isBelow := mul_le_of_le_one_left isPositive.le isInside.2
  unfold mass at isAbove isBelow ⊢
  constructor <;> linarith

noncomputable def law : BoundedLaw low high :=
  BoundedLaw.of (dist.conditional low high) (dist.quantile low high) (by
      intro v isInside
      have isPositive := dist.mass_pos isOrdered
      exact ⟨div_nonneg (sub_nonneg.mpr (dist.cdf_mono isInside.1)) isPositive.le,
        (div_le_one isPositive).mpr (sub_le_sub_right (dist.cdf_mono isInside.2) _)⟩)
    (by
      intro v _ w _ less
      exact div_lt_div_of_pos_right (sub_lt_sub_right (dist.cdf_strictMono less) _)
        (dist.mass_pos isOrdered))
    (by
      intro q isInside
      exact (dist.invCdf_mem (dist.share_mem isOrdered isInside)).2)
    (by
      intro q isInside
      have isPositive := dist.mass_pos isOrdered
      have isOpen := (dist.invCdf_mem (dist.share_mem isOrdered isInside)).1
      rw [conditional, quantile, dist.cdf_invCdf _ isOpen, add_sub_cancel_left,
        mul_div_assoc, div_self isPositive.ne', mul_one])

end

end NormalDist

/-! ### The normal law of a mean and a deviation -/

section

open MeasureTheory ProbabilityTheory

variable (mean : ℝ) (sd : Deviation)

/-- The law that `NormalDist` is named after. -/
noncomputable def gaussianLaw : Measure ℝ := gaussianReal mean (Real.toNNReal sd ^ 2)

instance : IsProbabilityMeasure (gaussianLaw mean sd) :=
  inferInstanceAs (IsProbabilityMeasure (gaussianReal _ _))

theorem variance_ne_zero : Real.toNNReal sd ^ 2 ≠ 0 :=
  pow_ne_zero 2 (Real.toNNReal_pos.mpr sd.2).ne'

/-- Every interval has some probability. -/
theorem gaussian_strictMono : StrictMono (cdf (gaussianLaw mean sd)) := by
  intro x y less
  have isSplit : gaussianLaw mean sd (Set.Iic y) =
      gaussianLaw mean sd (Set.Iic x) + gaussianLaw mean sd (Set.Ioc x y) := by
    rw [← Set.Iic_union_Ioc_eq_Iic less.le,
      measure_union (Set.Iic_disjoint_Ioc le_rfl) measurableSet_Ioc]
  have isPositive : gaussianLaw mean sd (Set.Ioc x y) ≠ 0 := by
    intro isNull
    have volumeNull := gaussianReal_absolutelyContinuous' mean (variance_ne_zero sd) isNull
    rw [Real.volume_Ioc, ENNReal.ofReal_eq_zero] at volumeNull
    linarith
  rw [cdf_eq_real, cdf_eq_real, Measure.real, Measure.real, isSplit,
    ENNReal.toReal_add (measure_ne_top _ _) (measure_ne_top _ _)]
  exact lt_add_of_pos_right _ (ENNReal.toReal_pos isPositive (measure_ne_top _ _))

/-- No number has any. -/
theorem gaussian_continuous : Continuous (cdf (gaussianLaw mean sd)) := by
  rw [continuous_iff_continuousAt]
  intro x
  rw [(monotone_cdf _).continuousAt_iff_leftLim_eq_rightLim, StieltjesFunction.rightLim_eq]
  have isNull : gaussianLaw mean sd {x} = 0 := by
    have noAtoms : NullSingletonClass (gaussianLaw mean sd) :=
      nullSingletonClass_gaussianReal (variance_ne_zero sd)
    exact measure_singleton x
  have isJump := (cdf (gaussianLaw mean sd)).measure_singleton x
  rw [measure_cdf, isNull] at isJump
  have isSmall := ENNReal.ofReal_eq_zero.mp isJump.symm
  exact le_antisymm ((monotone_cdf _).leftLim_le le_rfl) (by linarith)

/-- Every probability strictly between zero and one has a quantile. -/
theorem gaussian_surjective {p : ℝ} (isOpen : p ∈ Set.Ioo (0 : ℝ) 1) :
    ∃ x, cdf (gaussianLaw mean sd) x = p := by
  have isMem : p ∈ Set.range (cdf (gaussianLaw mean sd)) := by
    apply mem_range_of_exists_le_of_exists_ge (gaussian_continuous mean sd)
    · obtain ⟨x, isBelow⟩ :=
        ((tendsto_cdf_atBot (gaussianLaw mean sd)).eventually_lt_const isOpen.1).exists
      exact ⟨x, isBelow.le⟩
    · obtain ⟨x, isAbove⟩ :=
        ((tendsto_cdf_atTop (gaussianLaw mean sd)).eventually_const_lt isOpen.2).exists
      exact ⟨x, isAbove.le⟩
  exact isMem

/-- The normal law has the distribution function and the quantiles of a `NormalDist`. -/
noncomputable def gaussian : NormalDist where
  cdf := cdf (gaussianLaw mean sd)
  invCdf := Function.invFun (cdf (gaussianLaw mean sd))
  cdf_mono := monotone_cdf _
  cdf_mem x := by
    constructor
    · exact (cdf_nonneg _ (x - 1)).trans_lt (gaussian_strictMono mean sd (sub_one_lt x))
    · exact (gaussian_strictMono mean sd (lt_add_one x)).trans_le (cdf_le_one _ (x + 1))
  invCdf_cdf := Function.leftInverse_invFun (gaussian_strictMono mean sd).injective
  cdf_invCdf _ isOpen := Function.invFun_eq (gaussian_surjective mean sd isOpen)
end

/-! ### The law of a factor -/

/-- The logarithm between positive bounds. -/
noncomputable def logIso (isPositive : 0 < low) (isOrdered : low < high) :
    Set.Icc low high ≃o Set.Icc (Real.log low) (Real.log high) where
  toFun v := ⟨Real.log v, Real.log_le_log isPositive v.2.1,
    Real.log_le_log (isPositive.trans_le v.2.1) v.2.2⟩
  invFun x := ⟨Real.exp x, (Real.log_le_iff_le_exp isPositive).mp x.2.1,
    (Real.le_log_iff_exp_le (isPositive.trans isOrdered)).mp x.2.2⟩
  left_inv v := Subtype.ext (Real.exp_log (isPositive.trans_le v.2.1))
  right_inv x := Subtype.ext (Real.log_exp x)
  map_rel_iff' {v w} := Real.log_le_log_iff (isPositive.trans_le v.2.1) (isPositive.trans_le w.2.1)

/-- A distribution conditioned on its bounds. -/
noncomputable def Distribution.law {low high : ℝ} (isOrdered : low < high) :
    (distribution : Distribution) → distribution.Accepts normal low high → BoundedLaw low high
  | uniform, _ => uniformLaw isOrdered
  | triangular _, isMode => triangularLaw isOrdered isMode
  | truncatedNormal mean sd, _ => (normal mean sd).law isOrdered
  | lognormal mu sigma, isAccepted =>
    (logIso isAccepted.1 isOrdered).trans
      ((normal mu sigma).law (Real.log_lt_log isAccepted.1 isOrdered))

section

variable (factor : Factor normal)

/-- The quantile of a probability. -/
noncomputable def Factor.quantile (q : ℝ) : ℝ :=
  (factor.distribution.law factor.ordered factor.accepted).symm (Set.projIcc 0 1 zero_le_one q)

theorem Factor.quantile_of_mem {q : ℝ} (isInside : q ∈ Set.Icc (0 : ℝ) 1) : factor.quantile q =
      (factor.distribution.law factor.ordered factor.accepted).symm ⟨q, isInside⟩ := by
  rw [quantile, Set.projIcc_of_mem]

theorem Factor.quantile_mono : Monotone factor.quantile := by
  intro q r le
  exact (factor.distribution.law factor.ordered factor.accepted).symm.monotone
    (Set.monotone_projIcc zero_le_one le)

theorem Factor.quantile_mem (q : ℝ) : factor.quantile q ∈ Set.Icc factor.low factor.high :=
  Subtype.property _

end

/-! ## Clamping -/

theorem edge_pos : 0 < edge := by
  unfold edge
  positivity

/-- An interval of probabilities that is wide enough keeps what is clamped. -/
theorem clamp01_mem {a b p : ℝ} (isNonneg : 0 ≤ a) (isAtMost : b ≤ 1) (isWide : a + edge ≤ b)
    (isInside : p ∈ Set.Icc a b) : clamp01 p ∈ Set.Icc a b := by
  have isPositive := edge_pos
  obtain ⟨isAbove, isBelow⟩ := isInside
  unfold clamp01
  constructor
  · exact le_min (isAbove.trans (le_max_left p edge)) (by linarith)
  · exact (min_le_left _ _).trans (max_le isBelow (by linarith))

section

attribute [local instance] atLeastTwo_thousand

theorem edge_le : edge ≤ 1 / 1000 * (1 / 1000) := by
  unfold edge
  norm_num

/-- Probabilities of the bounds are mapped between their quantiles. -/
theorem NormalDist.clamped_mem (dist : NormalDist) {low high a b u : ℝ} (isOrdered : low < high)
    (isMass : 1 / 1000 ≤ dist.mass low high) (isNonneg : 0 ≤ a) (isAtMost : b ≤ 1)
    (isWide : a + 1 / 1000 ≤ b) (isInside : u ∈ Set.Icc a b) :
    dist.invCdf (clamp01 (dist.cdf low + u * dist.mass low high)) ∈
      Set.Icc (dist.quantile low high a) (dist.quantile low high b) := by
  have isPositive := dist.mass_pos isOrdered
  have isSmall := edge_le
  have shareA := dist.share_mem isOrdered (q := a) ⟨isNonneg, by linarith⟩
  have shareB := dist.share_mem isOrdered (q := b) ⟨by linarith, isAtMost⟩
  have openA := (dist.invCdf_mem shareA).1
  have openB := (dist.invCdf_mem shareB).1
  have isBroad : dist.cdf low + a * dist.mass low high + edge ≤
      dist.cdf low + b * dist.mass low high := by
    nlinarith
  have isClamped := clamp01_mem openA.1.le openB.2.le isBroad
    (p := dist.cdf low + u * dist.mass low high)
    ⟨by nlinarith [isInside.1], by nlinarith [isInside.2]⟩
  rw [← dist.cdf_invCdf _ openA, ← dist.cdf_invCdf _ openB] at isClamped
  exact (dist.invCdf_mem isClamped).2

theorem Factor.inverseCdf_mem (factor : Factor normal) {a b u : ℝ} (isNonneg : 0 ≤ a)
    (isAtMost : b ≤ 1) (isWide : a + 1 / 1000 ≤ b) (isInside : u ∈ Set.Icc a b) :
    inverseCdf normal factor.distribution factor.low factor.high u ∈
      Set.Icc (factor.quantile a) (factor.quantile b) := by
  have insideA : a ∈ Set.Icc (0 : ℝ) 1 := ⟨isNonneg, by linarith⟩
  have insideB : b ∈ Set.Icc (0 : ℝ) 1 := ⟨by linarith, isAtMost⟩
  have isClamped := clamp01_mem isNonneg isAtMost (by linarith [edge_le]) isInside
  have insideU : clamp01 u ∈ Set.Icc (0 : ℝ) 1 :=
    ⟨isNonneg.trans isClamped.1, isClamped.2.trans isAtMost⟩
  have isQuantile : factor.quantile (clamp01 u) ∈ Set.Icc (factor.quantile a) (factor.quantile b) :=
    ⟨factor.quantile_mono isClamped.1, factor.quantile_mono isClamped.2⟩
  rw [factor.quantile_of_mem insideA, factor.quantile_of_mem insideB]
  rw [factor.quantile_of_mem insideA, factor.quantile_of_mem insideB,
    factor.quantile_of_mem insideU] at isQuantile
  obtain ⟨_, distribution, _, _, isOrdered, isAccepted⟩ := factor
  cases distribution with
  | uniform | triangular mode => exact isQuantile
  | truncatedNormal mean sd =>
    exact (normal mean sd).clamped_mem isOrdered isAccepted isNonneg isAtMost isWide isClamped
  | lognormal mu sigma =>
    have isLog := (normal mu sigma).clamped_mem (Real.log_lt_log isAccepted.1 isOrdered)
      isAccepted.2 isNonneg isAtMost isWide isClamped
    exact ⟨Real.exp_le_exp.mpr isLog.1, Real.exp_le_exp.mpr isLog.2⟩

end

end

/-! ## The hypercube -/

section

attribute [local instance] atLeastTwo_two atLeastTwo_ten

/-- A value of a factor in a stratum: within the bounds, and up to its six decimals between
the quantiles of the stratum. -/
structure Factor.Stratified (factor : Factor normal) (n stratum : Nat) (value : ℝ) : Prop where
  bounded : value ∈ Set.Icc factor.low factor.high
  stratum_lt : stratum < n
  quantiles : ∃ exact ∈ Set.Icc (factor.quantile (stratum / n))
      (factor.quantile ((stratum + 1) / n)), |value - exact| ≤ 1 / (2 * 10 ^ 6)

/-- What is sampled for every factor: one value in each stratum, in the strata's order. -/
structure LatinHypercube (spec : UncertaintySpec normal) (conditions : List Condition) : Prop where
  count : conditions.length = spec.conditions
  /-- The conditions of a factor lie in the strata, one in each. -/
  strata : ∀ factor ∈ spec.factors,
    (conditions.map fun condition => condition.strata.lookup factor.id).Perm
      ((List.range spec.conditions).map some)
  /-- Each has a value of its stratum. -/
  stratified : ∀ factor ∈ spec.factors, ∀ condition ∈ conditions, ∃ value stratum,
    condition.values.lookup factor.id = some value ∧
      condition.strata.lookup factor.id = some stratum ∧
        factor.Stratified spec.conditions stratum value
  /-- Values of higher strata are no lower. -/
  sorted : ∀ factor ∈ spec.factors, ∀ first ∈ conditions, ∀ second ∈ conditions,
    ∀ value value' stratum stratum', first.values.lookup factor.id = some value →
      second.values.lookup factor.id = some value' →
      first.strata.lookup factor.id = some stratum →
      second.strata.lookup factor.id = some stratum' →
      stratum < stratum' → value ≤ value'

end

section

variable (draws : Draws) (factor : Factor normal) {n : Nat} (seed : Nat)

/-- The value that is drawn in a stratum before it is rounded. -/
noncomputable def exactValue (i : Fin n) : ℝ :=
  inverseCdf normal factor.distribution factor.low factor.high (jittered draws seed factor.id n i)

/-- The value that is drawn in a stratum lies between its quantiles. -/
theorem exactValue_mem (isCount : 1 ≤ n ∧ n ≤ 1000) (i : Fin n) :
    let stratum := (sampleFactor draws factor n seed i).2
    exactValue draws factor seed i ∈
      Set.Icc (factor.quantile (stratum / n)) (factor.quantile ((stratum + 1) / n)) := by
  intro stratum
  have isPositive : (0 : ℝ) < n := Nat.cast_pos.mpr isCount.1
  have isBelow : ((stratum : ℕ) : ℝ) + 1 ≤ n := by exact_mod_cast stratum.2
  have isSmall : (n : ℝ) ≤ 1000 := by exact_mod_cast isCount.2
  have isJitter := (draws.jitter seed factor.id i).2
  apply factor.inverseCdf_mem
  · positivity
  · exact (div_le_one isPositive).mpr isBelow
  · rw [add_div]
    exact add_le_add_right (one_div_le_one_div_of_le isPositive isSmall) _
  · unfold jittered
    exact ⟨div_le_div_of_nonneg_right (le_add_of_nonneg_right isJitter.1) isPositive.le,
      div_le_div_of_nonneg_right (add_le_add_right isJitter.2.le _) isPositive.le⟩

/-- Clamping to bounds brings a number no farther from one within them. -/
theorem abs_clamp_sub_le {low high value exact : ℝ} (isInside : exact ∈ Set.Icc low high) :
    |min (max value low) high - exact| ≤ |value - exact| := by
  obtain ⟨_, _⟩ := isInside
  have upper := le_abs_self (value - exact)
  have lower := neg_abs_le (value - exact)
  have isNonneg := abs_nonneg (value - exact)
  have isLower : exact - |value - exact| ≤ min (max value low) high :=
    le_min (le_max_of_le_left (by linarith)) (by linarith)
  have isUpper : min (max value low) high ≤ exact + |value - exact| :=
    (min_le_left _ _).trans (max_le (by linarith) (by linarith))
  rw [abs_le]
  constructor <;> linarith

theorem sampleFactor_stratified (isCount : 1 ≤ n ∧ n ≤ 1000) (i : Fin n) :
    factor.Stratified n (sampleFactor draws factor n seed i).2
      (sampleFactor draws factor n seed i).1 := by
  have isQuantile := exactValue_mem draws factor seed isCount i
  have isInside : exactValue draws factor seed i ∈ Set.Icc factor.low factor.high :=
    ⟨(factor.quantile_mem _).1.trans isQuantile.1, isQuantile.2.trans (factor.quantile_mem _).2⟩
  refine ⟨⟨le_min (le_max_right _ _) factor.ordered.le, min_le_right _ _⟩, Fin.is_lt _,
    _, isQuantile, ?_⟩
  apply (abs_clamp_sub_le isInside).trans
  have isClose := @abs_nearestDecimal_sub_le ℝ _ _ _ _ 10 (by norm_num)
    (exactValue draws factor seed i) 6
  have isRounded : rounded (inverseCdf normal factor.distribution factor.low factor.high
      (jittered draws seed factor.id n i)) =
      nearestDecimal 10 (exactValue draws factor seed i) 6 := rfl
  rw [isRounded]
  norm_num at isClose ⊢
  linarith

/-- Values of higher strata are no lower. -/
theorem sampleFactor_le (isCount : 1 ≤ n ∧ n ≤ 1000) {i j : Fin n}
    (less : (sampleFactor draws factor n seed i).2 < (sampleFactor draws factor n seed j).2) :
    (sampleFactor draws factor n seed i).1 ≤ (sampleFactor draws factor n seed j).1 := by
  have isPositive : (0 : ℝ) < n := Nat.cast_pos.mpr isCount.1
  have isLower := (exactValue_mem draws factor seed isCount i).2
  have isUpper := (exactValue_mem draws factor seed isCount j).1
  have isNext : (((sampleFactor draws factor n seed i).2 : ℕ) : ℝ) + 1 ≤
      ((sampleFactor draws factor n seed j).2 : ℕ) := by
    exact_mod_cast less
  have isExact := (isLower.trans (factor.quantile_mono
    (div_le_div_of_nonneg_right isNext isPositive.le))).trans isUpper
  have isRounded := @nearestDecimal_mono ℝ _ _ _ _ 10 (by norm_num) _ _ isExact 6
  exact min_le_min_right _ (max_le_max_right _ isRounded)

end

theorem lookup_map_id {A : Type} (read : Factor normal → A) {factors : List (Factor normal)}
    (areDistinct : (factors.map Factor.id).Nodup) {factor : Factor normal}
    (isFactor : factor ∈ factors) :
    (factors.map fun factor => (factor.id, read factor)).lookup factor.id = some (read factor) := by
  induction factors with
  | nil => cases isFactor
  | cons first _ ih =>
    rw [List.map_cons, List.nodup_cons] at areDistinct
    rw [List.map_cons, List.lookup_cons]
    obtain rfl | isLater := List.mem_cons.mp isFactor
    · rw [beq_self_eq_true]
    · have isOther : factor.id ≠ first.id := fun same =>
        areDistinct.1 (same ▸ List.mem_map_of_mem isLater)
      rw [beq_false_of_ne isOther]
      exact ih areDistinct.2 isLater

/-- The sampler returns a Latin hypercube of every specification. -/
theorem sampleConditions_latinHypercube (normal : ℝ → Deviation → NormalDist) (draws : Draws)
    (deriveSeed : Nat → Nat → Nat → Nat) (spec : UncertaintySpec normal) :
    LatinHypercube spec (sampleConditions draws deriveSeed spec) := by
  have isCount := spec.conditionsValid
  refine ⟨?_, ?_, ?_, ?_⟩
  · rw [sampleConditions, List.length_map, List.length_finRange]
  · intro factor isFactor
    have areStrata : ((sampleConditions draws deriveSeed spec).map fun condition =>
        condition.strata.lookup factor.id) =
        (((List.finRange spec.conditions).map
          (draws.shuffled spec.seed factor.id spec.conditions)).map Fin.val).map some := by
      rw [sampleConditions, List.map_map, List.map_map, List.map_map]
      exact List.map_congr_left fun i _ => lookup_map_id _ spec.uniqueIds isFactor
    rw [areStrata, ← List.map_coe_finRange_eq_range]
    exact ((Equiv.Perm.map_finRange_perm _).map _).map _
  · intro factor isFactor condition isCondition
    obtain ⟨i, -, rfl⟩ := List.mem_map.mp isCondition
    exact ⟨_, _, lookup_map_id _ spec.uniqueIds isFactor, lookup_map_id _ spec.uniqueIds isFactor,
      sampleFactor_stratified draws factor spec.seed isCount i⟩
  · intro factor isFactor first isFirst second isSecond value value' stratum stratum' isValue
      isValue' isStratum isStratum' less
    obtain ⟨i, -, rfl⟩ := List.mem_map.mp isFirst
    obtain ⟨j, -, rfl⟩ := List.mem_map.mp isSecond
    dsimp only at isValue isValue' isStratum isStratum'
    rw [lookup_map_id _ spec.uniqueIds isFactor, Option.some.injEq] at isValue isValue'
    rw [lookup_map_id _ spec.uniqueIds isFactor, Option.some.injEq] at isStratum isStratum'
    subst isValue isValue' isStratum isStratum'
    exact sampleFactor_le draws factor spec.seed isCount less

end Sampler
end UrbanFlow.Uncertainty
