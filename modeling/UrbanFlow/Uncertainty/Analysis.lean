import Mathlib.Data.List.ReduceOption
import Mathlib.Data.List.Sort
import UrbanFlow.Core.Rounding
import UrbanFlow.Library.Fallible

/-!
# The analysis of an ensemble

`analyze`: which conditions are excluded, how every alternative compares with the baseline
over the others, and how far it is from the best one. Outcomes are rational; a run that is
infinite or not a number has none. The square root, the quantile of the normal law and the
generators' draws are parameters. Texts that only describe a criterion are left out.
-/

namespace UrbanFlow.Uncertainty
namespace Analysis

/-! ## The conditions and what is asked of them -/

/-- `ConditionResult`: strata by factor and outcomes by alternative. -/
structure ConditionResult where
  index : ℤ
  strata : String → Option ℤ
  outcomes : String → Option (List (Option ℚ)) := fun _ => none
  exclusion : Option String := none

/-- A tie tolerance, as the specification accepts one. -/
abbrev TieTolerance := {tau : ℚ // 0 ≤ tau}

/-- What the statistics use of the libraries: a square root, `Z95`, the resamples that
`rng.choices` draws for an alternative and the halves that `rng.shuffle` leaves. -/
structure Libraries where
  sqrt : ℚ → ℚ
  z95 : ℚ
  resample : String → Nat → Nat → List Nat
  shuffled : Nat → Nat → List Nat

/-- The arguments of `analyze` beside the conditions. -/
structure Settings where
  alternatives : List String
  baseline : String
  replications : Nat
  factorIds : List String
  primaryIndicator : String := "averageDelay"
  tieTolerance : Option TieTolerance := none
  predeclared : Bool := true
  bootstrapResamples : Nat := 2000
  libraries : Libraries

/-- What `analyze` raises. -/
inductive Refusal
  | baselineNotListed
  | alternativesNotUnique
  | tooFewAlternatives
  | noReplications
  | noConditions
  | indexes
  | noStratum (index : ℤ) (missing : List String)
  | unknownExclusion (reason : String)
  | noResamples
  deriving DecidableEq, Repr

/-- Its text, up to how a list and a quoted string are written. -/
def Refusal.message : Refusal → String
  | baselineNotListed => "the baseline must be one of the alternatives"
  | alternativesNotUnique => "alternative ids must be unique"
  | tooFewAlternatives => "a comparison needs at least two alternatives"
  | noReplications => "replications must be at least 1"
  | noConditions => "no conditions to analyse"
  | indexes => "condition indexes must be exactly 0..N-1, once each"
  | noStratum index missing =>
    "condition " ++ toString index ++ " has no stratum for " ++ toString missing
  | unknownExclusion reason => "unknown exclusion reason '" ++ reason ++ "'"
  | noResamples => "resamples must be positive"

def exclusionReasons : List String :=
  ["validation_failed", "run_failed", "timeout", "vehicle_limit", "deadlock",
    "no_completed_vehicles", "non_finite", "missing_run", "incomplete_cancelled"]

def rounded (value : ℚ) : ℚ := pyRound value 6

/-! ## Ties -/

def eps : ℚ := 1 / 10 ^ 9

/-- `delays_are_tied`, with the tolerances of the study. -/
def delaysAreTied (a b : ℚ) : Bool :=
  let gap := |a - b|
  let larger := max |a| |b|
  gap ≤ 1 + eps ∨ 0 < larger ∧ gap / larger ≤ 5 / 100 + eps

def tied (a b : ℚ) : Option TieTolerance → Bool
  | none => delaysAreTied a b
  | some tau => |a - b| ≤ tau + eps

/-- win / tie / loss of an alternative against the baseline. -/
inductive Verdict
  | win
  | tie
  | loss
  deriving DecidableEq, Repr

/-- The verdict with the sides exchanged. -/
def Verdict.exchanged : Verdict → Verdict
  | win => loss
  | tie => tie
  | loss => win

def classify (alternative baseline : ℚ) (tau : Option TieTolerance) : Verdict :=
  if tied alternative baseline tau then .tie
  else if alternative < baseline then .win
  else .loss

def differenceClass (d : ℚ) (tau : Option TieTolerance) : Verdict :=
  let band := (tau.map Subtype.val).getD 1
  if |d| ≤ band + eps then .tie
  else if d < 0 then .win
  else .loss

/-! ## Statistics -/

section

variable (values : List ℚ)

/-- `sorted` of some numbers. -/
def ascending : List ℚ := values.insertionSort (· ≤ ·)

/-- `mean_sorted`. -/
def mean : ℚ := values.sum / values.length

def percentileSorted (q : ℚ) : ℚ :=
  let position := q * (values.length - 1 : ℕ)
  let lower := ⌊position⌋.toNat
  let upper := min (lower + 1) (values.length - 1)
  let fraction := position - lower
  values.getD lower 0 + fraction * (values.getD upper 0 - values.getD lower 0)

end

def wilsonInterval (libraries : Libraries) (successes n : Nat) : ℚ × ℚ :=
  let z := libraries.z95
  let p : ℚ := successes / n
  let z2 := z * z
  let denominator := 1 + z2 / n
  let centre := (p + z2 / (2 * n)) / denominator
  let half := z / denominator * libraries.sqrt (p * (1 - p) / n + z2 / (4 * n * n))
  (max 0 (centre - half), min 1 (centre + half))

/-- `variance_decomposition`. -/
structure VarianceSplit where
  between : ℚ
  within : ℚ
  total : ℚ
  dfBetween : Nat
  dfWithin : Nat
  msBetween : ℚ
  msWithin : ℚ
  betweenShare : Option ℚ
  withinShare : Option ℚ
  deriving DecidableEq, Repr

/-- `variance_decomposition`, of at least two conditions with `r` runs each. -/
def varianceDecomposition (r : Nat) (conditionRuns : List (List ℚ)) : VarianceSplit :=
  let n := conditionRuns.length
  let conditionMeans := conditionRuns.map fun row => row.sum / (r : ℚ)
  let grandMean := conditionMeans.sum / n
  let ssBetween : ℚ := r * (conditionMeans.map fun m => (m - grandMean) ^ 2).sum
  let ssWithin := (conditionRuns.map fun row =>
    (row.map fun val => (val - row.sum / (r : ℚ)) ^ 2).sum).sum
  let ssTotal := ssBetween + ssWithin
  let dfBetween := n - 1
  let dfWithin := n * (r - 1)
  { between := rounded ssBetween
    within := rounded ssWithin
    total := rounded ssTotal
    dfBetween := dfBetween
    dfWithin := dfWithin
    msBetween := rounded (if 0 < dfBetween then ssBetween / dfBetween else 0)
    msWithin := rounded (if 0 < dfWithin then ssWithin / dfWithin else 0)
    betweenShare := if 1 / 10 ^ 12 < ssTotal then some (rounded (ssBetween / ssTotal)) else none
    withinShare :=
      if 1 / 10 ^ 12 < ssTotal then some (rounded (ssWithin / ssTotal)) else none }

/-- The interval of one statistic in `bootstrap_intervals`. -/
def bootstrapInterval (settings : Settings) (label : String) (values : List ℚ)
    (statistic : List ℚ → ℚ) : ℚ × ℚ :=
  let series := ascending ((List.range settings.bootstrapResamples).map fun resample =>
    statistic (ascending ((settings.libraries.resample label resample values.length).map
      fun i => values.getD i 0)))
  let tail := (1 - 95 / 100) / 2
  (percentileSorted series tail, percentileSorted series (1 - tail))

/-! ## Exclusion -/

namespace ConditionResult

variable (condition : ConditionResult)

/-- The values of an alternative's runs that are finite. -/
def finiteValues (alternative : String) : List ℚ :=
  ((condition.outcomes alternative).getD []).reduceOption

/-- `len(values) != replications`, or there are none. -/
def lacksRun (replications : Nat) (alternative : String) : Bool :=
  (condition.outcomes alternative).map List.length ≠ some replications

/-- Some value of the alternative's is not finite. -/
def hasNonFinite (alternative : String) : Bool := none ∈ (condition.outcomes alternative).getD []

section

variable (settings : Settings)

/-- `_condition_state`. -/
def state : Except Refusal (Option String) := match condition.exclusion with
  | some reason =>
    if reason ∈ exclusionReasons then .ok (some reason)
    else .error (.unknownExclusion reason)
  | none =>
    if settings.alternatives.any (condition.lacksRun settings.replications) then
      .ok (some "missing_run")
    else if settings.alternatives.any condition.hasNonFinite then .ok (some "non_finite")
    else .ok none

section

variable (alternative : String)

/-- The outcome `Y` of an alternative: its replications averaged. -/
def outcome : ℚ := (condition.finiteValues alternative).sum / settings.replications

/-- The least outcome of the alternatives. -/
def best : ℚ := ((settings.alternatives.map (condition.outcome settings)).min?).getD 0

/-- How far an alternative is from the best one. -/
def regret : ℚ := condition.outcome settings alternative - condition.best settings

/-- The alternative's difference from the baseline. -/
def difference : ℚ :=
  condition.outcome settings alternative - condition.outcome settings settings.baseline

/-- The verdict on an alternative. -/
def verdict : Verdict := classify (condition.outcome settings alternative)
    (condition.outcome settings settings.baseline) settings.tieTolerance

end

end

end ConditionResult

/-- A condition with the reason it is excluded for, if any. -/
abbrev Judged := ConditionResult × Option String

def stratumBucket (stratum : ℤ) (conditions : Nat) : ℤ := min 4 (stratum * 5 / conditions)

/-- A row of `byFactorStratum`. -/
structure StratumRow where
  factor : String
  stratum : ℤ
  of : Nat
  excluded : Nat
  share : ℚ
  deriving DecidableEq, Repr

structure Exclusions where
  excluded : Nat
  overallShare : ℚ
  byReason : List (String × Nat)
  byFactorStratum : List StratumRow
  worstStratumShare : ℚ
  deriving DecidableEq, Repr

/-- The bucket of a condition's stratum. -/
def bucketOf (n : Nat) (factor : String) (judged : Judged) : ℤ :=
  stratumBucket ((judged.1.strata factor).getD 0) n

def strataRows (judged : List Judged) (factor : String) : List (StratumRow × ℚ) :=
  let bucket := bucketOf judged.length factor
  ((judged.map bucket).dedup.insertionSort (· ≤ ·)).map fun stratum =>
    let total := judged.countP fun entry => bucket entry = stratum
    let dropped := judged.countP fun entry => bucket entry = stratum ∧ entry.2.isSome
    let share : ℚ := dropped / total
    (⟨factor, stratum, total, dropped, rounded share⟩, share)

def exclusionAccounting (judged : List Judged) (factorIds : List String) : Exclusions :=
  let reasons := judged.filterMap Prod.snd
  let rows := factorIds.flatMap (strataRows judged)
  { excluded := reasons.length
    overallShare := rounded (reasons.length / judged.length)
    byReason := (reasons.dedup.insertionSort (· ≤ ·)).map fun reason =>
      (reason, reasons.count reason)
    byFactorStratum := rows.map Prod.fst
    worstStratumShare := rounded ((rows.map Prod.snd).foldl max 0) }

/-! ## The alternatives -/

structure Proportion where
  count : Nat
  p : ℚ
  ci : ℚ × ℚ
  deriving DecidableEq, Repr

def proportion (libraries : Libraries) (count n : Nat) : Proportion :=
  let interval := wilsonInterval libraries count n
  { count := count
    p := rounded (count / n)
    ci := (rounded interval.1, rounded interval.2) }

def Proportion.halfWidth (block : Proportion) : ℚ := (block.ci.2 - block.ci.1) / 2

/-- A statistic with its interval. -/
structure Estimate where
  value : ℚ
  ci : ℚ × ℚ
  deriving DecidableEq, Repr

/-- `_difference_block`, with the split of its variance. -/
structure DifferenceBlock where
  mean : Estimate
  median : Estimate
  p5 : Estimate
  p95 : Estimate
  varianceSplit : Option VarianceSplit
  deriving DecidableEq, Repr

/-- A comparison with the baseline. -/
structure Comparison where
  win : Proportion
  tie : Proportion
  loss : Proportion
  difference : DifferenceBlock
  deriving DecidableEq, Repr

/-- The regret of an alternative. -/
structure RegretBlock where
  mean : ℚ
  p95 : ℚ
  sampleMax : ℚ
  deriving DecidableEq, Repr

/-- What is said of an alternative when some condition is valid. -/
structure Outcomes where
  meanOutcome : ℚ
  regret : RegretBlock
  preferenceShare : ℚ
  deriving DecidableEq, Repr

/-- An entry of `per_alternative`. -/
structure AlternativeEntry where
  isBaseline : Bool
  outcomes : Option Outcomes
  varianceSplit : Option VarianceSplit
  comparison : Option Comparison
  deriving DecidableEq, Repr

section

variable (settings : Settings) (valid : List ConditionResult)

/-- One statistic of `_difference_block`. -/
def estimate (label : String) (diffs : List ℚ) (statistic : List ℚ → ℚ) : Estimate :=
  let interval := bootstrapInterval settings label diffs statistic
  { value := rounded (statistic (ascending diffs))
    ci := (rounded interval.1, rounded interval.2) }

def canDecomposeVariance : Bool := 2 ≤ valid.length ∧ 2 ≤ settings.replications

section

variable (alternative : String)

/-- `diff_block` of an alternative. -/
def differenceBlock : DifferenceBlock :=
  let diffs := valid.map fun condition => condition.difference settings alternative
  let estimated := estimate settings alternative diffs
  { mean := estimated mean
    median := estimated fun values => percentileSorted values (1 / 2)
    p5 := estimated fun values => percentileSorted values (5 / 100)
    p95 := estimated fun values => percentileSorted values (95 / 100)
    varianceSplit := if canDecomposeVariance settings valid then
        some (varianceDecomposition settings.replications (valid.map fun condition =>
          (condition.finiteValues alternative).zipWith (· - ·)
            (condition.finiteValues settings.baseline)))
      else none }

/-- `classes`. -/
def verdicts : List Verdict := valid.map fun condition => condition.verdict settings alternative

/-- `block`, of an alternative that is not the baseline. -/
def comparison : Comparison :=
  let share := fun verdict =>
    proportion settings.libraries ((verdicts settings valid alternative).count verdict) valid.length
  { win := share .win
    tie := share .tie
    loss := share .loss
    difference := differenceBlock settings valid alternative }

/-- `regrets`, in ascending order. -/
def regrets : List ℚ := ascending (valid.map fun condition => condition.regret settings alternative)

/-- `entry`, when some condition is valid. -/
def outcomes : Outcomes :=
  let ordered := regrets settings valid alternative
  let shares := valid.countP fun condition =>
    tied (condition.outcome settings alternative) (condition.best settings) settings.tieTolerance
  { meanOutcome := rounded (mean (valid.map fun condition =>
      condition.outcome settings alternative))
    regret :=
      { mean := rounded (mean ordered)
        p95 := rounded (percentileSorted ordered (95 / 100))
        sampleMax := rounded (ordered.getLastD 0) }
    preferenceShare := rounded (shares / valid.length) }

/-- An entry of `per_alternative`. -/
def alternativeEntry : AlternativeEntry where
  isBaseline := alternative = settings.baseline
  outcomes := if valid = [] then none else some (outcomes settings valid alternative)
  varianceSplit := if canDecomposeVariance settings valid then
      some (varianceDecomposition settings.replications (valid.map fun condition =>
        condition.finiteValues alternative))
    else none
  comparison := if valid = [] ∨ alternative = settings.baseline then none
    else some (comparison settings valid alternative)

end

/-! ## Stability and eligibility -/

/-- The alternatives beside the baseline. -/
def nonBaselines : List String := settings.alternatives.filter (· ≠ settings.baseline)

/-- What one half of the conditions says of an alternative: the shares of wins and losses
and the class of the median difference. -/
def halfEstimate (alternative : String) (half : List ConditionResult) : ℚ × ℚ × Verdict :=
  let classes := verdicts settings half alternative
  let median := percentileSorted
    (ascending (half.map fun condition => condition.difference settings alternative)) (1 / 2)
  (classes.count .win / half.length, classes.count .loss / half.length,
    differenceClass median settings.tieTolerance)

def splitOk (round : Nat) : Bool :=
  let shuffled := (settings.libraries.shuffled round valid.length).filterMap fun i => valid[i]?
  let half := valid.length / 2
  (nonBaselines settings).all fun alternative =>
    let first := halfEstimate settings alternative (shuffled.take half)
    let second := halfEstimate settings alternative (shuffled.drop half)
    let whole := comparison settings valid alternative
    |first.1 - second.1| < whole.win.halfWidth ∧
      |first.2.1 - second.2.1| < whole.loss.halfWidth ∧ first.2.2 = second.2.2

/-- `_split_half_stability`. -/
structure Stability where
  passed : Option Bool
  splitsEvaluated : Nat
  splitsPassed : Nat
  deriving DecidableEq, Repr

def splitHalfStability : Stability :=
  if valid.length < 30 ∨ nonBaselines settings = [] then ⟨none, 0, 0⟩
  else
    let splitsPassed := (List.range 20).countP (splitOk settings valid)
    ⟨some (18 ≤ splitsPassed), 20, splitsPassed⟩

/-- The class of a result. -/
inductive EligibilityClass
  | exploratory
  | indicative
  | eligible
  deriving DecidableEq, Repr

structure Eligibility where
  verdict : EligibilityClass
  validConditions : Nat
  criteria : List (String × Option Bool)
  deriving DecidableEq, Repr

def eligibility (exclusions : Exclusions) : Eligibility :=
  let widths := if valid = [] then [] else (nonBaselines settings).flatMap fun alternative =>
      [(comparison settings valid alternative).win.halfWidth,
        (comparison settings valid alternative).loss.halfWidth]
  let criteria := [("precision", widths.max?.map fun worst => decide (worst ≤ 10 / 100)),
      ("stability", (splitHalfStability settings valid).passed),
      ("replications", some (decide (2 ≤ settings.replications))),
      ("exclusions", some (decide (exclusions.overallShare ≤ 10 / 100 + eps ∧
        exclusions.worstStratumShare ≤ 20 / 100 + eps))),
      ("predeclaration", some settings.predeclared)]
  { verdict := if valid.length < 30 then .exploratory
      else if criteria.all fun criterion => criterion.2 = some true then .eligible
      else .indicative
    validConditions := valid.length
    criteria := criteria }

end

/-! ## The whole analysis -/

structure Counts where
  conditions : Nat
  validConditions : Nat
  alternatives : Nat
  replications : Nat
  totalRuns : Nat
  deriving DecidableEq, Repr

/-- The document that `analyze` returns. -/
structure Document where
  primaryIndicator : String
  tolerance : Option ℚ
  baseline : String
  counts : Counts
  exclusions : Exclusions
  alternatives : List (String × AlternativeEntry)
  stability : Stability
  varianceSplit : Option (List (String × Option VarianceSplit))
  eligibility : Eligibility
  deriving DecidableEq, Repr

/-- `sorted(conditions, key=lambda c: c.index)`. -/
def ordered (conditions : List ConditionResult) : List ConditionResult :=
  conditions.insertionSort fun first second => first.index ≤ second.index

section

variable (settings : Settings)

/-- What `analyze` checks, on the conditions in order. -/
def check (inOrder : List ConditionResult) : Except Refusal Unit :=
  if settings.baseline ∉ settings.alternatives then .error .baselineNotListed
  else if ¬ settings.alternatives.Nodup then .error .alternativesNotUnique
  else if settings.alternatives.length < 2 then .error .tooFewAlternatives
  else if settings.replications < 1 then .error .noReplications
  else if inOrder = [] then .error .noConditions
  else if inOrder.map ConditionResult.index ≠ (List.range inOrder.length).map (↑) then
    .error .indexes
  else
    let missing := fun condition : ConditionResult =>
      settings.factorIds.filter fun factor => (condition.strata factor).isNone
    match inOrder.find? fun condition => missing condition ≠ [] with
    | some condition => .error (.noStratum condition.index (missing condition))
    | none => .ok ()

/-- The document, from the conditions in order with the reasons they are excluded for. -/
def document (judged : List Judged) : Document :=
  let valid := (judged.filter fun entry => entry.2 = none).map Prod.fst
  let exclusions := exclusionAccounting judged settings.factorIds
  { primaryIndicator := settings.primaryIndicator
    tolerance := settings.tieTolerance.map fun tau => rounded tau
    baseline := settings.baseline
    counts :=
      { conditions := judged.length
        validConditions := valid.length
        alternatives := settings.alternatives.length
        replications := settings.replications
        totalRuns := judged.length * settings.alternatives.length * settings.replications }
    exclusions := exclusions
    alternatives := settings.alternatives.map fun alternative =>
      (alternative, alternativeEntry settings valid alternative)
    stability := splitHalfStability settings valid
    varianceSplit := if canDecomposeVariance settings valid then
        some (settings.alternatives.map fun alternative =>
          (alternative, (alternativeEntry settings valid alternative).varianceSplit))
      else none
    eligibility := eligibility settings valid exclusions }

def analyze (conditions : List ConditionResult) : Except Refusal Document := do
  let inOrder := ordered conditions
  check settings inOrder
  let judged ← inOrder.mapM fun condition => do
    let reason ← condition.state settings
    pure (condition, reason)
  if (∃ entry ∈ judged, entry.2 = none) ∧ settings.bootstrapResamples < 1 then .error .noResamples
  else .ok (document settings judged)

end

/-! ## The order of the conditions -/

theorem check_of_indexes_ne {settings : Settings} {inOrder : List ConditionResult}
    (areNot : inOrder.map ConditionResult.index ≠ (List.range inOrder.length).map (↑)) :
    ∃ refusal, ∀ other : List ConditionResult,
      other.map ConditionResult.index = inOrder.map ConditionResult.index →
        check settings other = .error refusal := by
  have sameLength {other : List ConditionResult}
      (same : other.map ConditionResult.index = inOrder.map ConditionResult.index) :
      other.length = inOrder.length := by
    simpa using congrArg List.length same
  have sameEmpty {other : List ConditionResult}
      (same : other.map ConditionResult.index = inOrder.map ConditionResult.index) :
      other = [] ↔ inOrder = [] := by
    rw [← List.length_eq_zero_iff, sameLength same, List.length_eq_zero_iff]
  by_cases isListed : settings.baseline ∉ settings.alternatives
  · exact ⟨.baselineNotListed, fun other _ => if_pos isListed⟩
  by_cases areUnique : ¬ settings.alternatives.Nodup
  · exact ⟨.alternativesNotUnique, fun other _ => by rw [check, if_neg isListed, if_pos areUnique]⟩
  by_cases areFew : settings.alternatives.length < 2
  · exact ⟨.tooFewAlternatives, fun other _ => by
      rw [check, if_neg isListed, if_neg areUnique, if_pos areFew]⟩
  by_cases noneRepeated : settings.replications < 1
  · exact ⟨.noReplications, fun other _ => by
      rw [check, if_neg isListed, if_neg areUnique, if_neg areFew, if_pos noneRepeated]⟩
  by_cases isEmpty : inOrder = []
  · exact ⟨.noConditions, fun other same => by
      rw [check, if_neg isListed, if_neg areUnique, if_neg areFew, if_neg noneRepeated,
        if_pos ((sameEmpty same).mpr isEmpty)]⟩
  · refine ⟨.indexes, fun other same => ?_⟩
    rw [check, if_neg isListed, if_neg areUnique, if_neg areFew, if_neg noneRepeated,
      if_neg fun isNil => isEmpty ((sameEmpty same).mp isNil), if_pos]
    rw [same, sameLength same]
    exact areNot

theorem pairwise_ordered (conditions : List ConditionResult) :
    ((ordered conditions).map ConditionResult.index).Pairwise (· ≤ ·) := by
  rw [List.pairwise_map]
  have total : Std.Total fun first second : ConditionResult => first.index ≤ second.index :=
    ⟨fun first second => le_total first.index second.index⟩
  have transitive : IsTrans ConditionResult fun first second => first.index ≤ second.index :=
    ⟨fun _ _ _ => le_trans⟩
  exact List.pairwise_insertionSort _ conditions

/-- The order in which the conditions are given does not matter. -/
theorem analyze_perm (settings : Settings) {conditions conditions' : List ConditionResult}
    (isPerm : conditions.Perm conditions') :
    analyze settings conditions = analyze settings conditions' := by
  have orderedPerm : (ordered conditions).Perm (ordered conditions') :=
    (List.perm_insertionSort _ conditions).trans
      (isPerm.trans (List.perm_insertionSort _ conditions').symm)
  have sameIndexes : (ordered conditions').map ConditionResult.index =
      (ordered conditions).map ConditionResult.index :=
    List.Perm.eq_of_pairwise (fun _ _ _ _ => le_antisymm) (pairwise_ordered conditions')
      (pairwise_ordered conditions) (orderedPerm.symm.map _)
  by_cases areIndexes : (ordered conditions).map ConditionResult.index =
      (List.range (ordered conditions).length).map (↑)
  · have areDistinct : ((ordered conditions).map ConditionResult.index).Nodup := by
      rw [areIndexes]
      exact List.nodup_range.map Nat.cast_injective
    have same : ordered conditions = ordered conditions' := by
      refine List.Perm.eq_of_pairwise ?_ (List.pairwise_map.mp (pairwise_ordered conditions))
        (List.pairwise_map.mp (pairwise_ordered conditions')) orderedPerm
      intro first second isFirst isSecond before after
      exact List.inj_on_of_nodup_map areDistinct isFirst
        (orderedPerm.mem_iff.mpr isSecond) (le_antisymm before after)
    unfold analyze
    rw [same]
  · obtain ⟨refusal, refused⟩ := @check_of_indexes_ne settings _ areIndexes
    dsimp only [analyze]
    rw [refused _ rfl, refused _ sameIndexes]
    rfl

/-! ## Usable conditions -/

/-- Every alternative has as many runs as asked for, and all of them are finite. -/
def ConditionResult.Usable (settings : Settings) (condition : ConditionResult) : Prop :=
  condition.exclusion = none ∧ ∀ alternative ∈ settings.alternatives,
    ∃ values : List ℚ, condition.outcomes alternative = some (values.map some) ∧
      values.length = settings.replications

theorem exists_map_some_iff {values : List (Option ℚ)} :
    (∃ finite : List ℚ, values = finite.map some) ↔ none ∉ values := by
  constructor
  · rintro ⟨finite, rfl⟩
    simp
  · intro noneMissing
    refine ⟨values.reduceOption, ?_⟩
    induction values with
    | nil => rfl
    | cons value _ ih =>
      obtain ⟨isHere, areRest⟩ := not_or.mp (List.mem_cons.not.mp noneMissing)
      cases value with
      | none => exact absurd rfl isHere
      | some => rw [List.reduceOption_cons_of_some, List.map_cons, ← ih areRest]

theorem ConditionResult.complete_iff (condition : ConditionResult) (replications : Nat)
    (alternative : String) :
    (∃ values : List ℚ, condition.outcomes alternative = some (values.map some) ∧
        values.length = replications) ↔
      ¬ condition.lacksRun replications alternative ∧ ¬ condition.hasNonFinite alternative := by
  unfold lacksRun hasNonFinite
  cases condition.outcomes alternative with
  | none => simp
  | some =>
    simp only [Option.map_some, Option.getD_some, decide_eq_true_eq, not_not, Option.some.injEq]
    rw [← exists_map_some_iff]
    constructor
    · rintro ⟨finite, rfl, isLength⟩
      exact ⟨by rw [List.length_map, isLength], finite, rfl⟩
    · rintro ⟨isLength, finite, rfl⟩
      exact ⟨finite, rfl, by rw [← isLength, List.length_map]⟩

theorem ConditionResult.state_none_iff (settings : Settings) (condition : ConditionResult) :
    condition.state settings = .ok none ↔ condition.Usable settings := by
  unfold state Usable
  cases condition.exclusion with
  | some =>
    simp only [reduceCtorEq, false_and, iff_false]
    split_ifs
    · simp
    · simp
  | none =>
    simp only [complete_iff, true_and, forall_and]
    split_ifs with isMissing isNonFinite
    · simp_all
    · simp_all
    · simp_all

open Classical in
theorem judged_eq {settings : Settings} {inOrder : List ConditionResult} {judged : List Judged}
    (areJudged : (inOrder.mapM fun condition => do
      let reason ← condition.state settings
      pure (condition, reason)) = .ok judged) :
    judged.map Prod.fst = inOrder ∧ (judged.filter fun entry => entry.2 = none).map Prod.fst =
        inOrder.filter fun condition => condition.Usable settings := by
  have itemByItem := forall₂_of_mapM areJudged
  clear areJudged
  induction itemByItem with
  | nil => exact ⟨rfl, rfl⟩
  | @cons condition entry _ _ isJudged _ ih =>
    obtain ⟨reason, isReason, isEntry⟩ := bind_ok_iff.mp isJudged
    cases isEntry
    refine ⟨congrArg (condition :: ·) ih.1, ?_⟩
    have isUsable := condition.state_none_iff settings
    rw [isReason, Except.ok.injEq] at isUsable
    by_cases isNone : reason = none
    · rw [List.filter_cons_of_pos (by simpa using isNone),
        List.filter_cons_of_pos (by simpa using isUsable.mp isNone)]
      exact congrArg (condition :: ·) ih.2
    · rw [List.filter_cons_of_neg (by simpa using isNone),
        List.filter_cons_of_neg (by simpa using isUsable.not.mp isNone)]
      exact ih.2

open Classical in
/-- The usable conditions, by their indexes. -/
noncomputable def usable (settings : Settings)
    (conditions : List ConditionResult) : List ConditionResult :=
  (ordered conditions).filter fun condition => condition.Usable settings

theorem analyze_eq_ok {settings : Settings} {conditions : List ConditionResult}
    {result : Document} (isAnalysed : analyze settings conditions = .ok result) :
    settings.baseline ∈ settings.alternatives ∧ 0 < settings.replications ∧
      ∃ judged, result = document settings judged ∧
        (judged.filter fun entry => entry.2 = none).map Prod.fst = usable settings conditions := by
  unfold analyze at isAnalysed
  obtain ⟨⟨⟩, isChecked, isAnalysed⟩ := bind_ok_iff.mp isAnalysed
  obtain ⟨judged, areJudged, isAnalysed⟩ := bind_ok_iff.mp isAnalysed
  have isDocument : result = document settings judged := by
    split_ifs at isAnalysed
    exact (Except.ok.inj isAnalysed).symm
  unfold check at isChecked
  split_ifs at isChecked with isListed _ _ noneRepeated
  exact ⟨isListed, Nat.pos_of_ne_zero (by omega), judged, isDocument, (judged_eq areJudged).2⟩

/-! ## What unusable conditions leave alone -/

/-- A condition with nothing but its outcomes. -/
def ConditionResult.bare (condition : ConditionResult) : ConditionResult where
  index := 0
  strata _ := none
  outcomes := condition.outcomes

theorem map_bare {A : Type} (read : ConditionResult → A)
    (isBare : ∀ condition, read condition.bare = read condition) (valid : List ConditionResult) :
    (valid.map ConditionResult.bare).map read = valid.map read := by
  rw [List.map_map]
  exact List.map_congr_left fun condition _ => isBare condition

section

variable (settings : Settings) (valid : List ConditionResult)

section

variable (alternative : String)

theorem verdicts_bare : verdicts settings (valid.map ConditionResult.bare) alternative =
      verdicts settings valid alternative :=
  map_bare _ (fun _ => rfl) valid

theorem canDecomposeVariance_bare : canDecomposeVariance settings (valid.map ConditionResult.bare) =
      canDecomposeVariance settings valid := by
  unfold canDecomposeVariance
  rw [List.length_map]

theorem differenceBlock_bare :
    differenceBlock settings (valid.map ConditionResult.bare) alternative =
      differenceBlock settings valid alternative := by
  unfold differenceBlock
  rw [canDecomposeVariance_bare, map_bare _ (fun _ => rfl), map_bare _ (fun _ => rfl)]

theorem comparison_bare : comparison settings (valid.map ConditionResult.bare) alternative =
      comparison settings valid alternative := by
  unfold comparison
  rw [verdicts_bare, differenceBlock_bare, List.length_map]

theorem regrets_bare : regrets settings (valid.map ConditionResult.bare) alternative =
      regrets settings valid alternative :=
  congrArg ascending (map_bare _ (fun _ => rfl) valid)

theorem outcomes_bare : outcomes settings (valid.map ConditionResult.bare) alternative =
      outcomes settings valid alternative := by
  unfold outcomes
  rw [regrets_bare, map_bare _ (fun _ => rfl), List.countP_map, List.length_map]
  rfl

theorem alternativeEntry_bare :
    alternativeEntry settings (valid.map ConditionResult.bare) alternative =
      alternativeEntry settings valid alternative := by
  unfold alternativeEntry
  rw [canDecomposeVariance_bare, map_bare _ (fun _ => rfl), comparison_bare, outcomes_bare]
  simp only [List.map_eq_nil_iff]

theorem halfEstimate_bare : halfEstimate settings alternative (valid.map ConditionResult.bare) =
      halfEstimate settings alternative valid := by
  unfold halfEstimate
  rw [verdicts_bare, map_bare _ (fun _ => rfl), List.length_map]

end

theorem splitOk_bare (round : Nat) :
    splitOk settings (valid.map ConditionResult.bare) round = splitOk settings valid round := by
  simp only [splitOk, List.length_map, comparison_bare]
  have sameShuffle : ((settings.libraries.shuffled round valid.length).filterMap fun i =>
      (valid.map ConditionResult.bare)[i]?) =
      ((settings.libraries.shuffled round valid.length).filterMap fun i =>
        valid[i]?).map ConditionResult.bare := by
    rw [List.map_filterMap]
    exact List.filterMap_congr fun i _ => List.getElem?_map
  simp only [sameShuffle, ← List.map_take, ← List.map_drop, halfEstimate_bare]

theorem splitHalfStability_bare : splitHalfStability settings (valid.map ConditionResult.bare) =
      splitHalfStability settings valid := by
  have sameSplits : splitOk settings (valid.map ConditionResult.bare) =
      splitOk settings valid :=
    funext fun round => splitOk_bare settings valid round
  unfold splitHalfStability
  rw [List.length_map, sameSplits]

end

/-! ## The laws of a comparison -/

theorem tied_comm (a b : ℚ) (tau : Option TieTolerance) : tied a b tau = tied b a tau := by
  unfold tied delaysAreTied
  rw [abs_sub_comm a b, max_comm |a| |b|]

theorem eps_pos : 0 < eps := by
  unfold eps
  positivity

/-- Equal outcomes are tied. -/
theorem tied_self (a : ℚ) (tau : Option TieTolerance) : tied a a tau = true := by
  have isPositive := eps_pos
  unfold tied delaysAreTied
  cases tau with
  | none =>
    simp only [sub_self, abs_zero, decide_eq_true_eq]
    exact .inl (by linarith)
  | some tau =>
    have isNonneg := tau.2
    simp only [sub_self, abs_zero, decide_eq_true_eq]
    linarith

/-- Exchanging the alternative with the baseline exchanges wins and losses. -/
theorem classify_exchanged (a b : ℚ) (tau : Option TieTolerance) :
    classify b a tau = (classify a b tau).exchanged := by
  unfold classify
  rw [tied_comm b a]
  split_ifs with isTied isAbove isBelow isBelow
  · rfl
  · exact absurd isAbove (lt_asymm isBelow)
  · rfl
  · rfl
  · have same := le_antisymm (not_lt.mp isAbove) (not_lt.mp isBelow)
    rw [same, tied_self] at isTied
    exact absurd rfl isTied

theorem count_verdicts (verdicts : List Verdict) :
    verdicts.count .win + verdicts.count .tie + verdicts.count .loss = verdicts.length := by
  induction verdicts with
  | nil => rfl
  | cons verdict =>
    cases verdict with
    | win | tie | loss => simp; omega

section

variable {settings : Settings} (condition : ConditionResult)

theorem ConditionResult.best_spec (isSome : settings.alternatives ≠ []) :
    (∀ alternative ∈ settings.alternatives,
        condition.best settings ≤ condition.outcome settings alternative) ∧
      ∃ alternative ∈ settings.alternatives,
        condition.outcome settings alternative = condition.best settings := by
  obtain ⟨least, isLeast⟩ := Option.isSome_iff_exists.mp
    (List.isSome_min?_of_ne_nil (mt List.map_eq_nil_iff.mp isSome) :
      ((settings.alternatives.map (condition.outcome settings)).min?).isSome = true)
  have isBest : condition.best settings = least := by rw [best, isLeast, Option.getD_some]
  rw [isBest]
  obtain ⟨isMem, isBelow⟩ := List.min?_eq_some_iff.mp isLeast
  constructor
  · intro alternative isAlternative
    exact isBelow _ (List.mem_map_of_mem isAlternative)
  · obtain ⟨alternative, isAlternative, isHere⟩ := List.mem_map.mp isMem
    exact ⟨alternative, isAlternative, isHere⟩

theorem ConditionResult.regret_spec (isSome : settings.alternatives ≠ []) :
    (∀ alternative ∈ settings.alternatives, 0 ≤ condition.regret settings alternative) ∧
      ∃ alternative ∈ settings.alternatives, condition.regret settings alternative = 0 := by
  obtain ⟨isLeast, alternative, isAlternative, isBest⟩ := condition.best_spec isSome
  refine ⟨fun alternative isAlternative => ?_, alternative, isAlternative, ?_⟩
  · exact sub_nonneg.mpr (isLeast alternative isAlternative)
  · exact sub_eq_zero.mpr isBest

end

theorem rounded_nonneg {value : ℚ} (isNonneg : 0 ≤ value) : 0 ≤ rounded value := by
  have isZero : pyRound 0 6 = 0 := by simpa using (isDecimal_intCast 0 6).pyRound
  have isBelow := pyRound_mono isNonneg 6
  rwa [isZero] at isBelow

section

variable {values : List ℚ} (areNonneg : ∀ value ∈ values, 0 ≤ value)

include areNonneg

/-- A percentile lies between two of the numbers. -/
theorem percentileSorted_nonneg {q : ℚ} (isNonneg : 0 ≤ q) : 0 ≤ percentileSorted values q := by
  have nonnegAt (i : Nat) : 0 ≤ values.getD i 0 := by
    rw [List.getD_eq_getElem?_getD]
    cases isHere : values[i]? with
    | none => exact le_rfl
    | some value => exact areNonneg value (List.mem_of_getElem? isHere)
  have isPosition : 0 ≤ q * (values.length - 1 : ℕ) := by positivity
  dsimp only [percentileSorted]
  generalize q * (values.length - 1 : ℕ) = position at isPosition
  have isFloor : ((⌊position⌋.toNat : ℕ) : ℚ) = ⌊position⌋ := by
    exact_mod_cast Int.toNat_of_nonneg (Int.floor_nonneg.mpr isPosition)
  have below := Int.floor_le position
  have above := Int.lt_floor_add_one position
  rw [isFloor]
  have atLower := nonnegAt ⌊position⌋.toNat
  have atUpper := nonnegAt (min (⌊position⌋.toNat + 1) (values.length - 1))
  nlinarith [mul_nonneg (sub_nonneg.mpr above.le) atLower,
    mul_nonneg (sub_nonneg.mpr below) atUpper]

theorem mean_nonneg : 0 ≤ mean values := div_nonneg (List.sum_nonneg areNonneg) (Nat.cast_nonneg _)

end

/-- The regrets that are reported are averages and order statistics of the conditions'. -/
theorem outcomes_regret_nonneg {settings : Settings} {alternative : String}
    (isAlternative : alternative ∈ settings.alternatives) (valid : List ConditionResult) :
    let regret := (outcomes settings valid alternative).regret
    0 ≤ regret.mean ∧ 0 ≤ regret.p95 ∧ 0 ≤ regret.sampleMax := by
  have areNonneg : ∀ regret ∈ regrets settings valid alternative, 0 ≤ regret := by
    intro regret isRegret
    obtain ⟨condition, -, rfl⟩ :=
      List.mem_map.mp ((List.perm_insertionSort _ _).mem_iff.mp isRegret)
    exact (condition.regret_spec (List.ne_nil_of_mem isAlternative)).1 _ isAlternative
  refine ⟨rounded_nonneg (mean_nonneg areNonneg),
    rounded_nonneg (percentileSorted_nonneg areNonneg (by norm_num)), rounded_nonneg ?_⟩
  obtain isZero | isMem := List.mem_cons.mp List.getLastD_mem_cons
  · exact isZero.ge
  · exact areNonneg _ isMem

/-! ## What an analysis promises -/

/-- What `analyze` promises of its settings. -/
structure Laws (settings : Settings) : Prop where
  /-- The order in which the conditions are given does not matter. -/
  anyOrder : ∀ conditions conditions' : List ConditionResult, conditions.Perm conditions' →
      analyze settings conditions = analyze settings conditions'
  /-- What is said of the alternatives rests on the outcomes of the usable conditions. -/
  usableOnly : ∀ conditions conditions' : List ConditionResult, ∀ result result',
    analyze settings conditions = .ok result → analyze settings conditions' = .ok result' →
      (usable settings conditions).map ConditionResult.outcomes =
        (usable settings conditions').map ConditionResult.outcomes →
      result.alternatives = result'.alternatives ∧ result.stability = result'.stability ∧
        result.varianceSplit = result'.varianceSplit
  /-- Wins, ties and losses of an alternative are as many as the usable conditions. -/
  counted : ∀ conditions result, analyze settings conditions = .ok result →
    result.counts.validConditions = (usable settings conditions).length ∧
      ∀ name entry, (name, entry) ∈ result.alternatives → (entry.comparison = none ↔
          name = settings.baseline ∨ usable settings conditions = []) ∧
        ∀ comparison, entry.comparison = some comparison →
          comparison.win.count + comparison.tie.count + comparison.loss.count =
            result.counts.validConditions
  /-- Wins are the losses of the exchanged comparison, and ties are ties. -/
  exchanged : ∀ alternative baseline : ℚ, classify baseline alternative settings.tieTolerance =
      (classify alternative baseline settings.tieTolerance).exchanged
  /-- No regret is negative, and in each usable condition some alternative has none. -/
  regrets : ∀ conditions result, analyze settings conditions = .ok result →
    ∀ condition ∈ usable settings conditions,
      (∀ alternative ∈ settings.alternatives, 0 ≤ condition.regret settings alternative) ∧
        ∃ alternative ∈ settings.alternatives, condition.regret settings alternative = 0
  /-- Nor is any regret that is reported. -/
  reported : ∀ conditions result, analyze settings conditions = .ok result →
    ∀ name entry, (name, entry) ∈ result.alternatives → ∀ outcomes, entry.outcomes = some outcomes →
        0 ≤ outcomes.regret.mean ∧ 0 ≤ outcomes.regret.p95 ∧ 0 ≤ outcomes.regret.sampleMax

theorem analyze_laws (settings : Settings) : Laws settings where
  anyOrder _ _ isPerm := analyze_perm settings isPerm
  usableOnly conditions conditions' result result' isAnalysed isAnalysed' sameOutcomes := by
    obtain ⟨-, -, judged, rfl, isUsable⟩ := analyze_eq_ok isAnalysed
    obtain ⟨-, -, judged', rfl, isUsable'⟩ := analyze_eq_ok isAnalysed'
    have sameBare : (usable settings conditions).map ConditionResult.bare =
        (usable settings conditions').map ConditionResult.bare := by
      have mapped := congrArg (List.map fun outcomes : String → Option (List (Option ℚ)) =>
        ({ index := 0, strata := fun _ => none, outcomes := outcomes } : ConditionResult))
        sameOutcomes
      rwa [List.map_map, List.map_map] at mapped
    unfold document
    dsimp only
    rw [isUsable, isUsable']
    refine ⟨?_, ?_, ?_⟩
    · apply List.map_congr_left
      intro alternative _
      rw [← alternativeEntry_bare, sameBare, alternativeEntry_bare]
    · rw [← splitHalfStability_bare, sameBare, splitHalfStability_bare]
    · rw [← canDecomposeVariance_bare, sameBare, canDecomposeVariance_bare]
      congr 2
      apply List.map_congr_left
      intro alternative _
      rw [← alternativeEntry_bare, sameBare, alternativeEntry_bare]
  counted conditions result isAnalysed := by
    obtain ⟨-, -, judged, rfl, isUsable⟩ := analyze_eq_ok isAnalysed
    refine ⟨congrArg List.length isUsable, fun name entry isEntry => ?_⟩
    unfold document at isEntry ⊢
    dsimp only at isEntry ⊢
    rw [isUsable] at isEntry ⊢
    obtain ⟨alternative, -, isHere⟩ := List.mem_map.mp isEntry
    obtain ⟨rfl, rfl⟩ := Prod.mk.inj isHere
    unfold alternativeEntry
    dsimp only
    split_ifs with isLeftOut
    · simp [isLeftOut.symm]
    · refine ⟨iff_of_false (by simp) (mt Or.symm isLeftOut), fun compared isCompared => ?_⟩
      cases isCompared
      rw [show (usable settings conditions).length =
        (verdicts settings (usable settings conditions) alternative).length by
          rw [verdicts, List.length_map]]
      exact count_verdicts _
  exchanged alternative baseline := classify_exchanged alternative baseline _
  regrets conditions result isAnalysed condition _ := by
    obtain ⟨isListed, -⟩ := analyze_eq_ok isAnalysed
    exact condition.regret_spec (List.ne_nil_of_mem isListed)
  reported conditions result isAnalysed name entry isEntry reported isReported := by
    obtain ⟨-, -, judged, rfl, -⟩ := analyze_eq_ok isAnalysed
    obtain ⟨alternative, isAlternative, isHere⟩ := List.mem_map.mp isEntry
    obtain ⟨rfl, rfl⟩ := Prod.mk.inj isHere
    unfold alternativeEntry at isReported
    dsimp only at isReported
    split_ifs at isReported
    cases isReported
    exact outcomes_regret_nonneg isAlternative _

end Analysis
end UrbanFlow.Uncertainty
