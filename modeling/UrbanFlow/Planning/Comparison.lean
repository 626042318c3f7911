import UrbanFlow.Metering.PyValue

/-!
# Paired comparisons of a planning study

Every alternative of a study is simulated under the same seeds and demand scales.
`vs_baseline` pairs its per-seed values with those of the baseline by their
position in lists from which missing and non-finite values have been dropped. The
pairs are of one seed exactly when the seeds that are usable for one of the two
begin the seeds that are usable for the other.
-/

namespace UrbanFlow.PlanningStudy

/-- What a study reads of a resolved alternative. -/
structure StudyAlternative where
  id : String
  strategy : String
  fingerprint : Option String
  deriving DecidableEq, Repr

/-- A study: the first alternative is the baseline. The validators refuse
repeated ids and scales. -/
structure Study where
  baseline : StudyAlternative
  others : List StudyAlternative
  scales : List ℚ
  baseSeed : Int
  repetitions : Nat
  ids_nodup : (baseline.id :: others.map StudyAlternative.id).Nodup
  scales_nodup : scales.Nodup

/-- One row of `perSeed`: the metrics of a strategy under a demand scale and a
seed. -/
structure SeedRow where
  demandScale : ℚ
  seed : Int
  metrics : Fields

structure ResultRow where
  alternativeId : String
  demandScale : ℚ
  seriesBySeed : String → List ℚ

structure PairedComparison where
  alternativeId : String
  baselineId : String
  demandScale : ℚ
  metric : String
  n : Nat
  differences : List ℚ
  deriving DecidableEq, Repr

/-- The keys of `COMPARED`. -/
def compared : List String := ["averageDelay", "throughput", "averageQueueLength", "collisionCount"]

/-- The metrics of a run that its row keeps. -/
def rowMetrics (metrics : Fields) : Fields :=
  ["averageDelay", "throughput", "averageQueueLength", "collisionCount",
    "activeVehicleCount", "unfinishedShare", "demandAccounting",
    "vehicleTypeBreakdown", "approachBreakdown", "signalTiming"].map
      fun key => (key, metrics.get key)

/-- The value of a row that `_seed_values` keeps: a finite number. -/
def seedValue (key : String) (row : SeedRow) : Option ℚ := (row.metrics.get key).number

def seedValues (rows : List SeedRow) (key : String) : List ℚ := rows.filterMap (seedValue key)

/-- `paired_metric`, without the statistics of the differences. -/
def pairedMetric (alt base : List ℚ) : Nat × List ℚ :=
  let n := min alt.length base.length
  (n, List.zipWith (· - ·) (alt.take n) (base.take n))

/-- `vs_baseline`. A dictionary keeps the last row of a key. -/
def vsBaseline (rows : List ResultRow) (baselineId : String) : List PairedComparison :=
  rows.flatMap fun row =>
    if row.alternativeId = baselineId then []
    else match rows.reverse.find? fun other =>
          other.alternativeId = baselineId ∧ other.demandScale = row.demandScale with
      | none => []
      | some base =>
        compared.map fun key =>
          let paired := pairedMetric (row.seriesBySeed key) (base.seriesBySeed key)
          { alternativeId := row.alternativeId
            baselineId := baselineId
            demandScale := row.demandScale
            metric := key
            n := paired.1
            differences := paired.2 }

namespace Study

variable (study : Study) (simulate : StudyAlternative → ℚ → Int → Fields)

/-- Every alternative, the baseline first. -/
def alternatives : List StudyAlternative := study.baseline :: study.others

/-- The seeds of `run_scenario_comparison`. -/
def seeds : List Int := (List.range study.repetitions).map fun i => study.baseSeed + i

section

variable (alternative : StudyAlternative)

/-- `perSeed` of `run_scenario_comparison`. -/
def perSeed : List SeedRow := study.scales.flatMap fun scale =>
    study.seeds.map fun seed =>
      { demandScale := scale
        seed := seed
        metrics := rowMetrics (simulate alternative scale seed) }

/-- Whose run an alternative uses: identical alternatives share one. -/
def cached : StudyAlternative := (study.alternatives.find? fun other =>
    other.strategy = alternative.strategy ∧
      other.fingerprint = alternative.fingerprint).getD alternative

/-- The rows of an alternative in the result of `run_study`. -/
def rowsOf : List ResultRow := study.scales.map fun scale =>
    { alternativeId := alternative.id
      demandScale := scale
      seriesBySeed := fun key =>
        seedValues ((study.perSeed simulate (study.cached alternative)).filter
          fun row => row.demandScale = scale) key }

end

/-- `result_rows` of `run_study`. -/
def resultRows : List ResultRow := study.alternatives.flatMap (study.rowsOf simulate)

/-- The comparisons of `run_study`. -/
def comparisons : List PairedComparison := vsBaseline (study.resultRows simulate) study.baseline.id

section

variable (alternative : StudyAlternative) (scale : ℚ) (key : String)

/-- The value of a metric of an alternative under a demand scale and a seed. -/
def valueAt (seed : Int) : Option ℚ :=
  ((rowMetrics (simulate (study.cached alternative) scale seed)).get key).number

/-- The seeds under which an alternative has a value. -/
def usable : List Int := study.seeds.filter fun seed =>
    (study.valueAt simulate alternative scale key seed).isSome

/-- The seeds under which both an alternative and the baseline have a value. -/
def bothUsable : List Int := study.seeds.filter fun seed =>
    (study.valueAt simulate alternative scale key seed).isSome ∧
      (study.valueAt simulate study.baseline scale key seed).isSome

/-- The seeds of the two values of each difference. -/
def pairedSeeds : List (Int × Int) :=
  (study.usable simulate alternative scale key).zip (study.usable simulate study.baseline scale key)

/-- The value under a seed less the baseline's value under another. -/
def difference (pair : Int × Int) : ℚ :=
  (study.valueAt simulate alternative scale key pair.1).getD 0 -
    (study.valueAt simulate study.baseline scale key pair.2).getD 0

end

section

variable (alternative : StudyAlternative)

/-- Every difference is of one seed, and there is one for each seed under which
both values exist. -/
def PairedBySeed (comparison : PairedComparison) : Prop :=
  (∀ pair ∈ study.pairedSeeds simulate alternative comparison.demandScale
      comparison.metric, pair.1 = pair.2) ∧
    comparison.n = (study.bothUsable simulate alternative
      comparison.demandScale comparison.metric).length

/-- The seeds that are usable for one of the two begin the seeds that are usable
for the other. -/
def Aligned (scale : ℚ) (key : String) : Prop :=
  study.usable simulate alternative scale key <+: study.usable simulate study.baseline scale key ∨
    study.usable simulate study.baseline scale key <+: study.usable simulate alternative scale key

end

end Study

section Pairing

variable {Item : Type}

theorem zip_eq_iff_begins {first second : List Item} :
    (∀ pair ∈ first.zip second, pair.1 = pair.2) ↔ first <+: second ∨ second <+: first := by
  induction first generalizing second with
  | nil => simp
  | cons _ _ ih =>
    cases second with
    | nil => simp
    | cons =>
      simp only [List.zip_cons_cons, List.forall_mem_cons, List.cons_prefix_cons, ih]
      constructor
      · rintro ⟨rfl, isPrefix | isPrefix⟩
        · exact Or.inl ⟨rfl, isPrefix⟩
        · exact Or.inr ⟨rfl, isPrefix⟩
      · rintro (⟨rfl, isPrefix⟩ | ⟨rfl, isPrefix⟩)
        · exact ⟨rfl, Or.inl isPrefix⟩
        · exact ⟨rfl, Or.inr isPrefix⟩

/-- Where what passes one test begins what passes another, what passes both is
what passes the first. -/
theorem filter_and_of_begins {items : List Item} {keep also : Item → Bool}
    (isPrefix : items.filter keep <+: items.filter also) :
    items.filter (fun item => keep item && also item) = items.filter keep := by
  refine List.filter_congr ?_
  intro item isItem
  cases isKept : keep item with
  | false => rfl
  | true =>
    have isAlso := isPrefix.subset (List.mem_filter.mpr ⟨isItem, isKept⟩)
    simpa using (List.mem_filter.mp isAlso).2

end Pairing

namespace Study

variable {study : Study} {simulate : StudyAlternative → ℚ → Int → Fields}

section

variable (alternative : StudyAlternative) {scale : ℚ} (isScale : scale ∈ study.scales)

include isScale

theorem perSeed_filter :
    (study.perSeed simulate alternative).filter (fun row => row.demandScale = scale) =
      study.seeds.map fun seed =>
        { demandScale := scale
          seed := seed
          metrics := rowMetrics (simulate alternative scale seed) } := by
  unfold perSeed
  rw [List.filter_flatMap]
  have ofScale : ∀ other ∈ study.scales, (study.seeds.map fun seed =>
          ({ demandScale := other
             seed := seed
             metrics := rowMetrics (simulate alternative other seed) } :
            SeedRow)).filter (fun row => row.demandScale = scale) =
        if other = scale then study.seeds.map fun seed =>
            { demandScale := scale
              seed := seed
              metrics := rowMetrics (simulate alternative scale seed) }
        else [] := by
    intro other _
    split
    · next same =>
        subst same
        simp [List.filter_map, Function.comp_def]
    · next different => simp [List.filter_map, Function.comp_def, different]
  rw [List.flatMap_congr ofScale]
  have nodup := study.scales_nodup
  generalize study.scales = scales at isScale nodup
  induction scales with
  | nil => cases isScale
  | cons first rest ih =>
    obtain ⟨notIn, restNodup⟩ := List.nodup_cons.mp nodup
    rw [List.flatMap_cons]
    obtain rfl | isRest := List.mem_cons.mp isScale
    · have restEmpty : ∀ other ∈ rest, (if other = scale then study.seeds.map fun seed =>
              ({ demandScale := scale
                 seed := seed
                 metrics := rowMetrics (simulate alternative scale seed) } :
                SeedRow)
          else []) = [] := by
        intro other isOther
        have different : other ≠ scale := fun same => notIn (same ▸ isOther)
        simp [different]
      rw [List.flatMap_congr restEmpty]
      simp
    · have different : first ≠ scale := fun same => notIn (same ▸ isRest)
      simp [different, ih isRest restNodup]

theorem seedValues_eq (key : String) :
    seedValues ((study.perSeed simulate (study.cached alternative)).filter
        fun row => row.demandScale = scale) key =
      (study.usable simulate alternative scale key).map fun seed =>
        (study.valueAt simulate alternative scale key seed).getD 0 := by
  rw [perSeed_filter _ isScale]
  unfold seedValues usable valueAt
  rw [List.filterMap_map]
  induction study.seeds with
  | nil => rfl
  | cons seed _ ih =>
    simp only [List.filterMap_cons, List.filter_cons, Function.comp_apply, seedValue]
    cases isValue : ((rowMetrics (simulate (study.cached alternative) scale
        seed)).get key).number with
    | none | some value => simpa [isValue] using ih

end

theorem mem_resultRows {row : ResultRow} (isRow : row ∈ study.resultRows simulate) :
    ∃ alternative ∈ study.alternatives, ∃ scale ∈ study.scales,
      row.alternativeId = alternative.id ∧ row.demandScale = scale ∧ ∀ key, row.seriesBySeed key =
          (study.usable simulate alternative scale key).map fun seed =>
            (study.valueAt simulate alternative scale key seed).getD 0 := by
  obtain ⟨alternative, isAlternative, ofAlternative⟩ := List.mem_flatMap.mp isRow
  obtain ⟨scale, isScale, rfl⟩ := List.mem_map.mp ofAlternative
  exact ⟨alternative, isAlternative, scale, isScale, rfl, rfl,
    fun key => seedValues_eq alternative isScale key⟩

theorem eq_baseline_of_id {alternative : StudyAlternative}
    (isAlternative : alternative ∈ study.alternatives)
    (isBaseline : alternative.id = study.baseline.id) : alternative = study.baseline := by
  obtain rfl | isOther := List.mem_cons.mp isAlternative
  · rfl
  · have notIn := (List.nodup_cons.mp study.ids_nodup).1
    exact absurd (List.mem_map.mpr ⟨alternative, isOther, isBaseline⟩) notIn

theorem mem_comparisons {comparison : PairedComparison}
    (isComparison : comparison ∈ study.comparisons simulate) :
    ∃ alternative ∈ study.others, comparison.alternativeId = alternative.id ∧ comparison.n =
        min (study.usable simulate alternative comparison.demandScale comparison.metric).length
          (study.usable simulate study.baseline comparison.demandScale comparison.metric).length ∧
      comparison.differences = (study.pairedSeeds simulate alternative comparison.demandScale
          comparison.metric).map (study.difference simulate alternative comparison.demandScale
              comparison.metric) := by
  obtain ⟨row, isRow, ofRow⟩ := List.mem_flatMap.mp isComparison
  obtain ⟨alternative, isAlternative, scale, isScale, isId, rowScale, series⟩ :=
    mem_resultRows isRow
  split at ofRow
  · cases ofRow
  · next notBaseline =>
      split at ofRow
      · cases ofRow
      · next base isBase =>
          obtain ⟨_, _, rfl⟩ := List.mem_map.mp ofRow
          have found := List.find?_some isBase
          have isRowBase := List.mem_reverse.mp (List.mem_of_find?_eq_some isBase)
          simp only [decide_eq_true_eq] at found
          obtain ⟨other, isOther, baseScale, _, otherId, otherScale,
            baseSeries⟩ := mem_resultRows isRowBase
          obtain rfl := eq_baseline_of_id isOther (otherId.symm.trans found.1)
          obtain rfl : scale = baseScale := by rw [← rowScale, ← otherScale, found.2]
          have isOthers : alternative ∈ study.others := by
            obtain rfl | isOther := List.mem_cons.mp isAlternative
            · exact absurd isId notBaseline
            · exact isOther
          refine ⟨alternative, isOthers, isId, ?_, ?_⟩
          · simp only [pairedMetric, series, baseSeries, rowScale, List.length_map]
          · simp only [pairedMetric, series, baseSeries, rowScale]
            rw [List.zipWith_eq_zipWith_take_min.symm, List.zipWith_map,
              pairedSeeds, List.zip, List.map_zipWith]
            rfl

/-- A comparison pairs its values by seed exactly when the usable seeds of the
alternative and of the baseline are aligned. -/
theorem pairedBySeed_iff_aligned (comparison : PairedComparison)
    (isComparison : comparison ∈ study.comparisons simulate) :
    ∃ alternative ∈ study.others, comparison.alternativeId = alternative.id ∧
      comparison.differences = (study.pairedSeeds simulate alternative comparison.demandScale
          comparison.metric).map (study.difference simulate alternative comparison.demandScale
              comparison.metric) ∧ (study.PairedBySeed simulate alternative comparison ↔
        study.Aligned simulate alternative comparison.demandScale comparison.metric) := by
  obtain ⟨alternative, isOther, isId, isCount, isDifferences⟩ := mem_comparisons isComparison
  refine ⟨alternative, isOther, isId, isDifferences, ?_⟩
  unfold PairedBySeed pairedSeeds
  rw [zip_eq_iff_begins, isCount]
  refine and_iff_left_of_imp ?_
  have bothEq : study.bothUsable simulate alternative comparison.demandScale comparison.metric =
    study.seeds.filter fun seed =>
      (study.valueAt simulate alternative comparison.demandScale comparison.metric seed).isSome &&
        (study.valueAt simulate study.baseline comparison.demandScale
          comparison.metric seed).isSome := by
    unfold bothUsable
    simp only [Bool.decide_and, Bool.decide_eq_true]
  rw [bothEq]
  rintro (isPrefix | isPrefix)
  · rw [filter_and_of_begins isPrefix]
    exact min_eq_left isPrefix.length_le
  · rw [List.filter_congr fun seed _ => Bool.and_comm _ _, filter_and_of_begins isPrefix]
    exact min_eq_right isPrefix.length_le

end Study

/-- Two alternatives under the seeds 1, 2 and 3. -/
def twoAlternatives : Study where
  baseline := ⟨"base", "fixed_time", some "a"⟩
  others := [⟨"ring", "roundabout", some "b"⟩]
  scales := [1]
  baseSeed := 1
  repetitions := 3
  ids_nodup := by decide
  scales_nodup := by decide

/-- The delay is ten times the seed, for the alternative one second more; it is
missing under one seed of the alternative. -/
def delaysWithout (missing : Int) : StudyAlternative → ℚ → Int → Fields := fun alternative _ seed =>
    if alternative.id = "base" then [("averageDelay", .float (10 * seed))]
    else if seed = missing then [("averageDelay", .none)]
    else [("averageDelay", .float (10 * seed + 1))]

/-- The comparison of the mean delays. -/
def delayComparison (n : Nat) (differences : List ℚ) : PairedComparison where
  alternativeId := "ring"
  baselineId := "base"
  demandScale := 1
  metric := "averageDelay"
  n := n
  differences := differences

/-- Without the alternative's value under the first seed, both differences are of
two seeds. -/
theorem missing_first_unpaired : delayComparison 2 [11, 11] ∈
        twoAlternatives.comparisons (delaysWithout 1) ∧
      ¬ twoAlternatives.PairedBySeed (delaysWithout 1)
        ⟨"ring", "roundabout", some "b"⟩ (delayComparison 2 [11, 11]) := by
  refine ⟨by decide +kernel, ?_⟩
  rintro ⟨paired, _⟩
  have wrong := paired (2, 1) (by decide)
  cases wrong

/-- Without the alternative's value under the last seed, the differences are of
one seed each. -/
theorem missing_last_paired : ∃ alternative ∈ twoAlternatives.others, "ring" = alternative.id ∧
      [1, 1] = (twoAlternatives.pairedSeeds (delaysWithout 3) alternative 1
        "averageDelay").map (twoAlternatives.difference (delaysWithout 3)
          alternative 1 "averageDelay") ∧
      (twoAlternatives.PairedBySeed (delaysWithout 3) alternative (delayComparison 2 [1, 1]) ↔
        twoAlternatives.Aligned (delaysWithout 3) alternative 1 "averageDelay") :=
  Study.pairedBySeed_iff_aligned (delayComparison 2 [1, 1]) (by decide +kernel)

end UrbanFlow.PlanningStudy
