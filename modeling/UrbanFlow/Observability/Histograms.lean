import Mathlib.Algebra.BigOperators.Ring.Finset
import Mathlib.Data.Finset.Sort
import Mathlib.Data.Rat.Floor
import Mathlib.Data.String.Basic
import UrbanFlow.Library.Dict
import UrbanFlow.Library.Folds
import UrbanFlow.Library.Sums

/-!
# Histograms and their quantiles

A histogram counts, in each of its series, the observations within each of its bounds;
`histogram_quantile` adds the rendered series up bound by bound. A bound that is given
several times is rendered and added up as often.
-/

namespace UrbanFlow.Observability

def maxSeries : Nat := 500

abbrev LabelValues := List String

/-- A series: the observations within each bound, their sum and their number. -/
structure Series where
  counts : List Nat
  total : ℚ
  n : Nat

/-- `Histogram`, with positive bounds, sorted by its constructor. -/
structure Histogram where
  name : String
  labelNames : List String
  buckets : List (WithTop ℚ)
  sorted : buckets.Pairwise (· ≤ ·)
  pos : ∀ bound ∈ buckets, 0 < bound

/-- `Sample`; `le` is the bound that the label writes. -/
structure Sample where
  name : String
  labels : List (String × String)
  le : Option (WithTop ℚ) := none
  value : ℚ

/-- `_key`, of as many labels as the metric has. -/
def keyOf {Value : Type} (values : LabelValues) (existing : List (LabelValues × Value)) :
    LabelValues :=
  if values ∉ existing.map Prod.fst ∧ maxSeries ≤ existing.length then values.map fun _ => "other"
  else values

namespace Histogram

variable (hist : Histogram)

/-- An observation, and its labels. -/
abbrev Observation : Type := ℚ × {labels : LabelValues // labels.length = hist.labelNames.length}

/-- What an observation adds to its series. -/
def count (value : ℚ) (series : Series) : Series where
  counts := List.zipWith (fun bound c => if (value : WithTop ℚ) ≤ bound then c + 1 else c)
    hist.buckets series.counts
  total := series.total + value
  n := series.n + 1

def observe (values : List (LabelValues × Series)) (observation : hist.Observation) :
    List (LabelValues × Series) :=
  Dict.upsert (hist.count observation.1)
    { counts := List.replicate hist.buckets.length 0, total := 0, n := 0 }
    (keyOf observation.2 values) values

/-- The series after some observations. -/
def seriesOf (observations : List hist.Observation) : List (LabelValues × Series) :=
  observations.foldl hist.observe []

/-- The lines of one series in `render`. -/
def lines (key : LabelValues) (series : Series) : List Sample :=
  let labels := hist.labelNames.zip key
  (List.zipWith (fun bound (c : Nat) =>
      { name := hist.name ++ "_bucket", labels := labels, le := some bound, value := c })
    hist.buckets series.counts) ++
  [{ name := hist.name ++ "_bucket", labels := labels, le := some ⊤, value := series.n },
    { name := hist.name ++ "_sum", labels := labels, value := series.total },
    { name := hist.name ++ "_count", labels := labels, value := series.n }]

def render (values : List (LabelValues × Series)) : List Sample :=
  (values.mergeSort fun first second => first.1 ≤ second.1).flatMap fun entry =>
    hist.lines entry.1 entry.2

end Histogram

/-- The result at a bound whose count reaches the rank; the bound before it is finite. -/
def interpolate (rank : ℚ) (prev : WithTop ℚ × ℚ) (count : ℚ) : WithTop ℚ → WithTop ℚ
  | ⊤ => prev.1
  | (bound : ℚ) =>
    let span := count - prev.2
    let prevBound := prev.1.untopD 0
    if span ≤ 0 then bound
    else (prevBound + (bound - prevBound) * (rank - prev.2) / span : ℚ)

/-- The last loop of `histogram_quantile`, from a bound and its count on. -/
def quantileFrom (rank : ℚ) : WithTop ℚ × ℚ → List (WithTop ℚ × ℚ) → WithTop ℚ
  | prev, [] => prev.1
  | prev, (bound, count) :: rest =>
    if rank ≤ count then interpolate rank prev count bound
    else quantileFrom rank (bound, count) rest

/-- The bounds that the samples of a histogram have, with their values. -/
def bucketsOf (samples : List Sample) (histogram : String) : List (WithTop ℚ × ℚ) :=
  samples.filterMap fun s =>
    if s.name = histogram ++ "_bucket" then s.le.map fun bound => (bound, s.value) else none

/-- The values of a list, added up for each key. -/
def addUp (items : List (WithTop ℚ × ℚ)) : Dict (WithTop ℚ) ℚ :=
  items.foldl (fun dict item => dict.insert item.1 (Dict.valueAt 0 dict item.1 + item.2)) ∅

/-- `histogram_quantile`, of all series. -/
def histogramQuantile (samples : List Sample) (histogram : String) (q : ℚ) : Option (WithTop ℚ) :=
  let buckets := addUp (bucketsOf samples histogram)
  if Dict.valueAt 0 buckets ⊤ ≤ 0 then none
  else
    let ordered := buckets.keys.sort.map fun bound => (bound, Dict.valueAt 0 buckets bound)
    let total := (ordered.getLast?.map Prod.snd).getD 0
    some (quantileFrom (q * total) (0, 0) ordered)

/-! ## The loop -/

section

variable {F : WithTop ℚ → ℚ} {rank p k : ℚ} {keys : List (WithTop ℚ)}

/-- Where the loop ends, by the bounds whose counts reach the rank. -/
structure Located (F : WithTop ℚ → ℚ) (rank p : ℚ) (keys : List (WithTop ℚ)) (v : ℚ) : Prop where
  from_prev : p ≤ v
  gt_prev : ∀ b : ℚ, ↑b ∈ keys → p < v
  of_reached : ∀ b : ℚ, ↑b ∈ keys → rank ≤ F b → v ≤ b ∧ (rank < F b → v < b)
  of_passed : ∀ b : ℚ, ↑b ∈ keys → (∀ c ∈ keys, c ≤ b → F c < rank) →
    b ≤ v ∧ ∀ c : ℚ, ↑c ∈ keys → b < c → b < v
  le_last : ∀ b : ℚ, p ≤ b → (∀ c : ℚ, ↑c ∈ keys → c ≤ b) → v ≤ b

theorem interpolate_coe {b count : ℚ} (span : 0 < count - k) : interpolate rank (p, k) count b =
    ((p + (b - p) * ((rank - k) / (count - k)) : ℚ) : WithTop ℚ) := by
  simp only [interpolate, if_neg span.not_ge, WithTop.untopD_coe, mul_div_assoc]

theorem exists_quantileFrom (increasing : keys.Pairwise (· < ·)) (hasTop : ⊤ ∈ keys)
    (reached : rank ≤ F ⊤) (ahead : ∀ key ∈ keys, (p : WithTop ℚ) < key) (passed : k < rank) :
    ∃ v : ℚ, quantileFrom rank (p, k) (keys.map fun b => (b, F b)) = v ∧
      Located F rank p keys v := by
  induction keys generalizing p k with
  | nil => cases hasTop
  | cons bound rest ih =>
    obtain ⟨after, restIncreasing⟩ := List.pairwise_cons.mp increasing
    cases bound with
    | top =>
      have isLast : rest = [] := List.eq_nil_iff_forall_not_mem.mpr fun other isOther =>
        not_top_lt (after other isOther)
      subst isLast
      exact ⟨p, if_pos reached, le_rfl, by simp, by simp, by simp, fun b le _ => le⟩
    | coe b =>
      have isAhead : p < b := WithTop.coe_lt_coe.mp (ahead b List.mem_cons_self)
      by_cases isReached : rank ≤ F b
      · -- the loop ends between the last bound and this one
        have span : 0 < F b - k := by linarith
        have part : (rank - k) / (F b - k) ≤ 1 := (div_le_one span).mpr (by linarith)
        have some_part : 0 < (rank - k) / (F b - k) := div_pos (by linarith) span
        have width := sub_pos.mpr isAhead
        refine ⟨p + (b - p) * ((rank - k) / (F b - k)), ?_, ?_, ?_, ?_, ?_, ?_⟩
        · rw [List.map_cons, quantileFrom, if_pos isReached, interpolate_coe span]
        · nlinarith
        · exact fun _ _ => by nlinarith
        · have le : p + (b - p) * ((rank - k) / (F b - k)) ≤ b := by nlinarith
          rintro c isKey -
          rcases List.mem_cons.mp isKey with isHead | isRest
          · cases WithTop.coe_inj.mp isHead
            refine ⟨le, fun beyond => ?_⟩
            have part : (rank - k) / (F b - k) < 1 := (div_lt_one span).mpr (by linarith)
            nlinarith
          · have later := WithTop.coe_lt_coe.mp (after _ isRest)
            exact ⟨le.trans later.le, fun _ => le.trans_lt later⟩
        · intro c isKey allPassed
          have isFirst : (b : WithTop ℚ) ≤ c := by
            rcases List.mem_cons.mp isKey with isHead | isRest
            · exact isHead.ge
            · exact (after _ isRest).le
          exact absurd isReached (allPassed b List.mem_cons_self isFirst).not_ge
        · intro c _ isLast
          have := isLast b List.mem_cons_self
          nlinarith
      · have hasTop : ⊤ ∈ rest := by
          rcases List.mem_cons.mp hasTop with isHead | isRest
          · cases isHead
          · exact isRest
        obtain ⟨v, isResult, located⟩ := ih restIncreasing hasTop after (not_le.mp isReached)
        refine ⟨v, (if_neg isReached).trans isResult, isAhead.le.trans located.from_prev,
          fun _ _ => isAhead.trans_le located.from_prev, ?_, ?_, ?_⟩
        · intro c isKey reachesC
          rcases List.mem_cons.mp isKey with isHead | isRest
          · cases WithTop.coe_inj.mp isHead
            exact absurd reachesC isReached
          · exact located.of_reached c isRest reachesC
        · intro c isKey allPassed
          rcases List.mem_cons.mp isKey with isHead | isRest
          · cases WithTop.coe_inj.mp isHead
            refine ⟨located.from_prev, fun other isOther later => ?_⟩
            rcases List.mem_cons.mp isOther with same | isRest
            · exact absurd (WithTop.coe_inj.mp same) later.ne'
            · exact located.gt_prev other isRest
          · obtain ⟨le, lt⟩ := located.of_passed c isRest fun other isOther =>
              allPassed other (List.mem_cons_of_mem _ isOther)
            refine ⟨le, fun other isOther later => ?_⟩
            rcases List.mem_cons.mp isOther with same | isRest'
            · have := WithTop.coe_lt_coe.mp (after _ isRest)
              exact absurd (WithTop.coe_inj.mp same) (this.trans later).ne'
            · exact lt other isRest' later
        · intro c _ isLast
          exact located.le_last c (isLast b List.mem_cons_self) fun other isOther =>
            isLast other (List.mem_cons_of_mem _ isOther)

/-- A higher rank ends no earlier. -/
theorem quantileFrom_mono {rank' : ℚ} (le : rank ≤ rank') (increasing : keys.Pairwise (· < ·))
    (hasTop : ⊤ ∈ keys) (reached : rank' ≤ F ⊤) (ahead : ∀ key ∈ keys, (p : WithTop ℚ) < key)
    (passed : k < rank) : quantileFrom rank (p, k) (keys.map fun b => (b, F b)) ≤
      quantileFrom rank' (p, k) (keys.map fun b => (b, F b)) := by
  induction keys generalizing p k with
  | nil => cases hasTop
  | cons bound rest ih =>
    obtain ⟨v', isResult', located'⟩ :=
      exists_quantileFrom increasing hasTop reached ahead (passed.trans_le le)
    obtain ⟨v, isResult, located⟩ :=
      exists_quantileFrom increasing hasTop (le.trans reached) ahead passed
    obtain ⟨after, isIncreasing⟩ := List.pairwise_cons.mp increasing
    cases bound with
    | top =>
      simp only [List.map_cons, quantileFrom, if_pos (le.trans reached), if_pos reached]
      exact le_rfl
    | coe b =>
      by_cases isReached : rank ≤ F b
      · by_cases isReached' : rank' ≤ F b
        · have span : 0 < F b - k := by linarith
          have width := WithTop.coe_lt_coe.mp (ahead b List.mem_cons_self)
          have parts := div_le_div_of_nonneg_right (sub_le_sub_right le k) span.le
          simp only [List.map_cons, quantileFrom, if_pos isReached, if_pos isReached',
            interpolate_coe span]
          exact WithTop.coe_le_coe.mpr (by nlinarith)
        · rw [isResult, isResult']
          refine WithTop.coe_le_coe.mpr
            ((located.of_reached b List.mem_cons_self isReached).1.trans ?_)
          refine (located'.of_passed b List.mem_cons_self fun c isKey isFirst => ?_).1
          rcases List.mem_cons.mp isKey with rfl | isRest
          · exact not_le.mp isReached'
          · exact absurd isFirst (after c isRest).not_ge
      · have hasTop : ⊤ ∈ rest := by
          rcases List.mem_cons.mp hasTop with isHead | isRest
          · cases isHead
          · exact isRest
        simp only [List.map_cons, quantileFrom, if_neg isReached,
          if_neg fun isReached' => isReached (le.trans isReached')]
        exact ih isIncreasing hasTop after (not_le.mp isReached)

end

/-! ## The sums -/

theorem valueAt_addUp (items : List (WithTop ℚ × ℚ)) (bound : WithTop ℚ) :
    Dict.valueAt 0 (addUp items) bound =
      (items.map fun item => if item.1 = bound then item.2 else 0).sum := by
  refine (Sums.measure_foldl (fun dict => Dict.valueAt 0 dict bound)
    (fun item => if item.1 = bound then item.2 else 0) ?_ ∅).trans (zero_add _)
  rintro ⟨key, value⟩ - dict
  by_cases same : key = bound
  · subst same
    simp
  · simp [same, Ne.symm same]

theorem mem_keys_addUp (items : List (WithTop ℚ × ℚ)) (bound : WithTop ℚ) :
    bound ∈ (addUp items).keys ↔ ∃ item ∈ items, item.1 = bound := by
  have steps : ∀ item ∈ items, ∀ dict : Dict (WithTop ℚ) ℚ,
      bound ∈ dict.insert item.1 (Dict.valueAt 0 dict item.1 + item.2) ↔
        bound ∈ dict ∨ item.1 = bound := by
    intro item _ dict
    rw [Finmap.mem_insert, or_comm, eq_comm]
  rw [Finmap.mem_keys]
  refine (Folds.foldl_iff_exists (fun dict => bound ∈ dict) steps ∅).trans ?_
  simp [Finmap.notMem_empty]

namespace Histogram

variable (hist : Histogram)

def within (values : List ℚ) (bound : WithTop ℚ) : Nat :=
  values.countP fun value : ℚ => (value : WithTop ℚ) ≤ bound

theorem within_nil : within [] = fun _ => 0 := rfl

theorem within_mono (values : List ℚ) {bound bound' : WithTop ℚ} (le : bound ≤ bound') :
    within values bound ≤ within values bound' :=
  List.countP_mono_left fun _ _ isWithin => decide_eq_true ((of_decide_eq_true isWithin).trans le)

/-- The series of some values. -/
def tally (values : List ℚ) : Series where
  counts := hist.buckets.map (within values)
  total := values.sum
  n := values.length

theorem count_tally (value : ℚ) (values : List ℚ) :
    hist.count value (hist.tally values) = hist.tally (value :: values) := by
  simp only [count, tally, List.sum_cons, List.length_cons, add_comm value, Series.mk.injEq, and_true]
  induction hist.buckets with
  | nil => rfl
  | cons _ _ ih =>
    simp only [List.map_cons, List.zipWith_cons_cons, ih, within, List.countP_cons,
      decide_eq_true_eq]
    split_ifs <;> rfl

theorem exists_groups (observations : List hist.Observation) :
    ∃ groups : List (LabelValues × List ℚ),
      hist.seriesOf observations = groups.map (Prod.map id hist.tally) ∧
        (groups.flatMap Prod.snd).Perm (observations.map Prod.fst) := by
  induction observations using List.reverseRecOn with
  | nil => exact ⟨[], rfl, .refl _⟩
  | append_singleton before observation ih =>
    obtain ⟨groups, areGroups, isPerm⟩ := ih
    have isEmpty : { counts := List.replicate hist.buckets.length 0, total := 0, n := 0 } =
        hist.tally [] := by
      simp [tally, within_nil]
    refine ⟨Dict.upsert (observation.1 :: ·) [] (keyOf observation.2 (hist.seriesOf before)) groups,
      ?_, ?_⟩
    · rw [seriesOf, List.foldl_append, List.foldl_cons, List.foldl_nil, observe, isEmpty,
        ← seriesOf, ← Dict.upsert_map (hist.count_tally observation.1), areGroups]
    · rw [List.map_append]
      exact (Dict.upsert_cons_perm _ _ groups).trans
        ((isPerm.cons _).trans (List.perm_append_singleton _ _).symm)

/-- The bounds as rendered. -/
def rendered : List (WithTop ℚ) := hist.buckets ++ [⊤]

theorem bucketsOf_lines (key : LabelValues) (values : List ℚ) :
    bucketsOf (hist.lines key (hist.tally values)) hist.name =
      hist.rendered.map fun bound => (bound, (within values bound : ℚ)) := by
  have sum_ne : ∀ suffix, suffix ≠ "_bucket" → hist.name ++ suffix ≠ hist.name ++ "_bucket" :=
    fun suffix differs same => differs ((String.append_right_inj hist.name).mp same)
  have all : within values ⊤ = values.length := by simp [within]
  simp only [bucketsOf, lines, rendered, tally, List.filterMap_append, List.map_append,
    List.filterMap_cons, List.filterMap_nil, if_pos, sum_ne "_sum" (by decide),
    sum_ne "_count" (by decide), if_false, Option.map_some, List.map_cons, List.map_nil, all]
  congr 1
  induction hist.buckets with
  | nil => rfl
  | cons _ _ ih => simp [ih]

/-- What the samples of a bound add up to: it counts as often as it is rendered. -/
def weight (values : List ℚ) (bound : WithTop ℚ) : ℚ :=
  hist.rendered.count bound * within values bound

/-- `histogram_quantile` of the series after some observations. -/
def quantile (observations : List hist.Observation) (q : ℚ) : Option (WithTop ℚ) :=
  histogramQuantile (hist.render (hist.seriesOf observations)) hist.name q

variable {hist} {observations : List hist.Observation} {q : ℚ}

theorem exists_bucketsOf_render (hist : Histogram) (observations : List hist.Observation) :
    ∃ groups : List (LabelValues × List ℚ),
      (groups.flatMap Prod.snd).Perm (observations.map Prod.fst) ∧
      (bucketsOf (hist.render (hist.seriesOf observations)) hist.name).Perm
        (groups.flatMap fun group => hist.rendered.map fun bound =>
          (bound, (within group.2 bound : ℚ))) := by
  obtain ⟨groups, areGroups, isPerm⟩ := hist.exists_groups observations
  refine ⟨groups, isPerm, ?_⟩
  rw [render, bucketsOf, List.filterMap_flatMap]
  refine ((List.mergeSort_perm _ _).flatMap_right _).trans (List.Perm.of_eq ?_)
  rw [areGroups, List.flatMap_map]
  exact List.flatMap_congr fun group _ => hist.bucketsOf_lines group.1 group.2

theorem valueAt_render (bound : WithTop ℚ) :
    Dict.valueAt 0 (addUp (bucketsOf (hist.render (hist.seriesOf observations)) hist.name)) bound =
      hist.weight (observations.map Prod.fst) bound := by
  obtain ⟨groups, isPerm, areSamples⟩ := hist.exists_bucketsOf_render observations
  rw [valueAt_addUp, (areSamples.map _).sum_eq, List.map_flatMap, List.flatMap, List.sum_flatten,
    List.map_map]
  have each : ∀ group ∈ groups, (hist.rendered.map fun other =>
      if other = bound then (within group.2 other : ℚ) else 0).sum =
        hist.rendered.count bound * (within group.2 bound : ℚ) := by
    intro group _
    simp [List.sum_map_ite_eq]
  simp only [Function.comp_def, List.map_map]
  rw [List.map_congr_left each, List.sum_map_mul_left, weight, within, ← isPerm.countP_eq,
    List.countP_flatMap]
  simp only [Nat.cast_list_sum, List.map_map, Function.comp_def, within]

theorem mem_keys_render (nonempty : observations ≠ []) (bound : WithTop ℚ) :
    bound ∈ (addUp (bucketsOf (hist.render (hist.seriesOf observations)) hist.name)).keys ↔
      bound ∈ hist.rendered := by
  obtain ⟨groups, isPerm, areSamples⟩ := hist.exists_bucketsOf_render observations
  obtain ⟨group, isGroup⟩ := List.exists_mem_of_ne_nil groups fun isNil => nonempty
    (List.map_eq_nil_iff.mp (isNil ▸ isPerm).symm.eq_nil)
  simp only [mem_keys_addUp, areSamples.mem_iff, List.mem_flatMap, List.mem_map]
  constructor
  · rintro ⟨_, ⟨_, _, bound, isBound, rfl⟩, rfl⟩
    exact isBound
  · exact fun isBound => ⟨_, ⟨group, isGroup, bound, isBound, rfl⟩, rfl⟩

theorem count_top_pos (hist : Histogram) : 0 < hist.rendered.count ⊤ :=
  List.count_pos_iff.mpr (by simp [rendered])

theorem weight_top (hist : Histogram) (observations : List hist.Observation) :
    hist.weight (observations.map Prod.fst) ⊤ = hist.rendered.count ⊤ * observations.length := by
  simp [weight, within]

theorem weight_top_pos (nonempty : observations ≠ []) :
    0 < hist.weight (observations.map Prod.fst) ⊤ := by
  have counted := hist.count_top_pos
  have number := List.length_pos_iff.mpr nonempty
  rw [weight_top]
  positivity

theorem top_mem_keys (hist : Histogram) : ⊤ ∈ hist.rendered.toFinset.sort := by simp [rendered]

theorem coe_mem_keys {b : ℚ} : ↑b ∈ hist.rendered.toFinset.sort ↔ ↑b ∈ hist.buckets := by
  simp [rendered]

theorem pos_of_mem_keys (bound : WithTop ℚ) (isKey : bound ∈ hist.rendered.toFinset.sort) :
    ((0 : ℚ) : WithTop ℚ) < bound := by
  cases bound with
  | top => exact WithTop.coe_lt_top 0
  | coe b => exact hist.pos b (coe_mem_keys.mp isKey)

/-- The quantile is found by the bounds and the values alone. -/
theorem quantile_eq (nonempty : observations ≠ []) : hist.quantile observations q =
    some (quantileFrom (q * hist.weight (observations.map Prod.fst) ⊤) (0, 0)
      (hist.rendered.toFinset.sort.map fun bound =>
        (bound, hist.weight (observations.map Prod.fst) bound))) := by
  have keys : (addUp (bucketsOf (hist.render (hist.seriesOf observations)) hist.name)).keys =
      hist.rendered.toFinset := by
    ext bound
    rw [mem_keys_render nonempty, List.mem_toFinset]
  have last : hist.rendered.toFinset.sort.getLast? = some ⊤ := by
    obtain ⟨before, after, isSplit⟩ := List.append_of_mem hist.top_mem_keys
    have increasing := hist.rendered.toFinset.sortedLT_sort.pairwise
    rw [isSplit, List.pairwise_append, List.pairwise_cons] at increasing
    have none_after : after = [] := List.eq_nil_iff_forall_not_mem.mpr fun bound isAfter =>
      not_top_lt (increasing.2.1.1 bound isAfter)
    simp [isSplit, none_after]
  simp only [quantile, histogramQuantile, valueAt_render, if_neg (weight_top_pos nonempty).not_ge,
    keys]
  rw [List.getLast?_map, last]
  rfl

/-- Where the loop ends, and that a higher quantile ends no earlier. -/
theorem exists_quantile (nonempty : observations ≠ []) (q_pos : 0 < q) (q_le : q ≤ 1) :
    ∃ v : ℚ, hist.quantile observations q = some ↑v ∧
      Located (hist.weight (observations.map Prod.fst))
        (q * hist.weight (observations.map Prod.fst) ⊤) 0 hist.rendered.toFinset.sort v := by
  have total := weight_top_pos nonempty
  obtain ⟨v, isResult, located⟩ := exists_quantileFrom (p := 0) (k := 0)
    hist.rendered.toFinset.sortedLT_sort.pairwise hist.top_mem_keys
    (mul_le_of_le_one_left total.le q_le) pos_of_mem_keys (mul_pos q_pos total)
  exact ⟨v, (quantile_eq nonempty).trans (congrArg some isResult), located⟩

/-! ## The observation of a rank -/

/-- The `n`-th smallest of some values. -/
def nthSmallest (values : List ℚ) (n : Nat) : ℚ := (values.insertionSort (· ≤ ·)).getD (n - 1) 0

theorem getD_le_iff {values : List ℚ} (sorted : values.Pairwise (· ≤ ·)) {i : Nat}
    (isIndex : i < values.length) (bound : ℚ) :
    values.getD i 0 ≤ bound ↔ i < values.countP (· ≤ bound) := by
  induction values generalizing i with
  | nil => cases isIndex
  | cons first rest ih =>
    obtain ⟨isLeast, sorted⟩ := List.pairwise_cons.mp sorted
    by_cases isWithin : first ≤ bound
    · cases i with
      | zero => simp [isWithin]
      | succ => simpa [isWithin] using ih sorted (Nat.lt_of_succ_lt_succ isIndex)
    · have noneWithin : rest.countP (· ≤ bound) = 0 := List.countP_eq_zero.mpr fun other isOther le =>
        isWithin ((isLeast other isOther).trans (of_decide_eq_true le))
      cases i with
      | zero => simp [isWithin, noneWithin]
      | succ => simpa [isWithin, noneWithin] using ih sorted (Nat.lt_of_succ_lt_succ isIndex)

theorem nthSmallest_le_iff {values : List ℚ} {n : Nat} (n_pos : 0 < n) (n_le : n ≤ values.length)
    (bound : ℚ) : nthSmallest values n ≤ bound ↔ n ≤ within values bound := by
  have isPerm := List.perm_insertionSort (· ≤ ·) values
  rw [nthSmallest, getD_le_iff (List.pairwise_insertionSort _ _) (by rw [isPerm.length_eq]; omega),
    isPerm.countP_eq, within]
  simp only [WithTop.coe_le_coe]
  omega

/-- A value lies between the bounds of the bucket that holds an observation, at the last
finite bound where the observation is beyond it. -/
structure InBucket (hist : Histogram) (observed v : ℚ) : Prop where
  nonneg : 0 ≤ v
  lower : ∀ b : ℚ, ↑b ∈ hist.buckets → b < observed → b ≤ v
  upper : ∀ b : ℚ, ↑b ∈ hist.buckets → observed ≤ b → v ≤ b
  beyond : ∀ b : ℚ, ↑b ∈ hist.buckets → (∀ c : ℚ, ↑c ∈ hist.buckets → c ≤ b) → b < observed → v = b

/-- What is promised of the quantiles of a histogram. -/
def Sound (hist : Histogram) : Prop := ∀ observations : List hist.Observation, observations ≠ [] →
    (∀ observation ∈ observations, 0 ≤ observation.1) → ∀ q, 0 < q → q ≤ 1 →
    ∃ v : ℚ, hist.quantile observations q = some ↑v ∧ InBucket hist
        (nthSmallest (observations.map Prod.fst) ⌈q * observations.length⌉₊) v ∧
      (∀ q', q ≤ q' → q' ≤ 1 → ∃ v' : ℚ, hist.quantile observations q' = some ↑v' ∧ v ≤ v') ∧
      ∀ labels, hist.quantile (observations.map fun observation => (observation.1, labels)) q =
        some ↑v

/-- Every finite bound is rendered as often as `+Inf`, which `render` adds once; the largest
may be rendered less often. -/
def Balanced (hist : Histogram) : Prop :=
  ∀ b : ℚ, ↑b ∈ hist.buckets → hist.rendered.count ↑b ≤ hist.rendered.count ⊤ ∧
    (hist.rendered.count ↑b = hist.rendered.count ⊤ ∨ ∀ c : ℚ, ↑c ∈ hist.buckets → c ≤ b)

theorem observed_le_iff (nonempty : observations ≠ []) (q_pos : 0 < q) (q_le : q ≤ 1) (b : ℚ) :
    nthSmallest (observations.map Prod.fst) ⌈q * observations.length⌉₊ ≤ b ↔
      q * observations.length ≤ within (observations.map Prod.fst) b := by
  have number : (0 : ℚ) < observations.length := Nat.cast_pos.mpr (List.length_pos_iff.mpr nonempty)
  rw [nthSmallest_le_iff (Nat.ceil_pos.mpr (mul_pos q_pos number)), Nat.ceil_le]
  rw [List.length_map, Nat.ceil_le]
  exact mul_le_of_le_one_left number.le q_le

theorem inBucket_of_balanced (balanced : Balanced hist) (nonempty : observations ≠ [])
    (q_pos : 0 < q) (q_le : q ≤ 1) {v : ℚ}
    (located : Located (hist.weight (observations.map Prod.fst))
      (q * hist.weight (observations.map Prod.fst) ⊤) 0 hist.rendered.toFinset.sort v) :
    InBucket hist (nthSmallest (observations.map Prod.fst) ⌈q * observations.length⌉₊) v := by
  rw [weight_top] at located
  have isObserved := observed_le_iff nonempty q_pos q_le
  have top_pos : (0 : ℚ) < hist.rendered.count ⊤ := Nat.cast_pos.mpr hist.count_top_pos
  have lower : ∀ b : ℚ, ↑b ∈ hist.buckets →
      b < nthSmallest (observations.map Prod.fst) ⌈q * observations.length⌉₊ → b ≤ v := by
    intro b isBucket before
    refine (located.of_passed b (coe_mem_keys.mpr isBucket) fun c isBound le => ?_).1
    lift c to ℚ using ne_top_of_le_ne_top WithTop.coe_ne_top le
    have few := not_le.mp fun enough => before.not_ge ((isObserved b).mpr enough)
    calc hist.weight (observations.map Prod.fst) c
        ≤ hist.rendered.count ⊤ * within (observations.map Prod.fst) b :=
          mul_le_mul (Nat.cast_le.mpr (balanced c (coe_mem_keys.mp isBound)).1)
            (Nat.cast_le.mpr (within_mono _ le)) (Nat.cast_nonneg _) top_pos.le
      _ < hist.rendered.count ⊤ * (q * observations.length) := mul_lt_mul_of_pos_left few top_pos
      _ = q * (hist.rendered.count ⊤ * observations.length) := by ring
  refine ⟨located.from_prev, lower, ?_, ?_⟩
  · intro b isBucket after
    have positive : 0 ≤ b := (WithTop.coe_lt_coe.mp (hist.pos b isBucket)).le
    rcases (balanced b isBucket).2 with same | isLast
    · refine (located.of_reached b (coe_mem_keys.mpr isBucket) ?_).1
      rw [weight, same]
      linarith [mul_le_mul_of_nonneg_left ((isObserved b).mp after) top_pos.le]
    · exact located.le_last b positive fun c isBound => isLast c (coe_mem_keys.mp isBound)
  · intro b isBucket isLast before
    have positive : 0 ≤ b := (WithTop.coe_lt_coe.mp (hist.pos b isBucket)).le
    exact le_antisymm (located.le_last b positive fun c isBound => isLast c (coe_mem_keys.mp isBound))
      (lower b isBucket before)

/-- Among finite bounds one is the largest. -/
theorem exists_last {b : ℚ} (isBucket : ↑b ∈ hist.buckets) :
    ∃ last : ℚ, ↑last ∈ hist.buckets ∧ ∀ c : ℚ, ↑c ∈ hist.buckets → c ≤ last := by
  obtain ⟨last, isLast, isMax⟩ := (hist.buckets.toFinset.erase ⊤).exists_max_image id
    ⟨b, by simp [isBucket]⟩
  rw [Finset.mem_erase, List.mem_toFinset] at isLast
  lift last to ℚ using isLast.1
  exact ⟨last, isLast.2, fun c isBound => WithTop.coe_le_coe.mp (isMax c (by simp [isBound]))⟩

/-- Bounds that are not balanced miss the bucket of some observation. -/
theorem balanced_of_sound (sound : Sound hist) : Balanced hist := by
  intro b isBucket
  have positive : 0 < b := WithTop.coe_lt_coe.mp (hist.pos b isBucket)
  have labels : {labels : LabelValues // labels.length = hist.labelNames.length} :=
    ⟨hist.labelNames, rfl⟩
  obtain ⟨last, isBound, isLast⟩ := exists_last isBucket
  have exists_located : ∀ values : List ℚ, values ≠ [] → (∀ value ∈ values, 0 ≤ value) →
      ∃ v : ℚ, InBucket hist (nthSmallest values values.length) v ∧
        Located (hist.weight values) (hist.rendered.count ⊤ * values.length) 0
          hist.rendered.toFinset.sort v := by
    intro values nonempty nonneg
    have areValues : (values.map fun value => (value, labels)).map Prod.fst = values := by
      simp [Function.comp_def]
    have isNonempty : (values.map fun value => (value, labels)) ≠ [] := by simpa using nonempty
    obtain ⟨v, isResult, located⟩ := @exists_quantile hist _ _ isNonempty one_pos le_rfl
    obtain ⟨v', isResult', inBucket, _⟩ := sound _ isNonempty (by simpa using nonneg) 1 one_pos le_rfl
    cases WithTop.coe_inj.mp (Option.some_inj.mp (isResult.symm.trans isResult'))
    rw [weight_top, areValues, one_mul] at located
    rw [areValues, one_mul, Nat.ceil_natCast] at inBucket
    rw [List.length_map] at located inBucket
    exact ⟨v, inBucket, located⟩
  have atMost : hist.rendered.count ↑b ≤ hist.rendered.count ⊤ := by
    -- enough observations at the bound hide one beyond the last
    by_contra more
    rw [not_le] at more
    obtain ⟨last, isBound, isLast⟩ := exists_last isBucket
    have le := isLast b isBucket
    have few : ∀ c : ℚ, b ≤ c → c ≤ last →
        within (List.replicate (hist.rendered.count ⊤ + 1) b ++ [last + 1]) c =
          hist.rendered.count ⊤ + 1 := by
      intro c after before
      simp [within, List.countP_replicate, after, before.trans_lt (lt_add_one last)]
    obtain ⟨v, inBucket, located⟩ :=
      exists_located (List.replicate (hist.rendered.count ⊤ + 1) b ++ [last + 1]) (by simp) fun value isValue => by
        rcases List.mem_append.mp isValue with isSame | isNext
        · rw [List.eq_of_mem_replicate isSame]
          exact positive.le
        · rw [List.mem_singleton.mp isNext]
          linarith
    have isLength : (List.replicate (hist.rendered.count ⊤ + 1) b ++ [last + 1]).length =
      hist.rendered.count ⊤ + 2 := by simp
    rw [isLength] at inBucket located
    have isBeyond : v = last := by
      refine inBucket.beyond last isBound isLast (not_le.mp fun isWithin => ?_)
      rw [nthSmallest_le_iff (Nat.succ_pos _) isLength.ge, few last le le_rfl] at isWithin
      omega
    have before := (located.of_reached b (coe_mem_keys.mpr isBucket) ?_).2 ?_
    · linarith
    all_goals
      rw [weight, few b le_rfl le]
      norm_cast
      nlinarith
  refine ⟨atMost, ?_⟩
  -- of one observation at the bound the higher ones would have to tell
  by_contra neither
  obtain ⟨fewer, notLast⟩ := not_or.mp neither
  obtain ⟨c, notBefore⟩ := not_forall.mp notLast
  obtain ⟨isBound, after⟩ := Classical.not_imp.mp notBefore
  obtain ⟨v, inBucket, located⟩ := exists_located [b] (by simp) (by simpa using positive.le)
  have isWithin : nthSmallest [b] 1 ≤ b := le_rfl
  refine (inBucket.upper b isBucket isWithin).not_gt ?_
  refine (located.of_passed b (coe_mem_keys.mpr isBucket) fun d _ before => ?_).2 c
    (coe_mem_keys.mpr isBound) (not_le.mp after)
  have counted := hist.count_top_pos
  rcases before.lt_or_eq with isBefore | rfl
  · simpa [weight, within, isBefore.not_ge] using counted
  · simpa [weight, within] using lt_of_le_of_ne atMost fewer

/-- A histogram's quantiles are right exactly if its bounds are balanced. -/
theorem sound_iff (hist : Histogram) : Sound hist ↔ Balanced hist := by
  refine ⟨balanced_of_sound, fun balanced observations nonempty _ q q_pos q_le => ?_⟩
  obtain ⟨v, isResult, located⟩ := exists_quantile nonempty q_pos q_le
  refine ⟨v, isResult, inBucket_of_balanced balanced nonempty q_pos q_le located, ?_, ?_⟩
  · intro q' le q'_le
    obtain ⟨v', isResult', _⟩ := exists_quantile nonempty (q_pos.trans_le le) q'_le
    refine ⟨v', isResult', ?_⟩
    rw [quantile_eq nonempty, Option.some_inj] at isResult isResult'
    have total := weight_top_pos nonempty
    rw [← WithTop.coe_le_coe, ← isResult, ← isResult']
    exact quantileFrom_mono (p := 0) (mul_le_mul_of_nonneg_right le total.le)
      hist.rendered.toFinset.sortedLT_sort.pairwise hist.top_mem_keys
      (mul_le_of_le_one_left total.le q'_le) pos_of_mem_keys (mul_pos q_pos total)
  · intro labels
    rw [← isResult, quantile_eq nonempty, quantile_eq (by simpa using nonempty), List.map_map]
    rfl

/-- A histogram that is given its one bound twice. -/
def repeated : Histogram where
  name := "lat"
  labelNames := []
  buckets := [1, 1]
  sorted := by simp
  pos := by simp

/-- Two observations at the bound hide one beyond it. -/
theorem sound_iff_repeated : repeated.quantile
      [(1, ⟨[], rfl⟩), (1, ⟨[], rfl⟩), (2, ⟨[], rfl⟩)] 1 = some ((3 / 4 : ℚ) : WithTop ℚ) ∧
    nthSmallest [1, 1, 2] 3 = 2 ∧ ¬Sound repeated := by
  refine ⟨?_, by decide +kernel, fun sound => ?_⟩
  · have keys : repeated.rendered.toFinset.sort = [1, ⊤] :=
      repeated.rendered.toFinset.sortedLT_sort.eq_of_mem_iff
        (List.sortedLT_iff_pairwise.mpr (by decide +kernel)) (by simp [rendered, repeated])
    rw [quantile_eq (by simp), keys]
    decide +kernel
  · exact absurd (balanced_of_sound sound 1 List.mem_cons_self).1 (by decide +kernel)

end Histogram

end UrbanFlow.Observability
