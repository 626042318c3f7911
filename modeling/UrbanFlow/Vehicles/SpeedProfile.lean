import Mathlib.Data.NNRat.Floor

/-!
# Speed profiles

`curve_speed_samples` and `_LaneEnvelope`: the speeds at which a lane's curves can be
taken, and the highest speed from which a vehicle can still meet all of them. A speed is
held as its square, `⊤` where it is unlimited, so that the square roots are exact.
-/

namespace UrbanFlow.SpeedProfile

section

variable {K : Type} [Field K] [LinearOrder K]

def sampleStep : K := 1

/-- The last index of the samples of a lane. -/
def lastSample [FloorSemiring K] (length : K) : ℕ := max 1 ⌈length / sampleStep⌉₊

def samplePosition (length : K) (i : ℕ) : K := min length (i * sampleStep)

/-- A value at the position of every sample. -/
def sampled [FloorSemiring K] (length : K) (curve : K → WithTop K) : List (WithTop K) :=
  (List.range (lastSample length + 1)).map fun i => curve (samplePosition length i)

/-- `curve_speed_samples`, given the radius at each position. -/
def curveSpeedSamples [FloorSemiring K] (waypoints : ℕ) (radius : K → WithTop K)
    (maxLateralAccel length : K) : List (WithTop K) :=
  if waypoints ≤ 2 then []
  else sampled length fun s => (radius s).map (maxLateralAccel * ·)

theorem atLeastTwo_two : Nat.AtLeastTwo 2 := ⟨le_rfl⟩

attribute [local instance] atLeastTwo_two in
/-- What the square of the speed gains over a step. -/
def stepGain (decel : K) : K := 2 * decel * sampleStep

/-- The backward pass of `_LaneEnvelope`. -/
def sweep (decel : K) : List (WithTop K) → List (WithTop K)
  | [] => []
  | value :: rest =>
    match sweep decel rest with
    | [] => [value]
    | next :: later =>
      let reach := next + ((stepGain decel : K) : WithTop K)
      (if next ≠ ⊤ ∧ reach < value then reach else value) :: next :: later

structure LaneEnvelope (K : Type) where
  values : List (WithTop K)

/-- `_LaneEnvelope.__init__`. -/
def LaneEnvelope.ofSamples (samples : List (WithTop K)) (decel : K) : LaneEnvelope K :=
  ⟨sweep decel samples⟩

/-- The value of a sample. -/
def LaneEnvelope.value (envelope : LaneEnvelope K) (i : ℕ) : WithTop K := envelope.values.getD i ⊤

def LaneEnvelope.entry (envelope : LaneEnvelope K) : WithTop K := envelope.value 0

/-- `at`. -/
def LaneEnvelope.atPosition [FloorSemiring K] (envelope : LaneEnvelope K) (position : K) :
    WithTop K :=
  if envelope.values = [] then ⊤
  else
    let idx := ⌊position / sampleStep⌋₊
    if envelope.values.length - 1 ≤ idx then envelope.value (envelope.values.length - 1)
    else min (envelope.value idx) (envelope.value (idx + 1))

end

section

variable {K : Type} [Field K] [LinearOrder K] {decel : K} {samples : List (WithTop K)}

theorem sweep_cons (value : WithTop K) (rest : List (WithTop K)) : sweep decel (value :: rest) =
      min value ((sweep decel rest).getD 0 ⊤ + ((stepGain decel : K) : WithTop K)) ::
        sweep decel rest := by
  rw [sweep]
  cases sweep decel rest with
  | nil => simp
  | cons next =>
    simp only [List.getD_cons_zero]
    by_cases unlimited : next = ⊤
    · simp [unlimited]
    · simp only [ne_eq, unlimited, not_false_eq_true, true_and]
      split
      · next lower => rw [min_eq_right lower.le]
      · next higher => rw [min_eq_left (not_lt.mp higher)]

@[simp] theorem length_sweep : (sweep decel samples).length = samples.length := by
  induction samples with
  | nil => rfl
  | cons _ _ ih => simp [sweep_cons, ih]

/-- What the pass gives a sample is what a later one allows. -/
theorem sweep_attained (i : ℕ) : ∃ j, i ≤ j ∧ (sweep decel samples).getD i ⊤ =
    samples.getD j ⊤ + (((j : K) - i) * stepGain decel : K) := by
  induction samples generalizing i with
  | nil => exact ⟨i, le_rfl, by simp⟩
  | cons value rest ih =>
    rw [sweep_cons]
    cases i with
    | zero =>
      rcases min_choice value ((sweep decel rest).getD 0 ⊤ + ((stepGain decel : K) : WithTop K)) with
        own | reached
      · exact ⟨0, le_rfl, by rw [List.getD_cons_zero, own]; simp⟩
      · obtain ⟨j, -, isReached⟩ := ih 0
        refine ⟨j + 1, Nat.zero_le _, ?_⟩
        rw [List.getD_cons_zero, reached, isReached, add_assoc, ← WithTop.coe_add,
          List.getD_cons_succ]
        congr 2
        push_cast
        ring
    | succ i =>
      obtain ⟨j, later, isReached⟩ := ih i
      exact ⟨j + 1, Nat.succ_le_succ later, by simpa using isReached⟩

variable [IsStrictOrderedRing K]

/-- The pass gives no sample more than a later one allows, at a whole step each. -/
theorem sweep_le {i j : ℕ} (later : i ≤ j) : (sweep decel samples).getD i ⊤ ≤
    samples.getD j ⊤ + (((j : K) - i) * stepGain decel : K) := by
  induction samples generalizing i j with
  | nil => simp
  | cons _ _ ih =>
    rw [sweep_cons]
    cases j with
    | zero =>
      obtain rfl : i = 0 := by omega
      simp
    | succ j =>
      cases i with
      | zero =>
        have further := add_le_add_left (ih (Nat.zero_le j)) ((stepGain decel : K) : WithTop K)
        refine (min_le_right _ _).trans (further.trans_eq ?_)
        rw [add_assoc, ← WithTop.coe_add, List.getD_cons_succ]
        congr 2
        push_cast
        ring
      | succ => simpa using ih (Nat.le_of_succ_le_succ later)

end

section

variable {K : Type} [Field K] [LinearOrder K] [FloorSemiring K] {length decel : K}
  {curve : K → WithTop K} {i j : ℕ}

theorem sampled_getD (curve : K → WithTop K) (isSample : i ≤ lastSample length) :
    (sampled length curve).getD i ⊤ = curve (samplePosition length i) := by
  simp [sampled, List.getD_eq_getElem?_getD, List.getElem?_range (Nat.lt_succ_of_le isSample)]

theorem sampled_getD_of_gt (beyond : lastSample length < i) :
    (sampled length curve).getD i ⊤ = ⊤ := by
  rw [List.getD_eq_getElem?_getD, List.getElem?_eq_none (by simpa [sampled] using Nat.succ_le_of_lt beyond)]
  rfl

theorem samplePosition_of_lt (nonneg : 0 ≤ length) (before : i < lastSample length) :
    samplePosition length i = i * sampleStep := by
  apply min_eq_right
  simp only [sampleStep, mul_one]
  rcases lt_max_iff.mp before with isFirst | isBefore
  · obtain rfl : i = 0 := by omega
    simpa using nonneg
  · simpa [sampleStep] using (Nat.lt_ceil.mp isBefore).le

attribute [local instance] atLeastTwo_two in
/-- The square of the highest speed at a position from which a sample's curve can
be met, braking at `decel`. -/
def allowed (length decel : K) (curve : K → WithTop K) (position : K) (j : ℕ) : WithTop K :=
  curve (samplePosition length j) +
    ((2 * decel * (samplePosition length j - position) : K) : WithTop K)

/-- The envelope is, at each sample, the least that the samples from there on
allow, and at every position no more than any sample ahead allows. -/
structure IsEnvelope (length decel : K) (curve : K → WithTop K) : Prop where
  least : ∀ i ≤ lastSample length, IsLeast
    {speed | ∃ j ≤ lastSample length, samplePosition length i ≤ samplePosition length j ∧
      speed = allowed length decel curve (samplePosition length i) j}
    ((LaneEnvelope.ofSamples (sampled length curve) decel).value i)
  meets : ∀ position, 0 ≤ position → position ≤ length → ∀ j ≤ lastSample length,
    position ≤ samplePosition length j →
      (LaneEnvelope.ofSamples (sampled length curve) decel).atPosition position ≤
        allowed length decel curve position j

/-- The last sample is a whole step behind the one before it, or does not bind
it. -/
def LastStepFits (length decel : K) (curve : K → WithTop K) : Prop :=
  length = lastSample length * sampleStep ∨ curve (samplePosition length (lastSample length - 1)) ≤
      allowed length decel curve (samplePosition length (lastSample length - 1)) (lastSample length)

theorem one_le_lastSample : 1 ≤ lastSample length := le_max_left _ _

variable [IsStrictOrderedRing K]

theorem length_le_lastSample : length ≤ lastSample length * sampleStep := by
  have ceil : length / sampleStep ≤ ⌈length / sampleStep⌉₊ := Nat.le_ceil _
  have most : ((⌈length / sampleStep⌉₊ : ℕ) : K) ≤ lastSample length := by
    exact_mod_cast le_max_right _ _
  simp only [sampleStep, div_one, mul_one] at ceil most ⊢
  exact ceil.trans most

theorem samplePosition_lastSample : samplePosition length (lastSample length) = length :=
  min_eq_left length_le_lastSample

theorem samplePosition_mono (later : i ≤ j) :
    samplePosition length i ≤ samplePosition length j := by
  have : (i : K) ≤ j := by exact_mod_cast later
  exact min_le_min_left _ (by simpa [sampleStep] using this)

theorem samplePosition_sub_le (length : K) (later : i ≤ j) :
    samplePosition length j - samplePosition length i ≤ ((j : K) - i) * sampleStep := by
  have apart : (0 : K) ≤ (j : K) - i := sub_nonneg.mpr (by exact_mod_cast later)
  simp only [samplePosition, sampleStep, mul_one]
  rcases min_choice length (i : K) with atEnd | inside
  · rw [atEnd]
    exact (sub_nonpos.mpr (min_le_left _ _)).trans apart
  · rw [inside]
    exact sub_le_sub_right (min_le_right _ _) _

theorem gain_eq (nonneg : 0 ≤ length) (later : i ≤ j)
    (whole : j < lastSample length ∨ i = j ∨ length = lastSample length * sampleStep)
    (isSample : j ≤ lastSample length) : ((j : K) - i) * stepGain decel =
      2 * decel * (samplePosition length j - samplePosition length i) := by
  rcases Nat.eq_or_lt_of_le later with rfl | before
  · simp
  · have atStart := samplePosition_of_lt nonneg (before.trans_le isSample)
    have atEnd : samplePosition length j = j * sampleStep := by
      rcases Nat.eq_or_lt_of_le isSample with rfl | inside
      · rw [samplePosition_lastSample]
        exact (whole.resolve_left (lt_irrefl _)).resolve_left before.ne
      · exact samplePosition_of_lt nonneg inside
    rw [atStart, atEnd, stepGain]
    ring

section

variable (nonneg : 0 ≤ length) (fits : LastStepFits length decel curve)

include nonneg fits

theorem value_le_allowed (later : i ≤ j) (isSample : j ≤ lastSample length) :
    (LaneEnvelope.ofSamples (sampled length curve) decel).value i ≤
      allowed length decel curve (samplePosition length i) j := by
  have most : ∀ {k}, i ≤ k → k ≤ lastSample length →
      (LaneEnvelope.ofSamples (sampled length curve) decel).value i ≤
        curve (samplePosition length k) + (((k : K) - i) * stepGain decel : K) :=
    fun later isSample => sampled_getD curve isSample ▸ sweep_le later
  by_cases whole : j < lastSample length ∨ i = j ∨ length = lastSample length * sampleStep
  · have reaches := most later isSample
    rwa [gain_eq nonneg later whole isSample] at reaches
  · push Not at whole
    obtain rfl : j = lastSample length := le_antisymm isSample whole.1
    have inside : i ≤ lastSample length - 1 := by omega
    have binds := fits.resolve_left whole.2.2
    -- the sample before the last one allows no more than the last one does
    calc (LaneEnvelope.ofSamples (sampled length curve) decel).value i
        ≤ curve (samplePosition length (lastSample length - 1)) +
            ((((lastSample length - 1 : ℕ) : K) - i) * stepGain decel : K) :=
          most inside (Nat.sub_le _ _)
      _ ≤ allowed length decel curve (samplePosition length (lastSample length - 1))
            (lastSample length) +
            ((((lastSample length - 1 : ℕ) : K) - i) * stepGain decel : K) :=
          add_le_add_left binds _
      _ = allowed length decel curve (samplePosition length i) (lastSample length) := by
          rw [gain_eq nonneg inside (.inl (Nat.sub_lt one_le_lastSample one_pos)) (Nat.sub_le _ _),
            allowed, allowed, add_assoc, ← WithTop.coe_add]
          congr 2
          ring

theorem value_le_ahead (isSample : i ≤ lastSample length) (isOther : j ≤ lastSample length)
    (ahead : samplePosition length i ≤ samplePosition length j) :
    (LaneEnvelope.ofSamples (sampled length curve) decel).value i ≤
      allowed length decel curve (samplePosition length i) j := by
  rcases le_total i j with later | earlier
  · exact value_le_allowed nonneg fits later isOther
  · have same := le_antisymm ahead (samplePosition_mono earlier)
    have own := value_le_allowed nonneg fits le_rfl isSample
    unfold allowed at own ⊢
    rwa [← same]

theorem exists_value_eq (brakes : 0 < decel) (isSample : i ≤ lastSample length) :
    ∃ j ≤ lastSample length, i ≤ j ∧ (LaneEnvelope.ofSamples (sampled length curve) decel).value i =
        allowed length decel curve (samplePosition length i) j := by
  obtain ⟨j, later, reached⟩ : ∃ j, i ≤ j ∧
    (LaneEnvelope.ofSamples (sampled length curve) decel).value i = _ := sweep_attained i
  by_cases isOther : j ≤ lastSample length
  · refine ⟨j, isOther, later, le_antisymm (value_le_allowed nonneg fits later isOther) ?_⟩
    rw [reached, sampled_getD _ isOther, stepGain]
    refine add_le_add_right (WithTop.coe_le_coe.mpr ?_) _
    have := mul_le_mul_of_nonneg_left (samplePosition_sub_le length later)
      (mul_pos two_pos brakes).le
    linarith
  · rw [sampled_getD_of_gt (not_le.mp isOther), top_add] at reached
    have own := value_le_allowed nonneg fits le_rfl isSample
    exact ⟨i, isSample, le_rfl, le_antisymm own (le_top.trans_eq reached.symm)⟩

theorem atPosition_le (brakes : 0 < decel) {position : K} (atStart : 0 ≤ position)
    (inside : position ≤ length) (isOther : j ≤ lastSample length)
    (ahead : position ≤ samplePosition length j) :
    (LaneEnvelope.ofSamples (sampled length curve) decel).atPosition position ≤
      allowed length decel curve position j := by
  have isLast : (sweep decel (sampled length curve)).length - 1 = lastSample length := by
    simp [sampled]
  have hasValues : sweep decel (sampled length curve) ≠ [] := by
    simp [← List.length_eq_zero_iff, sampled]
  have below : (⌊position / sampleStep⌋₊ : K) * sampleStep ≤ position := by
    simpa [sampleStep] using Nat.floor_le atStart
  simp only [LaneEnvelope.atPosition, LaneEnvelope.ofSamples, if_neg hasValues, isLast]
  split_ifs with isEnd
  · have past : (lastSample length : K) * sampleStep ≤ position := by
      refine le_trans ?_ below
      simpa [sampleStep] using isEnd
    obtain rfl : position = length := inside.antisymm (length_le_lastSample.trans past)
    have ends := value_le_ahead nonneg fits le_rfl isOther (samplePosition_lastSample.trans_le ahead)
    rwa [samplePosition_lastSample] at ends
  · have before : ⌊position / sampleStep⌋₊ < lastSample length := not_le.mp isEnd
    have start := samplePosition_of_lt nonneg before
    rcases Nat.lt_or_ge ⌊position / sampleStep⌋₊ j with further | behind
    · refine (min_le_right _ _).trans ?_
      refine (value_le_allowed nonneg fits further isOther).trans ?_
      have past : position ≤ samplePosition length (⌊position / sampleStep⌋₊ + 1) := by
        refine le_min inside ?_
        simpa [sampleStep] using (Nat.lt_floor_add_one (position / sampleStep)).le
      refine add_le_add_right (WithTop.coe_le_coe.mpr ?_) _
      exact mul_le_mul_of_nonneg_left (sub_le_sub_left past _) (mul_pos two_pos brakes).le
    · have same : samplePosition length ⌊position / sampleStep⌋₊ = position :=
        le_antisymm (start.trans_le below) (ahead.trans (samplePosition_mono behind))
      have own := value_le_ahead nonneg fits before.le isOther (same.trans_le ahead)
      rw [same] at own
      exact (min_le_left _ _).trans own

end

theorem IsEnvelope.fits (envelope : IsEnvelope length decel curve) (nonneg : 0 ≤ length)
    (brakes : 0 < decel) : LastStepFits length decel curve := by
  have isSample : lastSample length - 1 ≤ lastSample length := Nat.sub_le _ _
  have below := (envelope.least _ isSample).2
    ⟨lastSample length, le_rfl, samplePosition_mono isSample, rfl⟩
  obtain ⟨j, later, reached⟩ : ∃ j, lastSample length - 1 ≤ j ∧
    (LaneEnvelope.ofSamples (sampled length curve) decel).value (lastSample length - 1) = _ :=
      sweep_attained _
  rw [reached] at below
  rcases Nat.lt_or_ge (lastSample length) j with beyond | isOther
  · rw [sampled_getD_of_gt beyond, top_add] at below
    exact Or.inr (le_top.trans below)
  rw [sampled_getD _ isOther] at below
  rcases Nat.eq_or_lt_of_le later with rfl | isLater
  · exact Or.inr (by simpa using below)
  obtain rfl : j = lastSample length := by omega
  by_cases unlimited : curve (samplePosition length (lastSample length)) = ⊤
  · exact Or.inr (by simp [allowed, unlimited])
  -- the whole last step is within what its length gains, so it is a whole one
  have within := WithTop.coe_le_coe.mp ((WithTop.add_le_add_iff_left unlimited).mp below)
  rw [samplePosition_lastSample, samplePosition_of_lt nonneg isLater, stepGain] at within
  refine Or.inl (length_le_lastSample.antisymm ?_)
  have := (mul_le_mul_iff_of_pos_left (mul_pos two_pos brakes)).mp
    (le_of_eq_of_le (by ring) within : 2 * decel * (((lastSample length : K) -
      ((lastSample length - 1 : ℕ) : K)) * sampleStep) ≤ _)
  linarith

end

end UrbanFlow.SpeedProfile
