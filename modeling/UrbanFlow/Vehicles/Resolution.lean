import UrbanFlow.Vehicles.Population

/-!
# What a class's parameters depend on

Two configurations that differ in one key resolve a class to the same
parameters, except for the one that is read from that key.
-/

namespace UrbanFlow.VehiclePopulation

open ScalarParameter

attribute [local simp] VehicleTypeProfile.withScalar

theorem tableOf_ok_iff {K V : Type} {keys : List K} (complete : ∀ key, key ∈ keys)
    {read : K → Except PyMessage V} {otherwise table : K → V} :
    tableOf keys read otherwise = .ok table ↔ ∀ key, read key = .ok (table key) := by
  dsimp only [tableOf]
  split
  · next message firstError =>
      obtain ⟨key, _, isError⟩ := List.exists_of_findSome?_eq_some firstError
      simp only [reduceCtorEq, false_iff, not_forall]
      refine ⟨key, ?_⟩
      intro isOk
      simp [isOk] at isError
  · next firstError =>
      rw [List.findSome?_eq_none_iff] at firstError
      have isRead : ∀ key, ∃ value, read key = .ok value := by
        intro key
        have noError := firstError key (complete key)
        cases isOk : read key with
        | ok value => exact ⟨value, rfl⟩
        | error => simp [isOk] at noError
      simp only [Except.ok.injEq]
      constructor
      · rintro rfl key
        obtain ⟨value, isOk⟩ := isRead key
        simp [isOk]
      · intro isTable
        funext key
        simp [isTable key]

/-- Two configurations give the vehicle classes the same values, but for one key
of the `vehicleGeneration` section and of the overrides. -/
structure SameBut (key : String) (config other : Fields) : Prop where
  generation : ∀ held, held ≠ key → held ≠ "vehicleTypes" → held ≠ "vehicleMix" →
      (generation other).lookup held = (generation config).lookup held
  overrides : ∀ vehicle held, held ≠ key →
    (overridesOf other vehicle).get held = (overridesOf config vehicle).get held
  aggression : resolveAggressionName other = resolveAggressionName config
  speedLimit : resolveSpeedLimit other = resolveSpeedLimit config

theorem classParams_ok_iff {config : Fields} {vehicle : VehicleClass} {params : VehicleParams} :
    classParams config vehicle = .ok params ↔ ∃ range base overridden name,
        resolveDesiredSpeedRange config = .ok range ∧ baseProfile config vehicle = .ok base ∧
          applyOverrides base (overridesOf config vehicle) = .ok overridden ∧
          resolveAggressionName config = .ok name ∧
          paramsOf (applyAggressionToProfile overridden name) range = params := by
  simp only [classParams, bind_ok_iff, pure, Except.pure, Except.ok.injEq]
  constructor
  · rintro ⟨range, isRange, base, isBase, overridden, isOverridden, name, isName, isParams⟩
    exact ⟨range, base, overridden, name, isRange, isBase, isOverridden, isName, isParams⟩
  · rintro ⟨range, base, overridden, name, isRange, isBase, isOverridden, isName, isParams⟩
    exact ⟨range, isRange, base, isBase, overridden, isOverridden, name, isName, isParams⟩

theorem applyOverrides_ok_iff {profile overridden : VehicleTypeProfile} {overrides : Fields} :
    applyOverrides profile overrides = .ok overridden ↔ overridden.typeId = profile.typeId ∧
        (∀ parameter, overriddenScalar overrides profile parameter =
          .ok (overridden.scalar parameter)) ∧
        ∀ parameter, overriddenRange overrides profile parameter =
          .ok (overridden.range parameter) := by
  simp only [applyOverrides, bind_ok_iff, tableOf_ok_iff mem_all,
    tableOf_ok_iff RangeParameter.mem_all, pure, Except.pure, Except.ok.injEq]
  constructor
  · rintro ⟨_, isScalar, _, isRange, rfl⟩
    exact ⟨rfl, isScalar, isRange⟩
  · rintro ⟨sameType, isScalar, isRange⟩
    exact ⟨_, isScalar, _, isRange, by rw [← sameType]⟩

theorem referenceCar_ok_iff {fields : Fields} {profile : VehicleTypeProfile} :
    referenceCar fields = .ok profile ↔ profile.typeId = .car ∧
        (∀ parameter, referenceScalar fields parameter = .ok (profile.scalar parameter)) ∧
        ∀ parameter, referenceRange fields parameter = .ok (profile.range parameter) := by
  simp only [referenceCar, bind_ok_iff, tableOf_ok_iff mem_all,
    tableOf_ok_iff RangeParameter.mem_all, pure, Except.pure, Except.ok.injEq]
  constructor
  · rintro ⟨_, isScalar, _, isRange, rfl⟩
    exact ⟨rfl, isScalar, isRange⟩
  · rintro ⟨isCar, isScalar, isRange⟩
    refine ⟨_, isScalar, _, isRange, ?_⟩
    cases profile
    cases isCar
    rfl

theorem referenceScalar_congr {fields other : Fields} {parameter : ScalarParameter}
    (same : other.lookup parameter.key = fields.lookup parameter.key) :
    referenceScalar other parameter = referenceScalar fields parameter := by
  cases parameter <;> simp_all [referenceScalar, realAt, resolveMaxLateralAcceleration, key]

theorem referenceRange_congr {fields other : Fields} {parameter : RangeParameter}
    (same : ∀ key ∈ ["vehicleLength", "vehicleWidth"], other.lookup key = fields.lookup key) :
    referenceRange other parameter = referenceRange fields parameter := by
  have sameLength := same "vehicleLength" (by simp)
  have sameWidth := same "vehicleWidth" (by simp)
  cases parameter <;> simp [referenceRange, Fields.get, sameLength, sameWidth]

/-- A scalar of a class before its driver aggression profile. -/
def classScalar (config : Fields) (vehicle : VehicleClass)
    (parameter : ScalarParameter) : Except PyMessage ℚ := do
  let base ← baseProfile config vehicle
  overriddenScalar (overridesOf config vehicle) base parameter

section Rescaled

variable {config other : Fields} {vehicle : VehicleClass} {parameter : ScalarParameter}

section

variable (same : SameBut parameter.key config other) {profile : VehicleTypeProfile}

include same

theorem referenceCar_of_sameBut (isReference : referenceCar (generation config) = .ok profile)
    {value : ℚ} (isValue : referenceScalar (generation other) parameter = .ok value) :
    referenceCar (generation other) = .ok (profile.withScalar parameter value) := by
  rw [referenceCar_ok_iff] at isReference ⊢
  obtain ⟨isCar, isScalar, isRange⟩ := isReference
  refine ⟨isCar, ?_, ?_⟩
  · intro scalar
    by_cases isParameter : scalar = parameter
    · subst isParameter
      simpa using isValue
    · have sameScalar := same.generation scalar.key
        (fun sameKey => isParameter (key_injective sameKey))
        (by cases scalar <;> decide) (by cases scalar <;> decide)
      rw [referenceScalar_congr sameScalar, isScalar scalar]
      simp [isParameter]
  · intro range
    have sameRanges : ∀ key ∈ ["vehicleLength", "vehicleWidth"],
        (generation other).lookup key = (generation config).lookup key := by
      intro key isKey
      simp only [List.mem_cons, List.not_mem_nil, or_false] at isKey
      rcases isKey with rfl | rfl
      · exact same.generation _ (by cases parameter <;> decide) (by decide) (by decide)
      · exact same.generation _ (by cases parameter <;> decide) (by decide) (by decide)
    rw [referenceRange_congr sameRanges]
    exact isRange range

theorem baseProfile_of_sameBut (isBase : baseProfile config vehicle = .ok profile) {value : ℚ}
    (isValue : if vehicle = .car then referenceScalar (generation other) parameter = .ok value else value = profile.scalar parameter) :
    baseProfile other vehicle = .ok (profile.withScalar parameter value) := by
  unfold baseProfile at isBase ⊢
  by_cases isCar : vehicle = .car
  · rw [if_pos isCar] at isBase isValue ⊢
    exact referenceCar_of_sameBut same isBase isValue
  · rw [if_neg isCar] at isBase isValue ⊢
    cases isBase
    subst isValue
    rw [VehicleTypeProfile.withScalar_self]
    rfl

end

theorem overriddenScalar_congr {overrides others : Fields} {profile another : VehicleTypeProfile}
    {scalar : ScalarParameter} (sameOverride : others.get scalar.key = overrides.get scalar.key)
    (sameScalar : another.scalar scalar = profile.scalar scalar) :
    overriddenScalar others another scalar = overriddenScalar overrides profile scalar := by
  simp [overriddenScalar, sameOverride, sameScalar]

theorem applyOverrides_of_sameBut (same : SameBut parameter.key config other)
    {profile overridden : VehicleTypeProfile}
    (isOverridden : applyOverrides profile (overridesOf config vehicle) = .ok overridden)
    {base value : ℚ} (isValue : overriddenScalar (overridesOf other vehicle)
      (profile.withScalar parameter base) parameter = .ok value) :
    applyOverrides (profile.withScalar parameter base) (overridesOf other vehicle) =
      .ok (overridden.withScalar parameter value) := by
  rw [applyOverrides_ok_iff] at isOverridden ⊢
  obtain ⟨sameType, isScalar, isRange⟩ := isOverridden
  refine ⟨sameType, ?_, ?_⟩
  · intro scalar
    by_cases isParameter : scalar = parameter
    · subst isParameter
      simpa using isValue
    · have sameOverride := same.overrides vehicle scalar.key
        (fun sameKey => isParameter (key_injective sameKey))
      have sameScalar : (profile.withScalar parameter base).scalar scalar =
          profile.scalar scalar := by
        simp [isParameter]
      rw [overriddenScalar_congr sameOverride sameScalar, isScalar scalar]
      simp [isParameter]
  · intro range
    have sameOverride := same.overrides vehicle range.key
      (RangeParameter.key_ne_scalar range parameter)
    have isRangeHere := isRange range
    unfold overriddenRange at isRangeHere ⊢
    rw [sameOverride]
    exact isRangeHere

section

variable (profile : VehicleTypeProfile) (name : Scenario.DriverAggression)
  (scalar : ScalarParameter)

theorem scalar_applyAggressionToProfile : (applyAggressionToProfile profile name).scalar scalar =
      profile.scalar scalar * (aggressionMultipliers name).scalar scalar := by
  by_cases isStandard : aggressionMultipliers name = ⟨1, 1, 1, 0, 1⟩
  · cases scalar <;> simp [applyAggressionToProfile, isStandard, Multipliers.scalar]
  · simp [applyAggressionToProfile, isStandard]

theorem applyAggressionToProfile_withScalar (value : ℚ) :
    applyAggressionToProfile (profile.withScalar scalar value) name =
      (applyAggressionToProfile profile name).withScalar scalar
        (value * (aggressionMultipliers name).scalar scalar) := by
  have sameRest : (applyAggressionToProfile (profile.withScalar scalar value) name).typeId =
          (applyAggressionToProfile profile name).typeId ∧
      (applyAggressionToProfile (profile.withScalar scalar value) name).range =
          (applyAggressionToProfile profile name).range := by
    by_cases isStandard : aggressionMultipliers name = ⟨1, 1, 1, 0, 1⟩
    · simp [applyAggressionToProfile, isStandard]
    · simp [applyAggressionToProfile, isStandard]
  refine VehicleTypeProfile.ext sameRest.1 ?_ sameRest.2
  funext held
  rw [scalar_applyAggressionToProfile]
  by_cases isScalar : held = scalar
  · subst isScalar
    simp
  · simp [isScalar, scalar_applyAggressionToProfile]

end

theorem resolveDesiredSpeedRange_congr (sameSpeed : (generation other).lookup "desiredSpeed" =
      (generation config).lookup "desiredSpeed")
    (sameLimit : resolveSpeedLimit other = resolveSpeedLimit config) :
    resolveDesiredSpeedRange other = resolveDesiredSpeedRange config := by
  simp [resolveDesiredSpeedRange, Fields.get, sameSpeed, sameLimit]

theorem classParams_of_sameBut (same : SameBut parameter.key config other)
    {params : VehicleParams} (resolved : classParams config vehicle = .ok params)
    {name : Scenario.DriverAggression} (isName : resolveAggressionName config = .ok name)
    {value : ℚ} (isValue : classScalar other vehicle parameter = .ok value) :
    classParams other vehicle = .ok { params with
        profile := params.profile.withScalar parameter
          (value * (aggressionMultipliers name).scalar parameter) } := by
  rw [classParams_ok_iff] at resolved ⊢
  obtain ⟨range, base, overridden, named, isRange, isBase, isOverridden, isNamed, rfl⟩ := resolved
  obtain rfl : named = name := Except.ok.inj (isNamed.symm.trans isName)
  obtain ⟨newBase, isNewBase, isNewScalar⟩ := bind_ok_iff.mp isValue
  have readValue : if vehicle = .car then
        referenceScalar (generation other) parameter = .ok (newBase.scalar parameter)
      else newBase.scalar parameter = base.scalar parameter := by
    by_cases isCar : vehicle = .car
    · rw [if_pos isCar]
      unfold baseProfile at isNewBase
      rw [if_pos isCar, referenceCar_ok_iff] at isNewBase
      exact isNewBase.2.1 parameter
    · rw [if_neg isCar]
      unfold baseProfile at isNewBase isBase
      rw [if_neg isCar] at isNewBase isBase
      rw [Except.ok.inj (isNewBase.symm.trans isBase)]
  generalize newBase.scalar parameter = held at readValue
  have newBaseIs := baseProfile_of_sameBut same isBase readValue
  cases isNewBase.symm.trans newBaseIs
  have sameRange : resolveDesiredSpeedRange other = resolveDesiredSpeedRange config :=
    resolveDesiredSpeedRange_congr (same.generation _ (by cases parameter <;> decide) (by decide)
        (by decide)) same.speedLimit
  refine ⟨range, _, _, named, sameRange.trans isRange, newBaseIs,
    applyOverrides_of_sameBut same isOverridden isNewScalar,
    same.aggression.trans isName, ?_⟩
  rw [applyAggressionToProfile_withScalar]
  rfl

theorem scalar_of_classParams {params : VehicleParams}
    (resolved : classParams config vehicle = .ok params) {name : Scenario.DriverAggression}
    (isName : resolveAggressionName config = .ok name) (scalar : ScalarParameter) :
    ∃ value, classScalar config vehicle scalar = .ok value ∧ params.profile.scalar scalar =
        value * (aggressionMultipliers name).scalar scalar := by
  rw [classParams_ok_iff] at resolved
  obtain ⟨range, base, overridden, named, _, isBase, isOverridden, isNamed, rfl⟩ := resolved
  obtain rfl : named = name := Except.ok.inj (isNamed.symm.trans isName)
  rw [applyOverrides_ok_iff] at isOverridden
  refine ⟨overridden.scalar scalar, bind_ok_iff.mpr ⟨base, isBase, isOverridden.2.1 scalar⟩, ?_⟩
  exact scalar_applyAggressionToProfile overridden named scalar

end Rescaled

section Speed

variable {config other : Fields} {vehicle : VehicleClass}

theorem baseProfile_of_sameBut_speed (same : SameBut "desiredSpeed" config other) :
    ∀ {profile}, baseProfile config vehicle = .ok profile →
      baseProfile other vehicle = .ok profile := by
  intro profile isBase
  unfold baseProfile at isBase ⊢
  split
  · next isCar =>
      rw [if_pos isCar, referenceCar_ok_iff] at isBase
      rw [referenceCar_ok_iff]
      refine ⟨isBase.1, ?_, ?_⟩
      · intro scalar
        rw [referenceScalar_congr (same.generation scalar.key
          (by cases scalar <;> decide) (by cases scalar <;> decide)
          (by cases scalar <;> decide))]
        exact isBase.2.1 scalar
      · intro range
        rw [referenceRange_congr]
        · exact isBase.2.2 range
        · intro key isKey
          simp only [List.mem_cons, List.not_mem_nil, or_false] at isKey
          rcases isKey with rfl | rfl
          · exact same.generation _ (by decide) (by decide) (by decide)
          · exact same.generation _ (by decide) (by decide) (by decide)
  · next notCar => rwa [if_neg notCar] at isBase

theorem classParams_of_sameBut_speed (same : SameBut "desiredSpeed" config other)
    {params : VehicleParams} (resolved : classParams config vehicle = .ok params) {range : ℚ × ℚ}
    (isRange : resolveDesiredSpeedRange other = .ok range) :
    classParams other vehicle = .ok (paramsOf params.profile range) := by
  rw [classParams_ok_iff] at resolved ⊢
  obtain ⟨old, base, overridden, name, _, isBase, isOverridden, isName, rfl⟩ := resolved
  rw [applyOverrides_ok_iff] at isOverridden
  obtain ⟨sameType, isScalar, isRanges⟩ := isOverridden
  refine ⟨range, base, overridden, name, isRange, baseProfile_of_sameBut_speed same isBase, ?_,
    same.aggression.trans isName, rfl⟩
  rw [applyOverrides_ok_iff]
  refine ⟨sameType, ?_, ?_⟩
  · intro scalar
    rw [overriddenScalar_congr (same.overrides vehicle scalar.key (by cases scalar <;> decide)) rfl]
    exact isScalar scalar
  · intro parameter
    have isRangeHere := isRanges parameter
    unfold overriddenRange at isRangeHere ⊢
    rwa [same.overrides vehicle parameter.key (by cases parameter <;> decide)]

theorem paramsOf_of_classParams {params : VehicleParams}
    (resolved : classParams config vehicle = .ok params) :
    ∃ range, resolveDesiredSpeedRange config = .ok range ∧
      params = paramsOf params.profile range := by
  rw [classParams_ok_iff] at resolved
  obtain ⟨range, _, _, _, isRange, _, _, _, rfl⟩ := resolved
  exact ⟨range, isRange, rfl⟩

end Speed

theorem desiredSpeedRange_scaled (profile : VehicleTypeProfile) (range : ℚ × ℚ) {scale : ℚ}
    (positive : 0 < scale) :
    (paramsOf profile (range.1 * scale, range.2 * scale)).desiredSpeedRange =
      ((paramsOf profile range).desiredSpeedRange.1 * scale,
        (paramsOf profile range).desiredSpeedRange.2 * scale) := by
  have low : range.1 * scale * (profile.range .desiredSpeedFactor).1 / desiredSpeedLimitFactors.1 =
      range.1 * (profile.range .desiredSpeedFactor).1 / desiredSpeedLimitFactors.1 * scale := by
    ring
  have high : range.2 * scale * (profile.range .desiredSpeedFactor).2 / desiredSpeedLimitFactors.2 =
      range.2 * (profile.range .desiredSpeedFactor).2 / desiredSpeedLimitFactors.2 * scale := by
    ring
  simp only [paramsOf, low, high]
  rw [min_mul_of_nonneg _ _ positive.le, max_mul_of_nonneg _ _ positive.le]

end UrbanFlow.VehiclePopulation
