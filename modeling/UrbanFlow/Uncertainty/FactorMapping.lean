import UrbanFlow.Uncertainty.Scaling

/-!
# The factor mapping

When the parameters of the classes in use are the factors times what they are
without the factors: where the driver aggression profile multiplies nothing.
-/

namespace UrbanFlow.Uncertainty

open Scenario VehiclePopulation ScenarioDocument

/-! ## One vehicle factor after another -/

/-- What an optional factor multiplies a parameter of a class with. -/
def appliedRatio (factor : IdmFactor) (scale : Option ℚ) (used : List VehicleClass)
    (config : Fields) (name : DriverAggression) (vehicle : VehicleClass) : ℚ :=
  match scale with
  | none => 1
  | some scale => ratio factor scale used config name vehicle

section

variable (params : VehicleParams) (parameter : ScalarParameter)

/-- A parameter of a class multiplied. -/
def multiplied (number : ℚ) : VehicleParams :=
  { params with
    profile := params.profile.withScalar parameter (params.profile.scalar parameter * number) }

theorem multiplied_one : multiplied params parameter 1 = params := by
  simp [multiplied, VehicleTypeProfile.withScalar_self]

end

section Stages

variable {fingerprint : ScenarioDocument → String}
variable {modelErrors : ScenarioDocument → Option PyMessage} {document other : ScenarioDocument}
variable {canonical : StrategyId} {strategy : String}

theorem SameMixes.trans {config middle other : Fields} (first : SameMixes config middle)
    (second : SameMixes middle other) : SameMixes config other :=
  ⟨second.configured.trans first.configured, second.approaches.trans first.approaches⟩

structure IdmStage (factor : IdmFactor) (scale : Option ℚ) (canonical : StrategyId)
    (strategy : String) (fingerprint : ScenarioDocument → String)
    (document other : ScenarioDocument) : Prop where
  arms : other.approaches = document.approaches
  used : classesInUse other = classesInUse document
  sameMixes : SameMixes (document.labelledConfig fingerprint canonical strategy)
    (other.labelledConfig fingerprint canonical strategy)
  sameName : resolveAggressionName (other.labelledConfig fingerprint canonical strategy) =
      resolveAggressionName (document.labelledConfig fingerprint canonical strategy)
  overrides : ∀ vehicle held, held ≠ factor.parameter.key →
    (overridesOf (other.labelledConfig fingerprint canonical strategy) vehicle).get held =
      (overridesOf (document.labelledConfig fingerprint canonical strategy) vehicle).get held
  params : ∀ vehicle params name,
    classParams (document.labelledConfig fingerprint canonical strategy) vehicle = .ok params →
      resolveAggressionName (document.labelledConfig fingerprint canonical strategy) = .ok name →
        classParams (other.labelledConfig fingerprint canonical strategy) vehicle =
          .ok (multiplied params factor.parameter (appliedRatio factor scale (classesInUse document)
              (document.labelledConfig fingerprint canonical strategy) name
              vehicle))

theorem idmStage_of_applyIf {factor : IdmFactor} {scale : Option ℚ} (isApplied : applyIf scale
      (fun document => scaleIdm fingerprint modelErrors document factor) document = .ok other) :
    IdmStage factor scale canonical strategy fingerprint document other := by
  cases scale with
  | none =>
    cases isApplied
    refine ⟨rfl, rfl, ⟨rfl, rfl⟩, rfl, fun _ _ _ => rfl, ?_⟩
    intro vehicle params name resolved _
    rw [appliedRatio, multiplied_one]
    exact resolved
  | some scale =>
    obtain ⟨⟨written, rfl⟩, rescaled⟩ : (∃ written, other = withGeneration document written) ∧
          Rescaled factor scale (classesInUse document)
            (document.labelledConfig fingerprint canonical strategy)
            (other.labelledConfig fingerprint canonical strategy) :=
      rescaled_of_scaleIdm isApplied
    refine ⟨rfl, rfl, rescaled.sameMixes, rescaled.same.aggression, rescaled.same.overrides, ?_⟩
    intro vehicle params name resolved isName
    exact classParams_of_rescaled rescaled resolved isName

structure SpeedStage (scale : Option ℚ) (canonical : StrategyId) (strategy : String)
    (fingerprint : ScenarioDocument → String) (document other : ScenarioDocument) : Prop where
  arms : other.approaches = document.approaches
  sameMixes : SameMixes (document.labelledConfig fingerprint canonical strategy)
    (other.labelledConfig fingerprint canonical strategy)
  params : ∀ vehicle params,
    classParams (document.labelledConfig fingerprint canonical strategy) vehicle = .ok params →
      classParams (other.labelledConfig fingerprint canonical strategy) vehicle = .ok { params with
          desiredSpeedRange :=
            (params.desiredSpeedRange.1 * scale.getD 1, params.desiredSpeedRange.2 * scale.getD 1) }

theorem speedStage_of_applyIf {scale : Option ℚ} (positive : ∀ value ∈ scale, 0 < value)
    (isApplied : applyIf scale (scaleDesiredSpeed fingerprint modelErrors) document = .ok other) :
    SpeedStage scale canonical strategy fingerprint document other := by
  cases scale with
  | none =>
    cases isApplied
    refine ⟨rfl, ⟨rfl, rfl⟩, ?_⟩
    intro vehicle params resolved
    simpa using resolved
  | some scale =>
    obtain ⟨⟨_, rfl⟩, same, sameMixes, _, isRange, isScaled⟩ :=
      @range_of_scaleDesiredSpeed fingerprint modelErrors document other
        canonical strategy scale isApplied
    refine ⟨rfl, sameMixes, ?_⟩
    intro vehicle params resolved
    rw [classParams_of_sameBut_speed same resolved isScaled]
    obtain ⟨held, isHeld, isParams⟩ := paramsOf_of_classParams resolved
    obtain rfl := Except.ok.inj (isHeld.symm.trans isRange)
    have scaled := desiredSpeedRange_scaled params.profile held (positive scale rfl)
    rw [isParams, Option.getD_some, ← scaled]
    rfl

end Stages

/-! ## Every factor -/

section Factors

variable {fingerprint : ScenarioDocument → String}
variable {modelErrors : ScenarioDocument → Option PyMessage} {factors : List Factor}
variable {values : String → ℚ} {base applied : ScenarioDocument} {canonical : StrategyId}
variable {strategy : String}

/-- The kinds whose value is a scale. -/
def FactorKind.IsScale (kind : FactorKind) : Prop :=
  kind ∈ [FactorKind.demandScale, .headwayScale, .desiredSpeedScale, .maxAccelerationScale]

/-- A sampled scale is positive. -/
def ScalesPositive (factors : List Factor) (values : String → ℚ) : Prop :=
  ∀ kind, FactorKind.IsScale kind → ∀ scale, byKind factors values kind = some scale → 0 < scale

theorem ScalesPositive.idm (positive : ScalesPositive factors values) {factor : IdmFactor}
    {scale : ℚ} (isScale : byKind factors values factor.kind = some scale) : 0 < scale := by
  have isKind : FactorKind.IsScale factor.kind := by
    cases factor <;> simp [FactorKind.IsScale, IdmFactor.kind]
  exact positive factor.kind isKind scale isScale

structure Stages (fingerprint : ScenarioDocument → String)
    (modelErrors : ScenarioDocument → Option PyMessage) (factors : List Factor)
    (values : String → ℚ) (base shifted first second applied : ScenarioDocument) : Prop where
  structural : structural factors values base = .ok shifted
  headway : applyIf (byKind factors values .headwayScale)
    (fun document => scaleIdm fingerprint modelErrors document .headway)
    shifted = .ok first
  acceleration : applyIf (byKind factors values .maxAccelerationScale)
    (fun document => scaleIdm fingerprint modelErrors document .maxAcceleration)
    first = .ok second
  speed : applyIf (byKind factors values .desiredSpeedScale)
    (scaleDesiredSpeed fingerprint modelErrors) second = .ok applied

theorem modelValidate_ok {document checked : ScenarioDocument}
    (isChecked : modelValidate modelErrors document = .ok checked) : document = checked := by
  unfold modelValidate at isChecked
  split at isChecked
  · exact Except.ok.inj isChecked
  · cases isChecked

theorem stages_of_applyFactors
    (isApplied : applyFactors fingerprint modelErrors base factors values = .ok applied) :
    ∃ shifted first second, Stages fingerprint modelErrors factors values base shifted first second
        applied := by
  obtain ⟨shifted, isShifted, isApplied⟩ := bind_ok_iff.mp isApplied
  obtain ⟨checked, isChecked, isApplied⟩ := bind_ok_iff.mp isApplied
  obtain ⟨first, isFirst, isApplied⟩ := bind_ok_iff.mp isApplied
  obtain ⟨second, isSecond, isApplied⟩ := bind_ok_iff.mp isApplied
  obtain ⟨third, isThird, isLast⟩ := bind_ok_iff.mp isApplied
  obtain rfl := modelValidate_ok isChecked
  obtain rfl := modelValidate_ok isLast
  exact ⟨shifted, first, second, isShifted, isFirst, isSecond, isThird⟩

section

variable (factors : List Factor) (values : String → ℚ)

/-- What the factors multiply a parameter of a class with. -/
def factorRatio (factor : IdmFactor) (used : List VehicleClass) (config : Fields)
    (name : DriverAggression)
    (vehicle : VehicleClass) : ℚ :=
  appliedRatio factor (byKind factors values factor.kind) used config name vehicle

theorem appliedRatio_congr {factor : IdmFactor} {config other : Fields} {vehicle : VehicleClass}
    (sameOverride : (overridesOf other vehicle).get factor.parameter.key =
        (overridesOf config vehicle).get factor.parameter.key) (scale : Option ℚ)
    (used : List VehicleClass) (name : DriverAggression) :
    appliedRatio factor scale used other name vehicle =
      appliedRatio factor scale used config name vehicle := by
  cases scale with
  | none => rfl
  | some => simp [appliedRatio, ratio, sameOverride]

/-- The parameters of a class after every factor. -/
def scaledParams (used : List VehicleClass) (config : Fields) (name : DriverAggression)
    (vehicle : VehicleClass)
    (params : VehicleParams) : VehicleParams :=
  let headway := multiplied params .desiredTimeHeadway
    (factorRatio factors values .headway used config name vehicle)
  let acceleration := multiplied headway .maxAcceleration
    (factorRatio factors values .maxAcceleration used config name vehicle)
  let speed := (byKind factors values .desiredSpeedScale).getD 1
  { acceleration with
    desiredSpeedRange :=
      (params.desiredSpeedRange.1 * speed, params.desiredSpeedRange.2 * speed) }

end

variable {shifted : ScenarioDocument} {factor : IdmFactor}

theorem classParams_of_stages {first second : ScenarioDocument}
    (stages : Stages fingerprint modelErrors factors values base shifted first second applied)
    (positive : ScalesPositive factors values) {vehicle : VehicleClass} {params : VehicleParams}
    (resolved : classParams (base.labelledConfig fingerprint canonical strategy) vehicle = .ok
      params) {name : DriverAggression}
    (isName : resolveAggressionName (base.labelledConfig fingerprint canonical strategy) = .ok name)
    : classParams (applied.labelledConfig fingerprint canonical strategy) vehicle =
      .ok (scaledParams factors values (classesInUse shifted)
        (base.labelledConfig fingerprint canonical strategy) name vehicle params) := by
  have same := sameSettings_of_structural stages.structural
  have sameBut : SameBut "desiredSpeed" (base.labelledConfig fingerprint canonical strategy)
      (shifted.labelledConfig fingerprint canonical strategy) :=
    sameBut_of_sameSettings same
  have atShifted := classParams_of_sameSettings same resolved
  have nameShifted := sameBut.aggression.trans isName
  have headway : IdmStage .headway _ canonical strategy fingerprint shifted
    first := idmStage_of_applyIf stages.headway
  have acceleration : IdmStage .maxAcceleration _ canonical strategy fingerprint
    first second := idmStage_of_applyIf stages.acceleration
  have speed : SpeedStage _ canonical strategy fingerprint second applied :=
    speedStage_of_applyIf (fun scale isScale => positive _ (by simp [FactorKind.IsScale]) scale
        isScale) stages.speed
  have atFirst := headway.params vehicle params name atShifted nameShifted
  have atSecond := acceleration.params vehicle _ name atFirst (headway.sameName.trans nameShifted)
  rw [speed.params vehicle _ atSecond, headway.used,
    appliedRatio_congr (headway.overrides vehicle _ (by decide)),
    appliedRatio_congr (sameBut.overrides vehicle _ (by decide)),
    appliedRatio_congr (sameBut.overrides vehicle _ (by decide))]
  rfl

/-! ## The classes in use -/

/-- A class that some mix of a configuration draws. -/
def InUse (config : Fields) (vehicle : VehicleClass) : Prop :=
  ∃ mix ∈ (configuredMix config).toList ++ approachVehicleMixes config,
    0 < (mix.lookup vehicle).getD 0

/-! ## Exact scaling -/

/-- The scale of a kind, one where it is not sampled. -/
def scaleOf (factors : List Factor) (values : String → ℚ) (kind : FactorKind) : ℚ :=
  (byKind factors values kind).getD 1

/-- The parameters of a class in two configurations: in a class in use each
named parameter is its factor times what it was, and in every class what no
factor names is what it was. -/
structure ScaledParams (factors : List Factor) (values : String → ℚ) (inUse : Prop)
    (old new : VehicleParams) : Prop where
  typeId : new.profile.typeId = old.profile.typeId
  named : inUse → ∀ factor : IdmFactor, new.profile.scalar factor.parameter =
      old.profile.scalar factor.parameter * scaleOf factors values factor.kind
  speed : inUse → new.desiredSpeedRange =
    (old.desiredSpeedRange.1 * scaleOf factors values .desiredSpeedScale,
      old.desiredSpeedRange.2 * scaleOf factors values .desiredSpeedScale)
  scalars : ∀ parameter, (∀ factor : IdmFactor, factor.parameter = parameter →
      byKind factors values factor.kind = none) →
      new.profile.scalar parameter = old.profile.scalar parameter
  ranges : new.profile.range = old.profile.range
  unnamedSpeed : byKind factors values .desiredSpeedScale = none →
    new.desiredSpeedRange = old.desiredSpeedRange

/-- The factors scale what they name: the volume of every arm, and the
parameters of every class in use. -/
structure ScalesExactly (factors : List Factor) (values : String → ℚ)
    (base applied : ScenarioDocument) (before after : Fields) : Prop where
  volumes : ∀ direction, (applied.approaches.arm direction).map (·.vehiclesPerHour) =
      (base.approaches.arm direction).map (·.vehiclesPerHour * scaleOf factors values .demandScale)
  classes : ∀ vehicle old, classParams before vehicle = .ok old →
    ∃ new, classParams after vehicle = .ok new ∧
      ScaledParams factors values (InUse after vehicle) old new

/-- A class that a vehicle factor scales once: under the standard aggression
profile if the document declares the class, else only the car, through the
reference car. -/
def ScaledOnce (factor : IdmFactor) (scale : ℚ) (used : List VehicleClass) (config : Fields)
    (name : DriverAggression) (vehicle : VehicleClass) : Prop :=
  if vehicle ∈ used then name = .standard
  else scale = 1 ∨ vehicle = .car ∧
    ((overridesOf config vehicle).get factor.parameter.key).isNone = true

theorem scalar_aggressionMultipliers_eq_one (factor : IdmFactor) (name : DriverAggression) :
    (aggressionMultipliers name).scalar factor.parameter = 1 ↔ name = .standard := by
  cases factor <;> cases name <;>
    simp [aggressionMultipliers, Multipliers.scalar, IdmFactor.parameter] <;>
    norm_num

theorem ratio_eq_scale {scale : ℚ} (positive : 0 < scale) {used : List VehicleClass}
    {config : Fields} {name : DriverAggression} {vehicle : VehicleClass} :
    ratio factor scale used config name vehicle = scale ↔
      ScaledOnce factor scale used config name vehicle := by
  unfold ratio ScaledOnce
  by_cases isUsed : vehicle ∈ used
  · rw [if_pos isUsed, if_pos isUsed,
      ← scalar_aggressionMultipliers_eq_one factor, mul_eq_left₀ positive.ne']
  · rw [if_neg isUsed, if_neg isUsed]
    split
    · next reached => exact iff_of_true rfl (Or.inr reached)
    · next notReached =>
        constructor
        · exact fun isOne => Or.inl isOne.symm
        · rintro (isOne | reached)
          · exact isOne.symm
          · exact absurd reached notReached

/-- The factors of a document scale every class in use once. -/
def ScalesOnce (fingerprint : ScenarioDocument → String) (strategy : String)
    (factors : List Factor) (values : String → ℚ) (base : ScenarioDocument) : Prop :=
  ∀ shifted config name, structural factors values base = .ok shifted →
      shifted.compileScenario fingerprint strategy = .ok config →
        resolveAggressionName config = .ok name →
          ∀ factor : IdmFactor, ∀ scale ∈ byKind factors values factor.kind,
            ∀ vehicle, InUse config vehicle →
              ScaledOnce factor scale (classesInUse shifted) config name vehicle

theorem inUse_congr {config other : Fields} (same : SameMixes config other)
    (vehicle : VehicleClass) : InUse other vehicle ↔ InUse config vehicle := by
  unfold InUse
  rw [same.configured, same.approaches]

theorem scaledOnce_congr {config other : Fields} {vehicle : VehicleClass}
    (sameOverride : (overridesOf other vehicle).get factor.parameter.key = (overridesOf config
      vehicle).get factor.parameter.key) (scale : ℚ) (used : List VehicleClass)
    (name : DriverAggression) : ScaledOnce factor scale used other name vehicle ↔
      ScaledOnce factor scale used config name vehicle := by
  unfold ScaledOnce
  rw [sameOverride]

theorem volumes_of_structural (isShifted : structural factors values base = .ok shifted)
    (direction : Direction) :
    (shifted.approaches.arm direction).map (·.vehiclesPerHour) = (base.approaches.arm direction).map
        (·.vehiclesPerHour * scaleOf factors values .demandScale) := by
  rw [structural_ok isShifted]
  unfold scaleOf
  cases byKind factors values .mixShift <;> cases byKind factors values .turningShift <;>
    cases byKind factors values .demandScale <;>
    cases direction <;>
    simp [changedBy, scaleDemand, shiftTurnings, shiftMixes, mapArms,
      Approaches.arm, Option.map_map, Function.comp_def]

theorem exists_canonical {document : ScenarioDocument} {config : Fields}
    (compiled : document.compileScenario fingerprint strategy = .ok config) :
    ∃ canonical, StrategyRegistry.resolveId strategy = .ok canonical := by
  unfold compileScenario at compiled
  cases isCanonical : StrategyRegistry.resolveId strategy with
  | ok canonical => exact ⟨canonical, rfl⟩
  | error =>
    rw [isCanonical] at compiled
    cases compiled

section

variable {document other : ScenarioDocument}

theorem compileScenario_of_sameArms
    (isCanonical : StrategyRegistry.resolveId strategy = .ok canonical)
    (sameArms : other.approaches = document.approaches) {config : Fields}
    (compiled : other.compileScenario fingerprint strategy = .ok config) :
    document.compileScenario fingerprint strategy =
      .ok (document.labelledConfig fingerprint canonical strategy) := by
  have sameTotal : other.totalVehiclesPerHour = document.totalVehiclesPerHour := by
    simp [totalVehiclesPerHour, sameArms]
  unfold compileScenario at compiled ⊢
  rw [isCanonical] at compiled ⊢
  rw [sameTotal, sameArms] at compiled
  dsimp only at compiled ⊢
  split at compiled
  · cases compiled
  · next hasTraffic =>
      rw [if_neg hasTraffic]
      split at compiled
      · cases compiled
      · next enoughArms => rw [if_neg enoughArms]; rfl

theorem classParams_of_scaleIdm {factor : IdmFactor} {scale : ℚ}
    (isScaled : scaleIdm fingerprint modelErrors document factor scale = .ok other)
    (vehicle : VehicleClass) : ∃ params, classParams (document.labelledConfig fingerprint canonical
      strategy) vehicle = .ok params := by
  obtain ⟨config, isConfig, isScaled⟩ := bind_ok_iff.mp isScaled
  obtain ⟨profiles, isProfiles, _⟩ := bind_ok_iff.mp isScaled
  obtain rfl := effective_ok isConfig
  obtain ⟨params, resolved, _⟩ := classProfiles_ok isProfiles vehicle
  exact ⟨params, by rw [← resolved, classParams_labelledConfig_eq]⟩

end

theorem SameSettings.symm {document other : ScenarioDocument}
    (same : SameSettings document other) : SameSettings other document :=
  ⟨same.types.symm, same.traffic.symm, same.roads.symm, same.advanced.symm⟩

theorem exists_classParams_of_stages {shifted first second : ScenarioDocument}
    (stages : Stages fingerprint modelErrors factors values base shifted first second applied)
    {factor : IdmFactor} {scale : ℚ} (isScale : byKind factors values factor.kind = some scale)
    (vehicle : VehicleClass) :
    ∃ params, classParams (base.labelledConfig fingerprint canonical strategy)
      vehicle = .ok params := by
  have atShifted : ∃ params, classParams (shifted.labelledConfig fingerprint
      canonical strategy) vehicle = .ok params := by
    have isHeadway := stages.headway
    cases headway : byKind factors values .headwayScale with
    | some =>
      rw [headway] at isHeadway
      exact classParams_of_scaleIdm isHeadway vehicle
    | none =>
      rw [headway] at isHeadway
      cases isHeadway
      have isAcceleration := stages.acceleration
      cases factor with
      | headway => simp [IdmFactor.kind, headway] at isScale
      | maxAcceleration =>
        rw [show byKind factors values .maxAccelerationScale = some scale
          from isScale] at isAcceleration
        exact classParams_of_scaleIdm isAcceleration vehicle
  obtain ⟨params, resolved⟩ := atShifted
  exact ⟨params, classParams_of_sameSettings
    (sameSettings_of_structural stages.structural).symm resolved⟩

section Scaled

variable {used : List VehicleClass} {config : Fields} {name : DriverAggression}
variable {vehicle : VehicleClass} {params : VehicleParams}

theorem scalar_scaledParams (factor : IdmFactor) :
    (scaledParams factors values used config name vehicle params).profile.scalar factor.parameter =
      params.profile.scalar factor.parameter *
        factorRatio factors values factor used config name vehicle := by
  cases factor <;> simp [scaledParams, multiplied, VehicleTypeProfile.withScalar,
      IdmFactor.parameter]

theorem scalar_scaledParams_of_unnamed {parameter : ScalarParameter}
    (unnamed : ∀ factor : IdmFactor, factor.parameter = parameter →
      byKind factors values factor.kind = none) :
    (scaledParams factors values used config name vehicle params).profile.scalar parameter =
      params.profile.scalar parameter := by
  by_cases named : ∃ factor : IdmFactor, factor.parameter = parameter
  · obtain ⟨factor, rfl⟩ := named
    rw [scalar_scaledParams, factorRatio, unnamed factor rfl, appliedRatio, mul_one]
  · have notHeadway : parameter ≠ .desiredTimeHeadway := fun same => named ⟨.headway, same.symm⟩
    have notAcceleration : parameter ≠ .maxAcceleration :=
      fun same => named ⟨.maxAcceleration, same.symm⟩
    simp [scaledParams, multiplied, VehicleTypeProfile.withScalar, notHeadway, notAcceleration]

theorem scaledParams_of_once {inUse : Prop} (positive : ScalesPositive factors values)
    (once : inUse → ∀ factor : IdmFactor, ∀ scale ∈ byKind factors values factor.kind,
        ScaledOnce factor scale used config name vehicle) :
    ScaledParams factors values inUse params
      (scaledParams factors values used config name vehicle params) where
  typeId := rfl
  named := by
    intro isUsed factor
    rw [scalar_scaledParams, factorRatio, scaleOf]
    cases isScale : byKind factors values factor.kind with
    | none => rfl
    | some scale =>
      rw [appliedRatio, Option.getD_some, (ratio_eq_scale
        (positive.idm isScale)).mpr (once isUsed factor scale isScale)]
  speed := fun _ => rfl
  scalars := fun _ unnamed => scalar_scaledParams_of_unnamed unnamed
  ranges := rfl
  unnamedSpeed := by
    intro unnamed
    simp [scaledParams, unnamed]

end Scaled

/-- The factors scale what they name, and nothing else, if and only if every
class in use that the document declares has the standard aggression profile, and
every other class in use is scaled by one or is a car without an override. -/
theorem scalesExactly_iff {before after : Fields}
    (isApplied : applyFactors fingerprint modelErrors base factors values = .ok applied)
    (isBefore : base.compileScenario fingerprint strategy = .ok before)
    (isAfter : applied.compileScenario fingerprint strategy = .ok after)
    (positive : ScalesPositive factors values)
    (positiveParameters : ∀ vehicle params, classParams before vehicle = .ok params →
        ∀ factor : IdmFactor, 0 < params.profile.scalar factor.parameter) :
    ScalesExactly factors values base applied before after ↔
      ScalesOnce fingerprint strategy factors values base := by
  obtain ⟨canonical, isCanonical⟩ := exists_canonical isBefore
  obtain rfl := eq_labelledConfig isCanonical isBefore
  obtain rfl := eq_labelledConfig isCanonical isAfter
  obtain ⟨shifted, first, second, stages⟩ := stages_of_applyFactors isApplied
  have headway : IdmStage .headway _ canonical strategy fingerprint shifted
    first := idmStage_of_applyIf stages.headway
  have acceleration : IdmStage .maxAcceleration _ canonical strategy fingerprint
    first second := idmStage_of_applyIf stages.acceleration
  have speed : SpeedStage _ canonical strategy fingerprint second applied :=
    speedStage_of_applyIf (fun scale isScale => positive _ (by simp [FactorKind.IsScale]) scale
        isScale) stages.speed
  have sameArms : applied.approaches = shifted.approaches :=
    speed.arms.trans (acceleration.arms.trans headway.arms)
  have sameMixes := (headway.sameMixes.trans acceleration.sameMixes).trans speed.sameMixes
  have compiledShifted := compileScenario_of_sameArms isCanonical sameArms isAfter
  have sameBut : SameBut "desiredSpeed" (base.labelledConfig fingerprint canonical strategy)
      (shifted.labelledConfig fingerprint canonical strategy) :=
    sameBut_of_sameSettings (sameSettings_of_structural stages.structural)
  have sameOnce : ∀ factor scale used name vehicle, ScaledOnce factor scale used
          (shifted.labelledConfig fingerprint canonical strategy) name vehicle ↔
        ScaledOnce factor scale used
          (base.labelledConfig fingerprint canonical strategy) name vehicle :=
    fun factor scale used name vehicle =>
      scaledOnce_congr (sameBut.overrides vehicle factor.parameter.key
        (by cases factor <;> decide)) scale used name
  constructor
  · intro exact shifted' config name isShifted compiled isName factor scale isScale vehicle isUsed
    cases isShifted.symm.trans stages.structural
    cases compiledShifted.symm.trans compiled
    obtain ⟨old, isOld⟩ : ∃ params, classParams (base.labelledConfig fingerprint
        canonical strategy) vehicle = .ok params :=
      exists_classParams_of_stages stages isScale vehicle
    obtain ⟨new, isNew, scaled⟩ := exact.classes vehicle old isOld
    have isScaled := classParams_of_stages stages positive isOld
      (sameBut.aggression.symm.trans isName)
    cases isNew.symm.trans isScaled
    have isNamed := scaled.named ((inUse_congr sameMixes vehicle).mpr isUsed) factor
    rw [scalar_scaledParams, scaleOf, factorRatio, isScale, appliedRatio,
      Option.getD_some] at isNamed
    have isRatio := mul_left_cancel₀ (positiveParameters vehicle old isOld factor).ne' isNamed
    rw [sameOnce]
    exact (ratio_eq_scale (positive.idm isScale)).mp isRatio
  · intro once
    refine ⟨?_, ?_⟩
    · intro direction
      rw [sameArms]
      exact volumes_of_structural stages.structural direction
    · intro vehicle old isOld
      obtain ⟨_, _, _, name, _, _, _, isName, _⟩ := classParams_ok_iff.mp isOld
      refine ⟨_, classParams_of_stages stages positive isOld isName,
        scaledParams_of_once positive ?_⟩
      intro isUsed factor scale isScale
      rw [← sameOnce]
      exact once shifted _ name stages.structural compiledShifted
        (sameBut.aggression.trans isName) factor scale isScale vehicle
        ((inUse_congr sameMixes vehicle).mp isUsed)

end Factors

/-! ## Cars under a profile -/

/-- Four arms of cars that have a driver aggression profile. -/
def carsOnly (profile : DriverAggression) : ScenarioDocument :=
  { junction := .fixedTimeSignal
    approaches :=
      { north := some { lanes := 1, vehiclesPerHour := 300 }
        south := some { lanes := 1, vehiclesPerHour := 300 }
        east := some { lanes := 1, vehiclesPerHour := 300 }
        west := some { lanes := 1, vehiclesPerHour := 300 } }
    vehicles := { mix := some { car := 1 } }
    traffic := some { driverAggression := some profile }
    advanced_distinct := noAdvanced_distinct }

/-- One factor, on the time headway. -/
def headwayFactor : List Factor := [⟨"headway", .headwayScale⟩]

/-- Every headway is to become longer by a fifth. -/
def longer : String → ℚ := fun _ => 6 / 5

structure Lengthened (profile : DriverAggression) (applied : ScenarioDocument)
    (before after : Fields) : Prop where
  isApplied : applyFactors (fun _ => "") (fun _ => none) (carsOnly profile)
    headwayFactor longer = .ok applied
  isBefore : (carsOnly profile).compileScenario (fun _ => "") "fixed_time" = .ok before
  isAfter : applied.compileScenario (fun _ => "") "fixed_time" = .ok after

instance (config : Fields) (vehicle : VehicleClass) : Decidable (InUse config vehicle) := by
  unfold InUse
  infer_instance

def headwayOf (config : Fields) (vehicle : VehicleClass) : Option ℚ :=
  match classParams config vehicle with
  | .ok params => some (params.profile.scalar .desiredTimeHeadway)
  | .error _ => none

/-- What the two configurations of a profile say. -/
def readLengthened {Reading : Type} (profile : DriverAggression)
    (read : Fields → Fields → Reading) : Option Reading :=
  match applyFactors (fun _ => "") (fun _ => none) (carsOnly profile) headwayFactor longer with
  | .error _ => none
  | .ok applied =>
    match (carsOnly profile).compileScenario (fun _ => "") "fixed_time",
        applied.compileScenario (fun _ => "") "fixed_time" with
    | .ok before, .ok after => some (read before after)
    | _, _ => none

theorem exists_lengthened {Reading : Type} {profile : DriverAggression}
    {read : Fields → Fields → Reading} {reading : Reading}
    (isRead : readLengthened profile read = some reading) :
    ∃ applied before after, Lengthened profile applied before after ∧
      read before after = reading := by
  unfold readLengthened at isRead
  split at isRead
  · cases isRead
  · next applied isApplied =>
      split at isRead
      · next before after isBefore isAfter =>
          exact ⟨applied, before, after, ⟨isApplied, isBefore, isAfter⟩, Option.some.inj isRead⟩
      · cases isRead

theorem headwayOf_eq_some {config : Fields} {vehicle : VehicleClass} {headway : ℚ}
    (isHeadway : headwayOf config vehicle = some headway) :
    ∃ params, classParams config vehicle = .ok params ∧
      params.profile.scalar .desiredTimeHeadway = headway := by
  unfold headwayOf at isHeadway
  split at isHeadway
  · next params resolved => exact ⟨params, resolved, Option.some.inj isHeadway⟩
  · cases isHeadway

theorem scalesPositive_longer : ScalesPositive headwayFactor longer := by
  rintro kind _ scale isScale
  cases kind <;> simp [byKind, headwayFactor, longer] at isScale
  norm_num [← isScale]

/-- Cars under the high profile: the headway of 1.05 s becomes 0.882 s, where a
fifth more is 1.26 s. -/
theorem high_profile_scales_twice : ∃ applied before after, Lengthened .high applied before after ∧
      ScalesPositive headwayFactor longer ∧ InUse after .car ∧
      ¬ ScalesExactly headwayFactor longer (carsOnly .high) applied before after := by
  have isRead : readLengthened .high (fun before after =>
      (headwayOf before .car, headwayOf after .car, decide (InUse after .car))) =
      some (some (21 / 20), some (441 / 500), true) := by
    decide +kernel
  obtain ⟨applied, before, after, isLengthened, reading⟩ := exists_lengthened isRead
  simp only [Prod.mk.injEq, decide_eq_true_eq] at reading
  obtain ⟨isBefore, isAfter, isUsed⟩ := reading
  obtain ⟨old, isOld, oldHeadway⟩ := headwayOf_eq_some isBefore
  obtain ⟨new, isNew, newHeadway⟩ := headwayOf_eq_some isAfter
  refine ⟨applied, before, after, isLengthened, scalesPositive_longer, isUsed, ?_⟩
  intro exact
  obtain ⟨found, isFound, scaled⟩ := exact.classes .car old isOld
  cases isFound.symm.trans isNew
  have isNamed := scaled.named isUsed .headway
  simp only [IdmFactor.parameter, IdmFactor.kind, newHeadway, oldHeadway,
    scaleOf, byKind, headwayFactor, longer] at isNamed
  norm_num at isNamed

/-- Cars under the standard profile get headways a fifth longer. -/
theorem standard_profile_scales_exactly :
    ∃ applied before after, Lengthened .standard applied before after ∧
      ScalesExactly headwayFactor longer (carsOnly .standard) applied before after := by
  have isRead : readLengthened .standard (fun before _ =>
      (VehicleClass.all.all fun vehicle =>
          match classParams before vehicle with
          | .ok params =>
            decide (0 < params.profile.scalar .desiredTimeHeadway ∧
              0 < params.profile.scalar .maxAcceleration)
          | .error _ => true,
        (resolveAggressionName before).toOption,
        VehicleClass.all.all fun vehicle =>
          decide (InUse before vehicle → vehicle ∈ classesInUse (carsOnly .standard)))) =
      some (true, some .standard, true) := by
    decide +kernel
  obtain ⟨applied, before, after, isLengthened, reading⟩ := exists_lengthened isRead
  simp only [Prod.mk.injEq, List.all_eq_true, VehicleClass.mem_all,
    forall_const, decide_eq_true_eq] at reading
  obtain ⟨isPositive, isStandard, isDeclared⟩ := reading
  refine ⟨applied, before, after, isLengthened,
    (scalesExactly_iff isLengthened.isApplied isLengthened.isBefore
      isLengthened.isAfter scalesPositive_longer ?_).mpr ?_⟩
  · intro vehicle params resolved factor
    have positive := isPositive vehicle
    rw [resolved] at positive
    simp only [decide_eq_true_eq] at positive
    cases factor with
    | headway => exact positive.1
    | maxAcceleration => exact positive.2
  · intro shifted config name isShifted compiled isName factor scale _ vehicle isUsed
    obtain rfl : carsOnly .standard = shifted := Except.ok.inj isShifted
    cases isLengthened.isBefore.symm.trans compiled
    rw [isName] at isStandard
    obtain rfl : name = .standard := Option.some.inj isStandard
    rw [ScaledOnce, if_pos (isDeclared vehicle isUsed)]

end UrbanFlow.Uncertainty
