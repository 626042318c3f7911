import UrbanFlow.Scenario.Documents
import UrbanFlow.Strategies.Compatibility

/-!
# Vehicle classes

`resolve_vehicle_population`: each class's parameters are its defaults (for the
car, what the `vehicleGeneration` section says), under the overrides of its
class, under the driver aggression profile. The arithmetic is exact.
-/

namespace UrbanFlow

/-- `VEHICLE_CLASSES`, in the order in which they are drawn from a mix. -/
inductive VehicleClass
  | car
  | suv
  | bus
  | truck
  | motorcycle
  deriving DecidableEq, Repr

namespace VehicleClass

/-- The name of a class. -/
def value : VehicleClass → String
  | car => "car"
  | suv => "suv"
  | bus => "bus"
  | truck => "truck"
  | motorcycle => "motorcycle"

def all : List VehicleClass := [car, suv, bus, truck, motorcycle]

@[simp] theorem mem_all (vehicle : VehicleClass) : vehicle ∈ all := by cases vehicle <;> simp [all]

theorem value_injective : Function.Injective value := by
  intro one other same
  cases one <;> cases other <;> simp [value] at same ⊢

end VehicleClass

/-- The scalar parameters of a class, as `_SCALAR_OVERRIDES` lists them. -/
inductive ScalarParameter
  | maxAcceleration
  | comfortDeceleration
  | desiredTimeHeadway
  | minimumGap
  | idmDelta
  | maxLateralAcceleration
  | laneChangeDuration
  | laneChangeMinDistance
  | politeness
  deriving DecidableEq, Repr

namespace ScalarParameter

/-- The key of a parameter in a configuration. -/
def key : ScalarParameter → String
  | maxAcceleration => "maxAcceleration"
  | comfortDeceleration => "comfortDeceleration"
  | desiredTimeHeadway => "desiredTimeHeadway"
  | minimumGap => "minimumGap"
  | idmDelta => "idmDelta"
  | maxLateralAcceleration => "maxLateralAcceleration"
  | laneChangeDuration => "laneChangeDuration"
  | laneChangeMinDistance => "laneChangeMinDistance"
  | politeness => "politeness"

def all : List ScalarParameter :=
  [maxAcceleration, comfortDeceleration, desiredTimeHeadway, minimumGap,
    idmDelta, maxLateralAcceleration, laneChangeDuration,
    laneChangeMinDistance, politeness]

@[simp] theorem mem_all (parameter : ScalarParameter) : parameter ∈ all := by
  cases parameter <;> simp [all]

theorem key_injective : Function.Injective key := by
  intro one other same
  cases one <;> cases other <;> simp [key] at same ⊢

end ScalarParameter

/-- The parameters of a class that are ranges, as `_RANGE_OVERRIDES` lists
them. -/
inductive RangeParameter
  | length
  | width
  | desiredSpeedFactor
  deriving DecidableEq, Repr

namespace RangeParameter

/-- The key of a parameter in a configuration. -/
def key : RangeParameter → String
  | length => "length"
  | width => "width"
  | desiredSpeedFactor => "desiredSpeedFactor"

def all : List RangeParameter := [length, width, desiredSpeedFactor]

@[simp] theorem mem_all (parameter : RangeParameter) : parameter ∈ all := by
  cases parameter <;> simp [all]

theorem key_ne_scalar (range : RangeParameter) (scalar : ScalarParameter) :
    range.key ≠ scalar.key := by
  cases range <;> cases scalar <;> decide

end RangeParameter

/-- `VehicleTypeProfile`: the parameter set of a class. -/
@[ext] structure VehicleTypeProfile where
  typeId : VehicleClass
  scalar : ScalarParameter → ℚ
  range : RangeParameter → ℚ × ℚ

section

variable (profile : VehicleTypeProfile) (parameter : ScalarParameter)

def VehicleTypeProfile.withScalar (value : ℚ) : VehicleTypeProfile :=
  { profile with
    scalar := fun other =>
      if other = parameter then value else profile.scalar other }

theorem VehicleTypeProfile.withScalar_self :
    profile.withScalar parameter (profile.scalar parameter) = profile := by
  ext other
  · rfl
  · by_cases same : other = parameter
    · simp [VehicleTypeProfile.withScalar, same]
    · simp [VehicleTypeProfile.withScalar, same]
  · rfl
  · rfl

end

namespace VehiclePopulation

def desiredSpeedLimitFactors : ℚ × ℚ := (17 / 20, 21 / 20)

/-- A profile from the values of its parameters. -/
def profileOf (typeId : VehicleClass) (length width desiredSpeedFactor : ℚ × ℚ)
    (acceleration deceleration headway gap lateral duration distance
      politeness : ℚ) : VehicleTypeProfile :=
  { typeId := typeId
    scalar := fun parameter =>
      match parameter with
      | .maxAcceleration => acceleration
      | .comfortDeceleration => deceleration
      | .desiredTimeHeadway => headway
      | .minimumGap => gap
      | .idmDelta => 4
      | .maxLateralAcceleration => lateral
      | .laneChangeDuration => duration
      | .laneChangeMinDistance => distance
      | .politeness => politeness
    range := fun parameter =>
      match parameter with
      | .length => length
      | .width => width
      | .desiredSpeedFactor => desiredSpeedFactor }

/-- `DEFAULT_PROFILES`. -/
def defaultProfile : VehicleClass → VehicleTypeProfile
  | .car =>
    profileOf .car (4, 5) (9 / 5, 11 / 5) desiredSpeedLimitFactors 2 3 (3 / 2) 2 3 3 12 (3 / 10)
  | .suv =>
    profileOf .suv (23 / 5, 26 / 5) (19 / 10, 21 / 10) (17 / 20, 21 / 20)
      (9 / 5) (14 / 5) (8 / 5) 2 (27 / 10) (16 / 5) 14 (3 / 10)
  | .bus =>
    profileOf .bus (21 / 2, 12) (5 / 2, 51 / 20) (3 / 4, 9 / 10)
      1 2 (9 / 5) (5 / 2) (9 / 5) (9 / 2) 22 (1 / 2)
  | .truck =>
    profileOf .truck (8, 12) (12 / 5, 51 / 20) (7 / 10, 9 / 10) (4 / 5) 2 2 3 (8 / 5) 5 24 (1 / 2)
  | .motorcycle =>
    profileOf .motorcycle (19 / 10, 23 / 10) (7 / 10, 9 / 10)
      (9 / 10, 11 / 10) 3 (7 / 2) (11 / 10) (3 / 2) 4 2 8 (1 / 10)

/-- `float(value)` of what a checked configuration holds. -/
def realOf : PyValue → Option ℚ
  | .int value => some value
  | .float value => some value
  | .bool value => some (if value then 1 else 0)
  | _ => none

/-- A value that `float` refuses. -/
def notReal (key : String) (value : PyValue) : PyMessage :=
  [.text (key ++ ": could not convert to float: "), .repr value]

/-- `float(fields.get(key, default))`. -/
def realAt (fields : Fields) (key : String) (default : ℚ) : Except PyMessage ℚ :=
  match fields.lookup key with
  | none => .ok default
  | some value =>
    match realOf value with
    | some number => .ok number
    | none => .error (notReal key value)

/-- `_range`. -/
def rangeOf (key : String) (value : PyValue) : Except PyMessage (Option (ℚ × ℚ)) :=
  match value.asDict with
  | none => .ok none
  | some fields =>
    match fields.lookup "min", fields.lookup "max" with
    | some low, some high =>
      match realOf low, realOf high with
      | some low, some high => .ok (some (low, high))
      | _, _ => .error (notReal key value)
    | _, _ => .ok none

/-- The `vehicleGeneration` section. -/
def generation (config : Fields) : Fields := StrategyValidator.sectionOf config "vehicleGeneration"

/-- `vehicleGeneration.vehicleTypes.<class>`. -/
def overridesOf (config : Fields) (vehicle : VehicleClass) : Fields :=
  (((generation config).dictAt "vehicleTypes").bind (·.dictAt vehicle.value)).getD []

section

variable (overrides : Fields) (profile : VehicleTypeProfile)

/-- The value of an override: the profile's own where it is null. -/
def overriddenScalar (parameter : ScalarParameter) : Except PyMessage ℚ :=
  let value := overrides.get parameter.key
  if value.isNone then .ok (profile.scalar parameter)
  else match realOf value with
    | some number => .ok number
    | none => .error (notReal parameter.key value)

/-- The value of a range override. -/
def overriddenRange (parameter : RangeParameter) : Except PyMessage (ℚ × ℚ) := do
  let range ← rangeOf parameter.key (overrides.get parameter.key)
  pure (range.getD (profile.range parameter))

end

/-- A table of values that are read one by one: the first error, if any, is
raised. -/
def tableOf {K V : Type} (keys : List K) (read : K → Except PyMessage V)
    (otherwise : K → V) : Except PyMessage (K → V) :=
  let firstError := keys.findSome? fun key =>
    match read key with
    | .error message => some message
    | .ok _ => none
  match firstError with
  | some message => .error message
  | none => .ok fun key =>
    match read key with
    | .ok value => value
    | .error _ => otherwise key

def applyOverrides (profile : VehicleTypeProfile)
    (overrides : Fields) : Except PyMessage VehicleTypeProfile := do
  let scalar ← tableOf ScalarParameter.all (overriddenScalar overrides profile) profile.scalar
  let range ← tableOf RangeParameter.all (overriddenRange overrides profile) profile.range
  pure { profile with scalar := scalar, range := range }

section

variable (generation : Fields)

def resolveMaxLateralAcceleration : ℚ :=
  match realOf ((generation.lookup "maxLateralAcceleration").getD (.float 3)) with
  | some value => if 0 < value then value else 3
  | none => 3

/-- A scalar of the reference car. -/
def referenceScalar (parameter : ScalarParameter) : Except PyMessage ℚ := match parameter with
  | .maxAcceleration => realAt generation "maxAcceleration" 2
  | .comfortDeceleration => realAt generation "comfortDeceleration" 3
  | .desiredTimeHeadway => realAt generation "desiredTimeHeadway" (3 / 2)
  | .minimumGap => realAt generation "minimumGap" 2
  | .idmDelta => realAt generation "idmDelta" 4
  | .maxLateralAcceleration => .ok (resolveMaxLateralAcceleration generation)
  | other => .ok ((defaultProfile .car).scalar other)

/-- A range of the reference car. -/
def referenceRange (parameter : RangeParameter) : Except PyMessage (ℚ × ℚ) := do
  let default := (defaultProfile .car).range parameter
  match parameter with
  | .length =>
    let range ← rangeOf "vehicleLength" (generation.get "vehicleLength")
    pure (range.getD default)
  | .width =>
    let range ← rangeOf "vehicleWidth" (generation.get "vehicleWidth")
    pure (range.getD default)
  | .desiredSpeedFactor => pure default

def referenceCar : Except PyMessage VehicleTypeProfile := do
  let base := defaultProfile .car
  let scalar ← tableOf ScalarParameter.all (referenceScalar generation) base.scalar
  let range ← tableOf RangeParameter.all (referenceRange generation) base.range
  pure { base with scalar := scalar, range := range }

end

open Scenario (DriverAggression)

/-- The multipliers of a profile that act on a class. -/
structure Multipliers where
  headway : ℚ
  gap : ℚ
  accel : ℚ
  speedFactorOffset : ℚ
  politeness : ℚ
  deriving DecidableEq, Repr

def aggressionMultipliers : DriverAggression → Multipliers
  | .standard => ⟨1, 1, 1, 0, 1⟩
  | .moderate => ⟨17 / 20, 7 / 8, 43 / 40, 1 / 40, 3 / 4⟩
  | .high => ⟨7 / 10, 3 / 4, 23 / 20, 1 / 20, 1 / 2⟩

def speedFactorCeiling : ℚ := 11 / 10

def speedFactors (factors : ℚ × ℚ) (offset : ℚ) : ℚ × ℚ :=
  let high := min speedFactorCeiling (factors.2 + offset)
  (min high (factors.1 + offset), high)

/-- What a profile multiplies a scalar with. -/
def Multipliers.scalar (multipliers : Multipliers) : ScalarParameter → ℚ
  | .desiredTimeHeadway => multipliers.headway
  | .minimumGap => multipliers.gap
  | .maxAcceleration => multipliers.accel
  | .politeness => multipliers.politeness
  | _ => 1

def applyAggressionToProfile (profile : VehicleTypeProfile)
    (name : DriverAggression) : VehicleTypeProfile :=
  let multipliers := aggressionMultipliers name
  if multipliers = ⟨1, 1, 1, 0, 1⟩ then profile
  else
    { profile with
      scalar := fun parameter => profile.scalar parameter * multipliers.scalar parameter
      range := fun parameter =>
        match parameter with
        | .desiredSpeedFactor =>
          speedFactors (profile.range .desiredSpeedFactor) multipliers.speedFactorOffset
        | other => profile.range other }

def resolveAggressionName (config : Fields) : Except PyMessage DriverAggression :=
  match (StrategyValidator.sectionOf config "traffic").get "driverAggression" with
  | .none => .ok .standard
  | .str "standard" => .ok .standard
  | .str "moderate" => .ok .moderate
  | .str "high" => .ok .high
  | value =>
    .error [.text "traffic.driverAggression ", .repr value,
      .text " is invalid; expected 'standard', 'moderate', or 'high'"]

def defaultSpeedLimit : ℚ := 1389 / 100

def resolveSpeedLimit (config : Fields) : ℚ :=
  let roads := StrategyValidator.sectionOf config "roads"
  match realOf ((roads.lookup "speedLimit").getD (.float defaultSpeedLimit)) with
  | some limit => if 0 < limit then limit else defaultSpeedLimit
  | none => defaultSpeedLimit

def resolveDesiredSpeedRange (config : Fields) : Except PyMessage (ℚ × ℚ) := do
  let explicit ← rangeOf "desiredSpeed" ((generation config).get "desiredSpeed")
  let limit := resolveSpeedLimit config
  pure (explicit.getD (limit * desiredSpeedLimitFactors.1, limit * desiredSpeedLimitFactors.2))

structure VehicleParams where
  profile : VehicleTypeProfile
  desiredSpeedRange : ℚ × ℚ

/-- Desired speed relative to the car's range: every class keeps its speed ratio
to the car. -/
def paramsOf (profile : VehicleTypeProfile) (base : ℚ × ℚ) : VehicleParams :=
  let factors := profile.range .desiredSpeedFactor
  let low := base.1 * factors.1 / desiredSpeedLimitFactors.1
  let high := base.2 * factors.2 / desiredSpeedLimitFactors.2
  ⟨profile, (min low high, max low high)⟩

section

variable (config : Fields)

/-- The profile of a class before its overrides. -/
def baseProfile (vehicle : VehicleClass) : Except PyMessage VehicleTypeProfile :=
  if vehicle = .car then referenceCar (generation config)
  else pure (defaultProfile vehicle)

/-- The parameters of a class: the body of the loop of
`resolve_vehicle_population`. -/
def classParams (vehicle : VehicleClass) : Except PyMessage VehicleParams := do
  let range ← resolveDesiredSpeedRange config
  let base ← baseProfile config vehicle
  let overridden ← applyOverrides base (overridesOf config vehicle)
  let name ← resolveAggressionName config
  pure (paramsOf (applyAggressionToProfile overridden name) range)

def mixShares (mix : PyValue) : Option (List (VehicleClass × ℚ)) := mix.asDict.map fun shares =>
    VehicleClass.all.filterMap fun vehicle =>
      (shares.get vehicle.value).number.map fun share => (vehicle, share)

def configuredMix : Option (List (VehicleClass × ℚ)) :=
  mixShares ((generation config).get "vehicleMix")

/-- `approach_vehicle_mixes`: the mixes that approaches have of their own. -/
def approachVehicleMixes : List (List (VehicleClass × ℚ)) :=
  let items := ((StrategyValidator.sectionOf config "traffic").get "approaches").asList.getD []
  items.filterMap fun item => item.asDict.bind fun fields => mixShares (fields.get "vehicleMix")

/-- `resolve_vehicle_population`, of the configuration's mix or of another. -/
def resolveVehiclePopulation (mixOverride : Option (List (VehicleClass × ℚ))) :
    Except PyMessage (Option (List (VehicleParams × ℚ))) :=
  match mixOverride.orElse fun _ => configuredMix config with
  | none => .ok none
  | some mix => do
    let present := VehicleClass.all.filter fun vehicle => 0 < (mix.lookup vehicle).getD 0
    let entries ← present.mapM fun vehicle => do
      let params ← classParams config vehicle
      pure (params, (mix.lookup vehicle).getD 0)
    pure (if entries.isEmpty then none else some entries)

end

end VehiclePopulation
end UrbanFlow
