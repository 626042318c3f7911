import UrbanFlow.Scenario.Compiled
import UrbanFlow.Vehicles.Population

/-!
# Applying sampled factor values

`apply_factors`: the scenario document of one sampled condition. The structural
factors change the document's own fields. The three vehicle factors read the
effective values of the compiled configuration and write absolute values into
the `advanced` section. The arithmetic is exact, so nothing is rounded.
-/

namespace UrbanFlow

/-- An object whose keys, and whose objects' keys, are distinct. -/
def ObjectFields : Type := {fields : Fields // Fields.Distinct fields}

namespace Fields

theorem Distinct.set {fields : Fields} (distinct : Distinct fields) (key : String)
    {value : PyValue} (valueDistinct : value.Distinct) : Distinct (fields.set key value) := by
  induction fields with
  | nil => simp [Fields.set, Distinct, valueDistinct]
  | cons item rest ih =>
    obtain ⟨_, _⟩ := item
    rw [Distinct] at distinct
    obtain ⟨absent, heldDistinct, restDistinct⟩ := distinct
    rw [Fields.set]
    split
    · rw [Distinct]
      exact ⟨absent, valueDistinct, restDistinct⟩
    · next different =>
        rw [Distinct, lookup_set_of_ne rest different]
        exact ⟨absent, heldDistinct, ih restDistinct⟩

end Fields

namespace ObjectFields

/-- The object without items. -/
def empty : ObjectFields := ⟨[], trivial⟩

section

variable (object : ObjectFields) (key : String)

/-- `object[key] = value`, of a number. -/
def setNumber (value : ℚ) : ObjectFields :=
  ⟨object.1.set key (.float value), object.2.set key trivial⟩

/-- `object[key] = other`. -/
def setObject (other : ObjectFields) : ObjectFields :=
  ⟨object.1.set key (.dict other.1), object.2.set key (by rw [PyValue.Distinct]; exact other.2)⟩

/-- `object.setdefault(key, {})`, to be written to. -/
def child : Except PyMessage ObjectFields := match found : object.1.lookup key with
  | none => .ok empty
  | some (.dict inner) => .ok ⟨inner, by simpa [PyValue.Distinct] using object.2.lookup found⟩
  | some value => .error [.repr value, .text " does not support item assignment"]

end

theorem child_ok {object inner : ObjectFields} {key : String}
    (isChild : object.child key = .ok inner) : (object.1.lookup key = none ∧ inner.1 = []) ∨
      object.1.lookup key = some (.dict inner.1) := by
  unfold child at isChild
  split at isChild
  · next absent =>
      cases isChild
      exact Or.inl ⟨absent, rfl⟩
  · next found =>
      cases isChild
      exact Or.inr found
  · cases isChild

end ObjectFields

namespace Uncertainty

open Scenario VehiclePopulation

inductive FactorKind
  | demandScale
  | turningShift
  | mixShift
  | headwayScale
  | desiredSpeedScale
  | maxAccelerationScale
  deriving DecidableEq, Repr

/-- `Factor`: what a sampled value stands for. -/
structure Factor where
  id : String
  kind : FactorKind
  deriving DecidableEq, Repr

/-- `by_kind`: the value of a kind. -/
def byKind (factors : List Factor) (values : String → ℚ) (kind : FactorKind) : Option ℚ :=
  (factors.reverse.find? fun factor => factor.kind = kind).map fun factor => values factor.id

/-- Change every arm. -/
def mapArms (change : ApproachSpec → ApproachSpec) (approaches : Approaches) : Approaches :=
  { north := approaches.north.map change
    south := approaches.south.map change
    east := approaches.east.map change
    west := approaches.west.map change }

def shiftTurning (turning : Turning) (shift : ℚ) : Turning :=
  let total := turning.left + turning.right
  let leftWeight := if 0 < total then turning.left / total else 1 / 2
  if 0 ≤ shift then
    let moved := shift * turning.straight
    { turning with
      left := max 0 (turning.left + moved * leftWeight)
      straight := max 0 (turning.straight - moved)
      right := max 0 (turning.right + moved * (1 - leftWeight)) }
  else
    let moved := -shift * total
    { turning with
      left := max 0 (turning.left - moved * leftWeight)
      straight := max 0 (turning.straight + moved)
      right := max 0 (turning.right - moved * (1 - leftWeight)) }

def share (mix : Mix) : VehicleClass → ℚ
  | .car => mix.car
  | .suv => mix.suv
  | .bus => mix.bus
  | .truck => mix.truck
  | .motorcycle => mix.motorcycle

def lightClasses : List VehicleClass := [.car, .suv, .motorcycle]

def heavyClasses : List VehicleClass := [.bus, .truck]

def shiftMix (mix : Mix) (shift : ℚ) : Mix :=
  let source := if 0 ≤ shift then lightClasses else heavyClasses
  let sink := if 0 ≤ shift then heavyClasses else lightClasses
  let sourceTotal := (source.map (share mix)).sum
  let sinkTotal := (sink.map (share mix)).sum
  let moved := |shift| * sourceTotal
  let shifted := fun vehicle : VehicleClass =>
    max 0 (if vehicle ∈ source then
        share mix vehicle - moved * (if 0 < sourceTotal then share mix vehicle / sourceTotal else 0)
      else share mix vehicle + moved * (if 0 < sinkTotal then share mix vehicle / sinkTotal
            else 1 / sink.length))
  { car := shifted .car
    suv := shifted .suv
    bus := shifted .bus
    truck := shifted .truck
    motorcycle := shifted .motorcycle }

section

variable (document : ScenarioDocument)

/-- The mixes that a document declares. -/
def declaredMixes : List Mix :=
  document.vehicles.mix.toList ++ document.approaches.present.filterMap (·.2.vehicleMix)

/-- `_classes_in_use`, in the order of their names. -/
def classesInUse : List VehicleClass :=
  [VehicleClass.bus, .car, .motorcycle, .suv, .truck].filter fun vehicle =>
    ∃ mix ∈ declaredMixes document, 0 < share mix vehicle

/-- The demand factor. -/
def scaleDemand (scale : ℚ) : ScenarioDocument :=
  { document with
    approaches := mapArms (fun arm => { arm with vehiclesPerHour := arm.vehiclesPerHour * scale })
      document.approaches }

/-- The turning factor. -/
def shiftTurnings (shift : ℚ) : ScenarioDocument :=
  { document with
    approaches := mapArms (fun arm => { arm with turning := shiftTurning arm.turning shift })
      document.approaches }

/-- The mix factor. -/
def shiftMixes (shift : ℚ) : ScenarioDocument :=
  { document with
    vehicles :=
      { document.vehicles with
        mix := document.vehicles.mix.map fun mix => shiftMix mix shift }
    approaches := mapArms (fun arm =>
        { arm with vehicleMix := arm.vehicleMix.map fun mix =>
            shiftMix mix shift })
      document.approaches }

end

/-- The structural factors of a condition. -/
def structural (factors : List Factor) (values : String → ℚ)
    (document : ScenarioDocument) : Except PyMessage ScenarioDocument :=
  let scaled := match byKind factors values .demandScale with
    | some scale => scaleDemand document scale
    | none => document
  let turned := match byKind factors values .turningShift with
    | some shift => shiftTurnings scaled shift
    | none => scaled
  match byKind factors values .mixShift with
  | none => .ok turned
  | some shift =>
    if declaredMixes turned = [] then .error [.text "mix_shift needs a declared vehicle mix"]
    else .ok (shiftMixes turned shift)

/-- The document with another `vehicleGeneration` section in `advanced`. -/
def withGeneration (document : ScenarioDocument) (section' : ObjectFields) : ScenarioDocument :=
  let advanced : ObjectFields := ⟨document.advancedFields, document.advancedFields_distinct⟩
  { document with
    advanced := some (advanced.setObject "vehicleGeneration" section').1
    advanced_distinct := by
      rintro fields ⟨⟩
      exact (advanced.setObject "vehicleGeneration" section').2 }

def vehicleGeneration (document : ScenarioDocument) : Except PyMessage ObjectFields :=
  ObjectFields.child ⟨document.advancedFields, document.advancedFields_distinct⟩ "vehicleGeneration"

/-- The parameter that an IDM factor scales, and its value for a legacy car. -/
inductive IdmFactor
  | headway
  | maxAcceleration
  deriving DecidableEq, Repr

namespace IdmFactor

/-- The scaled parameter. -/
def parameter : IdmFactor → ScalarParameter
  | headway => .desiredTimeHeadway
  | maxAcceleration => .maxAcceleration

/-- The fallback of `_scale_idm`. -/
def fallback : IdmFactor → ℚ
  | headway => 3 / 2
  | maxAcceleration => 2

def kind : IdmFactor → FactorKind
  | headway => .headwayScale
  | maxAcceleration => .maxAccelerationScale

end IdmFactor

/-- The overrides of the classes in use, with a number written into each. -/
def writeTypes (key : String) (value : VehicleClass → ℚ) (used : List VehicleClass)
    (types : ObjectFields) : Except PyMessage ObjectFields :=
  match used with
  | [] => .ok types
  | vehicle :: rest => do
    let entry ← types.child vehicle.value
    writeTypes key value rest (types.setObject vehicle.value (entry.setNumber key (value vehicle)))

/-- The `vehicleGeneration` section that `_scale_idm` leaves. -/
def writeScaled (key : String) (reference : ℚ) (value : VehicleClass → ℚ)
    (used : List VehicleClass) (target : ObjectFields) : Except PyMessage ObjectFields :=
  let target := target.setNumber key reference
  if used = [] then .ok target
  else do
    let types ← target.child "vehicleTypes"
    let types ← writeTypes key value used types
    pure (target.setObject "vehicleTypes" types)

section Apply

variable (fingerprint : ScenarioDocument → String)
variable (modelErrors : ScenarioDocument → Option PyMessage)

section

variable (document : ScenarioDocument)

/-- `ScenarioDocument.model_validate` of a changed document. -/
def modelValidate : Except PyMessage ScenarioDocument := match modelErrors document with
  | none => .ok document
  | some message => .error message

def effective : Except PyMessage Fields := do
  let document ← modelValidate modelErrors document
  document.compileScenario fingerprint "fixed_time"

/-- `_class_profiles`: a mix of every class has a profile for each of them. -/
def classProfiles (config : Fields) : Except PyMessage (VehicleClass → VehicleTypeProfile) :=
  tableOf VehicleClass.all (fun vehicle => do
      let params ← classParams config vehicle
      pure params.profile)
    defaultProfile

def scaleIdm (factor : IdmFactor) (scale : ℚ) : Except PyMessage ScenarioDocument := do
  let key := factor.parameter.key
  let config ← effective fingerprint modelErrors document
  let profiles ← classProfiles config
  let target ← vehicleGeneration document
  let reference ← realAt (generation config) key factor.fallback
  let target ← writeScaled key (reference * scale)
    (fun vehicle => (profiles vehicle).scalar factor.parameter * scale)
    (classesInUse document) target
  pure (withGeneration document target)

def scaleDesiredSpeed (scale : ℚ) : Except PyMessage ScenarioDocument := do
  let config ← effective fingerprint modelErrors document
  let range ← resolveDesiredSpeedRange config
  let target ← vehicleGeneration document
  let speed := (ObjectFields.empty.setNumber "min" (range.1 * scale)).setNumber
    "max" (range.2 * scale)
  pure (withGeneration document (target.setObject "desiredSpeed" speed))

end

/-- A factor that is only applied when it has a value. -/
def applyIf (value : Option ℚ) (apply : ScenarioDocument → ℚ → Except PyMessage ScenarioDocument)
    (document : ScenarioDocument) : Except PyMessage ScenarioDocument :=
  match value with
  | none => .ok document
  | some value => apply document value

def applyFactors (base : ScenarioDocument) (factors : List Factor)
    (values : String → ℚ) : Except PyMessage ScenarioDocument := do
  let document ← structural factors values base
  let document ← modelValidate modelErrors document
  let document ← applyIf (byKind factors values .headwayScale)
    (fun document => scaleIdm fingerprint modelErrors document .headway)
    document
  let document ← applyIf (byKind factors values .maxAccelerationScale)
    (fun document => scaleIdm fingerprint modelErrors document .maxAcceleration)
    document
  let document ← applyIf (byKind factors values .desiredSpeedScale)
    (scaleDesiredSpeed fingerprint modelErrors) document
  modelValidate modelErrors document

end Apply

end Uncertainty
end UrbanFlow
