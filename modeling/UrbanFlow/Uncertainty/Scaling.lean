import UrbanFlow.Uncertainty.Rewriting

/-!
# What a factor scales

A vehicle factor writes `scale` times a class's resolved value as an override of
the class. Resolving the class again applies the driver aggression profile to
that override a second time.
-/

namespace UrbanFlow.Uncertainty

open Scenario VehiclePopulation ScenarioDocument Fields

section Overrides

variable {config other own target written : Fields} {key : String} {reference : ℚ}
variable {value : VehicleClass → ℚ} {used : List VehicleClass}

/-- A section whose overrides are objects. -/
def HoldsObjects (own : Fields) : Prop := ∃ types, IsChild own "vehicleTypes" types ∧
    ∀ vehicle : VehicleClass, ∃ entry, IsChild types vehicle.value entry

theorem IsChild.distinct {fields inner : Fields} {held : String}
    (isChild : IsChild fields held inner) (distinct : Distinct fields) :
    Distinct inner := by
  obtain ⟨_, rfl⟩ | found := isChild
  · trivial
  · simpa [PyValue.Distinct] using distinct.lookup found

theorem lookup_vehicleTypes_of_merge
    (isGeneration : generation config = deepMerge own target)
    (distinct : Distinct target) {ownTypes types : Fields}
    (isOwn : IsChild own "vehicleTypes" ownTypes) (isTypes : IsChild target "vehicleTypes" types)
    (vehicle : VehicleClass) :
    overridesOf config vehicle = objectAt (deepMerge ownTypes types) vehicle.value := by
  rw [overridesOf_eq, isGeneration]
  exact objectAt_congr (lookup_objectAt_deepMerge distinct isOwn isTypes vehicle.value)

section

variable (isGeneration : generation config = deepMerge own target)
  (isOther : generation other = deepMerge own written) (holdsObjects : HoldsObjects own)
  (distinct : Distinct target) (writtenDistinct : Distinct written)
  (isWritten : Written key reference value used target written) {vehicle : VehicleClass}

include isGeneration isOther holdsObjects distinct writtenDistinct isWritten

/-- A class in use has one override written and keeps the others. -/
theorem overridesOf_of_inUse (isUsed : vehicle ∈ used) (held : String) :
    (overridesOf other vehicle).get held = if held = key then .float (value vehicle)
      else (overridesOf config vehicle).get held := by
  obtain ⟨ownTypes, isOwnTypes, ownEntries⟩ := holdsObjects
  obtain ⟨ownEntry, isOwnEntry⟩ := ownEntries vehicle
  obtain ⟨types, entry, types', isTypes, isEntry, foundTypes, foundEntry⟩ :=
    isWritten.inUse vehicle isUsed
  have isTypes' : IsChild written "vehicleTypes" types' := Or.inr foundTypes
  have isEntry' : IsChild types' vehicle.value
      (entry.set key (.float (value vehicle))) := Or.inr foundEntry
  have typesDistinct := isTypes.distinct distinct
  have types'Distinct := isTypes'.distinct writtenDistinct
  rw [lookup_vehicleTypes_of_merge isOther writtenDistinct isOwnTypes isTypes',
    lookup_vehicleTypes_of_merge isGeneration distinct isOwnTypes isTypes]
  unfold Fields.get
  rw [lookup_objectAt_deepMerge types'Distinct isOwnEntry isEntry' held,
    lookup_objectAt_deepMerge typesDistinct isOwnEntry isEntry held,
    lookup_deepMerge _ (isEntry'.distinct types'Distinct),
    lookup_deepMerge _ (isEntry.distinct typesDistinct),
    lookup_set]
  by_cases isKey : held = key
  · simp [isKey, PyValue.mergeOver]
  · simp [isKey]

theorem overridesOf_of_notInUse (notUsed : vehicle ∉ used) :
    overridesOf other vehicle = overridesOf config vehicle := by
  obtain sameTypes | ⟨types, types', isTypes, foundTypes, sameEntry⟩ :=
    isWritten.notInUse vehicle notUsed
  · rw [overridesOf_eq, overridesOf_eq, isOther, isGeneration]
    congr 1
    apply objectAt_congr
    rw [lookup_deepMerge _ writtenDistinct, lookup_deepMerge _ distinct, sameTypes]
  · obtain ⟨ownTypes, isOwnTypes, _⟩ := holdsObjects
    have isTypes' : IsChild written "vehicleTypes" types' := Or.inr foundTypes
    rw [lookup_vehicleTypes_of_merge isOther writtenDistinct isOwnTypes isTypes',
      lookup_vehicleTypes_of_merge isGeneration distinct isOwnTypes isTypes]
    apply objectAt_congr
    rw [lookup_deepMerge _ (isTypes'.distinct writtenDistinct),
      lookup_deepMerge _ (isTypes.distinct distinct), sameEntry]

end

end Overrides

theorem holdsObjects_vehicleGenerationSection (document : ScenarioDocument) :
    HoldsObjects document.vehicleGenerationSection := by
  have found : document.vehicleGenerationSection.lookup "vehicleTypes" =
      document.vehicles.types.bind fun types =>
        if types = [] then none
        else some (.dict (types.map fun entry => (entry.1, .dict entry.2))) := by
    simp [vehicleGenerationSection, List.lookup_append, lookup_optional]
  have entries : ∀ (types : List (String × Fields)) (key : String), ∃ entry, IsChild
        (types.map fun entry => (entry.1, PyValue.dict entry.2)) key entry := by
    intro types key
    induction types with
    | nil => exact ⟨[], Or.inl ⟨rfl, rfl⟩⟩
    | cons first _ ih =>
      by_cases same : key = first.1
      · exact ⟨first.2, Or.inr (by simp [same])⟩
      · obtain ⟨entry, isEntry⟩ := ih
        exact ⟨entry, isEntry.congr (by rw [List.map_cons, lookup_cons_of_ne same])⟩
  cases isTypes : document.vehicles.types with
  | none =>
    refine ⟨[], Or.inl ⟨?_, rfl⟩, fun vehicle => ⟨[], Or.inl ⟨rfl, rfl⟩⟩⟩
    rw [found, isTypes]
    rfl
  | some types =>
    by_cases isEmpty : types = []
    · refine ⟨[], Or.inl ⟨?_, rfl⟩, fun vehicle => ⟨[], Or.inl ⟨rfl, rfl⟩⟩⟩
      simp [found, isTypes, isEmpty]
    · refine ⟨_, Or.inr ?_, fun vehicle => entries types vehicle.value⟩
      simp [found, isTypes, isEmpty]

/-- Two configurations draw their vehicles from the same mixes. -/
structure SameMixes (config other : Fields) : Prop where
  configured : configuredMix other = configuredMix config
  approaches : approachVehicleMixes other = approachVehicleMixes config

/-- One configuration is another in which a factor has been written: the value of
the reference car and an override of every class in use are `scale` times what
they were. -/
structure Rescaled (factor : IdmFactor) (scale : ℚ) (used : List VehicleClass)
    (config other : Fields) : Prop where
  same : SameBut factor.parameter.key config other
  sameMixes : SameMixes config other
  reference : ∃ value, realAt (generation config) factor.parameter.key factor.fallback = .ok value ∧
      (generation other).lookup factor.parameter.key = some (.float (value * scale))
  inUse : ∀ vehicle ∈ used, ∃ params, classParams config vehicle = .ok params ∧
    (overridesOf other vehicle).get factor.parameter.key =
      .float (params.profile.scalar factor.parameter * scale)
  notInUse : ∀ vehicle ∉ used, overridesOf other vehicle = overridesOf config vehicle

section Rewritten

variable {fingerprint : ScenarioDocument → String}
variable {modelErrors : ScenarioDocument → Option PyMessage} {document other : ScenarioDocument}
variable {canonical : StrategyId} {strategy : String}

theorem effective_ok {config : Fields}
    (isEffective : effective fingerprint modelErrors document = .ok config) :
    config = document.labelledConfig fingerprint .fixedTimeSignal "fixed_time" := by
  obtain ⟨checked, isChecked, compiled⟩ := bind_ok_iff.mp isEffective
  have sameDocument : checked = document := by
    unfold modelValidate at isChecked
    split at isChecked
    · exact (Except.ok.inj isChecked).symm
    · cases isChecked
  subst sameDocument
  exact eq_labelledConfig rfl compiled

theorem classProfiles_ok {config : Fields} {profiles : VehicleClass → VehicleTypeProfile}
    (isProfiles : classProfiles config = .ok profiles) (vehicle : VehicleClass) :
    ∃ params, classParams config vehicle = .ok params ∧ params.profile = profiles vehicle := by
  have isRead := (tableOf_ok_iff VehicleClass.mem_all).mp isProfiles vehicle
  obtain ⟨params, resolved, isProfile⟩ := bind_ok_iff.mp isRead
  exact ⟨params, resolved, Except.ok.inj isProfile⟩

theorem lookup_generation_withGeneration {target written : ObjectFields}
    (isTarget : vehicleGeneration document = .ok target) {held : String}
    (sameHeld : written.1.lookup held = target.1.lookup held) :
    (generation ((withGeneration document written).labelledConfig fingerprint
        canonical strategy)).lookup held =
      (generation (document.labelledConfig fingerprint canonical strategy)).lookup held := by
  rw [generation_withGeneration, generation_labelledConfig isTarget,
    lookup_deepMerge _ written.2, lookup_deepMerge _ target.2,
    sameHeld]

theorem lookup_advancedFields_withGeneration (target : ObjectFields) {key : String}
    (different : key ≠ "vehicleGeneration") :
    (withGeneration document target).advancedFields.lookup key =
      document.advancedFields.lookup key :=
  lookup_set_of_ne _ different _

section

variable {target written : ObjectFields} (isTarget : vehicleGeneration document = .ok target)

include isTarget

/-- Rewriting one key of the vehicle section changes the values that are read
from that key. -/
theorem sameBut_withGeneration {key : String}
    (rest : ∀ held, held ≠ key → held ≠ "vehicleTypes" → written.1.lookup held = target.1.lookup held)
    (sameOverrides : ∀ vehicle held, held ≠ key → (overridesOf ((withGeneration document written).labelledConfig fingerprint canonical strategy) vehicle).get held = (overridesOf (document.labelledConfig fingerprint canonical strategy) vehicle).get held) :
    SameBut key (document.labelledConfig fingerprint canonical strategy)
      ((withGeneration document written).labelledConfig fingerprint canonical strategy) where
  generation := fun held notKey notTypes _ =>
    lookup_generation_withGeneration isTarget (rest held notKey notTypes)
  overrides := sameOverrides
  aggression := resolveAggressionName_congr
    (lookup_advancedFields_withGeneration written (by decide)) rfl
  speedLimit := resolveSpeedLimit_congr
    (lookup_advancedFields_withGeneration written (by decide)) rfl

theorem sameMixes_withGeneration
    (sameMix : written.1.lookup "vehicleMix" = target.1.lookup "vehicleMix") :
    SameMixes (document.labelledConfig fingerprint canonical strategy)
      ((withGeneration document written).labelledConfig fingerprint canonical strategy) where
  configured := by
    unfold configuredMix Fields.get
    rw [lookup_generation_withGeneration isTarget sameMix]
  approaches := by
    unfold approachVehicleMixes Fields.get
    rw [lookup_sectionOf_congr (by decide) (dictAt_traffic_plainConfig document canonical)
      (dictAt_traffic_plainConfig (withGeneration document written) canonical)
      (lookup_advancedFields_withGeneration written (by decide)) rfl]

end

theorem lookup_vehicleGenerationSection (document : ScenarioDocument) {key : String}
    (notMix : key ≠ "vehicleMix") (notTypes : key ≠ "vehicleTypes") :
    document.vehicleGenerationSection.lookup key = none := by
  simp [vehicleGenerationSection, List.lookup_append,
    lookup_optional, notMix, notTypes]

theorem nodup_classesInUse (document : ScenarioDocument) : (classesInUse document).Nodup :=
  List.Nodup.filter _ (by decide)

theorem rescaled_of_scaleIdm {factor : IdmFactor} {scale : ℚ}
    (isScaled : scaleIdm fingerprint modelErrors document factor scale = .ok other) :
    (∃ written, other = withGeneration document written) ∧
      Rescaled factor scale (classesInUse document)
        (document.labelledConfig fingerprint canonical strategy)
        (other.labelledConfig fingerprint canonical strategy) := by
  obtain ⟨config, isConfig, isScaled⟩ := bind_ok_iff.mp isScaled
  obtain ⟨profiles, isProfiles, isScaled⟩ := bind_ok_iff.mp isScaled
  obtain ⟨target, isTarget, isScaled⟩ := bind_ok_iff.mp isScaled
  obtain ⟨reference, isReference, isScaled⟩ := bind_ok_iff.mp isScaled
  obtain ⟨written, isWritten, isOther⟩ := bind_ok_iff.mp isScaled
  cases isOther
  obtain rfl := effective_ok isConfig
  have notTypes : factor.parameter.key ≠ "vehicleTypes" := by cases factor <;> decide
  have notMix : factor.parameter.key ≠ "vehicleMix" := by cases factor <;> decide
  have changes := writeScaled_ok notTypes (nodup_classesInUse document) isWritten
  have isGeneration : generation (document.labelledConfig fingerprint canonical strategy) =
        deepMerge document.vehicleGenerationSection target.1 :=
    generation_labelledConfig isTarget
  have isOtherGeneration : generation ((withGeneration document written).labelledConfig fingerprint
          canonical strategy) =
        deepMerge document.vehicleGenerationSection written.1 :=
    generation_withGeneration written
  have holds := holdsObjects_vehicleGenerationSection document
  have inUse := fun (vehicle : VehicleClass) (isUsed : vehicle ∈ classesInUse document) =>
    overridesOf_of_inUse isGeneration isOtherGeneration holds target.2 written.2 changes isUsed
  have notInUse := fun (vehicle : VehicleClass) (notUsed : vehicle ∉ classesInUse document) =>
    overridesOf_of_notInUse isGeneration isOtherGeneration holds target.2 written.2 changes notUsed
  refine ⟨⟨written, rfl⟩, ?_, ?_, ?_, ?_, notInUse⟩
  · apply sameBut_withGeneration isTarget changes.rest
    intro vehicle held notKey
    by_cases isUsed : vehicle ∈ classesInUse document
    · rw [inUse vehicle isUsed, if_neg notKey]
    · rw [notInUse vehicle isUsed]
  · exact sameMixes_withGeneration isTarget (changes.rest _ notMix.symm (by decide))
  · refine ⟨reference, ?_, ?_⟩
    · rw [← isReference, generation_labelledConfig_eq]
    · rw [isOtherGeneration, lookup_deepMerge _ written.2, changes.reference,
        lookup_vehicleGenerationSection document notMix notTypes]
      rfl
  · intro vehicle isUsed
    obtain ⟨params, resolved, isProfile⟩ := classProfiles_ok isProfiles vehicle
    refine ⟨params, ?_, ?_⟩
    · rw [← resolved, classParams_labelledConfig_eq]
    · rw [inUse vehicle isUsed, if_pos rfl, isProfile]

end Rewritten

/-- What a factor multiplies a parameter of a class with. -/
def ratio (factor : IdmFactor) (scale : ℚ) (used : List VehicleClass) (config : Fields)
    (name : DriverAggression) (vehicle : VehicleClass) : ℚ :=
  if vehicle ∈ used then scale * (aggressionMultipliers name).scalar factor.parameter
  else if vehicle = .car ∧
      ((overridesOf config vehicle).get factor.parameter.key).isNone = true then
    scale
  else 1

section Ratio

variable {factor : IdmFactor} {scale : ℚ} {used : List VehicleClass} {config other : Fields}
variable {vehicle : VehicleClass}

theorem referenceScalar_factor (factor : IdmFactor) (fields : Fields) :
    referenceScalar fields factor.parameter =
      realAt fields factor.parameter.key factor.fallback := by
  cases factor <;> rfl

section

variable {overrides : Fields} {parameter : ScalarParameter}

theorem overriddenScalar_of_float {number : ℚ}
    (isNumber : overrides.get parameter.key = .float number) (profile : VehicleTypeProfile) :
    overriddenScalar overrides profile parameter = .ok number := by
  simp [overriddenScalar, isNumber, PyValue.isNone, realOf]

theorem overriddenScalar_of_isNone (isNone : (overrides.get parameter.key).isNone = true)
    (profile : VehicleTypeProfile) :
    overriddenScalar overrides profile parameter = .ok (profile.scalar parameter) := by
  simp [overriddenScalar, isNone]

end

section

variable (rescaled : Rescaled factor scale used config other)

include rescaled

theorem baseProfile_of_rescaled {profile : VehicleTypeProfile}
    (isBase : baseProfile config vehicle = .ok profile) :
    baseProfile other vehicle = .ok (profile.withScalar factor.parameter
        (if vehicle = .car then profile.scalar factor.parameter * scale
          else profile.scalar factor.parameter)) := by
  apply baseProfile_of_sameBut rescaled.same isBase
  by_cases isCar : vehicle = .car
  · simp only [if_pos isCar]
    obtain ⟨reference, isReference, isWritten⟩ := rescaled.reference
    unfold baseProfile at isBase
    rw [if_pos isCar, referenceCar_ok_iff] at isBase
    have wasReference := isBase.2.1 factor.parameter
    rw [referenceScalar_factor, isReference] at wasReference
    rw [referenceScalar_factor, ← Except.ok.inj wasReference]
    simp [realAt, isWritten, realOf]
  · simp only [if_neg isCar]

theorem classParams_of_rescaled {params : VehicleParams}
    (resolved : classParams config vehicle = .ok params)
    {name : DriverAggression}
    (isName : resolveAggressionName config = .ok name) :
    classParams other vehicle = .ok { params with
        profile := params.profile.withScalar factor.parameter
          (params.profile.scalar factor.parameter *
            ratio factor scale used config name vehicle) } := by
  obtain ⟨value, isValue, isScalar⟩ := scalar_of_classParams resolved isName factor.parameter
  obtain ⟨base, isBase, isOverridden⟩ := bind_ok_iff.mp isValue
  have isNewBase := baseProfile_of_rescaled rescaled isBase
  have reads : ∀ number, overriddenScalar (overridesOf other vehicle)
          (base.withScalar factor.parameter
            (if vehicle = .car then base.scalar factor.parameter * scale
              else base.scalar factor.parameter)) factor.parameter =
        .ok number →
      number * (aggressionMultipliers name).scalar factor.parameter =
        params.profile.scalar factor.parameter * ratio factor scale used config name vehicle →
      classParams other vehicle = .ok { params with
          profile := params.profile.withScalar factor.parameter
            (params.profile.scalar factor.parameter *
              ratio factor scale used config name vehicle) } := by
    intro number isNumber sameProduct
    rw [← sameProduct]
    exact classParams_of_sameBut rescaled.same resolved isName
      (bind_ok_iff.mpr ⟨_, isNewBase, isNumber⟩)
  by_cases isUsed : vehicle ∈ used
  · -- the written override is multiplied by the profile once more
    obtain ⟨same, isSame, isWritten⟩ := rescaled.inUse vehicle isUsed
    cases isSame.symm.trans resolved
    refine reads _ (overriddenScalar_of_float isWritten _) ?_
    rw [ratio, if_pos isUsed]
    ring
  · have sameOverrides := rescaled.notInUse vehicle isUsed
    by_cases isNone : ((overridesOf config vehicle).get factor.parameter.key).isNone = true
    · have isNoneStill : ((overridesOf other vehicle).get factor.parameter.key).isNone = true := by
        rwa [sameOverrides]
      have isHeld := overriddenScalar_of_isNone isNoneStill (base.withScalar factor.parameter
          (if vehicle = .car then base.scalar factor.parameter * scale
            else base.scalar factor.parameter))
      refine reads _ isHeld ?_
      cases (overriddenScalar_of_isNone isNone base).symm.trans isOverridden
      rw [isScalar]
      by_cases isCar : vehicle = .car
      · subst isCar
        simp only [ratio, isUsed, isNone, VehicleTypeProfile.withScalar,
          if_true, if_false, and_self]
        ring
      · simp [ratio, isUsed, isCar, VehicleTypeProfile.withScalar]
    · refine reads value ?_ ?_
      · rw [sameOverrides, ← isOverridden]
        simp [overriddenScalar, isNone]
      · rw [isScalar]
        simp [ratio, isUsed, isNone]

end

end Ratio

section Others

variable {fingerprint : ScenarioDocument → String}
variable {modelErrors : ScenarioDocument → Option PyMessage} {document other : ScenarioDocument}
variable {canonical : StrategyId} {strategy : String}

theorem overridesOf_congr {config another : Fields}
    (sameTypes : (generation another).lookup "vehicleTypes" =
      (generation config).lookup "vehicleTypes")
    (vehicle : VehicleClass) :
    overridesOf another vehicle = overridesOf config vehicle := by
  rw [overridesOf_eq, overridesOf_eq, objectAt_congr sameTypes]

theorem resolveDesiredSpeedRange_of_explicit {config : Fields} {range : ℚ × ℚ}
    (isExplicit : (generation config).lookup "desiredSpeed" =
      some (.dict [("min", .float range.1), ("max", .float range.2)])) :
    resolveDesiredSpeedRange config = .ok range := by
  have isRange : rangeOf "desiredSpeed"
      ((generation config).get "desiredSpeed") = .ok (some range) := by
    simp [Fields.get, isExplicit, rangeOf, PyValue.asDict, List.lookup_cons, realOf]
  unfold resolveDesiredSpeedRange
  rw [isRange]
  rfl

theorem range_of_scaleDesiredSpeed {scale : ℚ}
    (isScaled : scaleDesiredSpeed fingerprint modelErrors document scale = .ok other) :
    (∃ written, other = withGeneration document written) ∧ SameBut "desiredSpeed"
        (document.labelledConfig fingerprint canonical strategy)
        (other.labelledConfig fingerprint canonical strategy) ∧
      SameMixes (document.labelledConfig fingerprint canonical strategy)
        (other.labelledConfig fingerprint canonical strategy) ∧
      ∃ range, resolveDesiredSpeedRange (document.labelledConfig fingerprint canonical
            strategy) = .ok range ∧
          resolveDesiredSpeedRange (other.labelledConfig fingerprint canonical
            strategy) = .ok (range.1 * scale, range.2 * scale) := by
  obtain ⟨config, isConfig, isScaled⟩ := bind_ok_iff.mp isScaled
  obtain ⟨range, isRange, isScaled⟩ := bind_ok_iff.mp isScaled
  obtain ⟨target, isTarget, isOther⟩ := bind_ok_iff.mp isScaled
  cases isOther
  obtain rfl := effective_ok isConfig
  generalize isSpeed : (ObjectFields.empty.setNumber "min"
    (range.1 * scale)).setNumber "max" (range.2 * scale) = speed
  have rest : ∀ held, held ≠ "desiredSpeed" →
      (target.setObject "desiredSpeed" speed).1.lookup held = target.1.lookup held :=
    fun held different => lookup_set_of_ne _ different _
  refine ⟨⟨_, rfl⟩, ?_, ?_, range, ?_, ?_⟩
  · apply sameBut_withGeneration isTarget fun held notSpeed _ => rest held notSpeed
    intro vehicle held _
    rw [overridesOf_congr (lookup_generation_withGeneration isTarget (rest _ (by decide)))]
  · exact sameMixes_withGeneration isTarget (rest _ (by decide))
  · rw [← isRange]
    exact resolveDesiredSpeedRange_congr (by rw [generation_labelledConfig_eq])
      (resolveSpeedLimit_congr rfl rfl)
  · apply resolveDesiredSpeedRange_of_explicit
    rw [generation_withGeneration, lookup_deepMerge _
        (target.setObject "desiredSpeed" speed).2,
      lookup_vehicleGenerationSection document (by decide) (by decide)]
    simp only [ObjectFields.setObject, lookup_set_self, PyValue.mergeOver_none, ← isSpeed]
    rfl

/-- Two documents that differ in their arms and their mixes. -/
structure SameSettings (document other : ScenarioDocument) : Prop where
  types : other.vehicles.types = document.vehicles.types
  traffic : other.traffic = document.traffic
  roads : other.roads = document.roads
  advanced : other.advanced = document.advanced

theorem SameSettings.trans {first second third : ScenarioDocument}
    (one : SameSettings first second) (next : SameSettings second third) :
    SameSettings first third :=
  ⟨next.types.trans one.types, next.traffic.trans one.traffic,
    next.roads.trans one.roads, next.advanced.trans one.advanced⟩

/-- A change that is only made when there is a value for it. -/
def changedBy (value : Option ℚ) (change : ScenarioDocument → ℚ → ScenarioDocument)
    (document : ScenarioDocument) : ScenarioDocument :=
  match value with
  | none => document
  | some value => change document value

section

variable {factors : List Factor} {values : String → ℚ}

theorem structural_ok (isShifted : structural factors values document = .ok other) :
    other = changedBy (byKind factors values .mixShift) shiftMixes
        (changedBy (byKind factors values .turningShift) shiftTurnings
          (changedBy (byKind factors values .demandScale) scaleDemand document)) := by
  have stepped : ∀ turned : ScenarioDocument, (match byKind factors values .mixShift with
        | none => Except.ok turned
        | some shift =>
          if declaredMixes turned = [] then
            .error ([.text "mix_shift needs a declared vehicle mix"] : PyMessage)
          else .ok (shiftMixes turned shift)) = .ok other →
        other = changedBy (byKind factors values .mixShift) shiftMixes
          turned := by
    intro turned isLast
    cases shift : byKind factors values .mixShift with
    | none =>
      simp only [shift, Except.ok.injEq] at isLast
      exact isLast.symm
    | some =>
      simp only [shift] at isLast
      split at isLast
      · cases isLast
      · exact (Except.ok.inj isLast).symm
  have isLast := stepped _ isShifted
  rw [isLast]
  cases byKind factors values .demandScale <;> cases byKind factors values .turningShift <;> rfl

theorem sameSettings_changedBy (value : Option ℚ) {change : ScenarioDocument → ℚ → ScenarioDocument}
    (same : ∀ document value, SameSettings document (change document value))
    (document : ScenarioDocument) : SameSettings document (changedBy value change document) := by
  cases value with
  | none => exact ⟨rfl, rfl, rfl, rfl⟩
  | some value => exact same document value

theorem sameSettings_of_structural
    (isShifted : structural factors values document = .ok other) : SameSettings document other := by
  rw [structural_ok isShifted]
  refine (sameSettings_changedBy _ ?_ _).trans
    ((sameSettings_changedBy _ ?_ _).trans (sameSettings_changedBy _ ?_ _))
  all_goals exact fun _ _ => ⟨rfl, rfl, rfl, rfl⟩

end

section

variable (same : SameSettings document other)

include same

theorem lookup_generation_of_sameSettings {held : String} (notMix : held ≠ "vehicleMix") :
    (generation (other.labelledConfig fingerprint canonical strategy)).lookup held =
      (generation (document.labelledConfig fingerprint canonical strategy)).lookup held := by
  refine lookup_sectionOf_congr (by decide)
    (dictAt_vehicleGeneration_plainConfig document canonical)
    (dictAt_vehicleGeneration_plainConfig other canonical) ?_ ?_
  · simp [advancedFields, same.advanced]
  · simp [vehicleGenerationSection, List.lookup_append,
      lookup_optional, notMix, same.types]

theorem sameBut_of_sameSettings : SameBut "desiredSpeed"
      (document.labelledConfig fingerprint canonical strategy)
      (other.labelledConfig fingerprint canonical strategy) := by
  have sameAdvanced : other.advancedFields = document.advancedFields := by
    simp [advancedFields, same.advanced]
  exact
    { generation := fun held _ _ notMix =>
        lookup_generation_of_sameSettings same notMix
      overrides := fun vehicle held _ => by
        rw [overridesOf_congr (lookup_generation_of_sameSettings same (by decide))]
      aggression := resolveAggressionName_congr (by rw [sameAdvanced]) same.traffic
      speedLimit := resolveSpeedLimit_congr (by rw [sameAdvanced]) same.roads }

/-- The structural factors leave the parameters of every class. -/
theorem classParams_of_sameSettings {vehicle : VehicleClass} {params : VehicleParams}
    (resolved : classParams (document.labelledConfig fingerprint canonical strategy) vehicle = .ok params) :
    classParams (other.labelledConfig fingerprint canonical strategy) vehicle = .ok params := by
  have sameBut : SameBut "desiredSpeed" (document.labelledConfig fingerprint canonical strategy)
      (other.labelledConfig fingerprint canonical strategy) :=
    sameBut_of_sameSettings same
  obtain ⟨range, isRange, isParams⟩ := paramsOf_of_classParams resolved
  rw [isParams]
  apply classParams_of_sameBut_speed sameBut resolved
  rw [← isRange]
  exact resolveDesiredSpeedRange_congr
    (lookup_generation_of_sameSettings same (by decide)) sameBut.speedLimit

end

end Others

end UrbanFlow.Uncertainty
