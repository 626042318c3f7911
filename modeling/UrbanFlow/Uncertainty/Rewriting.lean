import UrbanFlow.Uncertainty.Apply
import UrbanFlow.Vehicles.Resolution

/-!
# What rewriting the vehicle section changes

The compiled configuration of a document whose `advanced` vehicle section has
been rewritten, read key by key.
-/

namespace UrbanFlow.Uncertainty

open Scenario VehiclePopulation ScenarioDocument StrategyValidator ObjectFields Fields

attribute [local simp] dictAt

section Sections

variable {fingerprint : ScenarioDocument → String} {document other : ScenarioDocument}
variable {canonical otherCanonical : StrategyId} {strategy otherStrategy : String}

theorem lookup_sectionOf_congr {key held : String} {inner otherInner : Fields}
    (notScenario : key ≠ "scenario")
    (isSection : (document.plainConfig canonical).dictAt key = some inner)
    (isOtherSection : (other.plainConfig otherCanonical).dictAt key = some otherInner)
    (sameAdvanced : other.advancedFields.lookup key = document.advancedFields.lookup key)
    (sameHeld : otherInner.lookup held = inner.lookup held) :
    (sectionOf (other.labelledConfig fingerprint otherCanonical otherStrategy)
        key).lookup held =
      (sectionOf
        (document.labelledConfig fingerprint canonical strategy) key).lookup
        held := by
  unfold sectionOf
  rw [document.dictAt_labelledConfig _ _ _ notScenario isSection,
    other.dictAt_labelledConfig _ _ _ notScenario isOtherSection, sameAdvanced]
  cases found : document.advancedFields.lookup key with
  | none => exact sameHeld
  | some value =>
    cases value with
    | dict =>
      have distinct := advanced_section_distinct found
      simp only [Option.getD_some, lookup_deepMerge _ distinct, sameHeld]
    | _ => rfl

section

variable (document : ScenarioDocument) (canonical : StrategyId)

theorem dictAt_vehicleGeneration_plainConfig :
    (document.plainConfig canonical).dictAt "vehicleGeneration" =
      some document.vehicleGenerationSection := by
  simp [plainConfig, List.lookup_cons]

theorem dictAt_traffic_plainConfig :
    (document.plainConfig canonical).dictAt "traffic" = some document.trafficSection := by
  simp [plainConfig, List.lookup_cons]

end

theorem generation_labelledConfig {target : ObjectFields}
    (isTarget : vehicleGeneration document = .ok target) :
    generation (document.labelledConfig fingerprint canonical strategy) =
      deepMerge document.vehicleGenerationSection target.1 := by
  unfold generation sectionOf
  rw [document.dictAt_labelledConfig _ _ _ (by decide)
    (dictAt_vehicleGeneration_plainConfig document canonical)]
  obtain ⟨absent, isEmpty⟩ | found := child_ok isTarget
  · simp only at absent
    rw [absent, isEmpty]
    simp [deepMerge]
  · simp only at found
    rw [found]
    rfl

theorem vehicleGeneration_withGeneration (document : ScenarioDocument) (target : ObjectFields) :
    ∃ written, vehicleGeneration (withGeneration document target) =
      .ok written ∧ written.1 = target.1 := by
  have found : (withGeneration document target).advancedFields.lookup
      "vehicleGeneration" = some (.dict target.1) := by
    simp [advancedFields, withGeneration, setObject]
  cases isChild : vehicleGeneration (withGeneration document target) with
  | error =>
    unfold vehicleGeneration child at isChild
    split at isChild <;> simp_all
  | ok written =>
    refine ⟨written, rfl, ?_⟩
    obtain ⟨absent, _⟩ | here := child_ok isChild
    · simp [found] at absent
    · simpa [found] using here.symm

theorem generation_withGeneration (target : ObjectFields) :
    generation ((withGeneration document target).labelledConfig fingerprint canonical strategy) =
      deepMerge document.vehicleGenerationSection target.1 := by
  obtain ⟨written, isWritten, same⟩ := vehicleGeneration_withGeneration document target
  rw [generation_labelledConfig isWritten, same]
  rfl

end Sections

section

variable (fields : Fields) (key : String)

/-- What `child` finds under a key: the object there, an empty one where there
is none. -/
def IsChild (inner : Fields) : Prop :=
  (fields.lookup key = none ∧ inner = []) ∨ fields.lookup key = some (.dict inner)

/-- The object under a key, empty where there is none. -/
def objectAt : Fields := (fields.dictAt key).getD []

end

variable {inner : Fields} {value : VehicleClass → ℚ} {used : List VehicleClass}
  {written : ObjectFields}

theorem IsChild.objectAt_eq {fields : Fields} {key : String} (isChild : IsChild fields key inner) :
    objectAt fields key = inner := by
  obtain ⟨absent, rfl⟩ | found := isChild
  · simp [objectAt, absent]
  · simp [objectAt, found]

theorem IsChild.congr {fields other : Fields} {key : String} (isChild : IsChild fields key inner)
    (same : other.lookup key = fields.lookup key) : IsChild other key inner := by
  unfold IsChild at isChild ⊢
  rwa [same]

theorem objectAt_congr {fields other : Fields} {key : String}
    (same : other.lookup key = fields.lookup key) : objectAt other key = objectAt fields key := by
  simp [objectAt, same]

theorem overridesOf_eq (config : Fields) (vehicle : VehicleClass) : overridesOf config vehicle =
      objectAt (objectAt (generation config) "vehicleTypes") vehicle.value := by
  unfold overridesOf objectAt
  cases (generation config).dictAt "vehicleTypes" with
  | none | some types => rfl

/-- The object under a key of a merged dictionary is the two objects merged. -/
theorem lookup_objectAt_deepMerge {base extra other : Fields} (distinct : Distinct extra)
    {key : String} (isInner : IsChild base key inner) (isOther : IsChild extra key other)
    (held : String) : (objectAt (deepMerge base extra) key).lookup held =
      (deepMerge inner other).lookup held := by
  obtain ⟨absent, rfl⟩ | found := isOther
  · rw [objectAt_congr (lookup_deepMerge_of_none base distinct absent), isInner.objectAt_eq]
    simp [deepMerge]
  · have otherDistinct : Distinct other := by
      simpa [PyValue.Distinct] using distinct.lookup found
    obtain ⟨absent, rfl⟩ | foundInner := isInner
    · rw [lookup_deepMerge [] otherDistinct]
      have merged : objectAt (deepMerge base extra) key = other := by
        simp [objectAt, lookup_deepMerge base distinct, found, absent]
      rw [merged]
      cases other.lookup held with
      | none => rfl
      | some => simp
    · have merged : objectAt (deepMerge base extra) key = deepMerge inner other := by
        simp [objectAt, lookup_deepMerge base distinct, found, foundInner, PyValue.mergeOver]
      rw [merged]

/-- Writing the overrides changes one key of each class in use. -/
theorem writeTypes_ok {key : String} {types : ObjectFields} (nodup : used.Nodup)
    (isWritten : writeTypes key value used types = .ok written) :
    (∀ vehicle ∈ used, ∃ entry, IsChild types.1 vehicle.value entry ∧
        written.1.lookup vehicle.value = some (.dict (entry.set key (.float (value vehicle))))) ∧
      ∀ vehicle ∉ used, written.1.lookup vehicle.value = types.1.lookup vehicle.value := by
  induction used generalizing types with
  | nil =>
    cases isWritten
    simp
  | cons first _ ih =>
    obtain ⟨isNew, restNodup⟩ := List.nodup_cons.mp nodup
    obtain ⟨entry, isEntry, isRest⟩ := bind_ok_iff.mp isWritten
    obtain ⟨inRest, outsideRest⟩ := ih restNodup isRest
    have untouched : ∀ vehicle, vehicle ≠ first → (types.setObject first.value
            (entry.setNumber key (value first))).1.lookup vehicle.value =
          types.1.lookup vehicle.value := by
      intro vehicle different
      exact lookup_set_of_ne _ (fun same => different (VehicleClass.value_injective same)) _
    constructor
    · intro vehicle isUsed
      obtain rfl | inTail := List.mem_cons.mp isUsed
      · refine ⟨entry.1, child_ok isEntry, ?_⟩
        rw [outsideRest vehicle isNew]
        exact lookup_set_self _ _ _
      · obtain ⟨inner, isInner, isFound⟩ := inRest vehicle inTail
        have different : vehicle ≠ first := by
          rintro rfl
          exact isNew inTail
        exact ⟨inner, isInner.congr (untouched vehicle different).symm, isFound⟩
    · intro vehicle notUsed
      rw [List.mem_cons, not_or] at notUsed
      rw [outsideRest vehicle notUsed.2, untouched vehicle notUsed.1]

/-- What `_scale_idm` leaves in the vehicle section. -/
structure Written (key : String) (reference : ℚ) (value : VehicleClass → ℚ)
    (used : List VehicleClass) (target written : Fields) : Prop where
  reference : written.lookup key = some (.float reference)
  rest : ∀ held, held ≠ key → held ≠ "vehicleTypes" → written.lookup held = target.lookup held
  inUse : ∀ vehicle ∈ used, ∃ types entry types', IsChild target "vehicleTypes" types ∧
      IsChild types vehicle.value entry ∧
      written.lookup "vehicleTypes" = some (.dict types') ∧
      types'.lookup vehicle.value = some (.dict (entry.set key (.float (value vehicle))))
  notInUse : ∀ vehicle ∉ used, written.lookup "vehicleTypes" = target.lookup "vehicleTypes" ∨
      ∃ types types', IsChild target "vehicleTypes" types ∧
        written.lookup "vehicleTypes" = some (.dict types') ∧
        types'.lookup vehicle.value = types.lookup vehicle.value

theorem writeScaled_ok {key : String} (notTypes : key ≠ "vehicleTypes") {reference : ℚ}
    (nodup : used.Nodup) {target : ObjectFields}
    (isWritten : writeScaled key reference value used target = .ok written) :
    Written key reference value used target.1 written.1 := by
  have numberSet : ∀ held, held ≠ key →
      (target.setNumber key reference).1.lookup held = target.1.lookup held :=
    fun held different => lookup_set_of_ne _ different _
  have referenceSet : (target.setNumber key reference).1.lookup key = some (.float reference) :=
    lookup_set_self _ _ _
  unfold writeScaled at isWritten
  split at isWritten
  · next noneUsed =>
      cases isWritten
      refine ⟨referenceSet, fun held notKey _ => numberSet held notKey, ?_, ?_⟩
      · simp [noneUsed]
      · exact fun vehicle _ => Or.inl (numberSet _ notTypes.symm)
  · next someUsed =>
      obtain ⟨types, isTypes, isRest⟩ := bind_ok_iff.mp isWritten
      obtain ⟨after, isAfter, isResult⟩ := bind_ok_iff.mp isRest
      cases isResult
      obtain ⟨inUse, outside⟩ := writeTypes_ok nodup isAfter
      have isTypesHere : IsChild target.1 "vehicleTypes" types.1 :=
        IsChild.congr (child_ok isTypes) (numberSet _ notTypes.symm).symm
      have typesSet : ((target.setNumber key reference).setObject
          "vehicleTypes" after).1.lookup "vehicleTypes" = some (.dict after.1) :=
        lookup_set_self _ _ _
      have restSet : ∀ held, held ≠ "vehicleTypes" → ((target.setNumber key reference).setObject
              "vehicleTypes" after).1.lookup held =
            (target.setNumber key reference).1.lookup held :=
        fun held different => lookup_set_of_ne _ different _
      refine ⟨(restSet key notTypes).trans referenceSet, ?_, ?_, ?_⟩
      · exact fun held notKey notHeldTypes =>
          (restSet held notHeldTypes).trans (numberSet held notKey)
      · intro vehicle isUsed
        obtain ⟨entry, isEntry, isFound⟩ := inUse vehicle isUsed
        exact ⟨types.1, entry, after.1, isTypesHere, isEntry, typesSet, isFound⟩
      · intro vehicle notUsed
        exact Or.inr ⟨types.1, after.1, isTypesHere, typesSet, outside vehicle notUsed⟩

section Shared

variable {fingerprint : ScenarioDocument → String} {document other : ScenarioDocument}
variable {canonical otherCanonical : StrategyId} {strategy otherStrategy : String}

theorem resolveAggressionName_congr (sameAdvanced : other.advancedFields.lookup "traffic" =
      document.advancedFields.lookup "traffic")
    (sameTraffic : other.traffic = document.traffic) :
    resolveAggressionName (other.labelledConfig fingerprint otherCanonical otherStrategy) =
      resolveAggressionName (document.labelledConfig fingerprint canonical strategy) := by
  have sameHeld : other.trafficSection.lookup "driverAggression" =
      document.trafficSection.lookup "driverAggression" := by
    simp [trafficSection, List.lookup_append, List.lookup_cons, lookup_optional, sameTraffic]
  unfold resolveAggressionName Fields.get
  rw [lookup_sectionOf_congr (by decide) (dictAt_traffic_plainConfig document canonical)
    (dictAt_traffic_plainConfig other otherCanonical) sameAdvanced sameHeld]

theorem resolveSpeedLimit_congr (sameAdvanced : other.advancedFields.lookup "roads" =
      document.advancedFields.lookup "roads")
    (sameRoads : other.roads = document.roads) :
    resolveSpeedLimit (other.labelledConfig fingerprint otherCanonical otherStrategy) =
      resolveSpeedLimit (document.labelledConfig fingerprint canonical strategy) := by
  have sameHeld : (other.roadsSection otherCanonical.IsRoundabout).lookup "speedLimit" =
        (document.roadsSection canonical.IsRoundabout).lookup "speedLimit" := by
    simp [roadsSection, List.lookup_cons, sameRoads]
  dsimp only [resolveSpeedLimit]
  rw [lookup_sectionOf_congr (by decide) (document.dictAt_roads_plainConfig canonical)
    (other.dictAt_roads_plainConfig otherCanonical) sameAdvanced sameHeld]

theorem classParams_congr {config another : Fields}
    (sameGeneration : generation another = generation config)
    (sameName : resolveAggressionName another = resolveAggressionName config)
    (sameLimit : resolveSpeedLimit another = resolveSpeedLimit config) (vehicle : VehicleClass) :
    classParams another vehicle = classParams config vehicle := by
  unfold classParams resolveDesiredSpeedRange baseProfile overridesOf
  rw [sameGeneration, sameName, sameLimit]

theorem generation_labelledConfig_eq :
    generation (document.labelledConfig fingerprint otherCanonical otherStrategy) =
      generation (document.labelledConfig fingerprint canonical strategy) := by
  unfold generation sectionOf dictAt
  rw [document.lookup_labelledConfig_eq fingerprint otherCanonical otherStrategy
    canonical strategy (by decide)]

theorem classParams_labelledConfig_eq (vehicle : VehicleClass) :
    classParams (document.labelledConfig fingerprint otherCanonical otherStrategy) vehicle =
      classParams (document.labelledConfig fingerprint canonical strategy) vehicle :=
  classParams_congr generation_labelledConfig_eq
    (resolveAggressionName_congr rfl rfl) (resolveSpeedLimit_congr rfl rfl)
    vehicle

end Shared

end UrbanFlow.Uncertainty
