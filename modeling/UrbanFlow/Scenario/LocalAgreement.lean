import UrbanFlow.Scenario.CompiledJunction
import UrbanFlow.Scenario.LocalIssues
import UrbanFlow.Scenario.StrategyIdentity

/-!
# The builder agrees with the server

A document that the server finds valid passes the builder's own checks. The builder has
no slack in its comparison of bearings, so an arm in the slack of the server's is the one
thing it reports.
-/

namespace UrbanFlow.Scenario

open StrategyValidator VehiclePopulation ScenarioDocument JunctionContext Approaches Builder

attribute [local simp] List.lookup_cons

/-! ## What a parsed document promises -/

/-- The ranges of the fields of `Turning`. -/
structure Turning.InRange (turning : Turning) : Prop where
  left : 0 ≤ turning.left ∧ turning.left ≤ 1
  straight : 0 ≤ turning.straight ∧ turning.straight ≤ 1
  right : 0 ≤ turning.right ∧ turning.right ≤ 1
  uturn : ∀ share ∈ turning.uturn, 0 ≤ share ∧ share ≤ 1

/-- The ranges of the fields of `Mix`. -/
def Mix.InRange (mix : Mix) : Prop := ∀ share ∈ mix.shares, 0 ≤ share.2 ∧ share.2 ≤ 1

/-- The ranges of the fields of `ApproachSpec`. -/
structure ApproachSpec.InRange (arm : ApproachSpec) : Prop where
  lanes : 1 ≤ arm.lanes ∧ arm.lanes ≤ 4
  length : 50 < arm.length ∧ arm.length ≤ 1000
  vehiclesPerHour : 0 ≤ arm.vehiclesPerHour ∧ arm.vehiclesPerHour ≤ 7200
  turning : arm.turning.InRange
  vehicleMix : ∀ mix ∈ arm.vehicleMix, mix.InRange
  bearing : ∀ bearing ∈ arm.bearing, 0 ≤ bearing ∧ bearing < 360
  laneWidth : ∀ width ∈ arm.laneWidth, 5 / 2 < width ∧ width ≤ 5

/-- The ranges that parsing a document makes sure of, of its arms and its mix. -/
structure ScenarioDocument.InRange (document : ScenarioDocument) : Prop where
  arms : ∀ direction, ∀ arm ∈ document.approaches.arm direction, arm.InRange
  mix : ∀ mix ∈ document.vehicles.mix, mix.InRange

/-! ## Turning shares -/

section

variable (turning : Turning) {fields : Fields} (areFields : turningDict turning = .dict fields)

include areFields

theorem share_of_turning (turn : TurnIntent) :
    ((fields.get (movement turn)).number.any fun share => 0 < share) = true ↔
      0 < turningShare turning turn := by
  obtain rfl := PyValue.dict.inj areFields
  cases turn with
  | uturn =>
    cases given : turning.uturn <;> simp [Fields.get, movement, optional, given, turningShare, PyValue.number]
  | _ => simp [Fields.get, movement, turningShare, PyValue.number]

theorem turningSum_of_turning :
    turningSum fields = some (turningTotal turning) := by
  obtain rfl := PyValue.dict.inj areFields
  cases given : turning.uturn <;>
    simp [turningSum, coreTurns, Fields.get, movement, optional, given, turningTotal, PyValue.number] <;> ring

end

variable {document : ScenarioDocument} {isRoundabout : Bool} {config : Fields}
variable {context : JunctionContext}

theorem turning_of_trafficItem (entry : Direction × ApproachSpec) :
    (itemFields (trafficItem entry)).get "turnProbabilities" =
      turningDict entry.2.turning := by
  simp [itemFields, trafficItem, Fields.get]

theorem demandedTurns_trafficSection {direction : Direction} {arm : ApproachSpec}
    (found : document.approaches.arm direction = some arm) :
    ∃ demanded, demandedTurns document.trafficSection direction = some demanded ∧
      ∀ turn, turn ∈ demanded ↔ 0 < turningShare arm.turning turn := by
  obtain ⟨isItem, unique⟩ := items_unique found fun entry =>
    itemFields (trafficItem entry)
  have own := findSome_of_unique (fun item : Fields => (item.get "turnProbabilities").asDict)
    (List.mem_reverse.mpr isItem)
    fun entry inItems => unique entry (List.mem_reverse.mp inItems)
  rw [turning_of_trafficItem] at own
  rw [demandedTurns, namedItems_trafficSection, own]
  cases areFields : turningDict arm.turning with
  | dict =>
    refine ⟨_, rfl, fun turn => ?_⟩
    have isTurn : turn ∈ allTurns := by cases turn <;> simp [allTurns]
    simpa [isTurn] using share_of_turning arm.turning areFields turn
  | _ => simp [turningDict] at areFields

theorem tolerance_eq : tolerance = sumTolerance := rfl

theorem turningTotal_of_clean {entry : Direction × ApproachSpec}
    (clean : ScenarioDocument.HasSections.IsClean context config document isRoundabout entry) :
    |turningTotal entry.2.turning - 1| ≤ sumTolerance := by
  have noErrors := clean.turning
  simp only [turningErrors, turning_of_trafficItem] at noErrors
  cases areFields : turningDict entry.2.turning with
  | dict =>
    rw [areFields, PyValue.asDict_dict, Option.bind_some,
      turningSum_of_turning entry.2.turning areFields] at noErrors
    by_contra tooFar
    simp [not_le.mp tooFar] at noErrors
  | _ => simp [turningDict] at areFields

/-! ## Vehicle mixes -/

theorem lookup_filter_of_nodup {entries : List (String × ℚ)}
    (distinct : (entries.map Prod.fst).Nodup) (keeps : ℚ → Bool) (key : String) :
    (entries.filter fun entry => keeps entry.2).lookup key = (entries.lookup key).filter keeps := by
  induction entries with
  | nil => rfl
  | cons entry rest ih =>
    obtain ⟨first, value⟩ := entry
    rw [List.map_cons, List.nodup_cons] at distinct
    have ofRest := ih distinct.2
    by_cases same : key = first
    · subst same
      have absent : rest.lookup key = none := by
        apply List.lookup_eq_none_iff.mpr
        intro other inRest
        have isOther : other.1 ≠ key := by
          rintro rfl
          exact distinct.1 (List.mem_map.mpr ⟨other, inRest, rfl⟩)
        simpa using isOther.symm
      cases kept : keeps value <;> simp [kept, ofRest, absent, Option.filter]
    · have notFirst : (key == first) = false := beq_false_of_ne same
      cases kept : keeps value <;> simp [kept, ofRest, notFirst]

theorem sum_mixShares {mix : Mix} (inRange : mix.InRange) :
    (((mixShares (mixDict mix)).getD []).map Prod.snd).sum = mixTotal (some mix) := by
  have distinct : (mix.shares.map Prod.fst).Nodup := by simp [Mix.shares]
  have sumFound (classes : List VehicleClass) (shareOf : VehicleClass → Option ℚ) :
      ((classes.filterMap fun vehicle =>
        (shareOf vehicle).map fun share => (vehicle, share)).map Prod.snd).sum =
      (classes.map fun vehicle => (shareOf vehicle).getD 0).sum := by
    induction classes with
    | nil => rfl
    | cons vehicle _ ih => cases found : shareOf vehicle <;> simp [found, ih]
  have lookedUp (kept : List (String × ℚ)) (key : String) :
      (Fields.get (kept.map fun share => (share.1, PyValue.float share.2))
        key).number = kept.lookup key := by
    induction kept with
    | nil => rfl
    | cons share _ ih =>
      obtain ⟨first, value⟩ := share
      simp only [Fields.get, List.map_cons, List.lookup_cons] at ih ⊢
      cases same : key == first with
      | true => rfl
      | false => exact ih
  -- a share that is not positive is left out, and is none
  have keptShare (key : String) : ((mix.shares.filter fun share => 0 < share.2).lookup key).getD 0 =
        (mix.shares.lookup key).getD 0 := by
    rw [lookup_filter_of_nodup distinct (fun share => 0 < share)]
    cases found : mix.shares.lookup key with
    | none => rfl
    | some share =>
      obtain ⟨_, _, isShares, -⟩ := List.lookup_eq_some_iff.mp found
      have inShares : (key, share) ∈ mix.shares := by
        rw [isShares]
        simp
      have nonnegative : 0 ≤ share := (inRange _ inShares).1
      rcases nonnegative.lt_or_eq with positive | isZero
      · simp [Option.filter, positive]
      · simp [Option.filter, ← isZero]
  have sumOf (kept : List (String × ℚ))
      (same : ∀ key, (kept.lookup key).getD 0 = (mix.shares.lookup key).getD 0) :
      (((mixShares (.dict (kept.map fun share =>
        (share.1, PyValue.float share.2)))).getD []).map Prod.snd).sum =
          mixTotal (some mix) := by
    rw [mixShares, PyValue.asDict_dict, Option.map_some, Option.getD_some, sumFound]
    simp only [lookedUp, same]
    simp [VehicleClass.all, VehicleClass.value, Mix.shares, mixTotal]
  unfold mixDict
  by_cases none : (mix.shares.filter fun share => 0 < share.2) = []
  · simpa [none] using sumOf mix.shares fun _ => rfl
  · simpa [none] using sumOf _ keptShare

theorem mixTotal_of_noErrors {mix : Mix} (inRange : mix.InRange) {label : PyMessage}
    {fields : Fields} (areFields : mixDict mix = .dict fields)
    (noErrors : mixErrors label fields = []) :
    |mixTotal (some mix) - 1| ≤ sumTolerance := by
  have total := sum_mixShares inRange
  rw [areFields] at total
  have noSum := (List.append_eq_nil_iff.mp noErrors).2
  simp only [total] at noSum
  by_contra tooFar
  by_cases positive : 0 < mixTotal (some mix)
  · simp [positive, not_le.mp tooFar] at noSum
  · simp [positive] at noSum

section

variable (sections : document.HasSections isRoundabout config) (inRange : document.InRange)
  (noErrors : vehicleMixErrors config = [])

include sections inRange noErrors

theorem mixTotal_of_vehicles :
    |mixTotal document.vehicles.mix - 1| ≤ sumTolerance := by
  cases isMix : document.vehicles.mix with
  | none => norm_num [mixTotal, sumTolerance]
  | some mix =>
    have noMixErrors := (List.append_eq_nil_iff.mp noErrors).2
    have isGiven : (document.vehicleGenerationSection).get "vehicleMix" = mixDict mix := by
      simp [Fields.get, vehicleGenerationSection, List.lookup_append, lookup_optional, isMix]
    rw [sections.generation, isGiven] at noMixErrors
    exact mixTotal_of_noErrors (inRange.mix mix isMix) rfl noMixErrors

theorem mixTotal_of_arm {direction : Direction} {arm : ApproachSpec}
    (found : document.approaches.arm direction = some arm) :
    |mixTotal arm.vehicleMix - 1| ≤ sumTolerance := by
  cases isMix : arm.vehicleMix with
  | none => norm_num [mixTotal, sumTolerance]
  | some mix =>
    have noMixErrors := (List.append_eq_nil_iff.mp noErrors).1
    have listed : ((document.trafficSection).get "approaches").asList.getD [] =
        document.approaches.present.map trafficItem := by
      simp [Fields.get, trafficSection, PyValue.asList]
    rw [sections.traffic, listed] at noMixErrors
    have noArmErrors := List.flatMap_eq_nil_iff.mp noMixErrors
      (trafficItem (direction, arm))
      (List.mem_map.mpr ⟨_, mem_present.mpr found, rfl⟩)
    have isGiven : (itemFields (trafficItem (direction, arm))).get
        "vehicleMix" = mixDict mix := by
      simp [itemFields, trafficItem, Fields.get, lookup_optional, isMix]
    have inArm : mix.InRange := (inRange.arms direction arm found).vehicleMix mix isMix
    simp only [trafficItem, PyValue.asDict_dict] at noArmErrors
    simp only [itemFields, trafficItem, PyValue.asDict_dict,
      Option.getD_some] at isGiven
    rw [isGiven] at noArmErrors
    exact mixTotal_of_noErrors inArm rfl noArmErrors

end

variable {angle : ℚ} {label : String} {use : List (List TurnIntent)} {turn : TurnIntent}
  {name : Direction}

/-! ## Bearings -/

/-- A remainder is the angle less whole turns, and within a turn of zero. -/
theorem remainder_fullCircle (angle : ℚ) :
    -360 < Builder.remainder angle 360 ∧ Builder.remainder angle 360 < 360 := by
  unfold Builder.remainder truncate
  by_cases nonnegative : 0 ≤ angle / 360
  · rw [if_pos nonnegative]
    have bounds := modFullCircle_bounds angle
    unfold modFullCircle at bounds
    constructor <;> linarith
  · rw [if_neg nonnegative]
    have above := Int.le_ceil (angle / 360)
    have below := Int.ceil_lt_add_one (angle / 360)
    rw [div_le_iff₀ (by norm_num)] at above
    rw [← sub_lt_iff_lt_add, lt_div_iff₀ (by norm_num)] at below
    have negative : angle < 0 := by
      by_contra isNot
      exact nonnegative (div_nonneg (not_lt.mp isNot) (by norm_num))
    constructor <;> linarith

theorem remainder_eq_modFullCircle (nonnegative : 0 ≤ angle) :
    Builder.remainder angle 360 = modFullCircle angle := by
  have isNonnegative : 0 ≤ angle / 360 := div_nonneg nonnegative (by norm_num)
  rw [Builder.remainder, truncate, if_pos isNonnegative, modFullCircle]

/-- Both sides measure an arm from its slot the same way. -/
theorem slotDeviation_eq (direction : Direction) (bearing : ℚ) :
    Builder.slotDeviation direction bearing = slotDeviation direction (modFullCircle bearing) := by
  have sameAngle : Builder.remainder
        (Builder.remainder (bearing - slotBearing direction) 360 + 360) 360 =
      modFullCircle (modFullCircle (modFullCircle bearing) - slotBearing direction) := by
    have bounds := remainder_fullCircle (bearing - slotBearing direction)
    rw [remainder_eq_modFullCircle (by linarith)]
    have inCircle := modFullCircle_bounds
      (modFullCircle (modFullCircle bearing) - slotBearing direction)
    apply modFullCircle_eq_of inCircle.1 inCircle.2
      (-truncate ((bearing - slotBearing direction) / 360) + 1 +
        ⌊bearing / 360⌋ + ⌊modFullCircle bearing / 360⌋ +
        ⌊(modFullCircle (modFullCircle bearing) - slotBearing direction) / 360⌋)
    simp only [modFullCircle, Builder.remainder]
    push_cast
    ring
  simp only [Builder.slotDeviation, slotDeviation, sameAngle]

theorem configuredNumber_roadsSection {direction : Direction} {arm : ApproachSpec}
    (found : document.approaches.arm direction = some arm) (key : String) :
    configuredNumber (document.roadsSection isRoundabout) key direction =
      ((itemFields (roadItem isRoundabout (direction, arm))).get key).number := by
  obtain ⟨isItem, unique⟩ := items_unique found fun entry =>
    itemFields (roadItem isRoundabout entry)
  have own := lookup_of_unique (List.mem_reverse.mpr isItem)
    fun entry inItems => unique entry (List.mem_reverse.mp inItems)
  rw [configuredNumber, namedItems_roadsSection, own, Option.bind_some]

theorem exists_resolvedGeometry (context : JunctionContext)
    (sections : document.HasSections isRoundabout config) :
    ∃ arms, context.resolveJunctionGeometry config = some arms ∧
      ∀ direction arm, document.approaches.arm direction = some arm →
        ∃ geometry ∈ arms, geometry.direction = direction ∧
          geometry.bearing = modFullCircle (arm.bearing.getD (slotBearing direction)) := by
  obtain ⟨counts, areCounts, -⟩ := exists_laneCounts document isRoundabout context.parseInt
  let roads := document.roadsSection isRoundabout
  have hasWidth : floatOf context.parseFloat
      ((roads.lookup "laneWidth").getD (.float (7 / 2))) = some document.roads.laneWidth := by
    simp [roads, roadsSection, floatOf]
  have hasLength (direction : Direction) :
      ∃ length, context.approachLengthFor roads direction = some length := by
    simp only [approachLengthFor]
    rw [show floatOf context.parseFloat ((roads.lookup "approachLength").getD (.float 200)) =
          some ((document.approaches.present.map (·.2.length)).foldl max 0) by
      simp [roads, roadsSection, floatOf]]
    exact ⟨_, rfl⟩
  choose lengthOf hasLength using hasLength
  let layOut : Direction → ArmGeometry := fun direction =>
    { direction := direction
      bearing := modFullCircle ((configuredNumber roads "bearing"
        direction).getD (slotBearing direction))
      lanes := counts direction
      laneWidth := (configuredNumber roads "laneWidth" direction).getD
        document.roads.laneWidth
      length := lengthOf direction }
  refine ⟨(document.approaches.present.map Prod.fst).map layOut, ?_, ?_⟩
  · rw [resolveJunctionGeometry, sections.roads, sections.presentArms_eq, areCounts]
    simp only [Option.bind_eq_bind, Option.bind_some]
    rw [hasWidth]
    simp only [Option.bind_some, hasLength, roads]
    exact List.mapM_pure
  · intro direction arm found
    have isPresent : direction ∈ document.approaches.present.map Prod.fst :=
      mem_map_fst_present.mpr (by simp [found])
    refine ⟨layOut direction, List.mem_map_of_mem isPresent, rfl, ?_⟩
    have isBearing : ((itemFields (roadItem isRoundabout
        (direction, arm))).get "bearing").number = arm.bearing := by
      cases given : arm.bearing <;>
        simp [itemFields, roadItem, Fields.get, List.lookup_append, lookup_optional, given, PyValue.number]
    simp only [layOut, roads]
    rw [configuredNumber_roadsSection found, isBearing]

theorem deviation_of_clean (sections : document.HasSections isRoundabout config)
    (noErrors : context.junctionGeometryErrors config = []) {direction : Direction}
    {arm : ApproachSpec} (found : document.approaches.arm direction = some arm) {bearing : ℚ}
    (given : arm.bearing = some bearing) :
    |Builder.slotDeviation direction bearing| ≤ maxSlotDeviation + angleSlack := by
  obtain ⟨arms, resolved, bearings⟩ := exists_resolvedGeometry context sections
  have noGeometryErrors :
      context.geometryErrors config arms (Scenario.isRoundabout config) = [] := by
    rw [junctionGeometryErrors, resolved] at noErrors
    simp only at noErrors
    split at noErrors
    · next passed => exact passed.1
    · exact noErrors
  obtain ⟨geometry, inArms, isDirection, isBearing⟩ := bearings direction arm found
  rw [given, Option.getD_some] at isBearing
  rw [slotDeviation_eq, ← isBearing, ← isDirection]
  exact deviation_le noGeometryErrors inArms

/-! ## The use of lanes -/

def ApproachSpec.designLaneUse (isRoundabout : Bool) (arm : ApproachSpec) :
    Option (List (List TurnIntent)) :=
  if isRoundabout then arm.roundaboutLaneUse else arm.laneUse

theorem laneUse_of_roadItem (entry : Direction × ApproachSpec) :
    (itemFields (roadItem isRoundabout entry)).get "laneUse" =
      ((entry.2.designLaneUse isRoundabout).map laneUseValue).getD .none := by
  simp [itemFields, roadItem, Fields.get, List.lookup_append, lookup_optional, ApproachSpec.designLaneUse]

theorem readLanes_movements {index : Nat} {lanes : List (Finset TurnIntent)}
    (isRead : readLanes label index (use.map fun lane => .list (lane.map fun turn =>
      .str (movement turn))) = .ok lanes) :
    lanes = use.map List.toFinset ∧ ∀ lane ∈ use, lane ≠ [] := by
  induction use generalizing index lanes with
  | nil =>
    obtain rfl : [] = lanes := Except.ok.inj isRead
    simp
  | cons lane rest ih =>
    rw [List.map_cons, readLanes, parseTurns_movements] at isRead
    simp only at isRead
    split at isRead
    · cases isRead
    · next given =>
        cases others : readLanes label (index + 1)
            (rest.map fun lane => .list (lane.map fun turn => .str (movement turn))) with
        | error => simp [others, Except.map] at isRead
        | ok read =>
          obtain ⟨areRest, restGiven⟩ := ih others
          rw [others] at isRead
          obtain rfl : lane.toFinset :: read = lanes := Except.ok.inj isRead
          refine ⟨by rw [areRest, List.map_cons], ?_⟩
          intro other inLanes
          rcases List.mem_cons.mp inLanes with rfl | inRest
          · rintro rfl
            exact given rfl
          · exact restGiven other inRest

theorem configuredLanes_of_clean {direction : Direction} {arm : ApproachSpec}
    (found : document.approaches.arm direction = some arm)
    (clean : ScenarioDocument.HasSections.IsClean context config document isRoundabout
      (direction, arm)) :
    configuredLanes document.laneCount (document.roadItems isRoundabout) direction =
      (arm.designLaneUse isRoundabout).map (·.map List.toFinset) ∧
      ∀ use ∈ arm.designLaneUse isRoundabout, use.length = arm.lanes ∧ ∀ lane ∈ use, lane ≠ [] := by
  obtain ⟨isItem, unique⟩ := items_unique found fun entry =>
    itemFields (roadItem isRoundabout entry)
  obtain ⟨lanes, isRead⟩ := clean.laneUse
  rw [configuredLanes, roadItems,
    lookup_of_unique isItem unique, Option.bind_some, isRead]
  simp only [readLaneUse, laneUse_of_roadItem] at isRead
  cases design : arm.designLaneUse isRoundabout with
  | none =>
    simp only [design, Option.map_none, Option.getD_none] at isRead
    obtain rfl : none = lanes := Except.ok.inj isRead
    simp
  | some use =>
    simp only [design, Option.map_some, Option.getD_some, laneUseValue,
      List.length_map, laneCount_of_arm found] at isRead
    split at isRead
    · cases isRead
    · next sameLength =>
        cases others : readLanes
            ("roads.approaches[" ++ direction.value ++ "].laneUse") 0
            (use.map fun lane => .list (lane.map fun turn => .str (movement turn))) with
        | error => simp [others, Except.map] at isRead
        | ok read =>
          obtain ⟨areLanes, given⟩ := readLanes_movements others
          rw [others] at isRead
          obtain rfl : some read = lanes := Except.ok.inj isRead
          refine ⟨by rw [areLanes, Option.map_some], ?_⟩
          intro other isUse
          obtain rfl : use = other := Option.some.inj isUse
          exact ⟨by simpa using sameLength, given⟩

/-! ## Movements -/

/-- What an approach without errors makes sure of: every lane of a junction with a slot
free can be left, no traffic goes where there is no arm, and every turn that traffic makes
is allowed in a lane. -/
structure ServesTraffic (document : ScenarioDocument) (direction : Direction) (arm : ApproachSpec)
    (lanes : List (Finset TurnIntent)) : Prop where
  lanes_nonempty : document.approaches.present.length < Direction.all.length →
    ∀ lane ∈ lanes, lane ≠ ∅
  target_present : ∀ turn, 0 < turningShare arm.turning turn →
    (document.approaches.arm (targetDirection direction turn)).isSome = true
  turn_offered : ∀ turn, 0 < turningShare arm.turning turn → ∃ lane ∈ lanes, turn ∈ lane

theorem lanes_of_noMovementErrors {direction : Direction} {lanes : List (Finset TurnIntent)}
    {needed : Finset TurnIntent} {counts : Direction → Int} {present : List Direction}
    (fewer : present.length < Direction.all.length)
    (noErrors : movementErrors direction lanes needed counts present = []) :
    (∀ lane ∈ lanes, lane ≠ ∅) ∧ needed ⊆ possibleTurns counts direction := by
  rw [movementErrors, if_neg fewer.ne] at noErrors
  simp only [List.append_eq_nil_iff] at noErrors
  obtain ⟨⟨noLaneErrors, noneWanted⟩, -⟩ := noErrors
  constructor
  · intro lane inLanes
    obtain ⟨index, isAt⟩ := List.mem_iff_getElem?.mp inLanes
    have noError := List.flatMap_eq_nil_iff.mp noLaneErrors (lane, index)
      (List.mk_mem_zipIdx_iff_getElem?.mpr isAt)
    rintro rfl
    simp [laneMovementErrors] at noError
  · by_contra notPossible
    have wanted : needed \ possibleTurns counts direction ≠ ∅ := by
      simpa [Finset.sdiff_eq_empty_iff_subset] using notPossible
    simp [wanted] at noneWanted

theorem arm_of_possible {direction : Direction}
    (possible : turn ∈ possibleTurns document.laneCount direction) :
    (document.approaches.arm (targetDirection direction turn)).isSome = true := by
  have counted : 0 < document.laneCount (targetDirection direction turn) := by
    simpa [possibleTurns, allTurns] using
      (List.mem_filter.mp (List.mem_toFinset.mp possible)).2
  cases found : document.approaches.arm (targetDirection direction turn) with
  | none => simp [laneCount, found] at counted
  | some => rfl

theorem mem_foldr_union {lanes : List (Finset TurnIntent)} :
    turn ∈ lanes.foldr (· ∪ ·) ∅ ↔ ∃ lane ∈ lanes, turn ∈ lane := by
  induction lanes with
  | nil => simp
  | cons _ _ ih => simp [ih]

theorem serves_of_clean (sections : document.HasSections isRoundabout config)
    {direction : Direction} {arm : ApproachSpec}
    (found : document.approaches.arm direction = some arm)
    (clean : ScenarioDocument.HasSections.IsClean context config document isRoundabout
      (direction, arm)) : ServesTraffic document direction arm
        (((arm.designLaneUse isRoundabout).map (·.map List.toFinset)).getD
          (resolvedLaneUse config document.laneCount direction)) ∧
      (isRoundabout = false → ∀ use ∈ arm.designLaneUse isRoundabout,
        signalLaneErrors direction (use.map List.toFinset)
          document.laneCount = []) := by
  obtain ⟨demanded, areDemanded, isDemanded⟩ := demandedTurns_trafficSection found
  obtain ⟨areConfigured, -⟩ := configuredLanes_of_clean found clean
  obtain ⟨isItem, unique⟩ := items_unique found fun entry =>
    itemFields (roadItem isRoundabout entry)
  have noErrors := clean.movements
  simp only [approachErrors, areConfigured, sections.traffic,
    areDemanded, sections.presentArms_eq, List.length_map, Option.getD_some,
    reduceCtorEq, false_and, if_false, sections.isRoundabout_eq] at noErrors
  have notMalformed : ¬ ((arm.designLaneUse isRoundabout).map (·.map List.toFinset) = none ∧
      (((document.roadItems isRoundabout).lookup direction).any fun item =>
        ¬ (item.get "laneUse").isNone) = true) := by
    rintro ⟨isNone, isGiven⟩
    rw [roadItems, lookup_of_unique isItem unique] at isGiven
    have noDesign : arm.designLaneUse isRoundabout = none := by simpa using isNone
    simp [laneUse_of_roadItem, noDesign] at isGiven
  rw [if_neg notMalformed] at noErrors
  generalize areLanes : ((arm.designLaneUse isRoundabout).map
    (·.map List.toFinset)).getD (resolvedLaneUse config document.laneCount direction) =
      lanes at noErrors ⊢
  split at noErrors
  · next wrong => exact absurd noErrors wrong
  · next passed =>
      obtain ⟨allOffered, noOthers⟩ := List.append_eq_nil_iff.mp noErrors
      have offered : demanded ⊆ lanes.foldr (· ∪ ·) ∅ := by
        by_contra notOffered
        have missing : demanded \ lanes.foldr (· ∪ ·) ∅ ≠ ∅ := by
          simpa [Finset.sdiff_eq_empty_iff_subset] using notOffered
        simp [missing] at allOffered
      refine ⟨⟨fun fewer => ?_, fun turn share => ?_, fun turn share => ?_⟩, ?_⟩
      · exact (lanes_of_noMovementErrors (by simpa using fewer) (not_not.mp passed)).1
      · by_cases fewer : document.approaches.present.length < Direction.all.length
        · have possible := (lanes_of_noMovementErrors (by simpa using fewer) (not_not.mp passed)).2
          exact arm_of_possible (possible ((isDemanded turn).mpr share))
        · exact isSome_arm_of_length (not_lt.mp fewer) _
      · exact mem_foldr_union.mp (offered ((isDemanded turn).mpr share))
      · rintro rfl use isUse
        rw [Option.mem_def.mp isUse] at noOthers areLanes
        obtain rfl : use.map List.toFinset = lanes := areLanes
        exact (List.append_eq_nil_iff.mp noOthers).1

/-! ## The lanes at a signal -/

theorem movementTarget_eq (direction : Direction) (turn : TurnIntent) :
    movementTarget direction turn = targetDirection direction turn := by
  cases direction <;> cases turn <;> rfl

theorem mem_possibleMovements {direction : Direction} :
    turn ∈ possibleMovements document direction ↔
      (document.approaches.arm (targetDirection direction turn)).isSome = true := by
  have isMovement : turn ∈ movements := by cases turn <;> simp [movements]
  simp [possibleMovements, isMovement, movementTarget_eq]

theorem laneCount_pos_iff (inRange : document.InRange) {direction : Direction} :
    0 < document.laneCount direction ↔ (document.approaches.arm direction).isSome = true := by
  cases found : document.approaches.arm direction with
  | none => simp [laneCount, found]
  | some arm =>
    have hasLane := (inRange.arms direction arm found).lanes.1
    simp only [laneCount_of_arm found, Option.isSome_some, iff_true]
    omega

theorem toFinset_defaultLaneUse {lanes : Nat} (hasLane : 1 ≤ lanes) :
    (defaultLaneUse lanes).map List.toFinset =
      (List.range lanes).map fun i => defaultPolicyTurns i lanes := by
  rcases hasLane.eq_or_lt with rfl | several
  · rfl
  · have notOne : ¬ lanes ≤ 1 := not_le.mpr several
    rw [defaultLaneUse, if_neg notOne, List.map_map]
    apply List.map_congr_left
    intro i _
    ext turn
    rw [Function.comp_apply, defaultPolicyTurns, if_neg notOne]
    by_cases isFirst : i = 0 <;> by_cases isLast : i = lanes - 1 <;>
      simp [isFirst, isLast] <;> tauto

/-- The lanes that the server judges at a signal are those that the builder judges. -/
theorem lanes_eq_signalLaneUse (sections : document.HasSections false config)
    (inRange : document.InRange) {direction : Direction} {arm : ApproachSpec}
    (found : document.approaches.arm direction = some arm)
    (clean : ScenarioDocument.HasSections.IsClean context config document false (direction, arm)) :
    ((arm.designLaneUse false).map (·.map List.toFinset)).getD
        (resolvedLaneUse config document.laneCount direction) = (signalLaneUse arm
        (possibleMovements document direction)).map List.toFinset := by
  have hasLane := (inRange.arms direction arm found).lanes.1
  obtain ⟨-, configured⟩ := configuredLanes_of_clean found clean
  have isDesign : arm.designLaneUse false = arm.laneUse := by simp [ApproachSpec.designLaneUse]
  rw [isDesign] at configured ⊢
  cases given : arm.laneUse with
  | some use =>
    have sameLength := (configured use given).1
    simp [signalLaneUse, given, sameLength]
  | none =>
    obtain ⟨isItem, unique⟩ := items_unique found fun entry =>
      itemFields (roadItem false entry)
    have notConfigured : configuredLaneUse (document.roadsSection false) direction =
        none := by
      have own := findSome_of_unique
        (fun item : Fields => (item.get "laneUse").asList.bind fun lanes => lanes.mapM parseTurns)
        (List.mem_reverse.mpr isItem)
        fun entry inItems => unique entry (List.mem_reverse.mp inItems)
      rw [configuredLaneUse, namedItems_roadsSection, own, laneUse_of_roadItem]
      simp [isDesign, given, PyValue.asList]
    have isDefault : (signalLaneUse arm
        (possibleMovements document direction)).map List.toFinset =
        (List.range arm.lanes).map fun i =>
          (defaultPolicyTurns i arm.lanes).filter fun turn =>
            turn ∈ possibleMovements document direction := by
      rw [signalLaneUse, given]
      simp only [List.map_map]
      have filtered : List.toFinset ∘ (fun lane : List TurnIntent =>
          lane.filter (· ∈ possibleMovements document direction)) =
          (fun lane => lane.filter fun turn =>
            turn ∈ possibleMovements document direction) ∘ List.toFinset := by
        funext lane
        simp [List.toFinset_filter]
      rw [filtered, ← List.map_map, toFinset_defaultLaneUse hasLane, List.map_map]
      rfl
    rw [isDefault, Option.map_none, Option.getD_none, resolvedLaneUse, sections.roads,
      notConfigured]
    simp only [sections.isRoundabout_eq, sections.presentArms_eq, List.length_map,
      Bool.false_eq_true, if_false]
    by_cases fewer : document.approaches.present.length < Direction.all.length
    · rw [if_pos fewer, defaultSignalLaneUse, laneCount_of_arm found,
        Int.toNat_natCast]
      simp only [laneCount_pos_iff inRange, mem_possibleMovements]
    · rw [if_neg fewer, laneCount_of_arm found, Int.toNat_natCast]
      simp [mem_possibleMovements, isSome_arm_of_length (not_lt.mp fewer)]

/-! ## The order of lanes -/

theorem crosses_iff {left right : List Int} :
    crosses left right = true ↔ ∃ furthest ∈ left, ∃ nearest ∈ right, nearest < furthest := by
  unfold crosses
  cases isMax : left.max? with
  | none =>
    rw [List.max?_eq_none_iff.mp isMax]
    simp
  | some furthest =>
    obtain ⟨inLeft, isLargest⟩ := List.max?_eq_some_iff.mp isMax
    cases isMin : right.min? with
    | none =>
      rw [List.min?_eq_none_iff.mp isMin]
      simp
    | some nearest =>
      obtain ⟨inRight, isLeast⟩ := List.min?_eq_some_iff.mp isMin
      simp only [decide_eq_true_eq]
      constructor
      · intro crossed
        exact ⟨furthest, inLeft, nearest, inRight, crossed⟩
      · rintro ⟨one, inOne, other, inOther, crossed⟩
        exact (isLeast other inOther).trans_lt (crossed.trans_le (isLargest one inOne))

theorem mem_sortedTurns {turns : Finset TurnIntent} : turn ∈ sortedTurns turns ↔ turn ∈ turns := by
  cases turn <;> simp [sortedTurns]

theorem order_eq (turn : TurnIntent) : order turn = turnOrder turn := by cases turn <;> rfl

/-- Lanes cross for the server where they cross for the builder. -/
theorem crosses_sortedTurns (left right : List TurnIntent) :
    crosses ((sortedTurns left.toFinset).map turnOrder)
        ((sortedTurns right.toFinset).map turnOrder) =
      crosses (left.map order) (right.map order) := by
  rw [Bool.eq_iff_iff, crosses_iff, crosses_iff]
  simp [mem_sortedTurns, order_eq]

theorem crossingIssues_of_noErrors (index : Nat)
    (noErrors : laneUseOrderErrors label index (use.map List.toFinset) = []) :
    crossingIssues name index use = [] := by
  induction use generalizing index with
  | nil => rfl
  | cons left rest ih =>
    cases rest with
    | nil => rfl
    | cons right =>
      rw [List.map_cons, List.map_cons, laneUseOrderErrors, crosses_sortedTurns] at noErrors
      obtain ⟨notCrossed, noOthers⟩ := List.append_eq_nil_iff.mp noErrors
      have straightOn : ¬ crosses (left.map order) (right.map order) = true := by
        intro crossed
        simp [crossed] at notCrossed
      rw [crossingIssues, if_neg straightOn, List.nil_append]
      exact ih (index + 1) noOthers

theorem crossingIssues_of_ordered (index : Nat)
    (ordered : ∀ i left right, use[i]? = some left → use[i + 1]? = some right → ¬ crosses (left.map
      order) (right.map order) = true) :
    crossingIssues name index use = [] := by
  induction use generalizing index with
  | nil => rfl
  | cons left rest ih =>
    cases rest with
    | nil => rfl
    | cons right =>
      rw [crossingIssues, if_neg (ordered 0 left right rfl rfl), List.nil_append]
      exact ih (index + 1) fun i one other isOne isOther => ordered (i + 1) one other isOne isOther

theorem crossingIssues_defaultLaneUse (name : Direction) (lanes : Nat)
    (possible : List TurnIntent) :
    crossingIssues name 0 ((defaultLaneUse lanes).map fun lane =>
      lane.filter (· ∈ possible)) = [] := by
  by_cases several : lanes ≤ 1
  · rw [defaultLaneUse, if_pos several]
    rfl
  have turnsOf (j : Nat) (lane : List TurnIntent)
      (isLane : ((defaultLaneUse lanes).map fun lane =>
        lane.filter (· ∈ possible))[j]? = some lane) :
      j < lanes ∧ ∀ turn ∈ lane, turn = .straight ∨ (j = 0 ∧ turn = .left) ∨
        (j = lanes - 1 ∧ turn = .right) := by
    rw [defaultLaneUse, if_neg several, List.map_map, List.getElem?_map] at isLane
    obtain ⟨k, isIndex, rfl⟩ := Option.map_eq_some_iff.mp isLane
    obtain ⟨inRange, rfl⟩ := List.getElem?_eq_some_iff.mp isIndex
    rw [List.length_range] at inRange
    refine ⟨inRange, fun turn inLane => ?_⟩
    rw [Function.comp_apply, List.getElem_range] at inLane
    have inFull := (List.mem_filter.mp inLane).1
    simp only [List.mem_append, List.mem_singleton] at inFull
    rcases inFull with (isLeft | isStraight) | isRight
    · split at isLeft <;> simp_all
    · exact Or.inl isStraight
    · split at isRight <;> simp_all
  apply crossingIssues_of_ordered
  intro i left right isLeft isRight crossed
  obtain ⟨-, leftTurns⟩ := turnsOf i left isLeft
  obtain ⟨notLast, rightTurns⟩ := turnsOf (i + 1) right isRight
  obtain ⟨_, inLeft, _, inRight, crossed⟩ := crosses_iff.mp crossed
  obtain ⟨turn, isTurn, rfl⟩ := List.mem_map.mp inLeft
  obtain ⟨other, isOther, rfl⟩ := List.mem_map.mp inRight
  -- no turn of the left lane is further right than straight, none of the right one
  -- further left
  have atMost : order turn ≤ 1 := by
    rcases leftTurns turn isTurn with rfl | ⟨-, rfl⟩ | ⟨isLast, -⟩
    · exact le_refl _
    · simp [order]
    · omega
  have atLeast : 1 ≤ order other := by
    rcases rightTurns other isOther with rfl | ⟨isFirst, -⟩ | ⟨-, rfl⟩
    · exact le_refl _
    · omega
    · simp [order]
  omega

/-! ## No issue of an arm -/

/-- What the server has found of a configuration without errors. -/
structure IsAccepted (context : JunctionContext) (document : ScenarioDocument)
    (isRoundabout : Bool) (config : Fields) : Prop where
  sections : document.HasSections isRoundabout config
  isJunction : 3 ≤ document.approaches.present.length
  mixes : vehicleMixErrors config = []
  laneCounts : laneCountErrors context.parseInt config = []
  lanes : context.laneConfigurationErrors config = []

namespace IsAccepted

variable (accepted : IsAccepted context document isRoundabout config)
variable {direction : Direction} {arm : ApproachSpec}
variable (found : document.approaches.arm direction = some arm)

include accepted found

theorem clean : ScenarioDocument.HasSections.IsClean context config document isRoundabout
      (direction, arm) :=
  (accepted.sections.clean_of_noErrors accepted.isJunction accepted.lanes).2 _
    (mem_present.mpr found)

theorem bearingIssues_subset {issue : Builder.LocalIssue}
    (isIssue : issue ∈ Builder.bearingIssues direction arm) :
    ∃ bearing, arm.bearing = some bearing ∧
      maxSlotDeviation < |Builder.slotDeviation direction bearing| ∧
      |Builder.slotDeviation direction bearing| ≤ maxSlotDeviation + angleSlack ∧
      issue = Builder.bearingIssue direction bearing := by
  have noGeometryErrors :=
    (accepted.sections.clean_of_noErrors accepted.isJunction accepted.lanes).1
  unfold Builder.bearingIssues at isIssue
  cases given : arm.bearing with
  | none => simp [given] at isIssue
  | some bearing =>
    rw [given] at isIssue
    simp only at isIssue
    split at isIssue
    · next beyond =>
        exact ⟨bearing, rfl, beyond,
          deviation_of_clean accepted.sections noGeometryErrors found given,
          List.mem_singleton.mp isIssue⟩
    · simp at isIssue

theorem targetIssues_eq_nil : targetIssues document direction arm = [] := by
  have serves := (serves_of_clean accepted.sections found (accepted.clean found)).1
  apply List.filterMap_eq_nil_iff.mpr
  intro turn _
  rw [if_neg]
  rintro ⟨share, isMissing⟩
  have isPresent := serves.target_present turn share
  rw [← movementTarget_eq, isMissing] at isPresent
  cases isPresent

theorem sumIssues_eq_nil (inRange : document.InRange) : sumIssues direction arm = [] := by
  have turning := turningTotal_of_clean (accepted.clean found)
  have mix := mixTotal_of_arm accepted.sections inRange accepted.mixes found
  rw [sumIssues, tolerance_eq, if_neg (not_lt.mpr turning), if_neg]
  · rfl
  · rintro ⟨-, tooFar⟩
    exact absurd mix (not_le.mpr tooFar)

end IsAccepted

/-- Opposite arms of a signal have the same number of lanes. -/
theorem IsAccepted.opposite_lanes (accepted : IsAccepted context document false config)
    {direction : Direction} (isFirst : direction = .north ∨ direction = .east)
    {arm other : ApproachSpec} (found : document.approaches.arm direction = some arm)
    (otherFound : document.approaches.arm (opposite direction) = some other) :
    arm.lanes = other.lanes := by
  obtain ⟨counts, areCounts, counted⟩ := exists_laneCounts document false context.parseInt
  have noErrors := accepted.laneCounts
  have hasRoads : ¬ (document.roadsSection false = [] ∨ (false : Bool) = true) := by
    simp [roadsSection]
  rw [laneCountErrors] at noErrors
  simp only [accepted.sections.roads, accepted.sections.isRoundabout_eq, areCounts,
    if_neg hasRoads, accepted.sections.presentArms_eq] at noErrors
  have isPair : (direction, opposite direction) ∈
      [(Direction.north, Direction.south), (.east, .west)] := by
    rcases isFirst with rfl | rfl <;> simp [opposite]
  have noError := List.flatMap_eq_nil_iff.mp noErrors _ isPair
  have bothPresent : ¬ (direction ∉ document.approaches.present.map Prod.fst ∨
      opposite direction ∉ document.approaches.present.map Prod.fst) := by
    simp [mem_map_fst_present, found, otherFound]
  simp only [if_neg bothPresent, counted direction arm found, counted _ other otherFound] at noError
  by_contra different
  rw [if_pos (by exact_mod_cast different)] at noError
  cases noError

theorem straight_mem_defaultLaneUse {lanes : Nat} {lane : List TurnIntent}
    (isLane : lane ∈ defaultLaneUse lanes) : TurnIntent.straight ∈ lane := by
  unfold defaultLaneUse at isLane
  split at isLane
  · rw [List.mem_singleton.mp isLane]
    simp [coreMovements]
  · obtain ⟨i, -, rfl⟩ := List.mem_map.mp isLane
    simp

section Signal

variable (accepted : IsAccepted context document false config)
variable {direction : Direction} {arm : ApproachSpec}
variable (found : document.approaches.arm direction = some arm)

include accepted found

theorem IsAccepted.signal_crossingIssues :
    crossingIssues direction 0 (signalLaneUse arm
      (possibleMovements document direction)) = [] := by
  have design := (configuredLanes_of_clean found (accepted.clean found)).2
  cases given : arm.laneUse with
  | none =>
    rw [signalLaneUse, given]
    exact crossingIssues_defaultLaneUse _ _ _
  | some use =>
    have noErrors := (serves_of_clean accepted.sections found
      (accepted.clean found)).2 rfl use given
    rw [signalLaneUse, given]
    simp only [if_pos (design use given).1]
    exact crossingIssues_of_noErrors 0 (List.append_eq_nil_iff.mp noErrors).1

variable (inRange : document.InRange)

include inRange

theorem IsAccepted.signal_serves : ServesTraffic document direction arm ((signalLaneUse arm
        (possibleMovements document direction)).map List.toFinset) := by
  have serves := (serves_of_clean accepted.sections found (accepted.clean found)).1
  rwa [lanes_eq_signalLaneUse accepted.sections inRange found (accepted.clean found)] at serves

theorem IsAccepted.signalLane_ne_nil {lane : List TurnIntent}
    (isLane : lane ∈ signalLaneUse arm (possibleMovements document direction)) :
    lane ≠ [] := by
  have serves := accepted.signal_serves found inRange
  by_cases fewer : document.approaches.present.length < Direction.all.length
  · rintro rfl
    exact serves.lanes_nonempty fewer _ (List.mem_map_of_mem isLane) rfl
  · -- with four arms every turn is possible, and every lane of the default goes straight
    have design := (configuredLanes_of_clean found (accepted.clean found)).2
    cases given : arm.laneUse with
    | some use =>
      obtain ⟨sameLength, nonempty⟩ := design use given
      rw [signalLaneUse, given] at isLane
      simp only [if_pos sameLength] at isLane
      exact nonempty lane isLane
    | none =>
      rw [signalLaneUse, given] at isLane
      obtain ⟨full, isDefault, rfl⟩ := List.mem_map.mp isLane
      have goesStraight : TurnIntent.straight ∈ full.filter
          (· ∈ possibleMovements document direction) := by
        refine List.mem_filter.mpr ⟨straight_mem_defaultLaneUse isDefault, ?_⟩
        simp only [decide_eq_true_eq, mem_possibleMovements]
        exact isSome_arm_of_length (not_lt.mp fewer) _
      exact List.ne_nil_of_mem goesStraight

theorem IsAccepted.signalIssues_eq_nil : signalIssues document direction arm = [] := by
  have serves := accepted.signal_serves found inRange
  simp only [signalIssues, List.append_eq_nil_iff]
  refine ⟨⟨⟨?_, ?_⟩, accepted.signal_crossingIssues found⟩, ?_⟩
  · cases otherFound : document.approaches.arm (opposite direction) with
    | none => rfl
    | some =>
      simp only
      rw [if_neg]
      rintro ⟨different, isFirst⟩
      exact different (accepted.opposite_lanes isFirst found otherFound)
  · apply List.filterMap_eq_nil_iff.mpr
    rintro ⟨lane, index⟩ inLanes
    exact if_neg (accepted.signalLane_ne_nil found inRange (List.fst_mem_of_mem_zipIdx inLanes))
  · apply List.filterMap_eq_nil_iff.mpr
    intro turn _
    apply if_neg
    rintro ⟨share, noLane⟩
    obtain ⟨_, isLane, allowed⟩ := serves.turn_offered turn share
    obtain ⟨lane, inUse, rfl⟩ := List.mem_map.mp isLane
    exact noLane lane inUse (List.mem_toFinset.mp allowed)

end Signal

/-! ## A valid document -/

/-- The strategy that a name of the builder stands for. -/
def Builder.Strategy.canonical : Strategy → StrategyId
  | fixedTime => .fixedTimeSignal
  | adaptive => .adaptiveSignal
  | roundabout => .conventionalRoundabout

theorem Builder.Strategy.resolveId_value (strategy : Strategy) :
    StrategyRegistry.resolveId strategy.value = .ok strategy.canonical := by
  cases strategy <;> rfl

theorem Builder.Strategy.isRoundabout_canonical (strategy : Strategy) :
    decide strategy.canonical.IsRoundabout = decide (strategy = .roundabout) := by
  cases strategy <;> rfl

/-- Both sides add up the same demand, the builder clockwise. -/
theorem totalVph_eq (document : ScenarioDocument) :
    totalVph document = document.totalVehiclesPerHour := by
  have sameSlots : approachNames.Perm Direction.all := by decide
  exact ((sameSlots.filterMap _).map _).sum_eq

theorem presentArms_length (document : ScenarioDocument) :
    (Builder.presentArms document).length = document.approaches.present.length := by
  have sameSlots : approachNames.Perm Direction.all := by decide
  exact (sameSlots.filterMap _).length_eq

theorem mem_builder_presentArms {entry : Direction × ApproachSpec} :
    entry ∈ Builder.presentArms document ↔ document.approaches.arm entry.1 = some entry.2 := by
  have sameSlots : approachNames.Perm Direction.all := by decide
  exact (sameSlots.filterMap _).mem_iff.trans mem_present

/-- The document as a whole passes the server's checks. -/
structure IsSound (document : ScenarioDocument) : Prop where
  isJunction : 3 ≤ document.approaches.present.length
  warmup : document.simulation.warmup < document.simulation.duration
  hasTraffic : 0 < document.totalVehiclesPerHour

theorem isSound_of_checks (noErrors : scenarioLevelChecks document = []) : IsSound document := by
  unfold scenarioLevelChecks at noErrors
  by_cases few : document.approaches.present.length < 3
  · simp [few] at noErrors
  · simp only [if_neg few, List.append_eq_nil_iff] at noErrors
    obtain ⟨noWarmup, noDemand⟩ := noErrors
    refine ⟨not_lt.mp few, ?_, ?_⟩
    · by_contra tooLong
      simp [not_lt.mp tooLong] at noWarmup
    · by_contra noTraffic
      simp [noTraffic] at noDemand

theorem junctionIssues_eq_nil (sound : IsSound document)
    (mix : |mixTotal document.vehicles.mix - 1| ≤ sumTolerance) :
    junctionIssues document = [] := by
  simp only [junctionIssues]
  rw [totalVph_eq, if_pos sound.hasTraffic, tolerance_eq, if_neg (not_lt.mpr mix),
    if_neg (not_le.mpr sound.warmup), presentArms_length,
    if_neg (not_lt.mpr sound.isJunction)]
  rfl

section Valid

variable {base : Contract} {strategies : List Strategy} {report : ValidationReport}
variable (noAdvanced : document.advanced = none) (given : strategies ≠ [])
variable (validated : (context.contract base).validateScenario document
    (some (strategies.map Builder.Strategy.value)) = .ok report)
variable (valid : report.valid = true)

include noAdvanced given validated valid

theorem exists_accepted {strategy : Strategy} (isWanted : strategy ∈ strategies) :
    ∃ config, IsAccepted context document (decide (strategy = .roundabout)) config := by
  have sound := isSound_of_checks
    ((context.contract base).scenarioLevelChecks_of_valid validated valid)
  have isListed : strategy.value ∈ report.strategies := by
    rw [(context.contract base).strategies_of_ok validated]
    cases strategies with
    | nil => exact absurd rfl given
    | cons => exact List.mem_map_of_mem isWanted
  obtain ⟨config, compiled, -, noErrors⟩ :=
    (context.contract base).compiled_of_valid validated valid isListed
  have noRules : (context.contract base).rulesBefore config = [] :=
    (List.append_eq_nil_iff.mp (List.append_eq_nil_iff.mp noErrors).1).1
  simp only [contract, List.append_eq_nil_iff, List.map_append,
    List.map_eq_nil_iff] at noRules
  obtain ⟨⟨-, ⟨⟨mixes, -⟩, counts⟩, lanes⟩, -⟩ := noRules
  have sections := hasSections noAdvanced strategy.resolveId_value compiled
  rw [strategy.isRoundabout_canonical] at sections
  exact ⟨config, sections, sound.isJunction, mixes, counts, lanes⟩

end Valid

/-- Of a document that the server finds valid the builder reports at most a bearing in
the slack of the server's comparison. -/
theorem localIssues_of_valid (context : JunctionContext) (base : Contract)
    {document : ScenarioDocument} (noAdvanced : document.advanced = none)
    (inRange : document.InRange) {strategies : List Builder.Strategy} (given : strategies ≠ [])
    {report : ValidationReport} (validated : (context.contract base).validateScenario document
      (some (strategies.map Builder.Strategy.value)) = .ok report)
    (valid : report.valid = true)
    {issue : Builder.LocalIssue}
    (isIssue : issue ∈ Builder.localIssues document strategies) :
    ∃ direction arm bearing,
      document.approaches.arm direction = some arm ∧ arm.bearing = some bearing ∧
        maxSlotDeviation < |Builder.slotDeviation direction bearing| ∧
        |Builder.slotDeviation direction bearing| ≤ maxSlotDeviation + angleSlack ∧
        issue = Builder.bearingIssue direction bearing := by
  have sound := isSound_of_checks
    ((context.contract base).scenarioLevelChecks_of_valid validated valid)
  obtain ⟨first, isWanted⟩ := List.exists_mem_of_ne_nil strategies given
  obtain ⟨config, accepted⟩ := exists_accepted noAdvanced given validated valid isWanted
  have noJunctionIssues := junctionIssues_eq_nil sound
    (mixTotal_of_vehicles accepted.sections inRange accepted.mixes)
  simp only [Builder.localIssues, noJunctionIssues, List.nil_append, List.mem_flatMap] at isIssue
  obtain ⟨⟨direction, arm⟩, isArm, isIssue⟩ := isIssue
  have found : document.approaches.arm direction = some arm := mem_builder_presentArms.mp isArm
  simp only [Builder.armIssues, accepted.targetIssues_eq_nil found,
    accepted.sumIssues_eq_nil found inRange, List.append_nil, List.mem_append] at isIssue
  rcases isIssue with isBearing | isSignal
  · obtain ⟨bearing, isGiven, beyond, within, isIssue⟩ :=
      accepted.bearingIssues_subset found isBearing
    exact ⟨direction, arm, bearing, found, isGiven, beyond, within, isIssue⟩
  · split at isSignal
    · next hasSignal =>
        obtain ⟨signal, isWanted, notRoundabout⟩ := List.any_eq_true.mp hasSignal
        obtain ⟨config, accepted⟩ := exists_accepted noAdvanced given validated valid isWanted
        rw [decide_eq_false (by simpa using notRoundabout)] at accepted
        rw [accepted.signalIssues_eq_nil found inRange] at isSignal
        cases isSignal
    · cases isSignal

/-- A junction turned by half the slack beyond what a bearing may be off its slot. -/
def turnedArms : ScenarioDocument :=
  let arm (slot : ℚ) : ApproachSpec :=
    { lanes := 1
      vehiclesPerHour := 360
      bearing := some (slot + 30 + 1 / (2 * 10 ^ 9)) }
  { junction := .fixedTimeSignal
    approaches := ⟨some (arm 0), some (arm 180), some (arm 90), some (arm 270)⟩
    advanced_distinct := noAdvanced_distinct }

/-- A junction without further rules: no text is read as a number. -/
def plainJunction : JunctionContext where
  parseInt := fun _ => none
  parseFloat := fun _ => none
  ringErrors := fun _ _ _ => []
  spreadErrors := fun _ _ _ => []
  mouthErrors := fun _ _ => []
  uturnErrors := fun _ _ _ => []
  typeErrors := fun _ => []
  controlErrors := fun _ => []

theorem turnedArms_inRange : turnedArms.InRange where
  arms := by
    intro direction arm isArm
    have isArm : turnedArms.approaches.arm direction = some arm := isArm
    cases direction <;>
      · cases isArm
        refine ⟨by decide, by norm_num, by norm_num, ?_, nofun, ?_, nofun⟩
        · exact ⟨by norm_num, by norm_num, by norm_num, nofun⟩
        · rintro bearing ⟨⟩
          norm_num
  mix := nofun

theorem localIssues_of_valid_turned : ∃ direction arm bearing,
      turnedArms.approaches.arm direction = some arm ∧ arm.bearing = some bearing ∧
        maxSlotDeviation < |Builder.slotDeviation direction bearing| ∧
        |Builder.slotDeviation direction bearing| ≤ maxSlotDeviation + angleSlack ∧
        Builder.bearingIssue .north (30 + 1 / (2 * 10 ^ 9)) =
          Builder.bearingIssue direction bearing := by
  obtain ⟨report, validated, valid, -⟩ : ∃ report,
      (plainJunction.contract permissive).validateScenario turnedArms
        (some ([Builder.Strategy.fixedTime, .roundabout].map Builder.Strategy.value)) = .ok report ∧
        report.valid = true ∧ report.strategies = ["fixed_time", "roundabout"] :=
    exists_report (by decide +kernel)
  exact localIssues_of_valid plainJunction permissive rfl
    turnedArms_inRange (by decide) validated valid (by decide +kernel)

end UrbanFlow.Scenario
