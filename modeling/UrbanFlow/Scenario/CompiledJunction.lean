import UrbanFlow.Scenario.Compiled
import UrbanFlow.Scenario.LaneConfiguration

/-!
# The junction of a compiled configuration

What the rules of a junction read from the configuration of a document without an
`advanced` section: an item of each list of approaches for every arm, the lanes of every
arm, and the arms themselves.
-/

namespace UrbanFlow.Scenario

open StrategyValidator VehiclePopulation ScenarioDocument Approaches JunctionContext

attribute [local simp] List.lookup_cons Fields.get

theorem lookup_of_unique [BEq κ] [LawfulBEq κ] {entries : List (κ × β)} {wanted : κ} {value : β}
    (isEntry : (wanted, value) ∈ entries)
    (unique : ∀ entry ∈ entries, entry.1 = wanted → entry.2 = value) :
    entries.lookup wanted = some value := by
  induction entries with
  | nil => simp at isEntry
  | cons first rest ih =>
    obtain ⟨key, found⟩ := first
    by_cases same : wanted = key
    · subst same
      simpa using unique (wanted, found) List.mem_cons_self rfl
    · have inRest : (wanted, value) ∈ rest := by
        rcases List.mem_cons.mp isEntry with isFirst | inRest
        · exact absurd (Prod.ext_iff.mp isFirst).1 same
        · exact inRest
      rw [List.lookup_cons, beq_false_of_ne same]
      exact ih inRest fun entry inEntries => unique entry (List.mem_cons_of_mem _ inEntries)

theorem findSome_of_unique {entries : List (Direction × β)} {direction : Direction} {value : β}
    (read : β → Option γ) (isEntry : (direction, value) ∈ entries)
    (unique : ∀ entry ∈ entries, entry.1 = direction → entry.2 = value) :
    (entries.findSome? fun (other, item) =>
      if other = direction then read item else none) = read value := by
  cases found : entries.findSome? fun (other, item) =>
      if other = direction then read item else none with
  | none =>
    have notRead := List.findSome?_eq_none_iff.mp found _ isEntry
    simpa using notRead.symm
  | some =>
    obtain ⟨⟨other, item⟩, inEntries, isRead⟩ := List.exists_of_findSome?_eq_some found
    simp only [Option.ite_none_right_eq_some] at isRead
    obtain ⟨isDirection, isRead⟩ := isRead
    obtain rfl : item = value := unique _ inEntries isDirection
    exact isRead.symm

@[simp] theorem namedDirection_value (direction : Direction) :
    namedDirection (.str direction.value) = some direction := by
  cases direction <;> decide

@[simp] theorem turnNamed_movement (turn : TurnIntent) :
    turnNamed (.str (movement turn)) = some turn := by
  cases turn <;> decide

theorem parseTurns_movements (lane : List TurnIntent) :
    parseTurns (.list (lane.map fun turn => .str (movement turn))) = some lane.toFinset := by
  have named : (lane.map fun turn => PyValue.str (movement turn)).mapM turnNamed = some lane := by
    induction lane with
    | nil => rfl
    | cons _ _ ih =>
      rw [List.map_cons, List.mapM_cons, ih, turnNamed_movement]
      rfl
  simp [parseTurns, PyValue.asSequence, named]

namespace Approaches

variable {approaches : Approaches}

theorem mem_present {direction : Direction} {arm : ApproachSpec} :
    (direction, arm) ∈ approaches.present ↔ approaches.arm direction = some arm := by
  simp [present, List.mem_filterMap]

theorem map_fst_present : approaches.present.map Prod.fst =
      Direction.all.filter fun direction => (approaches.arm direction).isSome := by
  have keys (directions : List Direction) : (directions.filterMap fun direction =>
        (approaches.arm direction).map fun arm => (direction, arm)).map Prod.fst =
      directions.filter fun direction => (approaches.arm direction).isSome := by
    induction directions with
    | nil => rfl
    | cons direction _ ih => cases found : approaches.arm direction <;> simp [found, ih]
  exact keys Direction.all

theorem mem_map_fst_present {direction : Direction} :
    direction ∈ approaches.present.map Prod.fst ↔ (approaches.arm direction).isSome = true := by
  simp [map_fst_present]

theorem nodup_map_fst_present : (approaches.present.map Prod.fst).Nodup := by
  rw [map_fst_present]
  exact List.Nodup.filter _ (by decide)

section

variable (all : Direction.all.length ≤ approaches.present.length)

include all

/-- With four arms every slot has one. -/
theorem map_fst_present_of_length : approaches.present.map Prod.fst = Direction.all := by
  rw [map_fst_present]
  apply List.filter_sublist.eq_of_length_le
  rwa [← map_fst_present, List.length_map]

theorem isSome_arm_of_length
    (direction : Direction) : (approaches.arm direction).isSome = true := by
  apply mem_map_fst_present.mp
  rw [map_fst_present_of_length all]
  exact Direction.mem_all direction

end

theorem items_unique {direction : Direction} {arm : ApproachSpec}
    (found : approaches.arm direction = some arm) (describe : Direction × ApproachSpec → β) :
    (direction, describe (direction, arm)) ∈
        approaches.present.map (fun entry => (entry.1, describe entry)) ∧
      ∀ entry ∈ approaches.present.map (fun entry => (entry.1, describe entry)),
        entry.1 = direction → entry.2 = describe (direction, arm) := by
  refine ⟨List.mem_map.mpr ⟨(direction, arm), mem_present.mpr found, rfl⟩, ?_⟩
  intro entry inItems isDirection
  obtain ⟨⟨key, other⟩, inPresent, rfl⟩ := List.mem_map.mp inItems
  obtain rfl : key = direction := isDirection
  have same : some other = some arm := (mem_present.mp inPresent).symm.trans found
  rw [Option.some.inj same]

end Approaches

/-- What a configuration holds of a document: the sections that describe the junction. -/
structure ScenarioDocument.HasSections (document : ScenarioDocument) (isRoundabout : Bool)
    (config : Fields) : Prop where
  geometry : sectionOf config "geometry" = document.geometrySection isRoundabout
  roads : sectionOf config "roads" = document.roadsSection isRoundabout
  traffic : sectionOf config "traffic" = document.trafficSection
  generation : sectionOf config "vehicleGeneration" = document.vehicleGenerationSection

theorem ScenarioDocument.hasSections {document : ScenarioDocument}
    {fingerprint : ScenarioDocument → String} {strategy : String} {canonical : StrategyId}
    {config : Fields} (noAdvanced : document.advanced = none)
    (isCanonical : StrategyRegistry.resolveId strategy = .ok canonical)
    (compiled : document.compileScenario fingerprint strategy = .ok config) :
    document.HasSections canonical.IsRoundabout config := by
  have sectionIs {key : String} {inner : Fields} (notScenario : key ≠ "scenario")
      (isSection : (document.plainConfig canonical).dictAt key = some inner) :
      sectionOf config key = inner := by
    rw [eq_labelledConfig isCanonical compiled, sectionOf,
      document.dictAt_labelledConfig fingerprint canonical strategy notScenario isSection]
    simp [advancedFields, noAdvanced]
  exact
    { geometry := sectionIs (by decide) (document.dictAt_geometry_plainConfig canonical)
      roads := sectionIs (by decide) (document.dictAt_roads_plainConfig canonical)
      traffic := sectionIs (by decide) (by simp [Fields.dictAt, plainConfig])
      generation := sectionIs (by decide) (by simp [Fields.dictAt, plainConfig]) }

/-- The fields of an item of a list of approaches. -/
def itemFields (item : PyValue) : Fields := item.asDict.getD []

theorem namedItems_of_listed {parent : Fields} {entries : List (Direction × ApproachSpec)}
    {item : Direction × ApproachSpec → PyValue}
    (listed : parent.get "approaches" = .list (entries.map item))
    (named : ∀ entry, ∃ rest, item entry = .dict (("direction", .str entry.1.value) :: rest)) :
    namedItems parent = entries.map fun entry => (entry.1, itemFields (item entry)) := by
  unfold namedItems
  rw [listed]
  simp only [PyValue.asList, Option.getD_some]
  rw [List.filterMap_map]
  have each : (fun value : PyValue => value.asDict.bind fun fields =>
      (namedDirection (fields.get "direction")).map fun direction => (direction, fields)) ∘ item =
      fun entry => some (entry.1, itemFields (item entry)) := by
    funext entry
    obtain ⟨rest, isItem⟩ := named entry
    simp [isItem, itemFields]
  rw [each, List.filterMap_eq_map']

variable (document : ScenarioDocument) (isRoundabout : Bool)

theorem namedItems_roadsSection : namedItems (document.roadsSection isRoundabout) =
      document.approaches.present.map fun entry =>
        (entry.1, itemFields (roadItem isRoundabout entry)) :=
  namedItems_of_listed (by simp [roadsSection]) fun _ => ⟨_, rfl⟩

theorem namedItems_trafficSection : namedItems document.trafficSection =
      document.approaches.present.map fun entry =>
        (entry.1, itemFields (trafficItem entry)) :=
  namedItems_of_listed (by simp [trafficSection]) fun _ => ⟨_, rfl⟩

theorem firstItems_of_nodup {seen : List Direction} {items : List (Direction × Fields)}
    (distinct : (items.map Prod.fst).Nodup) (fresh : ∀ item ∈ items, item.1 ∉ seen) :
    firstItems seen items = items := by
  induction items generalizing seen with
  | nil => rfl
  | cons item _ ih =>
    obtain ⟨direction, fields⟩ := item
    rw [List.map_cons, List.nodup_cons] at distinct
    have isFresh : direction ∉ seen := fresh (direction, fields) List.mem_cons_self
    rw [firstItems, if_neg isFresh]
    congr 1
    apply ih distinct.2
    intro other inRest
    have isOther : other.1 ≠ direction := by
      rintro rfl
      exact distinct.1 (List.mem_map.mpr ⟨other, inRest, rfl⟩)
    simpa [isOther] using fresh other (List.mem_cons_of_mem _ inRest)

/-- The first entries of the arms that exist are the items of the arms. -/
theorem firstItems_present (describe : Direction × ApproachSpec → Fields) :
    firstItems [] (document.approaches.present.map fun entry => (entry.1, describe entry)) =
      document.approaches.present.map fun entry => (entry.1, describe entry) := by
  apply firstItems_of_nodup
  · rw [List.map_map]
    exact nodup_map_fst_present
  · simp

/-- The items of the roads of the arms. -/
def ScenarioDocument.roadItems : List (Direction × Fields) :=
  document.approaches.present.map fun entry => (entry.1, itemFields (roadItem isRoundabout entry))

variable {document isRoundabout} {config : Fields}

/-- The lanes of a slot: none where it has no arm. -/
def ScenarioDocument.laneCount (document : ScenarioDocument) (direction : Direction) : Int :=
  ((document.approaches.arm direction).map (·.lanes)).getD 0

theorem ScenarioDocument.laneCount_of_arm {direction : Direction} {arm : ApproachSpec}
    (found : document.approaches.arm direction = some arm) :
    document.laneCount direction = arm.lanes := by
  simp [laneCount, found]

variable (document isRoundabout) in
theorem exists_laneCounts (parseInt : String → Option Int) :
    ∃ counts, laneCounts parseInt (document.roadsSection isRoundabout) = some counts ∧
      ∀ direction arm, document.approaches.arm direction = some arm →
        counts direction = arm.lanes := by
  have listed : ((document.roadsSection isRoundabout).get "approaches").asList.getD [] =
      document.approaches.present.map (roadItem isRoundabout) := by
    simp [roadsSection, PyValue.asList]
  have given : (document.approaches.present.map
        (roadItem isRoundabout)).filterMap (fun item =>
          item.asDict.bind fun fields =>
            if (fields.get "lanes").isNone then none else some fields) =
      document.approaches.present.map fun entry =>
        itemFields (roadItem isRoundabout entry) := by
    rw [List.filterMap_map, ← List.filterMap_eq_map']
    apply List.filterMap_congr
    intro entry _
    simp [roadItem, itemFields, PyValue.isNone]
  have overridden (entries : List (Direction × ApproachSpec)) : (entries.map fun entry =>
        itemFields (roadItem isRoundabout entry)).mapM (fun fields =>
          (intOf parseInt (fields.get "lanes")).map fun count =>
            (namedDirection (fields.get "direction"), count)) =
      some (entries.map fun entry => (some entry.1, (entry.2.lanes : Int))) := by
    induction entries with
    | nil => rfl
    | cons _ _ ih =>
      rw [List.map_cons, List.mapM_cons, ih]
      simp [roadItem, itemFields, intOf]
  have counted : ∃ base : Direction → Int,
      laneCounts parseInt (document.roadsSection isRoundabout) = some fun direction =>
          ((document.approaches.present.map fun entry =>
            (some entry.1, (entry.2.lanes : Int))).reverse.lookup
              (some direction)).getD (base direction) := by
    have isBase : ((document.roadsSection isRoundabout).lookup "lanesPerApproach").getD (.int 2) =
        .int ((document.approaches.present.map (·.2.lanes)).foldl max 0 : Nat) := by
      simp [roadsSection]
    refine ⟨fun direction => ((Direction.all.map fun direction => (direction,
      (((document.approaches.present.map (·.2.lanes)).foldl max 0 : Nat) :
        Int))).lookup direction).getD 0, ?_⟩
    rw [laneCounts, listed, given, overridden, isBase]
    rfl
  obtain ⟨base, counted⟩ := counted
  refine ⟨_, counted, fun direction arm found => ?_⟩
  have inPresent := mem_present.mpr found
  have isLooked : (document.approaches.present.map fun entry =>
      (some entry.1, (entry.2.lanes : Int))).reverse.lookup (some direction) =
        some (arm.lanes : Int) := by
    apply lookup_of_unique
    · simp only [List.mem_reverse, List.mem_map]
      exact ⟨(direction, arm), inPresent, rfl⟩
    · intro entry inEntries isDirection
      simp only [List.mem_reverse, List.mem_map] at inEntries
      obtain ⟨⟨key, other⟩, isOther, rfl⟩ := inEntries
      obtain rfl : key = direction := Option.some.inj isDirection
      have same : some other = some arm := (mem_present.mp isOther).symm.trans found
      rw [Option.some.inj same]
  simp [isLooked]

theorem counted_eq_laneCount {counts : Direction → Int}
    (counted : ∀ direction arm, document.approaches.arm direction = some arm →
      counts direction = arm.lanes) :
    (fun direction => if direction ∈ document.approaches.present.map Prod.fst then
      counts direction else 0) = document.laneCount := by
  funext direction
  cases found : document.approaches.arm direction with
  | none => simp [laneCount, mem_map_fst_present, found]
  | some arm =>
    rw [if_pos (mem_map_fst_present.mpr (by simp [found])),
      counted direction arm found, laneCount_of_arm found]

namespace ScenarioDocument.HasSections

variable (sections : document.HasSections isRoundabout config)

include sections

theorem isRoundabout_eq : Scenario.isRoundabout config = isRoundabout := by
  rw [Scenario.isRoundabout, sections.geometry]
  cases isRoundabout <;> simp [geometrySection, PyValue.isText]

theorem configuredArms_eq : configuredArms config =
      if document.approaches.present.length < Direction.all.length then
        some (document.approaches.present.map Prod.fst) else none := by
  have listed : (document.geometrySection isRoundabout).get "arms" =
      (if document.approaches.present.length < Direction.all.length then
        some (.list (document.approaches.present.map fun entry => .str entry.1.value))
      else none).getD .none := by
    simp [geometrySection, List.lookup_append, lookup_optional]
  have named : (document.approaches.present.map fun entry =>
      PyValue.str entry.1.value).filterMap namedDirection =
        document.approaches.present.map Prod.fst := by
    rw [List.filterMap_map, ← List.filterMap_eq_map']
    apply List.filterMap_congr
    simp
  rw [configuredArms, sections.geometry, listed]
  by_cases fewer : document.approaches.present.length < Direction.all.length
  · simp only [if_pos fewer, Option.getD_some, PyValue.asList, Option.map_some, named]
    congr 1
    rw [map_fst_present]
    apply List.filter_congr
    simp
  · simp [fewer, PyValue.asList]

theorem presentArms_eq : presentArms config = document.approaches.present.map Prod.fst := by
  rw [presentArms, sections.configuredArms_eq]
  by_cases fewer : document.approaches.present.length < Direction.all.length
  · simp [fewer]
  · rw [if_neg fewer, Option.getD_none, map_fst_present_of_length (not_lt.mp fewer)]

/-- The rules of a junction on an arm, where none is broken. -/
structure IsClean (context : JunctionContext) (config : Fields) (document : ScenarioDocument)
    (isRoundabout : Bool) (entry : Direction × ApproachSpec) : Prop where
  turning : turningErrors (entry.1, itemFields (trafficItem entry)) = []
  laneUse : ∃ lanes, readLaneUse document.laneCount
    (entry.1, itemFields (roadItem isRoundabout entry)) = .ok lanes
  movements : context.approachErrors config document.laneCount
    (document.roadItems isRoundabout) entry.1 = []

theorem clean_of_noErrors {context : JunctionContext}
    (isJunction : 3 ≤ document.approaches.present.length)
    (noErrors : context.laneConfigurationErrors config = []) :
    context.junctionGeometryErrors config = [] ∧ ∀ entry ∈ document.approaches.present,
        IsClean context config document isRoundabout entry := by
  obtain ⟨counts, areCounts, counted⟩ := exists_laneCounts document isRoundabout context.parseInt
  have keepsPresent (describe : Direction × ApproachSpec → Fields) :
      (document.approaches.present.map fun entry =>
        (entry.1, describe entry)).filter (fun entry =>
          entry.1 ∈ document.approaches.present.map Prod.fst) =
      document.approaches.present.map fun entry => (entry.1, describe entry) := by
    apply List.filter_eq_self.mpr
    intro entry inItems
    obtain ⟨source, inPresent, rfl⟩ := List.mem_map.mp inItems
    simpa using ⟨source.2, inPresent⟩
  unfold laneConfigurationErrors at noErrors
  rw [sections.roads, areCounts] at noErrors
  have countedClean := (List.append_eq_nil_iff.mp noErrors).2
  simp only [countedErrors] at countedClean
  rw [sections.presentArms_eq, sections.roads, sections.traffic,
    namedItems_roadsSection, namedItems_trafficSection, firstItems_present,
    firstItems_present, keepsPresent, keepsPresent, counted_eq_laneCount counted,
    List.length_map, if_neg (by omega)] at countedClean
  obtain ⟨before, noLater⟩ := List.append_eq_nil_iff.mp countedClean
  obtain ⟨before, noShapes⟩ := List.append_eq_nil_iff.mp before
  have noTurning := (List.append_eq_nil_iff.mp (List.append_eq_nil_iff.mp before).1).2
  cases rings : ringCountError config with
  | some => simp [rings] at noLater
  | none =>
    simp only [rings] at noLater
    have noLast := (List.append_eq_nil_iff.mp noLater).2
    by_cases geometry : context.junctionGeometryErrors config = []
    · rw [if_neg (not_not.mpr geometry)] at noLast
      refine ⟨geometry, fun entry inPresent => ⟨?_, ?_, ?_⟩⟩
      · exact List.flatMap_eq_nil_iff.mp noTurning _ (List.mem_map.mpr ⟨entry, inPresent, rfl⟩)
      · have notReported := List.filterMap_eq_nil_iff.mp noShapes _
          (List.mem_map.mpr ⟨entry, inPresent, rfl⟩)
        split at notReported
        · cases notReported
        · next lanes isRead => exact ⟨lanes, isRead⟩
      · exact List.flatMap_eq_nil_iff.mp noLast _ (List.mem_map.mpr ⟨entry, inPresent, rfl⟩)
    · rw [if_pos geometry] at noLast
      exact absurd noLast geometry

end ScenarioDocument.HasSections

end UrbanFlow.Scenario
